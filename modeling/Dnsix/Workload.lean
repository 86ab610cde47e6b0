import Dnsix.PlanRules
import Dnsix.PoolProgress
import Dnsix.Served
import Mathlib.Algebra.Order.BigOperators.Group.Finset

/-!
The work one request makes, and its end. Each plan of an accepted chain looks one
reference up at most, so a request asks the pool no more often than the chain is long,
and two times on top; a request the gates turn away asks nothing. Where nothing but the
upstreams' answers is waited for, every request gets its response unless it was dropped
or stands behind an aborted leader.
-/

namespace Dnsix.Workload
open Ascii Cdn Dns Handler Panics Synth SynthChain Transition Forwarder Served Draining PoolProgress
open Pool (CacheStatus CallId Config)
open RequestRuns (Event Handling Place Progress rank)

variable {text : NameText}

/-! The references of a plan. -/
section References

/-- The plan, if there is one, has one name to resolve at most. -/
def Short (result : Checked (Option Plan)) : Prop :=
  ∀ plan, result = .ok (some plan) → plan.resolve.length ≤ 1

theorem short_named (reference : Text) (plan : Name → Plan)
    (one : ∀ name, (plan name).resolve = [name]) :
    Short (do
      let name ← fqdn text reference
      .ok (some (plan name))) := by
  intro found detected
  cases named : fqdn text reference with
  | error panic =>
      rw [named] at detected
      cases detected
  | ok name =>
      rw [named] at detected
      cases detected
      rw [one name]
      exact Nat.le_refl 1

theorem short_pure (plan : Option Plan) (none : ∀ found, plan = some found → found.resolve = []) :
    Short (.ok plan) := by
  intro found detected
  rw [none found (Except.ok.inj detected)]
  exact Nat.zero_le 1

theorem const_short (provider : MatchConst) (ctx : SynthContext text) :
    Short (provider.detect ctx) := by
  unfold MatchConst.detect
  split
  · exact short_pure none fun _ impossible => nomatch impossible
  split
  · exact short_named _ (fun name => ⟨[name], _⟩) fun _ => rfl
  · exact short_pure _ fun _ same => by cases same; rfl

theorem borrow_short (provider : MatchBorrow) (ctx : SynthContext text) :
    Short (provider.detect ctx) := by
  unfold MatchBorrow.detect
  dsimp only
  split
  · exact short_pure none fun _ impossible => nomatch impossible
  · exact short_named _ (fun name => ⟨[name], _⟩) fun _ => rfl

theorem rewrite_short (rewrite : Name → Checked (Option Name)) (ctx : SynthContext text) :
    Short (MatchRewrite.detect rewrite ctx) := by
  intro plan detected
  unfold MatchRewrite.detect at detected
  cases found : firstRewrite rewrite ctx.hostnames with
  | error panic =>
      rw [found] at detected
      cases detected
  | ok target =>
      rw [found] at detected
      cases target with
      | none => cases detected
      | some name =>
          cases detected
          exact Nat.le_refl 1

theorem embed_in_short (ctx : SynthContext text) (range : Address.Cidr)
    (v4to6 : Ipv4Addr → Ipv6Addr) : Short (.ok (embedIn ctx range v4to6)) := by
  refine short_pure _ fun plan planned => ?_
  rw [PlanRules.embed_in_plan ctx range v4to6 plan planned]
  rfl

theorem fastly_short (ctx : SynthContext text) : Short (fastlyDetect ctx) := by
  unfold fastlyDetect
  split
  · exact short_named _ (fun name => ⟨[name], _⟩) fun _ => rfl
  split
  · exact short_named _ (fun name => ⟨[name], _⟩) fun _ => rfl
  · exact rewrite_short _ ctx

theorem cachefly_short (ctx : SynthContext text) : Short (cacheflyDetect ctx) := by
  intro plan detected
  unfold cacheflyDetect at detected
  cases found : firstRewrite (Rewrites.cacheflyRewrite text) ctx.hostnames with
  | error panic =>
      rw [found] at detected
      cases detected
  | ok target =>
      rw [found] at detected
      cases target with
      | none => exact embed_in_short ctx _ _ plan detected
      | some name =>
          cases detected
          exact Nat.le_refl 1

theorem make_short (id : String) (nat64Prefix : Ipv6Addr) (synth : Synthesizer text)
    (made : makeSynthesizer text id nat64Prefix = some synth) (ctx : SynthContext text) :
    Short (synth.detect ctx) := by
  unfold makeSynthesizer at made
  split at made
  · cases made
    exact short_pure _ fun plan planned =>
      (ChainContract.nat64_plan_some ⟨nat64Prefix⟩ ctx plan planned).1
  · unfold make at made
    split at made <;> cases made
    · exact const_short shopify ctx
    · exact const_short webflow ctx
    · exact const_short weebly ctx
    · exact borrow_short cloudfront ctx
    · exact borrow_short bunnycdn ctx
    · exact borrow_short blazingcdn ctx
    · exact borrow_short gcorecdn ctx
    · exact borrow_short cdn77 ctx
    · exact borrow_short sucuri ctx
    · exact borrow_short netlify ctx
    · exact borrow_short bearblog ctx
    · exact borrow_short alicdn ctx
    · exact rewrite_short _ ctx
    · exact rewrite_short _ ctx
    · exact rewrite_short _ ctx
    · exact rewrite_short _ ctx
    · exact rewrite_short _ ctx
    · exact rewrite_short _ ctx
    · exact embed_in_short ctx _ _
    · exact fastly_short ctx
    · refine short_pure _ fun plan planned => ?_
      rcases PlanRules.msedge_plan ctx plan planned with ⟨_, _, _, _, same⟩
      rw [same]
      rfl
    · exact embed_in_short ctx _ _
    · exact cachefly_short ctx

/-- Every plan of the chain looks one reference up at most, and the fallback none. -/
structure Brief (chain : Chain text) : Prop where
  tried : ∀ synth ∈ chain.synths, ∀ ctx, (references (detected synth ctx)).length ≤ 1
  appended : ∀ ctx id, references (fallbackPlan chain ctx id) = []

theorem built_brief (ids : List String) (nat64Prefix : Ipv6Addr) (ttlCap : Option Nat)
    (nat64Fallback : Bool) (chain : Chain text)
    (built : Chain.build text ids nat64Prefix ttlCap nat64Fallback = .ok chain) : Brief chain := by
  have made := ChainContract.build_built ids nat64Prefix ttlCap nat64Fallback chain built
  constructor
  · intro synth listed ctx
    have short := make_short synth.id nat64Prefix synth (made.made synth listed) ctx
    unfold detected
    split
    · rename_i found same
      cases found with
      | none => exact Nat.zero_le 1
      | some plan =>
          rw [references, Option.elim_some, List.length_map]
          exact short plan same
    · exact Nat.zero_le 1
  · intro ctx id
    unfold fallbackPlan
    split
    · cases chain.nat64Fallback with
      | none => rfl
      | some nat64 =>
          rw [Option.bind_some]
          cases planned : nat64.plan ctx with
          | none => rfl
          | some plan =>
              rw [references, Option.elim_some,
                (ChainContract.nat64_plan_some nat64 ctx plan planned).1]
              rfl
    · rfl

end References

/-! The lookups of a request. -/
section Quotas
variable {config : Config} {handler : Dns64Handler text}

/-- The lookups a request may make on the path the gates sent it. -/
def quota (handler : Dns64Handler text) (h : Handling text) : Nat :=
  match h.route with
  | some .dns64 => handler.chain.synths.length + 2
  | some .passthrough => 1
  | some .refused | some .blocked | none => 0

/-- The lookups that may still follow from where a request stands. -/
def ahead (handler : Dns64Handler text) (h : Handling text) : Nat :=
  match h.place with
  | .joining _ => handler.chain.synths.length + 2
  | .observing _ => 1
  | .trying _ _ _ _ rest => rest.length
  | _ => 0

theorem wants_ahead (brief : Brief handler.chain) (h : Handling text)
    (listed : RequestRuns.Listed handler h) : (wants handler h).length ≤ ahead handler h := by
  unfold wants ahead
  cases placed : h.place with
  | joining query => exact Nat.le_add_left 2 _
  | observing query => exact Nat.le_refl 1
  | trying query aaaa cache ctx rest =>
      cases rest with
      | nil => exact Nat.le_refl 0
      | cons synth rest =>
          simp only [RequestRuns.Listed, placed] at listed
          refine Nat.le_trans (brief.tried synth (listed synth List.mem_cons_self) ctx) ?_
          exact Nat.le_add_left 1 _
  | won query cache ctx id records =>
      dsimp only
      rw [brief.appended]
      exact Nat.le_refl 0
  | _ => exact Nat.le_refl 0

/-- No path is taken before the gates. -/
def Unrouted (h : Handling text) : Prop :=
  match h.place with
  | .received | .gating _ => h.route = none
  | _ => True

theorem moved_unrouted {World : Type} (h : Handling text) (event : Event World)
    (progress : Progress text) (unrouted : Unrouted h)
    (moved : RequestRuns.Moved handler h event progress) : Unrouted progress.handling := by
  cases moved with
  | received query placed fit asked =>
      rw [Unrouted, placed] at unrouted
      exact unrouted
  | _ => trivial

/-- A step uses up what was wanted, and only the gates allow for more. -/
theorem moved_ahead {World : Type} (brief : Brief handler.chain) (h : Handling text)
    (event : Event World) (progress : Progress text) (listed : RequestRuns.Listed handler h)
    (unrouted : Unrouted h) (moved : RequestRuns.Moved handler h event progress) :
    ahead handler progress.handling + (wants handler h).length + quota handler h ≤
      ahead handler h + quota handler progress.handling := by
  have wanted := wants_ahead brief h listed
  cases moved with
  | refused query placed sent | blocked query placed sent | routed query placed sent
  | passedOn query placed sent =>
      simp only [Unrouted, placed] at unrouted
      simp [ahead, wants, quota, placed, unrouted, Handling.counting]
  | malformed _ placed | received _ placed | failed _ _ _ placed | native _ _ _ _ placed
  | missing _ _ _ _ placed | errored _ _ _ _ placed | relayed _ _ _ placed
  | unanswered _ _ placed | hit _ _ _ _ _ _ _ _ _ placed | empty _ _ _ _ placed
  | appended _ _ _ _ _ _ _ _ placed | counted _ _ _ placed | finished _ _ placed =>
      simp only [ahead, placed] at wanted
      simp only [ahead, quota, placed, Handling.counting, Handling.moving, Handling.finish]
      omega
  | nodata query aaaa cache aRes placed =>
      simp only [ahead, wants, quota, placed, Handling.counting, List.length_cons, List.length_nil]
      omega
  | missed query aaaa cache ctx synth rest resolve world placed =>
      simp only [RequestRuns.Listed, placed] at listed
      have one := brief.tried synth (listed synth List.mem_cons_self) ctx
      simp only [ahead, wants, quota, placed, Handling.moving, List.length_cons]
      omega

/-- What every request has asked, with what it may still ask, is within its quota. -/
structure Spent (handler : Dns64Handler text) (state : State text) (r : Nat) (h : Handling text) :
    Prop where
  listed : RequestRuns.Listed handler h
  unrouted : Unrouted h
  within : (ownLookups state.lookups r).length + ahead handler h ≤
    quota handler h + (state.waiting r).length

theorem spent_step (brief : Brief handler.chain) (action : Action) (state after : State text)
    (transcribed : Transcribed handler state)
    (spent : ∀ r h, state.requests.handlings[r]? = some h → Spent handler state r h)
    (taken : step config handler action state = some after) (r : Nat) (h : Handling text)
    (present : after.requests.handlings[r]? = some h) : Spent handler after r h := by
  cases step_moved action state after taken with
  | pooled inside moved =>
      have before := spent r h present
      exact ⟨before.listed, before.unrouted, before.within⟩
  | arrived request =>
      rcases joined_cases present with old | ⟨rfl, rfl⟩
      · have before := spent r h old
        exact ⟨before.listed, before.unrouted, before.within⟩
      · have own := (transcribed.absent _ (List.getElem?_eq_none (Nat.le_refl _))).1
        refine ⟨trivial, rfl, ?_⟩
        dsimp only
        rw [own]
        exact Nat.zero_le _
  | @asked id other query pool found wanted turn called =>
      have before := spent r h present
      refine ⟨before.listed, before.unrouted, ?_⟩
      have within := before.within
      dsimp only
      rw [own_append, List.length_append]
      by_cases own : r = id
      · subst r
        rw [Function.update_self, if_pos rfl, List.length_append]
        simp only [List.length_singleton]
        omega
      · rw [Function.update_of_ne own, if_neg (Ne.symm own), List.length_nil]
        exact within
  | @advanced id other answers event progress found complete answered heard next =>
      rcases replaced_cases (List.getElem?_eq_some_iff.mp found).1 present with
        ⟨rfl, rfl⟩ | ⟨own, stays⟩
      · have before := spent r other found
        have moved := RequestRuns.next_moved other event progress next
        refine ⟨RequestRuns.listed_moved other event progress before.listed moved,
          moved_unrouted other event progress before.unrouted moved, ?_⟩
        have used := moved_ahead brief other event progress before.listed before.unrouted moved
        have within := before.within
        dsimp only
        rw [Function.update_self, List.length_nil]
        omega
      · have before := spent r h stays
        refine ⟨before.listed, before.unrouted, ?_⟩
        dsimp only
        rw [Function.update_of_ne own]
        exact before.within

theorem reachable_spent (brief : Brief handler.chain) (metrics : Counters.Metrics)
    (actions : List Action) (after : State text)
    (run : Run (step config handler) anyAction (State.new text config metrics) actions after) :
    Transcribed handler after ∧
      ∀ r h, after.requests.handlings[r]? = some h → Spent handler after r h :=
  run_invariant (motive := fun state : State text => Transcribed handler state ∧
      ∀ r h, state.requests.handlings[r]? = some h → Spent handler state r h)
    (fun action before next kept _ taken =>
      ⟨transcribed_step action before next kept.1 taken,
        spent_step brief action before next kept.1 kept.2 taken⟩)
    run ⟨transcribed_new metrics, fun _ _ impossible => nomatch impossible⟩

theorem own_within (brief : Brief handler.chain) (state : State text) (r : Nat)
    (h : Handling text) (transcribed : Transcribed handler state) (spent : Spent handler state r h)
    (present : state.requests.handlings[r]? = some h) :
    (ownLookups state.lookups r).length ≤ quota handler h := by
  rcases transcribed.present r h present with ⟨taken, answers, queries, known⟩
  rcases known.begun with ⟨front, back, all, begun⟩
  have open_ := begun.length_eq
  have wanted := wants_ahead brief h spent.listed
  rw [all, List.length_append] at wanted
  have within := spent.within
  omega

theorem own_limit (brief : Brief handler.chain) (state : State text)
    (transcribed : Transcribed handler state)
    (spent : ∀ r h, state.requests.handlings[r]? = some h → Spent handler state r h) (r : Nat) :
    (ownLookups state.lookups r).length ≤ handler.chain.synths.length + 2 := by
  cases present : state.requests.handlings[r]? with
  | none =>
      rw [(transcribed.absent r present).1]
      exact Nat.zero_le _
  | some h =>
      refine (own_within brief state r h transcribed (spent r h present) present).trans ?_
      unfold quota
      split <;> omega

end Quotas

/-! The pool under the requests. -/
section Projection
variable {config : Config} {handler : Dns64Handler text}

/-- The steps of the calls and refreshes. -/
def poolWork : Action → Nat
  | .pool action => work action
  | _ => 0

/-- What the server does is a run of the pool, with a call for each lookup. -/
theorem pool_run (metrics : Counters.Metrics) (actions : List Action) (after : State text)
    (run : Run (step config handler) anyAction (State.new text config metrics) actions after) :
    ∃ inner, Run (Pool.step config) anyAction (Pool.State.new config) inner after.pool ∧
      total started inner = after.lookups.length ∧
      total work inner = total poolWork actions := by
  refine run_history (motive := fun actions (after : State text) =>
    ∃ inner, Run (Pool.step config) anyAction (Pool.State.new config) inner after.pool ∧
      total started inner = after.lookups.length ∧
      total work inner = total poolWork actions) ⟨[], Run.refl _, rfl, rfl⟩ ?_ run
  rintro front action before after _ ⟨inner, begun, starts, works⟩ _ taken
  simp only [total_append, total_cons, total_nil]
  cases step_moved action before after taken with
  | @pooled action pool inside moved =>
      have still : started action = 0 := by
        cases action with
        | call id query => exact absurd rfl (inside id query)
        | _ => rfl
      refine ⟨inner ++ [action], run_append begun (Run.next trivial moved (Run.refl _)), ?_, ?_⟩
      · simp only [total_append, total_cons, total_nil, starts, still, Nat.add_zero]
      · simp only [total_append, total_cons, total_nil, works, poolWork]
  | arrived request => exact ⟨inner, begun, starts, works⟩
  | @asked id h query pool present wanted turn called =>
      refine ⟨inner ++ [.call before.lookups.length query],
        run_append begun (Run.next trivial called (Run.refl _)), ?_, ?_⟩
      · simp only [total_append, total_cons, total_nil, starts, started, List.length_append,
          List.length_singleton, Nat.add_zero]
      · simp only [total_append, total_cons, total_nil, works, work, poolWork, Nat.add_zero]
  | advanced present complete answered heard next => exact ⟨inner, begun, starts, works⟩

theorem linked_run (metrics : Counters.Metrics) (actions : List Action) (after : State text)
    (run : Run (step config handler) anyAction (State.new text config metrics) actions after) :
    Linked after :=
  run_invariant (fun action before next linked _ taken =>
    linked_step action before next linked taken) run (fun _ => rfl)

/-- The round trips made for a request. -/
def tripsFor (state : State text) (r : Nat) : Nat :=
  (state.pool.replies.filter fun reply =>
    state.lookups[asker reply.fetch.task]?.map Lookup.request = some r).length

/-- Each round trip of a request is one of another lookup of its own. -/
theorem trips_within (state : State text) (r : Nat)
    (once : ∀ id, (state.pool.replies.filter fun reply =>
      asker reply.fetch.task = id).length ≤ 1) :
    tripsFor state r ≤ (ownLookups state.lookups r).length := by
  let owned := state.pool.replies.filter fun reply =>
    state.lookups[asker reply.fetch.task]?.map Lookup.request = some r
  have all : (state.pool.replies.map fun reply => asker reply.fetch.task).Nodup := by
    rw [List.nodup_iff_count_le_one]
    intro id
    have single := once id
    rw [← List.countP_eq_length_filter] at single
    rw [List.count, List.countP_map]
    exact single
  have distinct : (owned.map fun reply => asker reply.fetch.task).Nodup :=
    all.sublist (List.filter_sublist.map _)
  have listed : (owned.map fun reply => asker reply.fetch.task) ⊆ ownLookups state.lookups r := by
    intro call member
    rcases List.mem_map.mp member with ⟨reply, kept, rfl⟩
    have mine := of_decide_eq_true (List.mem_filter.mp kept).2
    rcases Option.map_eq_some_iff.mp mine with ⟨lookup, found, _⟩
    refine List.mem_filter.mpr ⟨?_, decide_eq_true mine⟩
    exact List.mem_range.mpr (List.getElem?_eq_some_iff.mp found).1
  have fewer := (List.subperm_of_subset distinct listed).length_le
  rw [List.length_map] at fewer
  exact fewer

/-- The lookups are those of the requests that have arrived. -/
theorem lookups_total (state : State text) (transcribed : Transcribed handler state) (limit : Nat)
    (each : ∀ r, (ownLookups state.lookups r).length ≤ limit) :
    state.lookups.length ≤ limit * state.requests.handlings.length := by
  let owner : Nat → Option Nat := fun call => state.lookups[call]?.map Lookup.request
  let requests := (Finset.range state.requests.handlings.length).image some
  -- Every lookup is of a request that is there.
  have known : ∀ call ∈ Finset.range state.lookups.length, owner call ∈ requests := by
    intro call inside
    obtain ⟨lookup, found⟩ : ∃ lookup, state.lookups[call]? = some lookup :=
      ⟨_, List.getElem?_eq_getElem (Finset.mem_range.mp inside)⟩
    refine Finset.mem_image.mpr ⟨lookup.request, ?_, by simp only [owner, found, Option.map_some]⟩
    by_contra beyond
    have absent := List.getElem?_eq_none (Nat.le_of_not_lt (mt Finset.mem_range.mpr beyond))
    have listed : call ∈ ownLookups state.lookups lookup.request := by
      refine List.mem_filter.mpr ⟨List.mem_range.mpr (Finset.mem_range.mp inside), ?_⟩
      rw [found]
      exact decide_eq_true rfl
    rw [(transcribed.absent _ absent).1] at listed
    cases listed
  have fibers : ∀ found ∈ requests,
      ((Finset.range state.lookups.length).filter fun call => owner call = found).card ≤
        limit := by
    intro found member
    rcases Finset.mem_image.mp member with ⟨r, _, rfl⟩
    have same : (Finset.range state.lookups.length).filter (fun call => owner call = some r) =
        (ownLookups state.lookups r).toFinset := by
      ext call
      simp [ownLookups, owner]
    have distinct : (ownLookups state.lookups r).Nodup := List.nodup_range.filter _
    rw [same, List.toFinset_card_of_nodup distinct]
    exact each r
  have whole := Finset.card_le_mul_card_image_of_maps_to known limit fibers
  have few : requests.card ≤ state.requests.handlings.length :=
    Finset.card_image_le.trans_eq (Finset.card_range _)
  rw [Finset.card_range] at whole
  exact whole.trans (Nat.mul_le_mul_left limit few)

end Projection

/-- However requests interleave, one that the gates turned away asks the pool nothing, one
that is passed through asks once, and one on the synthesis path asks no more often than the
chain is long, and twice on top. The upstreams are asked no more often for any of them, and
all of them together. -/
theorem amplification_bounded (config : Config) (handler : Dns64Handler text)
    (ids : List String) (nat64Prefix : Ipv6Addr) (ttlCap : Option Nat) (nat64Fallback : Bool)
    (built : Chain.build text ids nat64Prefix ttlCap nat64Fallback = .ok handler.chain)
    (metrics : Counters.Metrics) (actions : List Action) (after : State text)
    (run : Run (step config handler) anyAction (State.new text config metrics) actions after) :
    (∀ r h, after.requests.handlings[r]? = some h →
      (ownLookups after.lookups r).length ≤ quota handler h ∧
        tripsFor after r ≤ (ownLookups after.lookups r).length) ∧
      after.pool.replies.length ≤ (ids.length + 2) * after.requests.handlings.length := by
  have brief := built_brief ids nat64Prefix ttlCap nat64Fallback handler.chain built
  have named := (ChainContract.build_built ids nat64Prefix ttlCap nat64Fallback _ built).named
  rcases reachable_spent brief metrics actions after run with ⟨transcribed, spent⟩
  rcases pool_run metrics actions after run with ⟨inner, pooled, starts, _⟩
  have once := fun id => asked_once id pooled
  have trips := replies_within pooled
  have each : ∀ r h, after.requests.handlings[r]? = some h →
      (ownLookups after.lookups r).length ≤ quota handler h := fun r h present =>
    own_within brief after r h transcribed (spent r h present) present
  refine ⟨fun r h present => ⟨each r h present, trips_within after r once⟩, ?_⟩
  have size : handler.chain.synths.length = ids.length := by
    rw [← named, List.length_map]
  have limit := own_limit brief after transcribed spent
  rw [size] at limit
  rw [starts] at trips
  exact trips.trans (lookups_total after transcribed (ids.length + 2) limit)

/-- Two lookups of one request, and two round trips. -/
theorem amplification_bounded_sample :
    ∃ after : State plainText,
      exec (step Pool.sampleConfig Conservation.sampleHandler) sampleActions
        (State.new plainText Pool.sampleConfig (.new [])) = some after ∧
      (∀ r h, after.requests.handlings[r]? = some h →
        (ownLookups after.lookups r).length ≤ quota Conservation.sampleHandler h ∧
          tripsFor after r ≤ (ownLookups after.lookups r).length) ∧
      after.pool.replies.length ≤ (["nat64"].length + 2) * after.requests.handlings.length := by
  have executed : exec (step Pool.sampleConfig Conservation.sampleHandler) sampleActions
      (State.new plainText Pool.sampleConfig (.new [])) = some _ := rfl
  exact ⟨_, executed, amplification_bounded Pool.sampleConfig Conservation.sampleHandler ["nat64"]
    _ none false rfl (.new []) _ _ (exec_run executed)⟩

/-! Every request comes to its end. -/
section Ends
variable {config : Config} {handler : Dns64Handler text}

/-- The steps of the server itself: those of the calls, of the refreshes and of the requests. -/
def effort : Action → Nat
  | .pool action => work action
  | .ask _ | .advance _ => 1
  | .arrive _ => 0

def arrivals : Action → Nat
  | .arrive _ => 1
  | _ => 0

/-- What one request may take: seven steps and one for each synthesizer, and six for each of
its lookups. -/
def allotment (handler : Dns64Handler text) : Nat :=
  6 * (handler.chain.synths.length + 2) + (handler.chain.synths.length + 7)

theorem effort_run (metrics : Counters.Metrics) (actions : List Action) (after : State text)
    (run : Run (step config handler) anyAction (State.new text config metrics) actions after) :
    total effort actions + (after.requests.handlings.map (rank handler)).sum ≤
        total poolWork actions + after.lookups.length +
          (handler.chain.synths.length + 7) * after.requests.handlings.length ∧
      after.requests.handlings.length = total arrivals actions := by
  refine run_history (motive := fun actions (after : State text) =>
    total effort actions + (after.requests.handlings.map (rank handler)).sum ≤
        total poolWork actions + after.lookups.length +
          (handler.chain.synths.length + 7) * after.requests.handlings.length ∧
      after.requests.handlings.length = total arrivals actions) ⟨Nat.zero_le _, rfl⟩ ?_ run
  rintro front action before after _ ⟨paid, arrived⟩ _ taken
  simp only [total_append, total_cons, total_nil, Nat.add_zero]
  cases step_moved action before after taken with
  | pooled inside moved =>
      simp only [effort, poolWork, arrivals]
      exact ⟨by omega, arrived⟩
  | arrived request =>
      have fresh : rank handler (Handling.new text request) = handler.chain.synths.length + 7 := rfl
      simp only [effort, poolWork, arrivals, List.map_append, List.sum_append, List.map_singleton,
        List.sum_singleton, fresh, List.length_append, List.length_singleton, Nat.mul_succ]
      exact ⟨by omega, by omega⟩
  | asked present wanted turn called =>
      simp only [effort, poolWork, arrivals, List.length_append, List.length_singleton]
      exact ⟨by omega, arrived⟩
  | @advanced id h answers event progress present complete answered heard next =>
      have falls := RequestRuns.rank_falls h event progress
        (RequestRuns.next_moved h event progress next)
      have sums := Processes.sum_set (rank handler) before.requests.handlings id h
        progress.handling present
      simp only [effort, poolWork, arrivals, RequestRuns.State.progressed, List.length_set]
      exact ⟨by omega, arrived⟩

theorem total_times (times : Nat) (actions : List Action) :
    total (fun action => times * arrivals action) actions = times * total arrivals actions := by
  induction actions with
  | nil => rfl
  | cons action rest ih => rw [total_cons, total_cons, ih, Nat.mul_add]

/-- What the server does is paid by the requests that arrived. -/
theorem effort_budgeted (brief : Brief handler.chain) (metrics : Counters.Metrics) :
    Budgeted (step config handler) (State.new text config metrics) effort
      (fun action => allotment handler * arrivals action) := by
  intro actions after run
  rcases reachable_spent brief metrics actions after run with ⟨transcribed, spent⟩
  rcases pool_run metrics actions after run with ⟨inner, pooled, starts, works⟩
  rcases effort_run metrics actions after run with ⟨paid, arrived⟩
  have inside := metered_budgeted (@metered_steps config) unloaded_new inner after.pool
    pooled
  rw [total_scaled, starts, works] at inside
  have lookups := lookups_total after transcribed _ (own_limit brief after transcribed spent)
  rw [total_times, ← arrived, allotment, Nat.add_mul, Nat.mul_assoc]
  omega

/-- The steps that wait for nothing but the answers of the upstreams. -/
def helpful (answers : Pool.Task → Option Message) : Action → Prop
  | .pool action => goesOn answers action
  | .ask _ | .advance _ => True
  | .arrive _ => False

theorem helpful_costly (handler : Dns64Handler text) (answers : Pool.Task → Option Message)
    (action : Action) (helping : helpful answers action) :
    0 < effort action ∧ allotment handler * arrivals action = 0 := by
  cases action with
  | pool action => exact ⟨(goes_on_costly answers action helping).1, rfl⟩
  | arrive request => exact False.elim helping
  | _ => exact ⟨Nat.one_pos, rfl⟩

/-- The lookup was dropped, or it follows a leader that was. -/
def Hung (pool : Pool.State) (id : CallId) : Prop :=
  ∃ call, pool.calls id = some call ∧ (call.phase = .aborted ∨
    ∃ leader next owner, call.phase = .following leader next ∧
      pool.calls leader = some owner ∧ owner.phase = .aborted)

variable {answers : Pool.Task → Option Message} {state : State text}

/-- Where the server is stuck, its pool is. -/
theorem stuck_pool (stuck : Stuck (step config handler) (helpful answers) state) :
    Stuck (Pool.step config) (goesOn answers) state.pool := by
  intro action goes
  have refused := stuck (.pool action) goes
  cases action with
  | call id query => exact False.elim goes
  | _ =>
      simp only [step, Option.map_eq_none_iff] at refused
      exact refused

/-- A lookup of a pool at rest has returned, or hangs. -/
theorem rest_returned (rest : AtRest state.pool) (linked : Linked state) (id : CallId)
    (begun : id < state.lookups.length) :
    (returned state.pool id).isSome = true ∨ Hung state.pool id := by
  have same := linked id
  rw [List.getElem?_eq_getElem begun, Option.map_some] at same
  rcases Option.map_eq_some_iff.mp same with ⟨call, present, _⟩
  rcases rest.calls id call present with past | behind
  · cases phase : call.phase with
    | done outcome status =>
        left
        simp [returned, present, phase]
    | aborted => exact Or.inr ⟨call, present, Or.inl phase⟩
    | _ => simp [phase, Pool.settled] at past
  · exact Or.inr ⟨call, present, Or.inr behind⟩

/-- An unfinished request goes on with the answers it wanted. -/
theorem hears_next (h : Handling text) (listed : RequestRuns.Listed handler h)
    (calm : ∀ synth ∈ handler.chain.synths, ∀ ctx, Completes (synth.detect ctx))
    (answers : List (Option Message × CacheStatus))
    (each : answers.length = (wants handler h).length)
    (unfinished : ∀ response, h.place ≠ .finished response) :
    ∃ event, eventFor h.place answers = some event ∧ (h.next handler event).isSome = true := by
  have silent : wants handler h = [] → answers = [] := by
    intro nothing
    rw [nothing] at each
    exact List.length_eq_zero_iff.mp each
  cases placed : h.place with
  | finished response => exact absurd placed (unfinished response)
  | joining query =>
      simp only [wants, placed, List.length_cons, List.length_nil] at each
      rcases answers with _ | ⟨first, _ | ⟨second, _ | ⟨third, rest⟩⟩⟩ <;> cases each
      exact ⟨_, rfl, by simp [Handling.next, placed]⟩
  | observing query =>
      simp only [wants, placed, List.length_cons, List.length_nil] at each
      rcases answers with _ | ⟨first, _ | ⟨second, rest⟩⟩ <;> cases each
      exact ⟨_, rfl, by simp [Handling.next, placed]⟩
  | trying query aaaa cache ctx rest =>
      cases rest with
      | nil =>
          rw [silent (by simp [wants, placed])]
          exact ⟨_, rfl, by simp [Handling.next, placed]⟩
      | cons synth rest =>
          simp only [RequestRuns.Listed, placed] at listed
          obtain ⟨plan, found, _⟩ := calm synth (listed synth List.mem_cons_self) ctx
          have tried : (h.attempt handler query aaaa cache ctx synth rest replay
              (answers.map Prod.fst)).isSome = true := by
            unfold Handling.attempt
            rw [found]
            cases plan with
            | none => rfl
            | some plan =>
                dsimp only
                split <;> rfl
          exact ⟨_, rfl, by simpa only [Handling.next, placed] using tried⟩
  | won query cache ctx id records => exact ⟨_, rfl, by simp [Handling.next, placed]⟩
  | received | gating query | closing query response obs | decided response due =>
      rw [silent (by simp [wants, placed])]
      exact ⟨_, rfl, by simp [Handling.next, placed]⟩

theorem mapM_returned (pool : Pool.State) (ids : List CallId)
    (all : ∀ id ∈ ids, (returned pool id).isSome = true) :
    ∃ answers, ids.mapM (returned pool) = some answers := by
  induction ids with
  | nil => exact ⟨[], rfl⟩
  | cons id rest ih =>
      rw [List.forall_mem_cons] at all
      rcases Option.isSome_iff_exists.mp all.1 with ⟨first, found⟩
      rcases ih all.2 with ⟨others, tail⟩
      exact ⟨first :: others, by simp [found, tail]⟩

/-- Once everything it asked has returned, a request can ask or go on. -/
theorem returned_goes_on (linked : Linked state) (r : Nat) (h : Handling text)
    (present : state.requests.handlings[r]? = some h) (listed : RequestRuns.Listed handler h)
    (calm : ∀ synth ∈ handler.chain.synths, ∀ ctx, Completes (synth.detect ctx))
    (all : ∀ call ∈ state.waiting r, (returned state.pool call).isSome = true)
    (few : (state.waiting r).length ≤ (wants handler h).length)
    (unfinished : ∀ response, h.place ≠ .finished response) :
    step config handler (.ask r) state ≠ none ∨ step config handler (.advance r) state ≠ none := by
  rcases Nat.lt_or_eq_of_le few with more | complete
  · left
    have wanted := List.getElem?_eq_getElem more
    have fresh : state.pool.calls state.lookups.length = none := by
      have same := linked state.lookups.length
      rwa [List.getElem?_eq_none (Nat.le_refl _), Option.map_none, Option.map_eq_none_iff] at same
    have turn : joins h.place = false →
        ∀ call ∈ state.waiting r, ¬returned state.pool call = none :=
      fun _ call waits => Option.isSome_iff_ne_none.mp (all call waits)
    simpa [step, askStep, present, wanted, Pool.step, fresh] using turn
  · right
    rcases mapM_returned state.pool (state.waiting r) all with ⟨answers, returns⟩
    have each : answers.length = (wants handler h).length := by
      rw [← complete]
      exact ((all_returned _ _ _).mp returns).length_eq.symm
    rcases hears_next h listed calm answers each unfinished with ⟨event, heard, possible⟩
    rcases Option.isSome_iff_exists.mp possible with ⟨progress, next⟩
    simp [step, advanceStep, present, complete, returns, heard, RequestRuns.step, next]

theorem waiting_begun (transcribed : Transcribed handler state) (r : Nat) (h : Handling text)
    (present : state.requests.handlings[r]? = some h) :
    (∀ call ∈ state.waiting r, call < state.lookups.length) ∧
      (state.waiting r).length ≤ (wants handler h).length := by
  rcases transcribed.present r h present with ⟨taken, answers, queries, known⟩
  rcases known.begun with ⟨front, back, all, begun⟩
  constructor
  · intro call waits
    have own : call ∈ ownLookups state.lookups r := by
      rw [known.own]
      exact List.mem_append_right taken waits
    exact List.mem_range.mp (List.mem_filter.mp own).1
  · rw [all, List.length_append, begun.length_eq]
    exact Nat.le_add_right _ _

/-- Where nothing can go on, a request is finished, or one of its lookups hangs. -/
theorem stuck_finished (rest : AtRest state.pool) (linked : Linked state)
    (transcribed : Transcribed handler state)
    (calm : ∀ synth ∈ handler.chain.synths, ∀ ctx, Completes (synth.detect ctx))
    (stuck : Stuck (step config handler) (helpful answers) state) (r : Nat) (h : Handling text)
    (present : state.requests.handlings[r]? = some h) (listed : RequestRuns.Listed handler h) :
    (∃ response, h.place = .finished response) ∨
      ∃ call ∈ state.waiting r, Hung state.pool call := by
  rcases waiting_begun transcribed r h present with ⟨begun, few⟩
  by_contra neither
  rw [not_or, not_exists, not_exists] at neither
  rcases neither with ⟨unfinished, calls⟩
  have all : ∀ call ∈ state.waiting r, (returned state.pool call).isSome = true := by
    intro call waits
    rcases rest_returned rest linked call (begun call waits) with done | hung
    · exact done
    · exact absurd ⟨waits, hung⟩ (calls call)
  rcases returned_goes_on linked r h present listed calm all few unfinished with asks | goes
  · exact asks (stuck (.ask r) trivial)
  · exact goes (stuck (.advance r) trivial)

/-- Unless a request was dropped, no lookup hangs. -/
theorem kept_unhung (metrics : Counters.Metrics) (actions : List Action) (after : State text)
    (run : Run (step config handler) anyAction (State.new text config metrics) actions after)
    (kept : ∀ id, .pool (.abort id) ∉ actions) (id : CallId) : ¬Hung after.pool id := by
  have alive : ∀ id call, after.pool.calls id = some call → call.phase ≠ .aborted := by
    have inside : ∀ action ∈ actions, ∀ id, action ≠ .pool (.abort id) := by
      rintro _ member id rfl
      exact kept id member
    have restricted := run_restrict inside run
    refine run_invariant (motive := fun state : State text =>
      ∀ id call, state.pool.calls id = some call → call.phase ≠ .aborted) ?_ restricted
      (fun _ _ impossible => nomatch impossible)
    intro action before next alive inside taken
    cases step_moved action before next taken with
    | @pooled action pool _ moved =>
        refine Pool.alive_step config action before.pool pool moved ?_ alive
        rintro id rfl
        exact inside id rfl
    | arrived request => exact alive
    | asked present wanted turn called =>
        exact Pool.alive_step config _ before.pool _ called (fun _ => Pool.Action.noConfusion) alive
    | advanced present complete answered heard next => exact alive
  rintro ⟨call, present, aborted | ⟨leader, next, owner, _, led, aborted⟩⟩
  · exact alive id call present aborted
  · exact alive leader owner led aborted

end Ends

/-- What every continuation of a run comes to, in whatever order its steps are taken. -/
structure Delivers (config : Config) (handler : Dns64Handler text)
    (answers : Pool.Task → Option Message) (actions : List Action) (after : State text) :
    Prop where
  bounded : ∀ more last, Run (step config handler) (fun action _ => helpful answers action) after
    more last → total effort actions + more.length ≤ allotment handler * total arrivals actions
  ends : ∃ more last, Run (step config handler) (fun action _ => helpful answers action) after
    more last ∧ Stuck (step config handler) (helpful answers) last
  finished : ∀ more last, Run (step config handler) (fun action _ => helpful answers action) after
    more last → Stuck (step config handler) (helpful answers) last →
    ∀ r (h : Handling text), last.requests.handlings[r]? = some h →
      (∃ response, h.place = .finished response) ∨
        ((∃ id, .pool (.abort id) ∈ actions) ∧ ∃ call ∈ last.waiting r, Hung last.pool call)

/-- From every state the server can come to, whatever the upstreams answer and whoever moves
first: it goes on until every request has its response, within a fixed number of steps a
request. Only requests that were dropped, or that wait behind one, stay behind. -/
theorem requests_complete (config : Config) (handler : Dns64Handler text)
    (ids : List String) (nat64Prefix : Ipv6Addr) (ttlCap : Option Nat) (nat64Fallback : Bool)
    (built : Chain.build text ids nat64Prefix ttlCap nat64Fallback = .ok handler.chain)
    (accepts : AcceptsConstants text) (metrics : Counters.Metrics)
    (answers : Pool.Task → Option Message) (actions : List Action) (after : State text)
    (run : Run (step config handler) anyAction (State.new text config metrics) actions after) :
    Delivers config handler answers actions after := by
  have brief := built_brief ids nat64Prefix ttlCap nat64Fallback handler.chain built
  have made := ChainContract.build_built ids nat64Prefix ttlCap nat64Fallback handler.chain built
  have budgeted : Budgeted (step config handler) (State.new text config metrics) effort
      (fun action => allotment handler * arrivals action) := effort_budgeted brief metrics
  constructor
  · intro more last later
    have within := helped_within budgeted (helpful_costly handler answers) run later
    rwa [total_times] at within
  · exact runs_out budgeted (helpful_costly handler answers) run
  · intro more last later stuck r h present
    have whole := run_append run (run_weaken (fun _ _ _ => trivial) later)
    have linked := linked_run metrics _ last whole
    rcases reachable_spent brief metrics _ last whole with ⟨transcribed, spent⟩
    rcases pool_run metrics _ last whole with ⟨inner, pooled, _, _⟩
    rcases Provenance.reachable_sound config anyAction inner last.pool pooled with ⟨slots, sound⟩
    have rest := stuck_at_rest slots sound
      (RefreshSlots.reachable_guarded inner last.pool pooled).1 (stuck_pool stuck)
    have calm : ∀ synth ∈ handler.chain.synths, ∀ ctx, Completes (synth.detect ctx) :=
      fun synth listed ctx => ChainContract.make_synthesizer_completes accepts synth.id nat64Prefix
        synth (made.made synth listed) ctx
    rcases stuck_finished rest linked transcribed calm stuck r h present (spent r h present).listed
      with done | ⟨call, waits, hung⟩
    · exact Or.inl done
    · refine Or.inr ⟨?_, call, waits, hung⟩
      -- What hangs was dropped before: the later steps drop nothing.
      by_contra kept
      refine kept_unhung metrics (actions ++ more) last whole ?_ call hung
      intro id member
      rcases List.mem_append.mp member with early | late
      · exact kept ⟨id, early⟩
      · exact run_all later _ late

theorem requests_complete_sample :
    ∃ after : State plainText,
      exec (step Pool.sampleConfig Conservation.sampleHandler) (sampleActions.take 9)
        (State.new plainText Pool.sampleConfig (.new [])) = some after ∧
      Delivers Pool.sampleConfig Conservation.sampleHandler
        (fun _ => some (Pool.sampleReply 300)) (sampleActions.take 9) after := by
  have executed : exec (step Pool.sampleConfig Conservation.sampleHandler) (sampleActions.take 9)
      (State.new plainText Pool.sampleConfig (.new [])) = some _ := rfl
  exact ⟨_, executed, requests_complete Pool.sampleConfig Conservation.sampleHandler ["nat64"]
    _ none false rfl ChainContract.plain_text_accepts (.new []) _ _ _ (exec_run executed)⟩

end Dnsix.Workload
