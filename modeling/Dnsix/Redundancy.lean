import Dnsix.RefreshSlots
import Dnsix.ServeStale

/-!
Upstream queries that a fresh entry makes redundant. The lookup and the claim of a slot
are two steps, and nothing looks again after the claim, so a call that stands between
them while another stores the answer and frees the slot resolves the question once more.
A run never comes to this exactly as long as no store and no release meets such a call.
-/

namespace Dnsix.Redundancy
open Dns LastWrite ResponseCache Transition Pool SlotInvariant StoreHistory Provenance
open ServeStale RefreshSlots

variable {config : Config}

/-- The question has an entry that has neither expired nor come near its end. -/
def Fresh (state : State) (key : Query) : Prop :=
  ∃ entry fetch, state.cache.cache key = some (entry, fetch) ∧ state.now ≤ entry.validUntil ∧
    prefetchDue (entry.validUntil - state.now) (entry.validUntil - entry.fetchedAt) = false

/-- The key of the slot a call is about to claim, if that slot is free: between the
lookup and the claim nothing looks again. -/
def gap (state : State) : Phase → Option Query
  | .joining question =>
      if state.singleFlight question.key = none then some question.key else none
  | .claiming question _ | .prefetching question _ =>
      if state.inFlight question.key then none else some question.key
  | _ => none

def Gap (state : State) (key : Query) : Prop :=
  ∃ id call, state.calls id = some call ∧ gap state call.phase = some key

/-- A response that leaves an entry comes while no call for its question stands before a
free slot. -/
def StoresAlone (config : Config) (state : State) (query : Message) (response : Option Message) :
    Prop :=
  ∀ resp question, response = some resp → Storable resp → config.key query = some question →
    ¬ Gap state question.key

/-- The slot of a question with a fresh entry is freed while no call is about to claim it. -/
def FreesAlone (state : State) (key : Query) (claims : Phase → Option Query) : Prop :=
  Fresh state key → ∀ id call, state.calls id = some call → claims call.phase ≠ some key

def joins : Phase → Option Query
  | .joining question => some question.key
  | _ => none

def refreshes : Phase → Option Query
  | .claiming question _ | .prefetching question _ => some question.key
  | _ => none

def Quiet (config : Config) : Action → State → Prop
  | .reply id response, state => ∀ call, state.calls id = some call →
      StoresAlone config state call.query response
  | .replyRefresh id response, state => ∀ refresh, state.refreshes id = some refresh →
      StoresAlone config state refresh.query response
  | .advance id, state => ∀ call question outcome, state.calls id = some call →
      call.phase = .unslotting question outcome → FreesAlone state question.key joins
  | .finishRefresh id, state | .panicRefresh id, state => ∀ refresh,
      state.refreshes id = some refresh → FreesAlone state refresh.question.key refreshes
  | _, _ => True

/-! Freshness. -/
section Freshness

theorem prefetch_due_later (early late total : Nat) (order : late ≤ early)
    (due : prefetchDue early total = true) : prefetchDue late total = true := by
  simp only [prefetchDue, Bool.and_eq_true, decide_eq_true_iff] at due ⊢
  omega

/-- What is fresh later was fresh before, as long as the cache stays. -/
theorem fresh_before (state after : State) (key : Query) (cache : after.cache = state.cache)
    (later : state.now ≤ after.now) (fresh : Fresh after key) : Fresh state key := by
  rcases fresh with ⟨entry, fetch, held, within, outside⟩
  rw [cache] at held
  refine ⟨entry, fetch, held, Nat.le_trans later within, ?_⟩
  by_contra due
  have order : entry.validUntil - after.now ≤ entry.validUntil - state.now := by omega
  rw [prefetch_due_later _ _ _ order ((Bool.not_eq_false _).mp due)] at outside
  cases outside

/-- A lookup that does not serve a fresh answer outright found no fresh entry. -/
theorem not_fresh_of_lookup (state : State) (question : Query)
    (looked : ∀ response fetch, state.cache.get question state.now ≠
      some (.fresh response false, fetch)) : ¬ Fresh state question.key := by
  rintro ⟨entry, fetch, held, within, outside⟩
  apply looked (entry.toResponse (asSecs (entry.validUntil - state.now))) fetch
  simp only [StaleCache.get, held, CacheEntry.lookup, within, if_true, Option.map_some, outside]

end Freshness

/-! Lookups stay up to date. -/
section UpToDate

def UpToDate (state : State) : Prop := ∀ key, Fresh state key → ¬ Gap state key

theorem gap_iff (state : State) (phase : Phase) (key : Query) :
    gap state phase = some key ↔
      (joins phase = some key ∧ state.singleFlight key = none) ∨
        (refreshes phase = some key ∧ state.inFlight key = false) := by
  have refreshing : ∀ question : Query,
      (if state.inFlight question.key then none else some question.key) = some key ↔
        some question.key = some key ∧ state.inFlight key = false := by
    intro question
    cases taken : state.inFlight question.key with
    | true =>
        constructor
        · intro impossible
          cases impossible
        · rintro ⟨same, free⟩
          cases same
          rw [taken] at free
          cases free
    | false =>
        constructor
        · intro same
          cases same
          exact ⟨rfl, taken⟩
        · exact And.left
  cases phase with
  | joining question =>
      simp only [gap, joins, refreshes, reduceCtorEq, false_and, or_false]
      constructor
      · intro stands
        split at stands
        · rename_i free
          cases stands
          exact ⟨rfl, free⟩
        · cases stands
      · rintro ⟨same, free⟩
        cases same
        exact if_pos free
  | claiming question stale => simp [gap, joins, refreshes, refreshing question]
  | prefetching question hit => simp [gap, joins, refreshes, refreshing question]
  | _ => simp [gap, joins, refreshes]

/-- Slots that are taken open no gap. -/
theorem gap_closes (state after : State)
    (slots : ∀ key, after.singleFlight key = none → state.singleFlight key = none)
    (inFlight : ∀ key, after.inFlight key = false → state.inFlight key = false)
    (phase : Phase) (key : Query) (stands : gap after phase = some key) :
    gap state phase = some key := by
  rw [gap_iff] at stands ⊢
  exact stands.imp (And.imp_right (slots key)) (And.imp_right (inFlight key))

theorem gap_congr (state after : State) (inFlight : after.inFlight = state.inFlight)
    (singleFlight : after.singleFlight = state.singleFlight) (phase : Phase) :
    gap after phase = gap state phase := by
  unfold gap
  rw [inFlight, singleFlight]

theorem gap_kept (state after : State) (calls : after.calls = state.calls)
    (inFlight : after.inFlight = state.inFlight)
    (singleFlight : after.singleFlight = state.singleFlight) (key : Query)
    (gapped : Gap after key) :
    Gap state key := by
  rcases gapped with ⟨id, call, present, stands⟩
  rw [calls] at present
  rw [gap_congr state after inFlight singleFlight] at stands
  exact ⟨id, call, present, stands⟩

/-- One call moves, and its new place is before no claim or has just been looked up. -/
theorem gap_called (state after : State) (id : CallId) (next : Call)
    (calls : after.calls = Function.update state.calls id (some next))
    (closes : ∀ phase key, gap after phase = some key → gap state phase = some key) (key : Query)
    (gapped : Gap after key) : Gap state key ∨ gap state next.phase = some key := by
  rcases gapped with ⟨other, call, present, stands⟩
  rcases update_some calls present with ⟨_, rfl⟩ | ⟨_, before⟩
  · exact .inr (closes _ _ stands)
  · exact .inl ⟨other, call, before, closes _ _ stands⟩

theorem gap_answered (state after : State) (id : CallId) (next : Call)
    (calls : after.calls = Function.update state.calls id (some next))
    (inFlight : after.inFlight = state.inFlight)
    (singleFlight : after.singleFlight = state.singleFlight)
    (answered : ∀ key, gap state next.phase ≠ some key) (key : Query) (gapped : Gap after key) :
    Gap state key := by
  have closes : ∀ phase key, gap after phase = some key → gap state phase = some key := by
    intro phase key stands
    rwa [gap_congr state after inFlight singleFlight] at stands
  rcases gap_called state after id next calls closes key gapped with stood | stands
  · exact stood
  · exact absurd stands (answered key)

theorem gap_led (state after : State) (taken : Query) (holder : CallId)
    (inFlight : after.inFlight = state.inFlight)
    (slots : after.singleFlight = Function.update state.singleFlight taken (some holder)) :
    ∀ phase key, gap after phase = some key → gap state phase = some key := by
  apply gap_closes
  · intro key free
    rw [slots] at free
    by_cases own : key = taken
    · rw [own, Function.update_self] at free
      cases free
    · rwa [Function.update_of_ne own] at free
  · intro key free
    rwa [inFlight] at free

theorem gap_claimed (state after : State) (taken : Query)
    (inFlight : after.inFlight = Function.update state.inFlight taken true)
    (slots : after.singleFlight = state.singleFlight) :
    ∀ phase key, gap after phase = some key → gap state phase = some key := by
  apply gap_closes
  · intro key free
    rwa [slots] at free
  · intro key free
    rw [inFlight] at free
    by_cases own : key = taken
    · rw [own, Function.update_self] at free
      cases free
    · rwa [Function.update_of_ne own] at free

/-- A slot that is freed opens a gap for its claimants alone. -/
theorem gap_unslotted (state after : State) (freed : Query)
    (inFlight : after.inFlight = state.inFlight)
    (slots : after.singleFlight = Function.update state.singleFlight freed none)
    (phase : Phase) (key : Query) (stands : gap after phase = some key) :
    gap state phase = some key ∨ (key = freed ∧ joins phase = some freed) := by
  rw [gap_iff, inFlight, slots] at stands
  rw [gap_iff]
  rcases stands with ⟨claims, free⟩ | refreshing
  · by_cases own : key = freed
    · exact .inr ⟨own, own ▸ claims⟩
    · rw [Function.update_of_ne own] at free
      exact .inl (.inl ⟨claims, free⟩)
  · exact .inl (.inr refreshing)

theorem gap_released (state after : State) (freed : Query)
    (inFlight : after.inFlight = Function.update state.inFlight freed false)
    (slots : after.singleFlight = state.singleFlight)
    (phase : Phase) (key : Query) (stands : gap after phase = some key) :
    gap state phase = some key ∨ (key = freed ∧ refreshes phase = some freed) := by
  rw [gap_iff, inFlight, slots] at stands
  rw [gap_iff]
  rcases stands with joining | ⟨claims, free⟩
  · exact .inl (.inl joining)
  · by_cases own : key = freed
    · exact .inr ⟨own, own ▸ claims⟩
    · rw [Function.update_of_ne own] at free
      exact .inl (.inr ⟨claims, free⟩)

theorem up_to_date_called (state after : State) (inv : UpToDate state) (id : CallId) (next : Call)
    (calls : after.calls = Function.update state.calls id (some next))
    (closes : ∀ phase key, gap after phase = some key → gap state phase = some key)
    (cache : after.cache = state.cache) (now : after.now = state.now)
    (looked : ∀ key, joins next.phase = some key ∨ refreshes next.phase = some key →
      ¬ Fresh state key) : UpToDate after := by
  intro key fresh gapped
  have before := fresh_before state after key cache (Nat.le_of_eq now.symm) fresh
  rcases gap_called state after id next calls closes key gapped with stood | stands
  · exact inv key before stood
  · exact looked key (((gap_iff state next.phase key).mp stands).imp And.left And.left) before

theorem stored_elsewhere (state : State) (task : Task) (query : Message)
    (response : Option Message) (key : Query) (alone : StoresAlone config state query response)
    (gapped : Gap state key)
    (fresh : Fresh (resolveAndCache config state task query response) key) : Fresh state key := by
  rcases fresh with ⟨entry, fetch, held, within⟩
  have kept : (resolveAndCache config state task query response).cache.cache key =
      state.cache.cache key := by
    unfold resolveAndCache
    cases response with
    | none => rfl
    | some resp =>
        cases keyed : config.key query with
        | none => rfl
        | some question =>
            dsimp only
            rw [store_response_eq]
            split
            · rename_i storable
              have different : key ≠ question.key := by
                rintro rfl
                exact alone resp question rfl storable keyed gapped
              exact Function.update_of_ne different _ _
            · rfl
  rw [kept] at held
  exact ⟨entry, fetch, held, within⟩

theorem up_to_date_replied (state after : State) (inv : UpToDate state) (task : Task)
    (query : Message) (response : Option Message)
    (alone : StoresAlone config state query response)
    (cache : after.cache = (resolveAndCache config state task query response).cache)
    (now : after.now = state.now) (back : ∀ key, Gap after key → Gap state key) :
    UpToDate after := by
  intro key fresh gapped
  have moved : Fresh (resolveAndCache config state task query response) key :=
    fresh_before _ after key cache (Nat.le_of_eq now.symm) fresh
  exact inv key (stored_elsewhere state task query response key alone (back key gapped) moved)
    (back key gapped)

/-- A slot is freed: only the calls about to claim it come before a gap. -/
theorem up_to_date_freed (state after : State) (inv : UpToDate state) (key : Query)
    (claims : Phase → Option Query) (alone : FreesAlone state key claims)
    (cache : after.cache = state.cache) (now : after.now = state.now)
    (calls : ∀ id call other, after.calls id = some call → gap after call.phase = some other →
      state.calls id = some call)
    (opens : ∀ phase other, gap after phase = some other →
      gap state phase = some other ∨ (other = key ∧ claims phase = some key)) :
    UpToDate after := by
  rintro other fresh ⟨id, call, present, stands⟩
  have before := fresh_before state after other cache (Nat.le_of_eq now.symm) fresh
  have stood := calls id call other present stands
  rcases opens call.phase other stands with closed | ⟨rfl, claiming⟩
  · exact inv other before ⟨id, call, stood, closed⟩
  · exact alone before id call stood claiming

theorem up_to_date_step (action : Action) (state after : State) (sound : Sound config state)
    (encodes : Reencodes config state) (quiet : Quiet config action state)
    (inv : UpToDate state) (taken : step config action state = some after) : UpToDate after := by
  have same : ∀ phase key, gap state phase = some key → gap state phase = some key :=
    fun _ _ stands => stands
  cases step_moved config action state after taken with
  | tick elapsed =>
      intro key fresh gapped
      exact inv key (fresh_before state { state with now := state.now + elapsed } key rfl
        (Nat.le_add_right _ _) fresh) (gap_kept state _ rfl rfl rfl key gapped)
  | evict question =>
      rintro key ⟨entry, fetch, held, within⟩ gapped
      by_cases evicted : key = question.key
      · subst key
        exact absurd ((Function.update_self ..).symm.trans held) (Option.some_ne_none _).symm
      · exact inv key ⟨entry, fetch, (Function.update_of_ne evicted ..).symm.trans held, within⟩
          (gap_kept state _ rfl rfl rfl key gapped)
  | @hit id call question response prefetch fetch resp phase present located found built next =>
      refine up_to_date_called state _ inv _ _ rfl same rfl rfl ?_
      subst next
      cases prefetch with
      | true =>
          rintro key (impossible | stands)
          · cases impossible
          · cases stands
            apply not_fresh_of_lookup
            intro other tag looked
            rw [found] at looked
            cases looked
      | false => rintro key (impossible | impossible) <;> cases impossible
  | @staleHit id call question response fetch resp present located found built =>
      refine up_to_date_called state _ inv _ _ rfl same rfl rfl ?_
      rintro key (impossible | stands)
      · cases impossible
      · cases stands
        apply not_fresh_of_lookup
        intro other tag looked
        rw [found] at looked
        cases looked
  | @unbuilt id call question found fetch present located looked refused =>
      rw [lookup_builds config state question found fetch sound encodes looked] at refused
      cases refused
  | @miss id call question present located nothing =>
      refine up_to_date_called state _ inv _ _ rfl same rfl rfl ?_
      rintro key (stands | impossible)
      · cases stands
        apply not_fresh_of_lookup
        intro other tag looked
        rw [nothing] at looked
        cases looked
      · cases impossible
  | leaderReplied present located =>
      exact up_to_date_replied state _ inv _ _ _ (quiet _ present) rfl rfl
        (gap_answered state _ _ _ rfl rfl rfl fun _ impossible => nomatch impossible)
  | replied present located =>
      exact up_to_date_replied state _ inv _ _ _ (quiet _ present) rfl rfl
        (gap_answered state _ _ _ rfl rfl rfl fun _ impossible => nomatch impossible)
  | refreshReplied present located =>
      exact up_to_date_replied state _ inv _ _ _ (quiet _ present) rfl rfl
        (gap_kept state _ rfl rfl rfl)
  | @refreshFinished id refresh outcome present located =>
      exact up_to_date_freed state _ inv refresh.question.key refreshes (quiet _ present) rfl rfl
        (fun _ _ _ found _ => found) (gap_released state _ _ rfl rfl)
  | @refreshPanicked id refresh present located =>
      exact up_to_date_freed state _ inv refresh.question.key refreshes (quiet _ present) rfl rfl
        (fun _ _ _ found _ => found) (gap_released state _ _ rfl rfl)
  | led present located free =>
      exact up_to_date_called state _ inv _ _ rfl (gap_led state _ _ _ rfl rfl) rfl rfl
        fun _ impossible => by rcases impossible with none | none <;> cases none
  | @unslotted id call question outcome present located =>
      refine up_to_date_freed state _ inv question.key joins (quiet _ _ _ present located) rfl rfl
        ?_ (gap_unslotted state _ _ rfl rfl)
      intro other later key found stands
      rcases update_some rfl found with
        ⟨_, rfl⟩ | ⟨_, before⟩
      · cases stands
      · exact before
  | claimed present located free =>
      exact up_to_date_called state _ inv _ _ rfl (gap_claimed state _ _ rfl rfl) rfl rfl
        fun _ impossible => by rcases impossible with none | none <;> cases none
  | prefetched present located free =>
      exact up_to_date_called state _ inv _ _ rfl (gap_claimed state _ _ rfl rfl) rfl rfl
        fun _ impossible => by rcases impossible with none | none <;> cases none
  | _ =>
      exact up_to_date_called state _ inv _ _ rfl same rfl rfl
        fun _ impossible => by rcases impossible with none | none <;> cases none

end UpToDate

/-! Starting a resolution. -/
section Starting

def waits : Phase → Bool
  | .leading _ | .resolving _ => true
  | _ => false

/-- A call comes to wait for the upstreams by taking the slot, if it has a key. -/
theorem moved_waiting (action : Action) (state after : State) (slots : Coalesced True state)
    (id : CallId) (later : Call) (moved : Moved config state action after)
    (present : after.calls id = some later) (waiting : waits later.phase = true) :
    state.calls id = some later ∨ config.key later.query = none ∨
      ∃ call question, state.calls id = some call ∧ call.phase = .joining question ∧
        state.singleFlight question.key = none ∧ later.query = call.query := by
  -- The moves that leave the mover elsewhere.
  have idle : ∀ mover next, after.calls = Function.update state.calls mover (some next) →
      waits next.phase = false → state.calls id = some later ∨ config.key later.query = none ∨
        ∃ call question, state.calls id = some call ∧ call.phase = .joining question ∧
          state.singleFlight question.key = none ∧ later.query = call.query := by
    intro mover next calls unmoved
    rcases update_some calls present with ⟨_, rfl⟩ | ⟨_, before⟩
    · rw [unmoved] at waiting
      cases waiting
    · exact .inl before
  cases moved with
  | tick elapsed => exact .inl present
  | evict question => exact .inl present
  | @startedUncached mover query fresh unkeyed =>
      rcases update_some rfl present with ⟨rfl, rfl⟩ | ⟨_, before⟩
      · exact .inr (.inl unkeyed)
      · exact .inl before
  | @hit mover call question response prefetch fetch resp phase found located looked built next =>
      refine idle _ _ rfl ?_
      cases prefetch <;> simp [next, waits]
  | @led mover call question found located free =>
      rcases update_some rfl present with ⟨rfl, rfl⟩ | ⟨_, before⟩
      · exact .inr (.inr ⟨call, question, found, located, free, rfl⟩)
      · exact .inl before
  | @deserted mover leader call next found located lost =>
      rcases follower_reads state mover call leader next slots found located with
        ⟨rfl, owner, _, ⟨sent, _, read⟩ | ⟨_, read⟩ | ⟨_, read⟩⟩
      all_goals
        rw [read] at lost
        rcases lost with lagged | closed
        · contradiction
        · contradiction
  | refreshReplied found located => exact .inl present
  | refreshFinished found located => exact .inl present
  | refreshPanicked found located => exact .inl present
  | _ => exact idle _ _ rfl rfl

/-- A refresh comes to run by taking the slot of its question. -/
theorem moved_spawned (action : Action) (state after : State) (id : CallId) (refresh : Refresh)
    (moved : Moved config state action after) (present : after.refreshes id = some refresh)
    (running : refresh.phase = .running) :
    state.refreshes id = some refresh ∨ ∃ call, state.calls id = some call ∧
      refreshes call.phase = some refresh.question.key ∧
      state.inFlight refresh.question.key = false := by
  -- A refresh that goes on is not running any more.
  have ended : ∀ mover next, after.refreshes = Function.update state.refreshes mover (some next) →
      next.phase ≠ .running → state.refreshes id = some refresh ∨
        ∃ call, state.calls id = some call ∧
          refreshes call.phase = some refresh.question.key ∧
          state.inFlight refresh.question.key = false := by
    intro mover next updated other
    rcases update_some updated present with ⟨_, rfl⟩ | ⟨_, before⟩
    · exact absurd running other
    · exact .inl before
  cases moved with
  | @prefetched mover call question hit found located free =>
      rcases update_some rfl present with ⟨rfl, rfl⟩ | ⟨_, before⟩
      · exact .inr ⟨call, found, by rw [located]; rfl, free⟩
      · exact .inl before
  | @claimed mover call question stale found located free =>
      rcases update_some rfl present with ⟨rfl, rfl⟩ | ⟨_, before⟩
      · exact .inr ⟨call, found, by rw [located]; rfl, free⟩
      · exact .inl before
  | refreshReplied found located => exact ended _ _ rfl RefreshPhase.noConfusion
  | refreshFinished found located => exact ended _ _ rfl RefreshPhase.noConfusion
  | refreshPanicked found located => exact ended _ _ rfl RefreshPhase.noConfusion
  | _ => exact .inl present

/-- Whoever starts to wait for the upstreams stood before a free slot. -/
theorem started_gap (action : Action) (state after : State) (slots : Coalesced True state)
    (sound : Sound config state) (key : Query) (task : Task)
    (taken : step config action state = some after) (unstarted : ¬ Awaits config state key task)
    (awaits : Awaits config after key task) : Gap state key := by
  have moved := step_moved config action state after taken
  cases task with
  | call id =>
      rcases awaits with ⟨later, question, present, keyed, same, waiting⟩
      have waitsNow : waits later.phase = true := by
        rcases waiting with ⟨led, leading⟩ | ⟨status, resolving⟩
        · rw [leading]
          rfl
        · rw [resolving]
          rfl
      rcases moved_waiting action state after slots id later moved present waitsNow with
        before | unkeyed | ⟨call, joined, found, joining, free, query⟩
      · exact absurd ⟨later, question, before, keyed, same, waiting⟩ unstarted
      · rw [keyed] at unkeyed
        cases unkeyed
      · have placed := sound.calls id call found
        rw [joining] at placed
        have joinedKey : config.key call.query = some joined := placed
        rw [query, joinedKey, Option.some.injEq] at keyed
        rw [← same, ← keyed]
        refine ⟨id, call, found, (gap_iff state _ _).mpr (.inl ⟨?_, free⟩)⟩
        rw [joining, joins]
  | refresh id =>
      rcases awaits with ⟨refresh, present, same, running⟩
      rcases moved_spawned action state after id refresh moved present running with
        before | ⟨call, found, claims, free⟩
      · exact absurd ⟨refresh, before, same, running⟩ unstarted
      · rw [← same]
        exact ⟨id, call, found, (gap_iff state _ _).mpr (.inr ⟨claims, free⟩)⟩

/-- Nothing that can happen next starts a resolution of a question with a fresh entry. -/
def Spared (config : Config) (state : State) : Prop :=
  ∀ action after key task, step config action state = some after →
    ¬ Awaits config state key task → Awaits config after key task → ¬ Fresh state key

theorem up_to_date_spared (state : State) (slots : Coalesced True state)
    (sound : Sound config state) (inv : UpToDate state) : Spared config state := by
  intro action after key task taken unstarted awaits fresh
  exact inv key fresh (started_gap action state after slots sound key task taken unstarted awaits)

theorem spawned_redundant (state : State) (guarded : Guarded state) (id : CallId) (call : Call)
    (question : Query) (after : State) (present : state.calls id = some call)
    (before : early call.phase = true) (fresh : Fresh state question.key)
    (taken : step config (.advance id) state = some after)
    (spawned : after.refreshes id = some ⟨call.query, question, .running⟩) :
    ¬ Spared config state := by
  intro spared
  refine spared _ after question.key (.refresh id) taken ?_ ⟨_, spawned, rfl, rfl⟩ fresh
  rintro ⟨refresh, existed, _⟩
  rcases guarded.spawned id refresh existed with ⟨owner, same, late⟩
  rw [present, Option.some.injEq] at same
  rw [← same, before] at late
  cases late

/-- The next step of a call before a free slot resolves its question once more. -/
theorem gap_redundant (state : State) (guarded : Guarded state) (sound : Sound config state)
    (key : Query) (fresh : Fresh state key) (gapped : Gap state key) : ¬ Spared config state := by
  rcases gapped with ⟨id, call, present, stands⟩
  have placed := sound.calls id call present
  cases located : call.phase with
  | joining question =>
      rw [located, gap] at stands
      split at stands
      · rename_i free
        cases stands
        rw [located] at placed
        have taken : step config (.advance id) state =
            some (joinStep state id call question) := by
          simp only [step, present, Option.bind_some, advance, located]
        have leads : (joinStep state id call question).calls id =
            some { call with phase := .leading question } := by
          simp only [joinStep, free]
          exact Function.update_self ..
        intro spared
        refine spared _ _ question.key (.call id) taken ?_
          ⟨_, question, leads, placed, rfl, .inl ⟨question, rfl⟩⟩ fresh
        rintro ⟨same, _, found, _, _, ⟨led, leading⟩ | ⟨status, resolving⟩⟩
        · rw [present, Option.some.injEq] at found
          rw [← found, located] at leading
          cases leading
        · rw [present, Option.some.injEq] at found
          rw [← found, located] at resolving
          cases resolving
      · cases stands
  | claiming question stale =>
      rw [located, gap] at stands
      split at stands
      · cases stands
      · rename_i free
        cases stands
        have taken : step config (.advance id) state =
            some (claimStep state id call question stale) := by
          simp only [step, present, Option.bind_some, advance, located]
        refine spawned_redundant state guarded id call question _ present (by rw [located]; rfl)
          fresh taken ?_
        simp only [claimStep, spawnRefresh, tryClaimRefresh, free]
        exact Function.update_self ..
  | prefetching question hit =>
      rw [located, gap] at stands
      split at stands
      · cases stands
      · rename_i free
        cases stands
        have taken : step config (.advance id) state =
            some (prefetchStep state id call question hit) := by
          simp only [step, present, Option.bind_some, advance, located]
        refine spawned_redundant state guarded id call question _ present (by rw [located]; rfl)
          fresh taken ?_
        simp only [prefetchStep, spawnRefresh, tryClaimRefresh, free]
        exact Function.update_self ..
  | _ =>
      rw [located] at stands
      cases stands

end Starting

/-! What a step that is not quiet leads to. -/
section Loud

theorem stored_fresh (state : State) (task : Task) (query : Message) (resp : Message)
    (question : Query) (storable : Storable resp) (keyed : config.key query = some question) :
    Fresh (resolveAndCache config state task query (some resp)) question.key := by
  have stored : (resolveAndCache config state task query (some resp)).cache.cache question.key =
      some (storedEntry resp state.now, state.fetched task query) := by
    unfold resolveAndCache
    rw [keyed]
    dsimp only
    rw [store_response_eq, if_pos storable]
    exact Function.update_self ..
  have lives : ∃ life, 0 < life ∧ (storedEntry resp state.now).validUntil = state.now + secs life ∧
      (storedEntry resp state.now).fetchedAt = state.now := by
    unfold storedEntry
    split
    · rename_i kind
      rcases storable with ⟨_, granted⟩ | ⟨refused, _⟩
      · exact ⟨_, granted, rfl, rfl⟩
      · exact absurd refused (positive_not_negative resp kind)
    · rename_i kind
      rcases storable with ⟨contrary, _⟩ | ⟨_, _, granted⟩
      · exact absurd contrary kind
      · exact ⟨_, granted, rfl, rfl⟩
  rcases lives with ⟨life, granted, until', since⟩
  refine ⟨_, _, stored, ?_, ?_⟩
  · rw [until']
    exact Nat.le_add_right _ _
  · have now : (resolveAndCache config state task query (some resp)).now = state.now := rfl
    rw [now, until', since, Nat.add_sub_cancel_left]
    have long : 0 < secs life := Nat.mul_pos granted (by decide)
    simp only [prefetchDue, Bool.and_eq_false_iff, decide_eq_false_iff_not]
    omega

/-- A fresh entry stays fresh in a step that keeps the cache and the clock. -/
theorem fresh_kept (state after : State) (key : Query) (cache : after.cache = state.cache)
    (now : after.now = state.now) (fresh : Fresh state key) : Fresh after key := by
  rcases fresh with ⟨entry, fetch, held, within⟩
  exact ⟨entry, fetch, cache ▸ held, now ▸ within⟩

theorem gap_elsewhere (state after : State) (id : CallId) (call : Call) (key : Query)
    (calls : ∀ other, other ≠ id → after.calls other = state.calls other)
    (inFlight : after.inFlight = state.inFlight)
    (singleFlight : after.singleFlight = state.singleFlight)
    (present : state.calls id = some call) (waiting : waits call.phase = true)
    (gapped : Gap state key) : Gap after key := by
  rcases gapped with ⟨other, standing, found, stands⟩
  have different : other ≠ id := by
    rintro rfl
    rw [present, Option.some.injEq] at found
    subst standing
    cases located : call.phase with
    | leading question =>
        rw [located] at stands
        cases stands
    | resolving status =>
        rw [located] at stands
        cases stands
    | _ =>
        rw [located] at waiting
        cases waiting
  refine ⟨other, standing, (calls other different).trans found, ?_⟩
  rw [gap_congr state after inFlight singleFlight]
  exact stands

/-- The step leaves a call before the free slot of a question with a fresh entry. -/
def Exposes (state : State) : Prop := ∃ key, Fresh state key ∧ Gap state key

theorem not_alone (state : State) (query : Message) (response : Option Message)
    (loud : ¬ StoresAlone config state query response) :
    ∃ resp question, response = some resp ∧ Storable resp ∧ config.key query = some question ∧
      Gap state question.key := by
  unfold StoresAlone at loud
  push Not at loud
  exact loud

theorem not_freed_alone (state : State) (key : Query) (claims : Phase → Option Query)
    (loud : ¬ FreesAlone state key claims) :
    Fresh state key ∧ ∃ id call, state.calls id = some call ∧ claims call.phase = some key := by
  unfold FreesAlone at loud
  push Not at loud
  exact loud

/-- A response stored while a call stands before the free slot of its question. -/
theorem stored_exposes (state after : State) (task : Task) (query : Message)
    (response : Option Message) (loud : ¬ StoresAlone config state query response)
    (cache : after.cache = (resolveAndCache config state task query response).cache)
    (now : after.now = state.now) (kept : ∀ key, Gap state key → Gap after key) :
    Exposes after := by
  rcases not_alone state query response loud with ⟨resp, asked, rfl, storable, keyed, gapped⟩
  exact ⟨asked.key, fresh_kept _ after _ cache now
    (stored_fresh state task query resp asked storable keyed), kept asked.key gapped⟩

theorem replied_exposes (state after : State) (id : CallId) (call next : Call)
    (response : Option Message) (loud : ¬ StoresAlone config state call.query response)
    (present : state.calls id = some call) (waiting : waits call.phase = true)
    (same : after = (resolveAndCache config state (.call id) call.query response).setCall id
      next) : Exposes after := by
  subst after
  refine stored_exposes state _ (.call id) call.query response loud rfl rfl ?_
  intro key gapped
  exact gap_elsewhere state _ id call key (fun _ different => Function.update_of_ne different ..)
    rfl rfl present waiting gapped

theorem unslotted_exposes (state : State) (id : CallId) (call : Call) (question : Query)
    (outcome : Outcome) (present : state.calls id = some call)
    (located : call.phase = .unslotting question outcome)
    (loud : ¬ FreesAlone state question.key joins) :
    Exposes (unslotStep state id call question outcome) := by
  rcases not_freed_alone state question.key joins loud with ⟨fresh, other, later, found, claims⟩
  have different : other ≠ id := by
    rintro rfl
    rw [present, Option.some.injEq] at found
    rw [← found, located] at claims
    cases claims
  refine ⟨question.key, fresh_kept state _ _ rfl rfl fresh, other, later,
    (Function.update_of_ne different ..).trans found, ?_⟩
  rw [gap_iff]
  exact .inl ⟨claims, Function.update_self ..⟩

theorem released_exposes (state after : State) (refresh : Refresh)
    (loud : ¬ FreesAlone state refresh.question.key refreshes) (calls : after.calls = state.calls)
    (cache : after.cache = state.cache) (now : after.now = state.now)
    (inFlight : after.inFlight = Function.update state.inFlight refresh.question.key false) :
    Exposes after := by
  rcases not_freed_alone state refresh.question.key refreshes loud with
    ⟨fresh, other, later, found, claims⟩
  refine ⟨refresh.question.key, fresh_kept state after _ cache now fresh, other, later,
    (congrFun calls other).trans found, ?_⟩
  rw [gap_iff, inFlight, Function.update_self]
  exact .inr ⟨claims, rfl⟩

theorem loud_exposes (action : Action) (state after : State)
    (taken : step config action state = some after) (loud : ¬ Quiet config action state) :
    Exposes after := by
  unfold Quiet at loud
  split at loud
  · push Not at loud
    rename_i id response
    rcases loud with ⟨call, present, heard⟩
    cases step_moved config _ state after taken with
    | leaderReplied found located =>
        cases present.symm.trans found
        exact replied_exposes state _ id call _ response heard present (by rw [located]; rfl) rfl
    | replied found located =>
        cases present.symm.trans found
        exact replied_exposes state _ id call _ response heard present (by rw [located]; rfl) rfl
  · push Not at loud
    rename_i id response
    rcases loud with ⟨refresh, present, heard⟩
    cases step_moved config _ state after taken with
    | refreshReplied found located =>
        cases present.symm.trans found
        refine stored_exposes state _ (.refresh id) refresh.query response heard rfl rfl ?_
        rintro key ⟨other, call, standing, stands⟩
        exact ⟨other, call, standing, stands⟩
  · push Not at loud
    rename_i id
    rcases loud with ⟨call, question, outcome, present, located, heard⟩
    simp only [step, present, Option.bind_some, advance, located, Option.some.injEq] at taken
    subst after
    exact unslotted_exposes state id call question outcome present located heard
  · push Not at loud
    rcases loud with ⟨refresh, present, heard⟩
    cases step_moved config _ state after taken with
    | refreshFinished found located =>
        cases present.symm.trans found
        exact released_exposes state _ refresh heard rfl rfl rfl rfl
  · push Not at loud
    rcases loud with ⟨refresh, present, heard⟩
    cases step_moved config _ state after taken with
    | refreshPanicked found located =>
        cases present.symm.trans found
        exact released_exposes state _ refresh heard rfl rfl rfl rfl
  · exact absurd trivial loud

end Loud

/-! Runs. -/
section Runs

structure Kept (config : Config) (state : State) : Prop where
  slots : Coalesced True state
  sound : Sound config state
  guarded : Guarded state

theorem kept_new (config : Config) : Kept config (State.new config) :=
  ⟨coalesced_new True config, sound_new config, guarded_new config⟩

theorem kept_step (action : Action) (state after : State) (kept : Kept config state)
    (taken : step config action state = some after) : Kept config after :=
  ⟨coalesced_step config action state after kept.slots (Or.inl trivial) taken,
    sound_step config action state after kept.sound kept.slots taken,
    guarded_step action state after kept.guarded taken⟩

theorem kept_run (actions : List Action) (after : State)
    (run : Run (step config) anyAction (State.new config) actions after) : Kept config after :=
  run_invariant (fun action before next kept _ taken => kept_step action before next kept taken)
    run (kept_new config)

theorem up_to_date_run (actions : List Action) (state after : State) (kept : Kept config state)
    (inv : UpToDate state) (run : Run (step config) (Quiet config) state actions after)
    (encodes : Reencodes config after) : Kept config after ∧ UpToDate after := by
  induction run with
  | refl => exact ⟨kept, inv⟩
  | next quiet taken later ih =>
      have earlier := reencodes_before config _ _ _ taken
        (reencodes_start config _ _ _ later encodes)
      exact ih (kept_step _ _ _ kept taken)
        (up_to_date_step _ _ _ kept.sound earlier quiet inv taken) encodes

/-- In every state a run passes through, nothing that can come next is redundant. -/
def SparedThroughout (config : Config) (actions : List Action) (state : State) : Prop :=
  ∀ front middle, front <+: actions → Run (step config) anyAction state front middle →
    Spared config middle

theorem quiet_of_spared (actions : List Action) (after : State)
    (run : Run (step config) anyAction (State.new config) actions after)
    (spared : SparedThroughout config actions (State.new config)) :
    Run (step config) (Quiet config) (State.new config) actions after := by
  apply run_each run
  rintro front action back before next rfl begun taken
  by_contra loud
  have reached := run_append begun (.next trivial taken (.refl next))
  have kept := kept_run _ next reached
  rcases loud_exposes action before next taken loud with ⟨key, fresh, gapped⟩
  apply gap_redundant next kept.guarded kept.sound key fresh gapped
  apply spared (front ++ [action]) next _ reached
  exact ⟨back, by rw [List.append_assoc]; rfl⟩

/-- No state of a run lets a resolution of a question start while its entry is fresh
exactly when every store and every release of the run meets no call between its lookup
and its claim. -/
theorem spared_throughout_iff (config : Config) (actions : List Action) (after : State)
    (run : Run (step config) anyAction (State.new config) actions after)
    (encodes : Reencodes config after) :
    SparedThroughout config actions (State.new config) ↔
      Run (step config) (Quiet config) (State.new config) actions after := by
  constructor
  · exact quiet_of_spared actions after run
  · rintro quiet front middle ⟨back, rfl⟩ begun
    rcases run_split quiet with ⟨same, first, later⟩
    cases run_deterministic begun first
    have empty : UpToDate (State.new config) := by
      rintro key ⟨entry, fetch, impossible, _⟩
      cases impossible
    rcases up_to_date_run front _ middle (kept_new config) empty first
      (reencodes_start config back middle after later encodes) with ⟨kept, upToDate⟩
    exact up_to_date_spared middle kept.slots kept.sound upToDate

def unslots : Phase → Bool
  | .unslotting _ _ => true
  | _ => false

theorem quiet_advance (state : State) (id : CallId)
    (elsewhere : (state.calls id).all (fun call => !unslots call.phase) = true) :
    Quiet config (.advance id) state := by
  intro call question outcome present located
  rw [present, Option.all_some, located] at elsewhere
  cases elsewhere

theorem fresh_of_held (state : State) (key : Query)
    (held : (state.cache.cache key).any (fun slot => decide (state.now ≤ slot.1.validUntil) &&
      !prefetchDue (slot.1.validUntil - state.now) (slot.1.validUntil - slot.1.fetchedAt)) = true) :
    Fresh state key := by
  cases slot : state.cache.cache key with
  | none =>
      rw [slot] at held
      cases held
  | some pair =>
      rw [slot, Option.any_some, Bool.and_eq_true, decide_eq_true_iff,
        Bool.not_eq_true'] at held
      exact ⟨pair.1, pair.2, slot, held⟩

/-- Two calls miss, and the second joins before the first has its reply. -/
def joinedBurst : List Action :=
  [.call 0 sampleQuery, .advance 0, .advance 0, .call 1 sampleQuery, .advance 1, .advance 1,
    .reply 0 (some (sampleReply 300)), .advance 0]

theorem spared_throughout_joined :
    ∃ after, exec (step sampleConfig) joinedBurst (State.new sampleConfig) = some after ∧
      Fresh after sampleQuestion.key ∧
      SparedThroughout sampleConfig joinedBurst (State.new sampleConfig) := by
  have executed : exec (step sampleConfig) joinedBurst (State.new sampleConfig) = some _ := rfl
  refine ⟨_, executed, fresh_of_held _ _ (by decide), ?_⟩
  refine (spared_throughout_iff sampleConfig joinedBurst _ (exec_run executed) ?_).mpr ?_
  · intro reply resp question stamp ttl _ _ _
    rfl
  · refine .next trivial rfl (.next (quiet_advance _ 0 rfl) rfl
      (.next (quiet_advance _ 0 rfl) rfl (.next trivial rfl
      (.next (quiet_advance _ 1 rfl) rfl
      (.next (quiet_advance _ 1 rfl) rfl
      (.next ?_ rfl (.next ?_ rfl (.refl _))))))))
    · rintro call _ resp question _ _ _ ⟨id, standing, found, stands⟩
      match id with
      | 0 => cases found; cases stands
      | 1 => cases found; cases stands
      | other + 2 => cases found
    · rintro call question outcome _ _ _ id standing found claims
      match id with
      | 0 => cases found; cases claims
      | 1 => cases found; cases claims
      | other + 2 => cases found

/-- The second call has missed and not joined when the first has its reply and frees the
slot. -/
def missBurst : List Action :=
  [.call 0 sampleQuery, .advance 0, .call 1 sampleQuery, .advance 1, .advance 0,
    .reply 0 (some (sampleReply 300)), .advance 0]

/-- Two calls find the entry expired, and the first has not claimed when the refresh of
the second is done. -/
def staleBurst : List Action :=
  [.call 0 sampleQuery, .advance 0, .advance 0, .reply 0 (some (sampleReply 300)), .advance 0,
    .advance 0, .tick (secs 301), .call 1 sampleQuery, .advance 1, .call 2 sampleQuery,
    .advance 2, .advance 2, .replyRefresh 2 (some (sampleReply 300)), .finishRefresh 2]

/-- After the burst the next step queries again, though the answer is fresh. -/
def QueriesTwice (config : Config) (burst : List Action) (key : Query) : Prop :=
  ∃ before, Run (step config) anyAction (State.new config) burst before ∧ Fresh before key ∧
    ¬ Spared config before

theorem exposed_twice (burst : List Action) (before : State) (key : Query)
    (executed : exec (step config) burst (State.new config) = some before)
    (fresh : Fresh before key) (gapped : Gap before key) : QueriesTwice config burst key := by
  have run := exec_run executed
  have kept := kept_run burst before run
  exact ⟨before, run, fresh, gap_redundant before kept.guarded kept.sound key fresh gapped⟩

theorem bursts_query_twice :
    QueriesTwice sampleConfig missBurst sampleQuestion.key ∧
      QueriesTwice sampleConfig staleBurst sampleQuestion.key := by
  constructor
  · exact exposed_twice missBurst _ _ rfl (fresh_of_held _ _ (by decide)) ⟨1, _, rfl, rfl⟩
  · exact exposed_twice staleBurst _ _ rfl (fresh_of_held _ _ (by decide)) ⟨1, _, rfl, rfl⟩

end Runs

end Dnsix.Redundancy
