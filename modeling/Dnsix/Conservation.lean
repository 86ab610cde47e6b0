import Dnsix.ChainContract
import Dnsix.RequestRuns

/-!
What the request counters add up to at any moment, however the requests interleave.
Every counter is the number of increments the requests have made, and the increments
of one request are tied to where it stands. The differences between counters are the
requests that stand between two increments.
-/

namespace Dnsix.Conservation
open Counters Dns Handler Processes RequestRuns Synth SynthChain Transition

variable {text : NameText} {World : Type}

/-! Where a request stands, as the laws count it. -/
section Phases

/-- The response, from the increment of its RCODE counter on. -/
def answer (h : Handling text) : Option Message :=
  match h.place with
  | .decided response _ | .finished response => some response
  | _ => none

def isDecided (h : Handling text) : Bool := (answer h).isSome

def waitsForLookups (h : Handling text) : Bool :=
  match h.place with
  | .joining _ => true
  | _ => false

def insideChain (h : Handling text) : Bool :=
  match h.place with
  | .trying _ _ _ _ _ | .won _ _ _ _ _ => true
  | _ => false

def betweenHits (h : Handling text) : Bool :=
  match h.place with
  | .won _ _ _ _ _ => true
  | _ => false

/-- An answer with an AAAA record is native whatever its RCODE is. -/
def isError (response : Message) : Bool :=
  !hasNativeAaaa response && decide (response.responseCode ≠ .NoError) &&
    decide (response.responseCode ≠ .NXDomain)

/-- A request on the DNS64 path was answered SERVFAIL, or relayed with an error RCODE. -/
def endsInError (h : Handling text) : Bool :=
  decide (h.route = some .dns64) && (answer h).any isError

/-- The counters an RCODE can be counted under. -/
inductive Label where
  | noerror | nxdomain | servfail | notimp | formerr | refused | other
  deriving DecidableEq

def label : ResponseCode → Label
  | .NoError => .noerror
  | .NXDomain => .nxdomain
  | .ServFail => .servfail
  | .NotImp => .notimp
  | .FormErr => .formerr
  | .Refused => .refused
  | .other _ => .other

def counted (r : RcodeCounters) : Label → Nat
  | .noerror => r.noerror
  | .nxdomain => r.nxdomain
  | .servfail => r.servfail
  | .notimp => r.notimp
  | .formerr => r.formerr
  | .refused => r.refused
  | .other => r.other

def answeredWith (under : Label) (h : Handling text) : Bool :=
  (answer h).any fun response => label response.responseCode == under

end Phases

/-! The increments of one request. -/
section Increments

def isRcode (under : Label) : Bump → Bool
  | .rcode code => label code == under
  | _ => false

def isHit : Bump → Bool
  | .synthHit _ => true
  | _ => false

/-- What the laws need of the place a request stands at. -/
def Placed (h : Handling text) : Prop :=
  match h.place with
  | .received | .gating _ => h.route = none
  | .joining _ => h.route = some .dns64
  | .observing _ => h.route = some .passthrough
  | .trying _ aaaa _ _ _ => h.route = some .dns64 ∧ aaaa.responseCode = .NoError
  | .won _ _ _ _ _ => h.route = some .dns64
  | .closing _ response obs =>
      obs.rcode = response.responseCode ∧ (h.route = some .dns64 → isError response = false)
  | .decided _ _ | .finished _ => True

structure Balanced (h : Handling text) : Prop where
  rcodes : ∀ under, h.made.countP (isRcode under) = (answeredWith under h).toNat
  nodata : h.made.count .nodata =
    h.made.count .synthesized + h.made.count .empty + (insideChain h).toNat
  dns64 : h.made.count .queriesDns64 =
    h.made.count .nativeAaaa + h.made.count .nxdomain64 + h.made.count .nodata +
      (endsInError h).toNat + (waitsForLookups h).toNat
  hits : h.made.countP isHit = h.made.count .synthesized + (betweenHits h).toNat

@[simp] theorem error_code (request : Request) (code : ResponseCode) :
    (serveError request code).responseCode = code := rfl

@[simp] theorem fail_code (request : Request) :
    (serveFail request).responseCode = .ServFail := rfl

@[simp] theorem relay_code (request : Request) (resp : Message) :
    (relay request resp).responseCode = resp.responseCode := rfl

theorem relay_error (request : Request) (resp : Message) :
    isError (relay request resp) = isError resp := rfl

theorem fail_error (request : Request) : isError (serveFail request) = true := rfl

theorem native_settled (resp : Message) (has : hasNativeAaaa resp = true) :
    isError resp = false := by
  simp [isError, has]

theorem code_settled (resp : Message)
    (code : resp.responseCode = .NoError ∨ resp.responseCode = .NXDomain) :
    isError resp = false := by
  rcases code with code | code <;> simp [isError, code]

theorem placed_moved (handler : Dns64Handler text) (h : Handling text) (event : Event World)
    (progress : Progress text) (known : Placed h)
    (moved : Moved handler h event progress) : Placed progress.handling := by
  cases moved with
  | malformed | refused | failed | errored | relayed | unanswered | counted | finished =>
      trivial
  | received query placed fit asked =>
      simp only [Placed, placed] at known
      exact known
  | blocked query placed sent => exact ⟨rfl, fun routed => nomatch routed⟩
  | routed query placed sent => rfl
  | passedOn query placed sent => rfl
  | native query aaaa cache aRes placed has =>
      exact ⟨rfl, fun _ => native_settled aaaa has⟩
  | missing query aaaa cache aRes placed hasNo code =>
      exact ⟨code.symm, fun _ => code_settled aaaa (.inr code)⟩
  | nodata query aaaa cache aRes placed hasNo code =>
      simp only [Placed, placed] at known
      exact ⟨known, code⟩
  | missed query aaaa cache ctx synth rest resolve world placed =>
      simp only [Placed, placed] at known
      exact known
  | hit query aaaa cache ctx synth rest resolve world records placed some_ =>
      simp only [Placed, placed] at known
      exact known.1
  | empty query aaaa cache ctx placed =>
      simp only [Placed, placed] at known
      exact ⟨rfl, fun _ => code_settled aaaa (.inl known.2)⟩
  | appended query cache ctx id records extra resolve world placed =>
      exact ⟨rfl, fun _ => code_settled _ (.inl rfl)⟩

/-- An increment, and the step it is made in, change both sides of each law alike. -/
structure Paid (h after : Handling text) (bump : Bump) : Prop where
  rcodes : ∀ under, (answeredWith under h).toNat + (isRcode under bump).toNat =
    (answeredWith under after).toNat
  nodata : (insideChain h).toNat + [bump].count .nodata =
    [bump].count .synthesized + [bump].count .empty + (insideChain after).toNat
  dns64 : (endsInError h).toNat + (waitsForLookups h).toNat + [bump].count .queriesDns64 =
    [bump].count .nativeAaaa + [bump].count .nxdomain64 + [bump].count .nodata +
      (endsInError after).toNat + (waitsForLookups after).toNat
  hits : (betweenHits h).toNat + (isHit bump).toNat =
    [bump].count .synthesized + (betweenHits after).toNat

theorem balanced_counting (h shaped : Handling text) (bump : Bump) (place : Place text)
    (balanced : Balanced h) (same : shaped.made = h.made)
    (paid : Paid h (shaped.counting bump place).handling bump) :
    Balanced (shaped.counting bump place).handling := by
  obtain ⟨rcodes, nodata, dns64, hits⟩ := balanced
  have made : (shaped.counting bump place).handling.made = h.made ++ [bump] :=
    congrArg (· ++ [bump]) same
  constructor
  · intro under
    rw [made, List.countP_append, rcodes, ← paid.rcodes, List.countP_singleton]
    cases isRcode under bump <;> rfl
  · simp only [made, List.count_append]
    have change := paid.nodata
    omega
  · simp only [made, List.count_append]
    have change := paid.dns64
    omega
  · rw [made, List.countP_append, List.countP_singleton, List.count_append]
    have change := paid.hits
    cases hit : isHit bump <;> simp [hit] at change ⊢ <;> omega

/-- A step without an increment leaves the laws alone when it keeps the phase. -/
theorem balanced_moving (h after : Handling text) (balanced : Balanced h)
    (made : after.made = h.made) (answered : answer after = answer h)
    (inside : insideChain after = insideChain h) (between : betweenHits after = betweenHits h)
    (routed : after.route = h.route) (waits : waitsForLookups after = waitsForLookups h) :
    Balanced after := by
  obtain ⟨rcodes, nodata, dns64, hits⟩ := balanced
  have error : endsInError after = endsInError h := by
    simp only [endsInError, routed, answered]
  constructor
  · intro under
    rw [made, rcodes, answeredWith, answeredWith, answered]
  · rw [made, inside, nodata]
  · rw [made, error, waits, dns64]
  · rw [made, between, hits]

theorem balanced_moved (handler : Dns64Handler text) (h : Handling text) (event : Event World)
    (progress : Progress text) (known : Placed h) (balanced : Balanced h)
    (moved : Moved handler h event progress) : Balanced progress.handling := by
  cases moved with
  | malformed _ placed | received _ placed | refused _ placed | blocked _ placed
  | routed _ placed | passedOn _ placed | failed _ _ _ placed | native _ _ _ _ placed
  | missing _ _ _ _ placed | nodata _ _ _ _ placed | relayed _ _ _ placed
  | unanswered _ _ placed | hit _ _ _ _ _ _ _ _ _ placed | empty _ _ _ _ placed
  | appended _ _ _ _ _ _ _ _ placed =>
      simp only [Placed, placed] at known
      refine balanced_counting h _ _ _ balanced rfl ⟨fun under => ?_, ?_, ?_, ?_⟩ <;>
        simp [Handling.counting, answeredWith, answer, insideChain, endsInError,
          waitsForLookups, betweenHits, isRcode, isHit, placed, known, fail_error]
  | errored query aaaa cache aRes placed hasNo exists_ wrong =>
      simp only [Placed, placed] at known
      have error : isError (relay h.request aaaa) = true := by
        rw [relay_error]
        simp [isError, hasNo, exists_, wrong]
      refine balanced_counting h _ _ _ balanced rfl ⟨fun under => ?_, ?_, ?_, ?_⟩ <;>
        simp [Handling.counting, answeredWith, answer, insideChain, endsInError,
          waitsForLookups, betweenHits, isRcode, isHit, placed, known, error]
  | counted query response obs placed =>
      simp only [Placed, placed] at known
      obtain ⟨same, settled⟩ := known
      refine balanced_counting h _ _ _ balanced rfl ⟨fun under => ?_, ?_, ?_, ?_⟩ <;>
        simp [Handling.counting, answeredWith, answer, insideChain, endsInError,
          waitsForLookups, betweenHits, isRcode, isHit, placed, same]
      cases routed : decide (h.route = some .dns64) with
      | false => rfl
      | true => simp [settled (of_decide_eq_true routed)]
  | missed _ _ _ _ _ _ _ _ placed | finished _ _ placed =>
      refine balanced_moving h _ balanced ?_ ?_ ?_ ?_ ?_ ?_ <;>
        simp [Handling.moving, Handling.finish, answer, insideChain, waitsForLookups,
          betweenHits, placed]

theorem moved_made (handler : Dns64Handler text) (h : Handling text) (event : Event World)
    (progress : Progress text) (listed : Listed handler h)
    (moved : Moved handler h event progress) :
    progress.handling.made = h.made ++ progress.bump.toList ∧
      ∀ id, progress.bump = some (.synthHit id) →
        ∃ synth ∈ handler.chain.synths, synth.id = id := by
  cases moved with
  | hit query aaaa cache ctx synth rest resolve world records placed some_ =>
      simp only [Listed, placed] at listed
      refine ⟨rfl, ?_⟩
      rintro id ⟨⟩
      exact ⟨synth, listed synth List.mem_cons_self, rfl⟩
  | _ => simp [Handling.counting, Handling.moving, Handling.finish]

end Increments

/-! The counters of a run. -/
section Totals

/-- A counter is read off the metrics, and moved by one kind of increment. -/
def Counts (ids : List String) (read : Metrics → Nat) (kind : Bump → Bool) : Prop :=
  ∀ bump m, m.synthIds = ids → (∀ id, bump = .synthHit id → id ∈ ids) →
    read (bump.apply m) = read m + (kind bump).toNat

theorem apply_ids (bump : Bump) (m : Metrics) : (bump.apply m).synthIds = m.synthIds := by
  cases bump with
  | synthHit id => exact synth_hit_ids m id
  | _ => rfl

theorem balanced_run (handler : Dns64Handler text) (metrics : Metrics)
    (actions : List (Action World)) (after : State text)
    (run : Run (step handler) anyAction (State.new text metrics) actions after)
    (id : Nat) (h : Handling text) (present : after.handlings[id]? = some h) : Balanced h := by
  have both : Placed h ∧ Balanced h := by
    refine request_run (motive := fun _ h _ => Placed h ∧ Balanced h) ?_ ?_ metrics actions after
      run id h present
    · intro request
      exact ⟨rfl, ⟨fun _ => rfl, rfl, rfl, rfl⟩⟩
    · rintro front h entries event progress ⟨known, balanced⟩ moved
      exact ⟨placed_moved handler h event progress known moved,
        balanced_moved handler h event progress known balanced moved⟩
  exact both.2

theorem ids_run (handler : Dns64Handler text) (metrics : Metrics)
    (actions : List (Action World)) (after : State text)
    (run : Run (step handler) anyAction (State.new text metrics) actions after) :
    after.metrics.synthIds = metrics.synthIds := by
  refine run_invariant (motive := fun (state : State text) =>
    state.metrics.synthIds = metrics.synthIds) ?_ run rfl
  intro action before after same _ taken
  rcases step_cases action before after taken with
    ⟨request, rfl, rfl⟩ | ⟨id, event, h, progress, rfl, _, _, rfl⟩
  · exact same
  · cases bumped : progress.bump with
    | none => simpa [State.progressed, bumped] using same
    | some bump => simpa [State.progressed, bumped, apply_ids] using same

/-- A counter is the number of the increments of its kind that the requests have made. -/
theorem total_run (handler : Dns64Handler text) (ids : List String) (read : Metrics → Nat)
    (kind : Bump → Bool) (counts : Counts ids read kind)
    (enabled : ∀ synth ∈ handler.chain.synths, synth.id ∈ ids) (metrics : Metrics)
    (known : metrics.synthIds = ids) (actions : List (Action World)) (after : State text)
    (run : Run (step handler) anyAction (State.new text metrics) actions after) :
    read after.metrics =
      read metrics + (after.handlings.map fun h => h.made.countP kind).sum := by
  refine weight_run (requests text World) (fun h => h.made.countP kind)
    (fun state => read state.metrics) rfl ?_ ?_ run
  · intro action before after arrives taken
    rcases step_cases action before after taken with
      ⟨request, rfl, rfl⟩ | ⟨id, event, h, progress, rfl, _⟩
    · exact ⟨rfl, _, rfl, rfl⟩
    · cases arrives
  · intro front action before after id event begun owned taken
    rcases step_cases action before after taken with
      ⟨request, rfl, _⟩ | ⟨mover, moving, h, progress, rfl, present, moved, rfl⟩
    · cases owned
    · cases owned
      refine ⟨h, progress.handling, present, rfl, ?_⟩
      have listed := listed_run metrics front before begun _ h present
      obtain ⟨made, hits⟩ := moved_made handler h event progress listed moved
      have same := (ids_run handler metrics front before begun).trans known
      cases bumped : progress.bump with
      | none =>
          rw [made, bumped, Option.toList_none, List.append_nil]
          simp [State.progressed, bumped]
      | some bump =>
          have moves := counts bump before.metrics same (by
            rintro other rfl
            obtain ⟨synth, listed, rfl⟩ := hits other bumped
            exact enabled synth listed)
          rw [made, bumped, Option.toList_some, List.countP_append, List.countP_singleton]
          simp only [State.progressed, bumped, Option.elim, moves]
          cases kind bump <;> simp
          omega

end Totals

/-! The laws. -/
section Laws

structure Conserved (metrics : Metrics) (handlings : List (Handling text)) : Prop where
  decided : metrics.rcode.total = handlings.countP isDecided
  rcodes : ∀ under, counted metrics.rcode under = handlings.countP (answeredWith under)
  nodata : metrics.nodata = metrics.synthesized + metrics.empty + handlings.countP insideChain
  dns64 : metrics.queriesDns64 =
    metrics.nativeAaaa + metrics.nxdomain64 + metrics.nodata + handlings.countP endsInError +
      handlings.countP waitsForLookups
  hits : metrics.synthHits.sum = metrics.synthesized + handlings.countP betweenHits

theorem counts_rcode (ids : List String) (under : Label) :
    Counts ids (fun m => counted m.rcode under) (isRcode under) := by
  intro bump m _ _
  cases bump with
  | rcode code => cases code <;> cases under <;> rfl
  | synthHit id =>
      simp only [Bump.apply, Metrics.synthHit, isRcode]
      split <;> rfl
  | _ => rfl

theorem counts_hit (ids : List String) : Counts ids (fun m => m.synthHits.sum) isHit := by
  intro bump m same enabled
  cases bump with
  | synthHit id => exact synth_hit_sum m id (same ▸ enabled id rfl)
  | _ => rfl

/-- Each of these counters is moved by the increment named after it, and by no other. -/
structure Moves (m : Metrics) (bump : Bump) : Prop where
  queriesDns64 : (bump.apply m).queriesDns64 = m.queriesDns64 + (bump == .queriesDns64).toNat
  nativeAaaa : (bump.apply m).nativeAaaa = m.nativeAaaa + (bump == .nativeAaaa).toNat
  nxdomain64 : (bump.apply m).nxdomain64 = m.nxdomain64 + (bump == .nxdomain64).toNat
  nodata : (bump.apply m).nodata = m.nodata + (bump == .nodata).toNat
  synthesized : (bump.apply m).synthesized = m.synthesized + (bump == .synthesized).toNat
  empty : (bump.apply m).empty = m.empty + (bump == .empty).toNat

theorem bump_moves (bump : Bump) (m : Metrics) : Moves m bump := by
  cases bump with
  | synthHit id =>
      constructor <;> simp only [Bump.apply, Metrics.synthHit] <;> split <;> rfl
  | _ => exact ⟨rfl, rfl, rfl, rfl, rfl, rfl⟩

/-- A decided request was answered under exactly one label. -/
theorem decided_labels (handlings : List (Handling text)) :
    handlings.countP isDecided =
      handlings.countP (answeredWith .noerror) + handlings.countP (answeredWith .nxdomain) +
      handlings.countP (answeredWith .servfail) + handlings.countP (answeredWith .notimp) +
      handlings.countP (answeredWith .formerr) + handlings.countP (answeredWith .refused) +
      handlings.countP (answeredWith .other) := by
  induction handlings with
  | nil => rfl
  | cons h rest ih =>
      simp only [List.countP_cons, ih]
      cases answered : answer h with
      | none => simp [isDecided, answeredWith, answered]
      | some response =>
          cases code : response.responseCode <;>
            simp [isDecided, answeredWith, answered, code, label] <;> omega

/-- A law that every request obeys is obeyed by the sums. -/
theorem law_sum (handlings : List (Handling text)) (left right : Handling text → Nat)
    (balanced : ∀ h ∈ handlings, Balanced h) (law : ∀ h, Balanced h → left h = right h) :
    (handlings.map left).sum = (handlings.map right).sum :=
  congrArg List.sum (List.map_congr_left fun h listed => law h (balanced h listed))

/-- The counters of a run whose hits are all of enabled ids. -/
theorem laws_run (handler : Dns64Handler text) (ids : List String)
    (enabled : ∀ synth ∈ handler.chain.synths, synth.id ∈ ids)
    (known : (Metrics.new ids).synthIds = ids) (actions : List (Action World))
    (after : State text)
    (run : Run (step handler) anyAction (State.new text (Metrics.new ids)) actions after) :
    (∀ under, counted after.metrics.rcode under =
        (after.handlings.map fun h => h.made.countP (isRcode under)).sum) ∧
      after.metrics.synthHits.sum = (after.handlings.map fun h => h.made.countP isHit).sum ∧
      ∀ (read : Metrics → Nat) (own : Bump),
        (∀ bump m, read (bump.apply m) = read m + (bump == own).toNat) →
        read (Metrics.new ids) = 0 →
        read after.metrics = (after.handlings.map fun h => h.made.count own).sum := by
  have total : ∀ read kind, Counts ids read kind → read (Metrics.new ids) = 0 →
      read after.metrics = (after.handlings.map fun h => h.made.countP kind).sum := by
    intro read kind counts zero
    rw [total_run handler ids read kind counts enabled _ known actions after run, zero,
      Nat.zero_add]
  refine ⟨fun under => ?_, ?_, fun read own moves => ?_⟩
  · exact total _ _ (counts_rcode ids under) (by cases under <;> rfl)
  · exact total _ _ (counts_hit ids) (by simp [Metrics.new])
  · exact total read (· == own) fun bump m _ _ => moves bump m

/-- The laws hold at every moment of every run of any number of requests. -/
theorem metrics_conserved (ids : List String) (nat64Prefix : Ipv6Addr) (ttlCap : Option Nat)
    (nat64Fallback : Bool) (handler : Dns64Handler text)
    (built : Chain.build text ids nat64Prefix ttlCap nat64Fallback = .ok handler.chain)
    (actions : List (Action World)) (after : State text)
    (run : Run (step handler) anyAction (State.new text (Metrics.new ids)) actions after) :
    Conserved after.metrics after.handlings := by
  have made := ChainContract.build_built ids nat64Prefix ttlCap nat64Fallback handler.chain built
  have known := ChainContract.built_counted ids nat64Prefix ttlCap nat64Fallback _ made
  have enabled : ∀ synth ∈ handler.chain.synths, synth.id ∈ ids := by
    intro synth listed
    rw [← made.named]
    exact List.mem_map_of_mem listed
  have balanced : ∀ h ∈ after.handlings, Balanced h := by
    intro h listed
    obtain ⟨id, inside, present⟩ := List.mem_iff_getElem.mp listed
    exact balanced_run handler (Metrics.new ids) actions after run id h
      (List.getElem?_eq_some_iff.mpr ⟨inside, present⟩)
  obtain ⟨labels, hits, field⟩ := laws_run handler ids enabled known actions after run
  have rcodes : ∀ under, counted after.metrics.rcode under =
      after.handlings.countP (answeredWith under) := by
    intro under
    rw [labels, law_sum _ _ _ balanced fun h law => law.rcodes under, count_sum]
  have nodata := field Metrics.nodata .nodata (fun bump m => (bump_moves bump m).nodata) rfl
  have synthesized := field Metrics.synthesized .synthesized
    (fun bump m => (bump_moves bump m).synthesized) rfl
  constructor
  · rw [decided_labels]
    simp only [← rcodes]
    rfl
  · exact rcodes
  · have empty := field Metrics.empty .empty (fun bump m => (bump_moves bump m).empty) rfl
    rw [nodata, law_sum _ _ _ balanced fun h law => law.nodata]
    simp only [List.sum_map_add, count_sum, synthesized, empty]
  · have queries := field Metrics.queriesDns64 .queriesDns64
      (fun bump m => (bump_moves bump m).queriesDns64) rfl
    have native := field Metrics.nativeAaaa .nativeAaaa
      (fun bump m => (bump_moves bump m).nativeAaaa) rfl
    have missing := field Metrics.nxdomain64 .nxdomain64
      (fun bump m => (bump_moves bump m).nxdomain64) rfl
    rw [queries, law_sum _ _ _ balanced fun h law => law.dns64]
    simp only [List.sum_map_add, count_sum, native, missing, nodata]
  · rw [hits, law_sum _ _ _ balanced fun h law => law.hits]
    simp only [List.sum_map_add, count_sum, synthesized]

/-! Two AAAA queries: the first was hit by the translator, the second is not answered yet. -/
def sampleHandler : Dns64Handler plainText :=
  { chain := ⟨[(Nat64.mk (Address.v6 0x64 0xff9b 0 0 0 0 0 0)).synthesizer], none, none⟩
    queryLog := false, blocklist := none, clientAcl := none }

def sampleRequest : Request := ⟨Pool.sampleQuery, .V6 1⟩

def sampleActions : List (Action Unit) :=
  [.arrive sampleRequest, .arrive sampleRequest, .advance 0 .proceed, .advance 1 .proceed,
    .advance 1 .proceed, .advance 0 .proceed,
    .advance 0 (.joined (some sampleNodata) .Miss
      (some (sampleAddress 300 (Address.v4 23 227 38 10)))),
    .advance 0 (.tried referencePool ())]

theorem metrics_conserved_two :
    ∃ after : State plainText, Conserved after.metrics after.handlings ∧
      after.handlings.map betweenHits = [true, false] ∧
      after.handlings.map waitsForLookups = [false, true] := by
  have run : ∃ after, exec (step sampleHandler) sampleActions
      (State.new plainText (Metrics.new ["nat64"])) = some after ∧
      after.handlings.map betweenHits = [true, false] ∧
      after.handlings.map waitsForLookups = [false, true] := ⟨_, rfl, rfl, rfl⟩
  obtain ⟨after, executed, between, waits⟩ := run
  exact ⟨after, metrics_conserved ["nat64"] _ none false sampleHandler rfl sampleActions after
    (exec_run executed), between, waits⟩

end Laws

end Dnsix.Conservation
