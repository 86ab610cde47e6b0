import Dnsix.ChainContract
import Dnsix.RequestRuns

/-!
The counters against the Query log. What a request counts on its way and the entry it
leaves are two records of one thing, and at every moment they differ by the requests that
still owe their entry.
-/

namespace Dnsix.Ledger
open Address Counters Dns Handler Panics Processes RequestRuns Synth SynthChain Transition

variable {text : NameText} {World : Type}

/-! What a request owes. -/
section Debts

/-- The question of a request that was let in and is not finished. -/
def carried (h : Handling text) : Option Query :=
  match h.place with
  | .gating query | .joining query | .observing query | .trying query _ _ _ _
  | .won query _ _ _ _ | .closing query _ _ => some query
  | .decided _ due => due.map Prod.fst
  | .received | .finished _ => none

/-- The observation an entry will be made of. -/
def observed (h : Handling text) : Option Observation :=
  match h.place with
  | .closing _ _ obs => some obs
  | .decided _ due => due.map Prod.snd
  | _ => none

/-- The outcomes that have a counter of their own. -/
inductive Disposition where
  | native | nxdomain | synthesized | empty | blocked
  deriving DecidableEq

def disposition : Outcome → Option Disposition
  | .NativeAaaa => some .native
  | .Nxdomain => some .nxdomain
  | .Synthesized _ => some .synthesized
  | .EmptyNodata => some .empty
  | .Blocked => some .blocked
  | .Passthrough | .Refused | .ServFail => none

def Disposition.bump : Disposition → Bump
  | .native => .nativeAaaa
  | .nxdomain => .nxdomain64
  | .synthesized => .synthesized
  | .empty => .empty
  | .blocked => .blocked

def Disposition.counter : Disposition → Metrics → Nat
  | .native, m => m.nativeAaaa
  | .nxdomain, m => m.nxdomain64
  | .synthesized, m => m.synthesized
  | .empty, m => m.empty
  | .blocked, m => m.blocked

/-- The bucket a question is counted in. -/
def inBucket (bucket : Nat) (rt : RecordType) : Bool := qtypeIndex rt == bucket

def isDisposed (kind : Disposition) (outcome : Outcome) : Bool :=
  decide (disposition outcome = some kind)

def isHitOf (id : String) (outcome : Outcome) : Bool := decide (outcome = .Synthesized id)

def owesType (bucket : Nat) (h : Handling text) : Bool :=
  (carried h).any fun query => inBucket bucket query.queryType

def owesOutcome (kind : Disposition) (h : Handling text) : Bool :=
  (observed h).any fun obs => isDisposed kind obs.outcome

/-- A hit is counted before the answer it leads to. -/
def owesHit (id : String) (h : Handling text) : Bool :=
  match h.place with
  | .won _ _ _ winner _ => decide (winner = id)
  | _ => (observed h).any fun obs => isHitOf id obs.outcome

end Debts

/-! Double entries. -/
section Books

variable {handler : Dns64Handler text}

variable (World handler) in
/-- What is counted, what is entered in the log, and who still owes the entry: each step
keeps the three in balance. -/
structure Book where
  counted : Bump → Bool
  entered : LogRecord → Bool
  owes : Handling text → Bool
  fresh : ∀ request, owes (Handling.new text request) = false
  balanced : ∀ (h : Handling text) (event : Event World) (progress : Progress text),
    Moved handler h event progress →
      progress.bump.toList.countP counted + (owes h).toNat =
        (owes progress.handling).toNat + progress.logged.toList.countP entered

theorem count_set (holds : Handling text → Bool) (handlings : List (Handling text)) (id : Nat)
    (h later : Handling text) (present : handlings[id]? = some h) :
    (handlings.set id later).countP holds + (holds h).toNat =
      handlings.countP holds + (holds later).toNat := by
  have moved := sum_set (fun h => (holds h).toNat) handlings id h later present
  rwa [count_sum, count_sum] at moved

/-- What the counters keep through a run: the tracked ids, and one count a bucket. -/
structure Sized (ids : List String) (m : Metrics) : Prop where
  ids : m.synthIds = ids
  buckets : m.qtypeCounts.length = 17

theorem sized_apply (ids : List String) (m : Metrics) (sized : Sized ids m) (bump : Bump) :
    Sized ids (bump.apply m) := by
  cases bump with
  | synthHit id =>
      refine ⟨(synth_hit_ids m id).trans sized.ids, ?_⟩
      simp only [Bump.apply, Metrics.synthHit]
      split <;> exact sized.buckets
  | qtype rt => exact ⟨sized.ids, (List.length_modify _ _ _).trans sized.buckets⟩
  | _ => exact ⟨sized.ids, sized.buckets⟩

/-- A counter that moves with what a book counts. -/
def Reads (ids : List String) (read : Metrics → Nat) (counted : Bump → Bool) : Prop :=
  ∀ bump m, Sized ids m → (∀ id, bump = .synthHit id → id ∈ ids) →
    read (bump.apply m) = read m + (counted bump).toNat

theorem sized_run (ids : List String) (metrics : Metrics) (sized : Sized ids metrics)
    (actions : List (Action World)) (after : State text)
    (run : Run (step handler) anyAction (State.new text metrics) actions after) :
    Sized ids after.metrics := by
  refine run_invariant (motive := fun (state : State text) => Sized ids state.metrics) ?_ run sized
  intro action before after sized _ taken
  rcases step_cases action before after taken with
    ⟨request, rfl, rfl⟩ | ⟨id, event, h, progress, rfl, _, _, rfl⟩
  · exact sized
  · cases bumped : progress.bump with
    | none => simpa [State.progressed, bumped] using sized
    | some bump => simpa [State.progressed, bumped] using sized_apply ids _ sized bump

theorem bump_enabled (ids : List String)
    (enabled : ∀ synth ∈ handler.chain.synths, synth.id ∈ ids) (h : Handling text)
    (event : Event World) (progress : Progress text) (listed : Listed handler h)
    (moved : Moved handler h event progress) (id : String)
    (hit : progress.bump = some (.synthHit id)) : id ∈ ids := by
  cases moved with
  | hit query aaaa cache ctx synth rest resolve world records placed some_ =>
      cases hit
      rw [Listed, placed] at listed
      exact enabled synth (listed synth List.mem_cons_self)
  | _ => cases hit

/-- The counter is what the log says and what is owed to it. -/
theorem book_run (book : Book World handler) (ids : List String)
    (enabled : ∀ synth ∈ handler.chain.synths, synth.id ∈ ids) (metrics : Metrics)
    (sized : Sized ids metrics) (read : Metrics → Nat) (reads : Reads ids read book.counted)
    (zero : read metrics = 0) (actions : List (Action World)) (after : State text)
    (run : Run (step handler) anyAction (State.new text metrics) actions after) :
    read after.metrics = after.log.countP (fun entry => book.entered entry.2) +
      after.handlings.countP book.owes := by
  refine run_history (motive := fun _ (state : State text) => read state.metrics =
    state.log.countP (fun entry => book.entered entry.2) + state.handlings.countP book.owes)
    ?_ ?_ run
  · exact zero
  · intro front action before after begun balance _ taken
    rcases step_cases action before after taken with
      ⟨request, rfl, rfl⟩ | ⟨id, event, h, progress, rfl, present, moved, rfl⟩
    · rw [List.countP_append, List.countP_singleton, book.fresh]
      exact balance
    · have step := book.balanced h event progress moved
      have moves := count_set book.owes before.handlings id h progress.handling present
      have kept := sized_run ids metrics sized front before begun
      have listed := listed_run metrics front before begun id h present
      have entries : (progress.logged.toList.map fun entry => (id, entry)).countP
          (fun entry => book.entered entry.2) = progress.logged.toList.countP book.entered := by
        rw [List.countP_map]
        rfl
      simp only [State.progressed, List.countP_append, entries]
      cases bumped : progress.bump with
      | none =>
          rw [bumped, Option.toList_none, List.countP_nil] at step
          simp only [Option.elim]
          omega
      | some bump =>
          have counts := reads bump before.metrics kept fun other same =>
            bump_enabled ids enabled h event progress listed moved other (same ▸ bumped)
          rw [bumped, Option.toList_some, List.countP_singleton] at step
          simp only [Option.elim, counts]
          cases counted : book.counted bump <;> rw [counted] at step <;>
            simp only [Bool.false_eq_true, if_false, if_true, Bool.toNat_false,
              Bool.toNat_true] at step ⊢ <;> omega

end Books

/-! The three kinds of books. -/
section Kinds

variable {handler : Dns64Handler text}

/-- The entry of a request that owes one. -/
theorem finish_logged (dashboard : handler.queryLog = true) (h : Handling text) (response : Message)
    (due : Option (Query × Observation)) :
    (h.finish handler response due).logged = due.map fun entry =>
      { client := h.request.src, name := entry.1.name, qtype := entry.1.queryType
        rcode := entry.2.rcode, cache := entry.2.cache, outcome := entry.2.outcome } := by
  cases due with
  | none => rfl
  | some entry => simp [Handling.finish, Dns64Handler.log, dashboard]

def countsType (bucket : Nat) : Bump → Bool
  | .qtype rt => inBucket bucket rt
  | _ => false

theorem type_balanced (dashboard : handler.queryLog = true) (bucket : Nat) (h : Handling text)
    (event : Event World) (progress : Progress text) (moved : Moved handler h event progress) :
    progress.bump.toList.countP (countsType bucket) + (owesType bucket h).toNat =
      (owesType bucket progress.handling).toNat +
        progress.logged.toList.countP fun entry => inBucket bucket entry.qtype := by
  cases moved with
  | finished response due placed =>
      rw [finish_logged dashboard]
      cases due with
      | none => simp [Handling.finish, Handling.moving, owesType, carried, placed]
      | some entry =>
          simp only [Handling.finish, Handling.moving, owesType, carried, placed]
          cases here : inBucket bucket entry.1.queryType <;> simp [here]
  | received query placed fit asked =>
      cases here : inBucket bucket query.queryType <;>
        simp [Handling.counting, owesType, carried, placed, countsType, here]
  | missed _ _ _ _ _ _ _ _ placed => simp [Handling.moving, owesType, carried, placed]
  | malformed _ placed | refused _ placed | blocked _ placed | routed _ placed
  | passedOn _ placed | failed _ _ _ placed | native _ _ _ _ placed | missing _ _ _ _ placed
  | errored _ _ _ _ placed | nodata _ _ _ _ placed | relayed _ _ _ placed
  | unanswered _ _ placed | hit _ _ _ _ _ _ _ _ _ placed | empty _ _ _ _ placed
  | appended _ _ _ _ _ _ _ _ placed | counted _ _ _ placed =>
      simp [Handling.counting, owesType, carried, placed, countsType]

theorem outcome_balanced (dashboard : handler.queryLog = true) (kind : Disposition)
    (h : Handling text) (event : Event World) (progress : Progress text)
    (moved : Moved handler h event progress) :
    progress.bump.toList.countP (· == kind.bump) + (owesOutcome kind h).toNat =
      (owesOutcome kind progress.handling).toNat +
        progress.logged.toList.countP fun entry => isDisposed kind entry.outcome := by
  cases moved with
  | finished response due placed =>
      rw [finish_logged dashboard]
      cases due with
      | none => simp [Handling.finish, Handling.moving, owesOutcome, observed, placed]
      | some entry =>
          simp only [Handling.finish, Handling.moving, owesOutcome, observed, placed]
          cases here : isDisposed kind entry.2.outcome <;> simp [here]
  | missed _ _ _ _ _ _ _ _ placed => simp [Handling.moving, owesOutcome, observed, placed]
  | malformed _ placed | received _ placed | refused _ placed | blocked _ placed | routed _ placed
  | passedOn _ placed | failed _ _ _ placed | native _ _ _ _ placed | missing _ _ _ _ placed
  | errored _ _ _ _ placed | nodata _ _ _ _ placed | relayed _ _ _ placed
  | unanswered _ _ placed | hit _ _ _ _ _ _ _ _ _ placed | empty _ _ _ _ placed
  | appended _ _ _ _ _ _ _ _ placed | counted _ _ _ placed =>
      cases kind <;>
        simp [Handling.counting, owesOutcome, observed, placed, isDisposed, disposition,
          Disposition.bump]

theorem hit_balanced (dashboard : handler.queryLog = true) (id : String)
    (h : Handling text) (event : Event World) (progress : Progress text)
    (moved : Moved handler h event progress) :
    progress.bump.toList.countP (· == .synthHit id) + (owesHit id h).toNat =
      (owesHit id progress.handling).toNat +
        progress.logged.toList.countP fun entry => isHitOf id entry.outcome := by
  cases moved with
  | finished response due placed =>
      rw [finish_logged dashboard]
      cases due with
      | none => simp [Handling.finish, Handling.moving, owesHit, observed, placed]
      | some entry =>
          simp only [Handling.finish, Handling.moving, owesHit, observed, placed]
          cases here : isHitOf id entry.2.outcome <;> simp [here]
  | missed _ _ _ _ _ _ _ _ placed => simp [Handling.moving, owesHit, observed, placed]
  | hit query aaaa cache ctx synth rest resolve world records placed some_ =>
      by_cases same : synth.id = id <;>
        simp [Handling.counting, owesHit, observed, placed, same]
  | appended query cache ctx winner records extra resolve world placed =>
      simp [Handling.counting, owesHit, observed, placed, isHitOf]
  | malformed _ placed | received _ placed | refused _ placed | blocked _ placed | routed _ placed
  | passedOn _ placed | failed _ _ _ placed | native _ _ _ _ placed | missing _ _ _ _ placed
  | errored _ _ _ _ placed | nodata _ _ _ _ placed | relayed _ _ _ placed
  | unanswered _ _ placed | empty _ _ _ _ placed | counted _ _ _ placed =>
      simp [Handling.counting, owesHit, observed, placed, isHitOf]

def typeBook (World : Type) (dashboard : handler.queryLog = true) (bucket : Nat) :
    Book World handler where
  counted := countsType bucket
  entered entry := inBucket bucket entry.qtype
  owes := owesType bucket
  fresh _ := rfl
  balanced := type_balanced dashboard bucket

def outcomeBook (World : Type) (dashboard : handler.queryLog = true) (kind : Disposition) :
    Book World handler where
  counted := (· == kind.bump)
  entered entry := isDisposed kind entry.outcome
  owes := owesOutcome kind
  fresh _ := rfl
  balanced := outcome_balanced dashboard kind

def hitBook (World : Type) (dashboard : handler.queryLog = true) (id : String) :
    Book World handler where
  counted := (· == .synthHit id)
  entered entry := isHitOf id entry.outcome
  owes := owesHit id
  fresh _ := rfl
  balanced := hit_balanced dashboard id

def bucketCount (bucket : Nat) (m : Metrics) : Nat := (m.qtypeCounts[bucket]?).getD 0

theorem type_reads (ids : List String) (bucket : Nat) :
    Reads ids (bucketCount bucket) (countsType bucket) := by
  intro bump m sized _
  cases bump with
  | qtype rt =>
      have inside : qtypeIndex rt < m.qtypeCounts.length := by
        rw [sized.buckets]
        cases rt <;> simp [qtypeIndex]
      simp only [Bump.apply, Metrics.recordQtype, bucketCount, countsType, inBucket,
        List.getElem?_modify]
      by_cases same : qtypeIndex rt = bucket
      · subst same
        simp [List.getElem?_eq_getElem inside]
      · simp [same]
  | synthHit id =>
      simp only [Bump.apply, Metrics.synthHit, bucketCount, countsType]
      split <;> rfl
  | _ => rfl

theorem outcome_reads (ids : List String) (kind : Disposition) :
    Reads ids kind.counter (· == kind.bump) := by
  intro bump m _ _
  cases bump with
  | synthHit id =>
      cases kind <;> simp only [Bump.apply, Metrics.synthHit, Disposition.counter,
        Disposition.bump] <;> split <;> rfl
  | _ => cases kind <;> rfl

theorem hit_reads (ids : List String) (id : String) :
    Reads ids (fun m => m.hits id) (· == .synthHit id) := by
  intro bump m sized enabled
  cases bump with
  | synthHit other =>
      simp only [Bump.apply]
      rw [synth_hit_hits m other id (sized.ids ▸ enabled other rfl)]
      by_cases same : id = other
      · subst same
        simp
      · simp [same, Ne.symm same]
  | _ => rfl

end Kinds

/-! The counters of a run. -/
section Totals

/-- The log of a run, without whose entries they are. -/
def entries (state : State text) : List LogRecord := state.log.map Prod.snd

/-- The counters at a moment of a run: what is in the log and what is owed to it. -/
structure Reconciled (state : State text) : Prop where
  types : ∀ bucket, bucketCount bucket state.metrics =
    (entries state).countP (fun entry => inBucket bucket entry.qtype) +
      state.handlings.countP (owesType bucket)
  outcomes : ∀ kind : Disposition, kind.counter state.metrics =
    (entries state).countP (fun entry => isDisposed kind entry.outcome) +
      state.handlings.countP (owesOutcome kind)
  hits : ∀ id, state.metrics.hits id =
    (entries state).countP (fun entry => isHitOf id entry.outcome) +
      state.handlings.countP (owesHit id)

/-- Nobody is on the way. -/
def Quiet (state : State text) : Prop :=
  ∀ h ∈ state.handlings, ∃ response, h.place = .finished response

/-- The counters are tallies of the log. -/
structure Tallied (state : State text) : Prop where
  types : ∀ bucket, bucketCount bucket state.metrics =
    (entries state).countP fun entry => inBucket bucket entry.qtype
  outcomes : ∀ kind : Disposition, kind.counter state.metrics =
    (entries state).countP fun entry => isDisposed kind entry.outcome
  hits : ∀ id, state.metrics.hits id =
    (entries state).countP fun entry => isHitOf id entry.outcome

theorem nobody_owes (handlings : List (Handling text)) (owes : Handling text → Bool)
    (finished : ∀ h ∈ handlings, ∃ response, h.place = .finished response)
    (free : ∀ h response, h.place = .finished response → owes h = false) :
    handlings.countP owes = 0 := by
  rw [List.countP_eq_zero]
  intro h listed
  obtain ⟨response, placed⟩ := finished h listed
  rw [free h response placed]
  exact Bool.false_ne_true

theorem reconciled_quiet (state : State text) (reconciled : Reconciled state)
    (quiet : Quiet state) : Tallied state := by
  constructor
  · intro bucket
    rw [reconciled.types, nobody_owes _ _ quiet, Nat.add_zero]
    intro h response placed
    simp [owesType, carried, placed]
  · intro kind
    rw [reconciled.outcomes, nobody_owes _ _ quiet, Nat.add_zero]
    intro h response placed
    simp [owesOutcome, observed, placed]
  · intro id
    rw [reconciled.hits, nobody_owes _ _ quiet, Nat.add_zero]
    intro h response placed
    simp [owesHit, observed, placed]

/-! Two AAAA queries: the translator answered the first, the second is not answered yet. -/
def sampleHandler : Dns64Handler plainText :=
  { chain := ⟨[(Nat64.mk (v6 0x64 0xff9b 0 0 0 0 0 0)).synthesizer], none, none⟩
    queryLog := true, blocklist := none, clientAcl := none }

def sampleActions : List (Action Unit) :=
  [.arrive ⟨Pool.sampleQuery, .V6 1⟩, .arrive ⟨Pool.sampleQuery, .V6 1⟩, .advance 0 .proceed,
    .advance 1 .proceed, .advance 1 .proceed, .advance 0 .proceed,
    .advance 0 (.joined (some sampleNodata) .Miss (some (sampleAddress 300 (v4 23 227 38 10)))),
    .advance 0 (.tried referencePool ()), .advance 0 (.appended referencePool ()),
    .advance 0 .proceed, .advance 0 .proceed]

end Totals

end Dnsix.Ledger
