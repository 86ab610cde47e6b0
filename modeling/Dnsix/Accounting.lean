import Dnsix.Attribution
import Dnsix.Provenance
import Mathlib.Algebra.Order.BigOperators.Group.Finset

/-!
What the cache counters say about the calls. Every call that consults the cache is
meant to raise exactly one of the hit, miss and stale counters, the one its status
names. The counters are decided at the lookup and after the race, and the two can
disagree: a refresh that wins the race leaves the lookup uncounted, although a
negative hit was counted for it already.
-/

namespace Dnsix.Accounting
open Attribution Dns LastWrite Pool Provenance ResponseCache Transition

/-! Ledgers. -/
section Ledgers

/-- The counters of one call, or of all. -/
structure Ledger where
  hits : Nat
  misses : Nat
  stale : Nat
  negatives : Nat
  deriving DecidableEq

def view (state : State) : Ledger :=
  ⟨state.metrics.cacheHits, state.metrics.cacheMisses, state.metrics.servedStale,
    state.metrics.negativeCacheHits⟩

def Ledger.paid (ledger before after : Ledger) : Ledger :=
  ⟨ledger.hits + (after.hits - before.hits), ledger.misses + (after.misses - before.misses),
    ledger.stale + (after.stale - before.stale),
    ledger.negatives + (after.negatives - before.negatives)⟩

/-- What the steps of one call have added to one counter since the start. -/
def charged (config : Config) (counter : Ledger → Nat) (id : CallId) (actions : List Action) :
    Nat :=
  spent (step config) actor (fun state => counter (view state)) id actions (State.new config)

def ledger (config : Config) (id : CallId) (actions : List Action) : Ledger :=
  ⟨charged config Ledger.hits id actions, charged config Ledger.misses id actions,
    charged config Ledger.stale id actions, charged config Ledger.negatives id actions⟩

variable {config : Config} {allowed : Action → State → Prop}

theorem ledger_own {front : List Action} {action : Action} {before after : State} {id : CallId}
    (run : Run (step config) allowed (State.new config) front before)
    (taken : step config action before = some after) (own : actor action = some id) :
    ledger config id (front ++ [action]) =
      (ledger config id front).paid (view before) (view after) := by
  simp only [ledger, charged, spent_append id run taken, own, if_true, Ledger.paid]

theorem ledger_other {front : List Action} {action : Action} {before after : State} {id : CallId}
    (run : Run (step config) allowed (State.new config) front before)
    (taken : step config action before = some after) (other : actor action ≠ some id) :
    ledger config id (front ++ [action]) = ledger config id front := by
  simp only [ledger, charged, spent_append id run taken, other, if_false, Nat.add_zero]

@[simp] theorem view_set_phase (state : State) (id : CallId) (call : Call) (phase : Phase) :
    view (state.setPhase id call phase) = view state := rfl

@[simp] theorem view_set_call (state : State) (id : CallId) (call : Call) :
    view (state.setCall id call) = view state := rfl

@[simp] theorem view_set_refresh (state : State) (id : CallId) (refresh : Refresh) :
    view (state.setRefresh id refresh) = view state := rfl

@[simp] theorem view_resolve_and_cache (state : State) (task : Task) (query : Message)
    (response : Option Message) :
    view (resolveAndCache config state task query response) = view state := by
  cases response <;> rfl

@[simp] theorem view_negative (state : State) (negative : Bool) :
    view (state.count (Metrics.incNegative negative)) =
      { view state with negatives := (view state).negatives + negative.toNat } := by
  cases negative <;> rfl

@[simp] theorem view_hit (state : State) :
    view (state.count Metrics.incCacheHit) =
      { view state with hits := (view state).hits + 1 } := rfl

@[simp] theorem view_miss (state : State) :
    view (state.count Metrics.incCacheMiss) =
      { view state with misses := (view state).misses + 1 } := rfl

@[simp] theorem view_stale (state : State) :
    view (state.count Metrics.incServedStale) =
      { view state with stale := (view state).stale + 1 } := rfl

@[simp] theorem paid_same (book total : Ledger) : book.paid total total = book := by
  simp [Ledger.paid]

end Ledgers

/-! What a call has paid in each of its phases. -/
section Balance
variable {config : Config}

def negativeOutcome (outcome : Outcome) : Bool :=
  outcome.answer.any fun resp => resp.answers.isEmpty

def due : Phase → Ledger
  | .looking _ | .resolving .Uncached | .done _ .Uncached | .aborted => ⟨0, 0, 0, 0⟩
  | .prefetching _ hit | .done hit .Hit => ⟨1, 0, 0, (negativeOutcome hit).toNat⟩
  -- A negative stale answer is counted before it is known to be served.
  | .claiming _ stale | .racing _ stale _ => ⟨0, 0, 0, (negativeOutcome stale).toNat⟩
  | .done stale .Stale => ⟨0, 0, 1, (negativeOutcome stale).toNat⟩
  | .joining _ | .leading _ | .unslotting _ _ | .publishing _ | .following _ _ | .resolving _
  | .done _ .Miss => ⟨0, 1, 0, 0⟩

def Balanced (phase : Phase) (book : Ledger) : Prop :=
  book = due phase ∨ (phase = .aborted ∧ book.negatives = 0)

/-- A step that keeps the accounts: a lookup rebuilds what it finds, no refresh wins
the race against its call, and no call is aborted while it races with a negative
answer in hand. -/
def orderly (config : Config) : Action → State → Bool
  | .advance id, state =>
      match (state.calls id).map Call.phase with
      | some (.looking question) =>
          match state.cache.get question state.now with
          | some (found, _) =>
              (buildCachedResponse config.encodes question found.response).isSome
          | none => true
      | some (.racing _ _ _) =>
          match (state.refreshes id).map Refresh.phase with
          | some (.finished outcome) => outcome.answer.isNone
          | _ => true
      | _ => true
  | .abort id, state =>
      match (state.calls id).map Call.phase with
      | some (.racing _ stale _) => !negativeOutcome stale
      | _ => true
  | _, _ => true

/-- What a lookup rebuilds is negative as the entry is. -/
theorem built_negative (state : State) (question : Query) (found : CacheLookup) (fetch : Fetch)
    (resp : Message) (looked : state.cache.get question state.now = some (found, fetch))
    (built : buildCachedResponse config.encodes question found.response = some resp) :
    negativeOutcome ⟨some resp, fetch⟩ = found.response.negative := by
  rcases get_entry state question found fetch looked with ⟨entry, ttl, _, _, same⟩
  rw [build_some config.encodes question found.response resp built, same]
  simp [negativeOutcome, rebuilt, CacheEntry.toResponse, stampTtl]

/-- A step of a call settles what its next phase owes. -/
theorem balanced_moved (action : Action) (state after : State) (id : CallId) (book : Ledger)
    (sound : Sound config state) (moved : Moved config state action after)
    (own : actor action = some id) (kept : orderly config action state = true)
    (before : ∀ call, state.calls id = some call → Balanced call.phase book)
    (unstarted : state.calls id = none → book = ⟨0, 0, 0, 0⟩) :
    ∃ next, after.calls id = some next ∧
      Balanced next.phase (book.paid (view state) (view after)) := by
  have owed : ∀ {call phase}, state.calls id = some call → call.phase = phase →
      phase ≠ .aborted → book = due phase := by
    intro call phase present located alive
    rcases before call present with same | ⟨dead, _⟩
    · rw [same, located]
    · exact absurd (located.symm.trans dead) alive
  -- The moves that touch none of the four counters.
  have free : ∀ {call phase next}, state.calls id = some call → call.phase = phase →
      phase ≠ .aborted → after.calls id = some next → view after = view state →
      due phase = due next.phase → ∃ next, after.calls id = some next ∧
        Balanced next.phase (book.paid (view state) (view after)) := by
    intro call phase next present located alive turned uncounted equal
    refine ⟨next, turned, .inl ?_⟩
    rw [uncounted, paid_same, owed present located alive, equal]
  cases moved with
  | tick elapsed => cases own
  | evict question => cases own
  | started fresh keyed =>
      cases own
      refine ⟨_, Function.update_self .., .inl ?_⟩
      simp [unstarted fresh, due]
  | startedUncached fresh unkeyed =>
      cases own
      refine ⟨_, Function.update_self .., .inl ?_⟩
      simp [unstarted fresh, due]
  | @hit mover call question response ready fetch resp phase present located found built next =>
      cases own
      have negative := built_negative state question _ fetch resp found built
      have same := owed present located Phase.noConfusion
      refine ⟨_, Function.update_self .., .inl ?_⟩
      cases ready <;> simp [next, same, due, Ledger.paid, negative, CacheLookup.response]
  | @staleHit mover call question response fetch resp present located found built =>
      cases own
      have negative := built_negative state question _ fetch resp found built
      have same := owed present located Phase.noConfusion
      refine ⟨_, Function.update_self .., .inl ?_⟩
      simp [same, due, Ledger.paid, negative, CacheLookup.response]
  | unbuilt present located looked refused =>
      cases own
      simp [orderly, present, located, looked, refused] at kept
  | miss present located nothing =>
      cases own
      have same := owed present located Phase.noConfusion
      refine ⟨_, Function.update_self .., .inl ?_⟩
      simp [same, due, Ledger.paid]
  | claimTaken present located taken =>
      cases own
      have same := owed present located Phase.noConfusion
      refine ⟨_, Function.update_self .., .inl ?_⟩
      simp [same, due, Ledger.paid, servingStale]
  | raceWon present located spawned ended answered =>
      cases own
      simp [orderly, present, located, spawned, ended, answered] at kept
  | raceLost present located spawned ended =>
      cases own
      have same := owed present located Phase.noConfusion
      refine ⟨_, Function.update_self .., .inl ?_⟩
      simp [same, due, Ledger.paid, servingStale]
  | timedOut present located spawned unfinished late =>
      cases own
      have same := owed present located Phase.noConfusion
      refine ⟨_, Function.update_self .., .inl ?_⟩
      simp [same, due, Ledger.paid, servingStale]
  | leaderAborted present located =>
      cases own
      have same := owed present located Phase.noConfusion
      refine ⟨_, Function.update_self .., .inr ⟨rfl, ?_⟩⟩
      rw [same]
      exact (Nat.zero_add _).trans (Nat.sub_self _)
  | aborted present located =>
      cases own
      refine ⟨_, Function.update_self .., .inr ⟨rfl, ?_⟩⟩
      rw [view_set_phase, paid_same]
      rcases located with ⟨question, stale, deadline, racing⟩ | ⟨leader, next, following⟩ |
        ⟨status, resolving⟩
      · simp [orderly, present, racing] at kept
        simp [owed present racing Phase.noConfusion, due, kept]
      · simp [owed present following Phase.noConfusion, due]
      · rw [owed present resolving Phase.noConfusion]
        cases status <;> rfl
  | refreshReplied present located => cases own
  | refreshFinished present located => cases own
  | refreshPanicked present located => cases own
  | @replied mover call status response present located =>
      cases own
      have awaited := sound.calls id call present
      rw [located] at awaited
      refine free present located Phase.noConfusion (Function.update_self ..)
        (by rw [view_set_phase, view_resolve_and_cache]) ?_
      rcases awaited with ⟨rfl, _⟩ | ⟨rfl, _⟩
      · rfl
      · rfl
  | @leaderReplied mover call question response present located =>
      cases own
      exact free present located Phase.noConfusion (Function.update_self ..)
        (by rw [view_set_phase, view_resolve_and_cache]) rfl
  | _ present located =>
      cases own
      exact free present located Phase.noConfusion (Function.update_self ..) rfl rfl

end Balance

/-! Where an answer comes from. -/
section Sources
variable {config : Config}

/-- The lookup of the call found `entry` at `moment`, and the outcome is the entry's
answer rebuilt. -/
def AnsweredFrom (config : Config) (actions : List Action) (id : CallId) (outcome : Outcome)
    (entry : CacheEntry) (moment : Nat) : Prop :=
  ∃ front back before call question ttl, actions = front ++ .advance id :: back ∧
    Run (step config) anyAction (State.new config) front before ∧ before.now = moment ∧
    before.calls id = some call ∧ call.phase = .looking question ∧
    before.cache.cache question.key = some (entry, outcome.fetch) ∧
    outcome.answer = some (rebuilt question (entry.toResponse ttl))

def FreshFrom (config : Config) (actions : List Action) (id : CallId) (outcome : Outcome) :
    Prop :=
  ∃ entry moment, AnsweredFrom config actions id outcome entry moment ∧ moment ≤ entry.validUntil

def ExpiredFrom (config : Config) (actions : List Action) (id : CallId) (outcome : Outcome) :
    Prop :=
  ∃ entry moment, AnsweredFrom config actions id outcome entry moment ∧ entry.validUntil < moment

def Sourced (config : Config) (actions : List Action) (id : CallId) : Phase → Prop
  | .prefetching _ hit | .done hit .Hit => FreshFrom config actions id hit
  | .claiming _ stale | .racing _ stale _ | .done stale .Stale =>
      ExpiredFrom config actions id stale
  | _ => True

theorem answered_from_append {actions : List Action} {id : CallId} {outcome : Outcome}
    {entry : CacheEntry} {moment : Nat} (action : Action)
    (answered : AnsweredFrom config actions id outcome entry moment) :
    AnsweredFrom config (actions ++ [action]) id outcome entry moment := by
  rcases answered with ⟨front, back, before, call, question, ttl, rfl, rest⟩
  exact ⟨front, back ++ [action], before, call, question, ttl, by simp, rest⟩

theorem sourced_append {actions : List Action} {id : CallId} (action : Action) (phase : Phase)
    (sourced : Sourced config actions id phase) :
    Sourced config (actions ++ [action]) id phase := by
  unfold Sourced at sourced ⊢
  split at sourced <;> first
    | trivial
    | (rcases sourced with ⟨entry, moment, answered, timely⟩
       exact ⟨entry, moment, answered_from_append action answered, timely⟩)

theorem negative_of_source {actions : List Action} {id : CallId} {outcome : Outcome}
    {entry : CacheEntry} {moment : Nat}
    (answered : AnsweredFrom config actions id outcome entry moment) :
    negativeOutcome outcome = entry.answers.isEmpty := by
  rcases answered with ⟨_, _, _, _, question, ttl, _, _, _, _, _, _, answer⟩
  simp [negativeOutcome, answer, rebuilt, CacheEntry.toResponse, stampTtl]

theorem lookup_sourced {front : List Action} {state : State} {id : CallId} {call : Call}
    {question : Query} {found : CacheLookup} {fetch : Fetch} {resp : Message}
    (run : Run (step config) anyAction (State.new config) front state)
    (present : state.calls id = some call) (located : call.phase = .looking question)
    (looked : state.cache.get question state.now = some (found, fetch))
    (built : buildCachedResponse config.encodes question found.response = some resp) :
    match found with
    | .fresh _ _ => FreshFrom config (front ++ [.advance id]) id ⟨some resp, fetch⟩
    | .stale _ => ExpiredFrom config (front ++ [.advance id]) id ⟨some resp, fetch⟩ := by
  have same := build_some config.encodes question found.response resp built
  rcases get_found state.cache question state.now found fetch looked with
    ⟨entry, held, ⟨early, ready, rfl⟩ | ⟨late, _, rfl⟩⟩
  · exact ⟨entry, state.now, ⟨front, [], state, call, question, _, rfl, run, rfl, present,
      located, held, congrArg some same⟩, early⟩
  · exact ⟨entry, state.now, ⟨front, [], state, call, question, _, rfl, run, rfl, present,
      located, held, congrArg some same⟩, late⟩

theorem sourced_moved (front : List Action) (action : Action) (state after : State) (id : CallId)
    (run : Run (step config) anyAction (State.new config) front state)
    (sound : Sound config state) (moved : Moved config state action after)
    (own : actor action = some id) (kept : orderly config action state = true)
    (before : ∀ call, state.calls id = some call → Sourced config front id call.phase) :
    ∀ call, after.calls id = some call → Sourced config (front ++ [action]) id call.phase := by
  have turned : ∀ {next : Call}, after.calls id = some next →
      Sourced config (front ++ [action]) id next.phase →
      ∀ call, after.calls id = some call → Sourced config (front ++ [action]) id call.phase := by
    intro next reached sourced call present
    rw [reached, Option.some.injEq] at present
    rw [← present]
    exact sourced
  have carried : ∀ {call phase}, state.calls id = some call → call.phase = phase →
      Sourced config (front ++ [action]) id phase := by
    intro call phase present located
    rw [← located]
    exact sourced_append action call.phase (before call present)
  cases moved with
  | tick elapsed => cases own
  | evict question => cases own
  | @hit mover call question response ready fetch resp phase present located found built next =>
      cases own
      have fresh := lookup_sourced run present located found built
      refine turned (Function.update_self ..) ?_
      cases ready <;> subst next <;> exact fresh
  | staleHit present located found built =>
      cases own
      exact turned (Function.update_self ..) (lookup_sourced run present located found built)
  | prefetched present located free =>
      cases own
      have source := carried present located
      exact turned (Function.update_self ..) source
  | prefetchTaken present located taken =>
      cases own
      have source := carried present located
      exact turned (Function.update_self ..) source
  | claimed present located free =>
      cases own
      have source := carried present located
      exact turned (Function.update_self ..) source
  | claimTaken present located taken =>
      cases own
      have source := carried present located
      exact turned (Function.update_self ..) source
  | raceWon present located spawned ended answered =>
      cases own
      simp [orderly, present, located, spawned, ended, answered] at kept
  | raceLost present located spawned ended =>
      cases own
      have source := carried present located
      exact turned (Function.update_self ..) source
  | timedOut present located spawned unfinished late =>
      cases own
      have source := carried present located
      exact turned (Function.update_self ..) source
  | @replied mover call status response present located =>
      cases own
      have awaited := sound.calls id call present
      rw [located] at awaited
      refine turned (Function.update_self ..) ?_
      rcases awaited with ⟨rfl, _⟩ | ⟨rfl, _⟩ <;> trivial
  | refreshReplied present located => cases own
  | refreshFinished present located => cases own
  | refreshPanicked present located => cases own
  | _ =>
      cases own
      exact turned (Function.update_self ..) trivial

end Sources

/-! The accounts of a run. -/
section Runs
variable {config : Config}

/-- Every call has paid what its phase owes, and its answer has a source. -/
structure Booked (config : Config) (actions : List Action) (state : State) : Prop where
  unstarted : ∀ id, state.calls id = none → ledger config id actions = ⟨0, 0, 0, 0⟩
  balanced : ∀ id call, state.calls id = some call →
    Balanced call.phase (ledger config id actions)
  sourced : ∀ id call, state.calls id = some call → Sourced config actions id call.phase

theorem booked_step (front : List Action) (action : Action) (before after : State)
    (run : Run (step config) anyAction (State.new config) front before)
    (booked : Booked config front before) (kept : orderly config action before = true)
    (taken : step config action before = some after) :
    Booked config (front ++ [action]) after := by
  have sound := (reachable_sound config anyAction front before run).2
  have moved := step_moved config action before after taken
  -- Whose step it is decides whether the ledger changes.
  have own : ∀ id, actor action = some id → ∃ next, after.calls id = some next ∧
      Balanced next.phase (ledger config id (front ++ [action])) := by
    intro id mover
    rw [ledger_own run taken mover]
    exact balanced_moved action before after id _ sound moved mover kept
      (booked.balanced id) (booked.unstarted id)
  have other : ∀ id, actor action ≠ some id → after.calls id = before.calls id ∧
      ledger config id (front ++ [action]) = ledger config id front := by
    intro id elsewhere
    exact ⟨moved_elsewhere config action before after id moved elsewhere,
      ledger_other run taken elsewhere⟩
  constructor
  · intro id absent
    by_cases mover : actor action = some id
    · rcases own id mover with ⟨next, present, _⟩
      rw [absent] at present
      cases present
    · rcases other id mover with ⟨calls, book⟩
      rw [book]
      exact booked.unstarted id (calls.symm.trans absent)
  · intro id call present
    by_cases mover : actor action = some id
    · rcases own id mover with ⟨next, turned, balanced⟩
      rw [present, Option.some.injEq] at turned
      rw [turned]
      exact balanced
    · rcases other id mover with ⟨calls, book⟩
      rw [book]
      exact booked.balanced id call (calls.symm.trans present)
  · intro id call present
    by_cases mover : actor action = some id
    · exact sourced_moved front action before after id run sound moved mover kept
        (booked.sourced id) call present
    · exact sourced_append action call.phase
        (booked.sourced id call ((other id mover).1.symm.trans present))

theorem reachable_booked (actions : List Action) (after : State)
    (run : Run (step config) (fun action state => orderly config action state = true)
      (State.new config) actions after) : Booked config actions after := by
  refine run_history ?_ ?_ run
  · constructor
    · intro id absent
      rfl
    · intro id call present
      cases present
    · intro id call present
      cases present
  · intro front action before after begun booked admitted taken
    exact booked_step front action before after (run_weaken (fun _ _ _ => trivial) begun) booked
      admitted taken

/-- The counters only grow. -/
theorem view_grows (action : Action) (state after : State)
    (moved : Moved config state action after) :
    (view state).hits ≤ (view after).hits ∧ (view state).misses ≤ (view after).misses ∧
      (view state).stale ≤ (view after).stale ∧
      (view state).negatives ≤ (view after).negatives := by
  cases moved with
  | hit => simp
  | staleHit => simp
  | miss => simp
  | claimTaken => simp [servingStale]
  | raceLost => simp [servingStale]
  | timedOut => simp [servingStale]
  | leaderReplied => simp
  | replied => simp
  | refreshReplied => simp
  | _ => exact ⟨Nat.le_refl _, Nat.le_refl _, Nat.le_refl _, Nat.le_refl _⟩

theorem view_unowned (action : Action) (state after : State)
    (moved : Moved config state action after) (unowned : actor action = none) :
    view after = view state := by
  cases moved with
  | tick => rfl
  | evict => rfl
  | refreshReplied => simp
  | refreshFinished => rfl
  | refreshPanicked => rfl
  | _ => cases unowned

/-- Each counter is the sum of what the calls have paid. -/
theorem counter_total {allowed : Action → State → Prop} (counter : Ledger → Nat)
    (grows : ∀ action state after, Moved config state action after →
      counter (view state) ≤ counter (view after))
    (actions : List Action) (after : State)
    (run : Run (step config) allowed (State.new config) actions after) :
    counter (view after) = counter (view (State.new config)) +
      ∑ id ∈ owners actor actions, charged config counter id actions := by
  refine read_total (fun state => counter (view state)) ?_ ?_ run
  · intro action before after _ taken
    exact grows action before after (step_moved config action before after taken)
  · intro action before after _ taken unowned
    rw [view_unowned action before after (step_moved config action before after taken) unowned]

/-- Nobody is under way. -/
def Quiescent (state : State) : Prop :=
  ∀ id call, state.calls id = some call → settled call.phase = true

theorem settled_negatives (actions : List Action) (after : State)
    (booked : Booked config actions after) (quiescent : Quiescent after) (id : CallId) :
    (ledger config id actions).negatives ≤
      (ledger config id actions).hits + (ledger config id actions).stale := by
  cases present : after.calls id with
  | none =>
      rw [booked.unstarted id present]
      exact Nat.le_refl 0
  | some call =>
      rcases booked.balanced id call present with same | ⟨_, none⟩
      · have still := quiescent id call present
        rw [same]
        cases located : call.phase with
        | done outcome status =>
            cases status with
            | Hit | Stale =>
                have bit := Bool.toNat_le (negativeOutcome outcome)
                simp only [due]
                omega
            | _ => exact Nat.le_refl 0
        | aborted => exact Nat.le_refl 0
        | _ =>
            rw [located] at still
            cases still
      · rw [none]
        exact Nat.zero_le _

/-- What a finished call has paid, and where its answer comes from. -/
def Accounted (config : Config) (actions : List Action) (id : CallId) (outcome : Outcome) :
    CacheStatus → Prop
  | .Hit => ∃ entry moment, AnsweredFrom config actions id outcome entry moment ∧
      moment ≤ entry.validUntil ∧
      ledger config id actions = ⟨1, 0, 0, entry.answers.isEmpty.toNat⟩
  | .Miss => ledger config id actions = ⟨0, 1, 0, 0⟩
  | .Stale => ∃ entry moment, AnsweredFrom config actions id outcome entry moment ∧
      entry.validUntil < moment ∧
      ledger config id actions = ⟨0, 0, 1, entry.answers.isEmpty.toNat⟩
  | .Uncached => ledger config id actions = ⟨0, 0, 0, 0⟩

theorem booked_accounted (actions : List Action) (after : State)
    (booked : Booked config actions after) (id : CallId) (call : Call) (outcome : Outcome)
    (status : CacheStatus) (present : after.calls id = some call)
    (finished : call.phase = .done outcome status) :
    Accounted config actions id outcome status := by
  have balanced := booked.balanced id call present
  have sourced := booked.sourced id call present
  rw [finished] at balanced sourced
  rcases balanced with same | ⟨dead, _⟩
  · cases status with
    | Hit =>
        rcases sourced with ⟨entry, moment, answered, early⟩
        refine ⟨entry, moment, answered, early, ?_⟩
        rw [same, ← negative_of_source answered]
        rfl
    | Stale =>
        rcases sourced with ⟨entry, moment, answered, late⟩
        refine ⟨entry, moment, answered, late, ?_⟩
        rw [same, ← negative_of_source answered]
        rfl
    | Miss => exact same
    | Uncached => exact same
  · cases dead

theorem uncached_iff (state : State) (sound : Sound config state) (id : CallId) (call : Call)
    (outcome : Outcome) (status : CacheStatus) (present : state.calls id = some call)
    (finished : call.phase = .done outcome status) :
    status = .Uncached ↔ config.key call.query = none := by
  have origin := sound.calls id call present
  rw [finished] at origin
  cases status with
  | Uncached => exact ⟨fun _ => origin.1, fun _ => rfl⟩
  | Hit | Stale =>
      rcases origin with ⟨question, keyed, _⟩
      simp [keyed]
  | Miss =>
      rcases origin with ⟨keyed, _⟩ | ⟨leader, owner, _, _, ⟨question, _, keyed, _⟩, _⟩
      · simp [keyed]
      · simp [keyed]

/-- In every run of orderly steps each finished call with a cacheable query has raised
exactly the counter its status names, its data are those of the entry it found, fresh
or expired as the status says, and it has counted a negative answer exactly when that
entry is negative; so no more negative answers are counted than hits and stale
answers once all calls have settled. -/
theorem dispositions_accounted (config : Config) (actions : List Action) (after : State)
    (run : Run (step config) (fun action state => orderly config action state = true)
      (State.new config) actions after) :
    (∀ id call outcome status, after.calls id = some call →
      call.phase = .done outcome status → Accounted config actions id outcome status ∧
        (status = .Uncached ↔ config.key call.query = none)) ∧
      (Quiescent after → after.metrics.negativeCacheHits ≤
        after.metrics.cacheHits + after.metrics.servedStale) := by
  have booked := reachable_booked actions after run
  have sound := (reachable_sound config _ actions after run).2
  constructor
  · intro id call outcome status present finished
    exact ⟨booked_accounted actions after booked id call outcome status present finished,
      uncached_iff after sound id call outcome status present finished⟩
  · intro quiescent
    have hits := counter_total Ledger.hits (fun _ _ _ moved => (view_grows _ _ _ moved).1)
      actions after run
    have stale := counter_total Ledger.stale
      (fun _ _ _ moved => (view_grows _ _ _ moved).2.2.1) actions after run
    have negatives := counter_total Ledger.negatives
      (fun _ _ _ moved => (view_grows _ _ _ moved).2.2.2) actions after run
    have each := Finset.sum_le_sum fun id (_ : id ∈ owners actor actions) =>
      settled_negatives actions after booked quiescent id
    rw [Finset.sum_add_distrib] at each
    calc after.metrics.negativeCacheHits
        = 0 + ∑ id ∈ owners actor actions, (ledger config id actions).negatives := negatives
      _ ≤ ∑ id ∈ owners actor actions, (ledger config id actions).hits +
          ∑ id ∈ owners actor actions, (ledger config id actions).stale := by omega
      _ = after.metrics.cacheHits + after.metrics.servedStale := by
          rw [show after.metrics.cacheHits = _ from hits,
            show after.metrics.servedStale = _ from stale]
          exact congrArg₂ (· + ·) (Nat.zero_add _).symm (Nat.zero_add _).symm

/-! Runs that find an expired negative entry. -/

/-- No data, with an SOA that vouches for it for a minute. -/
def vouchedNodata : Message :=
  { Message.new with
    header := { Header.new with messageType := .Response, recursionAvailable := true }
    queries := [sampleQuestion]
    nameServers := [.fromRdata sampleName 60 (.SOA
      { mname := sampleName, rname := sampleName, serial := 1, refresh := 1, retry := 1,
        expire := 1, minimum := 60 })] }

/-- The second call races its refresh with the expired entry in hand. -/
def negativeRace : List Action :=
  [.call 0 sampleQuery, .advance 0, .advance 0, .reply 0 (some vouchedNodata), .advance 0,
    .advance 0, .tick (secs 61), .call 1 sampleQuery, .advance 1, .advance 1]

theorem unmoved_absent (actions : List Action) (after : State) {allowed : Action → State → Prop}
    (run : Run (step config) allowed (State.new config) actions after) (id : CallId)
    (idle : id ∉ actions.filterMap actor) : after.calls id = none := by
  revert idle
  refine run_history (motive := fun actions after => id ∉ actions.filterMap actor →
    after.calls id = none) (fun _ => rfl) ?_ run
  intro front action before after _ absent _ taken idle
  rw [List.filterMap_append, List.mem_append, not_or] at idle
  have other : actor action ≠ some id := by
    intro mover
    exact idle.2 (by simp [mover])
  rw [moved_elsewhere config action before after id (step_moved config action before after taken)
    other]
  exact absent idle.1

/-- Only the calls that have moved need to be looked at. -/
theorem quiescent_of_moved (actions : List Action) (after : State)
    {allowed : Action → State → Prop}
    (run : Run (step config) allowed (State.new config) actions after)
    (each : (actions.filterMap actor).all (fun id =>
      (after.calls id).all fun call => settled call.phase) = true) : Quiescent after := by
  intro id call present
  by_cases moved : id ∈ actions.filterMap actor
  · have settles := List.all_eq_true.mp each id moved
    rw [present] at settles
    exact settles
  · rw [unmoved_absent actions after run id moved] at present
    cases present

theorem dispositions_accounted_late_refresh :
    ∃ after, exec (step sampleConfig)
        (negativeRace ++ [.tick clientResponseTimeout, .timer 1]) (State.new sampleConfig) =
          some after ∧
      (∃ stale, (after.calls 1).map Call.phase = some (.done stale .Stale) ∧
        Accounted sampleConfig (negativeRace ++ [.tick clientResponseTimeout, .timer 1]) 1 stale
          .Stale) ∧
      after.metrics.negativeCacheHits ≤ after.metrics.cacheHits + after.metrics.servedStale := by
  have executed : exec (step sampleConfig)
      (negativeRace ++ [.tick clientResponseTimeout, .timer 1]) (State.new sampleConfig) =
        some _ := rfl
  have checked : exec (fun action state =>
        if orderly sampleConfig action state then step sampleConfig action state else none)
      (negativeRace ++ [.tick clientResponseTimeout, .timer 1]) (State.new sampleConfig) =
        some _ := rfl
  have accounted := dispositions_accounted sampleConfig _ _
    (exec_checked (fun _ _ fits => fits) checked)
  exact ⟨_, executed, ⟨_, rfl, (accounted.1 1 _ _ _ rfl rfl).1⟩,
    accounted.2 (quiescent_of_moved _ _ (exec_run executed) rfl)⟩

/-- The refresh wins: its data are returned as stale, the lookup is counted nowhere,
and the negative answer it found is counted all the same. -/
theorem won_race_unaccounted :
    ∃ after, exec (step sampleConfig)
        (negativeRace ++ [.replyRefresh 1 (some (sampleReply 300)), .finishRefresh 1, .advance 1])
          (State.new sampleConfig) = some after ∧
      Quiescent after ∧
      (after.calls 1).map Call.phase =
        some (.done ⟨some (sampleReply 300), ⟨.refresh 1, sampleQuery, 1⟩⟩ .Stale) ∧
      ledger sampleConfig 1 (negativeRace ++
        [.replyRefresh 1 (some (sampleReply 300)), .finishRefresh 1, .advance 1]) =
          ⟨0, 0, 0, 1⟩ ∧
      after.metrics.cacheHits + after.metrics.servedStale < after.metrics.negativeCacheHits := by
  have executed : exec (step sampleConfig)
      (negativeRace ++ [.replyRefresh 1 (some (sampleReply 300)), .finishRefresh 1, .advance 1])
        (State.new sampleConfig) = some _ := rfl
  exact ⟨_, executed, quiescent_of_moved _ _ (exec_run executed) rfl, rfl, rfl,
    Nat.lt_succ_self 0⟩

end Runs

end Dnsix.Accounting
