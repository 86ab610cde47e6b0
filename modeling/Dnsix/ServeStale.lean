import Dnsix.Superseded

/-!
Serve-stale as a contract. A call that finds an expired entry inside its stale
window ends with an answer: the entry's data with the stale TTL, unless the
refresh it spawned itself brings a response before the timer fires. A call ends
without an answer only when its lookup found nothing usable and the upstreams
failed for the query that stood for it.
-/

namespace Dnsix.ServeStale
open Dns ResponseCache Transition Pool SlotInvariant StoreHistory Provenance Superseded

/-- The encoder accepts every message rebuilt from a response that was received. -/
def Reencodes (config : Config) (state : State) : Prop :=
  ∀ reply resp question stamp ttl, reply ∈ state.replies → reply.response = some resp →
    Storable resp →
    config.encodes (rebuilt question ((storedEntry resp stamp).toResponse ttl)) = true

theorem reencodes_before (config : Config) (action : Action) (state after : State)
    (taken : step config action state = some after) (encodes : Reencodes config after) :
    Reencodes config state := by
  intro reply resp question stamp ttl logged
  have moved := step_moved config action state after taken
  exact encodes reply resp question stamp ttl (moved_reply config action state after reply moved
    logged)

theorem reencodes_start (config : Config) {allowed : Action → State → Prop} (actions : List Action)
    (state after : State) (run : Run (step config) allowed state actions after)
    (encodes : Reencodes config after) : Reencodes config state := by
  induction run with
  | refl => exact encodes
  | next _ taken _ ih => exact reencodes_before config _ _ _ taken (ih encodes)

theorem storable_nonempty (resp : Message) (stamp ttl : Nat) (storable : Storable resp) :
    (((storedEntry resp stamp).toResponse ttl).answers.isEmpty &&
      ((storedEntry resp stamp).toResponse ttl).authority.isEmpty) = false := by
  rcases storable with ⟨kind, _⟩ | ⟨kind, proof, _⟩
  · simp [storedEntry, kind, CacheEntry.toResponse, stampTtl, kind.2]
  · have other : ¬ positive resp := fun contrary => positive_not_negative resp contrary kind
    simp [storedEntry, other, CacheEntry.toResponse, stampTtl, proof]

/-- Whatever a lookup finds is rebuilt. -/
theorem lookup_builds (config : Config) (state : State) (question : Query) (found : CacheLookup)
    (fetch : Fetch) (sound : Sound config state) (encodes : Reencodes config state)
    (looked : state.cache.get question state.now = some (found, fetch)) :
    buildCachedResponse config.encodes question found.response =
      some (rebuilt question found.response) := by
  rcases get_entry state question found fetch looked with ⟨entry, ttl, held, _, same⟩
  rcases sound.entries question.key entry fetch held with
    ⟨resp, stamp, _, logged, storable, equal, _⟩
  subst entry
  have accepted := encodes _ resp question stamp ttl logged rfl storable
  rw [same]
  simp only [buildCachedResponse, storable_nonempty resp stamp ttl storable, accepted, if_true,
    Bool.false_eq_true, if_false]

def staleHeld : Phase → Option (Query × Outcome)
  | .claiming question stale | .racing question stale _ => some (question, stale)
  | _ => none

/-- The refresh of the call has ended with an answer. -/
def Brought (state : State) (id : CallId) (outcome : Outcome) : Prop :=
  outcome.answer ≠ none ∧
    ∃ refresh, state.refreshes id = some refresh ∧ refresh.phase = .finished outcome

/-- A call that holds a stale answer goes on holding it, is answered with it, or takes
up what its refresh has ended with. -/
theorem held_moves (config : Config) (action : Action) (state after : State) (id : CallId)
    (call : Call) (question : Query) (stale : Outcome) (present : state.calls id = some call)
    (holds : staleHeld call.phase = some (question, stale))
    (moved : Moved config state action after) :
    ∃ next, after.calls id = some next ∧ next.query = call.query ∧
      (staleHeld next.phase = some (question, stale) ∨ next.phase = .done stale .Stale ∨
        next.phase = .aborted ∨ ∃ deadline outcome, action = .advance id ∧
          call.phase = .racing question stale deadline ∧ Brought state id outcome ∧
          Brought after id outcome ∧ next.phase = .done outcome .Stale) := by
  by_cases acted : actor action = some id
  · cases moved with
    | tick elapsed => cases acted
    | evict question => cases acted
    | started fresh keyed =>
        cases acted
        rw [present] at fresh
        cases fresh
    | startedUncached fresh unkeyed =>
        cases acted
        rw [present] at fresh
        cases fresh
    | claimed found located free =>
        cases acted
        cases present.symm.trans found
        rw [located] at holds
        cases holds
        exact ⟨_, Function.update_self .., rfl, .inl rfl⟩
    | claimTaken found located taken =>
        cases acted
        cases present.symm.trans found
        rw [located] at holds
        cases holds
        exact ⟨_, Function.update_self .., rfl, .inr (.inl rfl)⟩
    | @raceWon mover raced asked held outcome deadline refresh resp found located spawned ended
        answered =>
        cases acted
        cases present.symm.trans found
        rw [located] at holds
        cases holds
        have brought : outcome.answer ≠ none := by
          rw [answered]
          exact Option.some_ne_none _
        exact ⟨_, Function.update_self .., rfl, .inr (.inr (.inr ⟨_, _, rfl, located,
          ⟨brought, _, spawned, ended⟩, ⟨brought, _, spawned, ended⟩, rfl⟩))⟩
    | raceLost found located spawned ended =>
        cases acted
        cases present.symm.trans found
        rw [located] at holds
        cases holds
        exact ⟨_, Function.update_self .., rfl, .inr (.inl rfl)⟩
    | timedOut found located spawned unfinished late =>
        cases acted
        cases present.symm.trans found
        rw [located] at holds
        cases holds
        exact ⟨_, Function.update_self .., rfl, .inr (.inl rfl)⟩
    | leaderAborted found located =>
        cases acted
        cases present.symm.trans found
        exact ⟨_, Function.update_self .., rfl, .inr (.inr (.inl rfl))⟩
    | aborted found located =>
        cases acted
        cases present.symm.trans found
        exact ⟨_, Function.update_self .., rfl, .inr (.inr (.inl rfl))⟩
    | refreshReplied found located => cases acted
    | refreshFinished found located => cases acted
    | refreshPanicked found located => cases acted
    | _ found located =>
        cases acted
        cases present.symm.trans found
        rw [located] at holds
        cases holds
  · have unmoved := moved_elsewhere config action state after id moved acted
    exact ⟨call, unmoved.trans present, rfl, .inl holds⟩

/-- Where a call stands that holds a stale answer. -/
def Holding (state : State) (id : CallId) (question : Query) (stale : Outcome) : Phase → Prop
  | .claiming located held => located = question ∧ held = stale
  | .racing located held _ => located = question ∧ held = stale
  | .done outcome status => status = .Stale ∧ (outcome = stale ∨ (outcome.answer ≠ none ∧
      ∃ refresh, state.refreshes id = some refresh ∧ refresh.phase = .finished outcome))
  | .aborted => True
  | _ => False

def Serving (state : State) (id : CallId) (query : Message) (question : Query)
    (stale : Outcome) : Prop :=
  ∃ call, state.calls id = some call ∧ call.query = query ∧
    Holding state id question stale call.phase

theorem holding_cases (state : State) (id : CallId) (question : Query) (stale : Outcome)
    (phase : Phase) (holding : Holding state id question stale phase) :
    staleHeld phase = some (question, stale) ∨ settled phase = true := by
  cases phase with
  | claiming located held | racing located held deadline =>
      rcases holding with ⟨rfl, rfl⟩
      exact .inl rfl
  | done outcome status => exact .inr rfl
  | aborted => exact .inr rfl
  | _ => exact False.elim holding

theorem holding_held (state : State) (id : CallId) (question : Query) (stale : Outcome)
    (phase : Phase) (holds : staleHeld phase = some (question, stale)) :
    Holding state id question stale phase := by
  cases phase with
  | claiming located held | racing located held deadline =>
      cases holds
      exact ⟨rfl, rfl⟩
  | _ => cases holds

theorem serving_step (config : Config) (action : Action) (state after : State) (id : CallId)
    (query : Message) (question : Query) (stale : Outcome)
    (serving : Serving state id query question stale)
    (taken : step config action state = some after) : Serving after id query question stale := by
  have moved := step_moved config action state after taken
  rcases serving with ⟨call, present, asked, holding⟩
  rcases holding_cases state id question stale call.phase holding with holds | settles
  · rcases held_moves config action state after id call question stale present holds moved with
      ⟨next, found, same, still | served | aborted | won⟩
    · exact ⟨next, found, same.trans asked, holding_held after id question stale _ still⟩
    · refine ⟨next, found, same.trans asked, ?_⟩
      rw [served]
      exact ⟨rfl, .inl rfl⟩
    · refine ⟨next, found, same.trans asked, ?_⟩
      rw [aborted]
      trivial
    · rcases won with ⟨deadline, outcome, _, _, _, brought, served⟩
      refine ⟨next, found, same.trans asked, ?_⟩
      rw [served]
      exact ⟨rfl, .inr brought⟩
  · refine ⟨call, settled_step config action state after id call taken present settles, asked, ?_⟩
    cases located : call.phase <;> rw [located] at holding
    case done outcome status =>
      rcases holding with ⟨same, own | ⟨answered, refresh, spawned, ended⟩⟩
      · exact ⟨same, .inl own⟩
      · refine ⟨same, .inr ⟨answered, refresh, ?_, ended⟩⟩
        exact finished_step config action state after id call refresh outcome moved present
          settles spawned ended
    all_goals exact holding

theorem serving_run (config : Config) (allowed : Action → State → Prop) (state after : State)
    (actions : List Action) (id : CallId) (query : Message) (question : Query) (stale : Outcome)
    (serving : Serving state id query question stale)
    (run : Run (step config) allowed state actions after) :
    Serving after id query question stale :=
  run_invariant (motive := fun current => Serving current id query question stale)
    (fun action before next kept _ taken =>
      serving_step config action before next id query question stale kept taken) run serving

/-! The steps that fall back on the stale answer. -/

theorem in_flight_serves (config : Config) (state : State) (id : CallId) (call : Call)
    (question : Query) (stale : Outcome) (present : state.calls id = some call)
    (claiming : call.phase = .claiming question stale)
    (taken : state.inFlight question.key = true) :
    step config (.advance id) state = some (servingStale state id call stale) := by
  simp only [step, present, Option.bind_some, advance, claiming, claimStep, spawnRefresh,
    tryClaimRefresh, taken, if_true, Option.map_none]

theorem claim_races (config : Config) (state : State) (id : CallId) (call : Call)
    (question : Query) (stale : Outcome) (present : state.calls id = some call)
    (claiming : call.phase = .claiming question stale)
    (free : state.inFlight question.key = false) :
    step config (.advance id) state = some (((state.claimRefresh question).setRefresh id
      ⟨call.query, question, .running⟩).setPhase id call
        (.racing question stale (state.now + clientResponseTimeout))) := by
  simp only [step, present, Option.bind_some, advance, claiming, claimStep, spawnRefresh,
    tryClaimRefresh, free, Bool.false_eq_true, if_false, Option.map_some]

theorem failed_serves (config : Config) (state : State) (id : CallId) (call : Call)
    (question : Query) (stale outcome : Outcome) (deadline : Nat) (refresh : Refresh)
    (present : state.calls id = some call) (racing : call.phase = .racing question stale deadline)
    (spawned : state.refreshes id = some refresh) (ended : refresh.phase = .finished outcome)
    (failed : outcome.answer = none) :
    step config (.advance id) state = some (servingStale state id call stale) := by
  simp only [step, present, Option.bind_some, advance, racing, raceStep, spawned,
    Option.map_some, ended, failed]

theorem panicked_serves (config : Config) (state : State) (id : CallId) (call : Call)
    (question : Query) (stale : Outcome) (deadline : Nat) (refresh : Refresh)
    (present : state.calls id = some call) (racing : call.phase = .racing question stale deadline)
    (spawned : state.refreshes id = some refresh) (ended : refresh.phase = .panicked) :
    step config (.advance id) state = some (servingStale state id call stale) := by
  simp only [step, present, Option.bind_some, advance, racing, raceStep, spawned,
    Option.map_some, ended]

theorem late_serves (config : Config) (state : State) (id : CallId) (call : Call)
    (question : Query) (stale : Outcome) (deadline : Nat) (refresh : Refresh)
    (present : state.calls id = some call) (racing : call.phase = .racing question stale deadline)
    (spawned : state.refreshes id = some refresh)
    (unfinished : refresh.phase = .running ∨ ∃ outcome, refresh.phase = .releasing outcome)
    (late : deadline ≤ state.now) :
    step config (.timer id) state = some (servingStale state id call stale) := by
  rcases unfinished with running | ⟨outcome, releasing⟩
  · simp only [step, present, Option.bind_some, timerStep, racing, spawned, Option.map_some,
      running, late, if_true]
  · simp only [step, present, Option.bind_some, timerStep, racing, spawned, Option.map_some,
      releasing, late, if_true]

theorem won_serves (config : Config) (state : State) (id : CallId) (call : Call)
    (question : Query) (stale outcome : Outcome) (deadline : Nat) (refresh : Refresh)
    (resp : Message) (present : state.calls id = some call)
    (racing : call.phase = .racing question stale deadline)
    (spawned : state.refreshes id = some refresh) (ended : refresh.phase = .finished outcome)
    (answered : outcome.answer = some resp) :
    step config (.advance id) state = some (state.setPhase id call (.done outcome .Stale)) := by
  simp only [step, present, Option.bind_some, advance, racing, raceStep, spawned,
    Option.map_some, ended, answered]

/-! The call returns. -/

/-- The call's own steps and the passing of time. -/
def OwnStep (id : CallId) (action : Action) : Prop :=
  action = .advance id ∨ action = .timer id ∨ ∃ elapsed, action = .tick elapsed

/-- The call can end with an answer, whatever everything else does or does not do. -/
def Returns (config : Config) (state : State) (id : CallId) : Prop :=
  ∃ actions after final outcome, (∀ action, action ∈ actions → OwnStep id action) ∧
    exec (step config) actions state = some after ∧ after.calls id = some final ∧
    final.phase = .done outcome .Stale ∧ outcome.answer ≠ none

theorem returns_in_one (config : Config) (state after : State) (id : CallId) (action : Action)
    (call : Call) (outcome : Outcome) (own : OwnStep id action)
    (taken : step config action state = some after)
    (ended : after.calls id = some { call with phase := .done outcome .Stale })
    (answered : outcome.answer ≠ none) : Returns config state id := by
  refine ⟨[action], after, _, outcome, ?_, ?_, ended, rfl, answered⟩
  · intro other member
    rw [List.mem_singleton] at member
    rw [member]
    exact own
  · simp only [exec, taken, Option.bind_some]

theorem returns_after (config : Config) (state middle : State) (id : CallId) (action : Action)
    (own : OwnStep id action) (taken : step config action state = some middle)
    (later : Returns config middle id) : Returns config state id := by
  rcases later with ⟨actions, after, final, outcome, steps, executed, rest⟩
  refine ⟨action :: actions, after, final, outcome, ?_, ?_, rest⟩
  · intro other member
    rcases List.mem_cons.mp member with same | remaining
    · rw [same]
      exact own
    · exact steps other remaining
  · simp only [exec, taken, Option.bind_some, executed]

theorem racing_returns (config : Config) (state : State) (id : CallId) (call : Call)
    (question : Query) (stale : Outcome) (deadline : Nat) (refresh : Refresh)
    (present : state.calls id = some call) (racing : call.phase = .racing question stale deadline)
    (spawned : state.refreshes id = some refresh) (kept : stale.answer ≠ none) :
    Returns config state id := by
  -- An unfinished refresh is waited for until the timer fires.
  have timed : (refresh.phase = .running ∨ ∃ outcome, refresh.phase = .releasing outcome) →
      Returns config state id := by
    intro unfinished
    have taken : step config (.tick (deadline - state.now)) state =
        some (State.later state (deadline - state.now)) := rfl
    have late : deadline ≤ (State.later state (deadline - state.now)).now := by
      show deadline ≤ state.now + (deadline - state.now)
      omega
    refine returns_after config state _ id _ (Or.inr (Or.inr ⟨_, rfl⟩)) taken ?_
    exact returns_in_one config _ _ id _ call stale (Or.inr (Or.inl rfl))
      (late_serves config _ id call question stale deadline refresh present racing spawned
        unfinished late) (Function.update_self _ _ _) kept
  cases ended : refresh.phase with
  | running => exact timed (Or.inl ended)
  | releasing outcome => exact timed (Or.inr ⟨outcome, ended⟩)
  | finished outcome =>
      cases answered : outcome.answer with
      | none =>
          exact returns_in_one config state _ id _ call stale (Or.inl rfl)
            (failed_serves config state id call question stale outcome deadline refresh present
              racing spawned ended answered) (Function.update_self _ _ _) kept
      | some resp =>
          refine returns_in_one config state _ id _ call outcome (Or.inl rfl)
            (won_serves config state id call question stale outcome deadline refresh resp present
              racing spawned ended answered) (Function.update_self _ _ _) ?_
          rw [answered]
          exact Option.some_ne_none resp
  | panicked =>
      exact returns_in_one config state _ id _ call stale (Or.inl rfl)
        (panicked_serves config state id call question stale deadline refresh present racing
          spawned ended) (Function.update_self _ _ _) kept

theorem serving_returns (config : Config) (state : State) (id : CallId) (call : Call)
    (question : Query) (stale : Outcome) (sound : Sound config state)
    (present : state.calls id = some call)
    (holding : Holding state id question stale call.phase) (alive : call.phase ≠ .aborted)
    (kept : stale.answer ≠ none) : Returns config state id := by
  cases located : call.phase with
  | claiming claimed held =>
      rw [located] at holding
      rcases holding with ⟨same, own⟩
      subst claimed held
      cases taken : state.inFlight question.key with
      | true =>
          exact returns_in_one config state _ id _ call stale (Or.inl rfl)
            (in_flight_serves config state id call question stale present located taken)
            (Function.update_self _ _ _) kept
      | false =>
          refine returns_after config state _ id _ (Or.inl rfl)
            (claim_races config state id call question stale present located taken) ?_
          exact racing_returns config _ id _ question stale _ _ (Function.update_self _ _ _) rfl
            (Function.update_self _ _ _) kept
  | racing raced held deadline =>
      have placed := sound.calls id call present
      rw [located] at placed holding
      rcases placed with ⟨_, _, refresh, spawned⟩
      rcases holding with ⟨same, own⟩
      subst raced held
      exact racing_returns config state id call question stale deadline refresh present located
        spawned kept
  | done outcome status =>
      rw [located] at holding
      rcases holding with ⟨same, how⟩
      subst status
      refine ⟨[], state, call, outcome, ?_, rfl, present, located, ?_⟩
      · intro action member
        cases member
      · rcases how with own | ⟨answered, _⟩
        · rw [own]
          exact kept
        · exact answered
  | aborted => exact absurd located alive
  | looking _ | prefetching _ _ | joining _ | leading _ | unslotting _ _ | publishing _
  | following _ _ | resolving _ =>
      rw [located] at holding
      exact False.elim holding

/-! The contract. -/

/-- What a call gets that holds `stale` in the state after its lookup, in every
run from there. -/
structure StaleServed (config : Config) (after : State) (id : CallId) (query : Message)
    (question : Query) (stale : Outcome) : Prop where
  answered : ∀ rest later final outcome status,
    Run (step config) anyAction after rest later → later.calls id = some final →
    final.phase = .done outcome status → status = .Stale ∧ outcome.answer ≠ none ∧
      (outcome = stale ∨ ∃ refresh, later.refreshes id = some refresh ∧
        refresh.phase = .finished outcome ∧ Fetched later (.refresh id) query outcome)
  returns : ∀ rest later final, Run (step config) anyAction after rest later →
    later.calls id = some final → final.phase ≠ .aborted → Returns config later id
  inFlight : ∀ rest later final located held, Run (step config) anyAction after rest later →
    later.calls id = some final → final.phase = .claiming located held →
    later.inFlight question.key = true →
      step config (.advance id) later = some (servingStale later id final stale)
  timed : ∀ rest later final located held, Run (step config) anyAction after rest later →
    later.calls id = some final → final.phase = .claiming located held →
    later.inFlight question.key = false →
      step config (.advance id) later = some (((later.claimRefresh question).setRefresh id
        ⟨query, question, .running⟩).setPhase id final
          (.racing question stale (later.now + clientResponseTimeout)))
  failed : ∀ rest later final located held deadline refresh,
    Run (step config) anyAction after rest later → later.calls id = some final →
    final.phase = .racing located held deadline → later.refreshes id = some refresh →
    (refresh.phase = .panicked ∨
      ∃ outcome, refresh.phase = .finished outcome ∧ outcome.answer = none) →
      step config (.advance id) later = some (servingStale later id final stale)
  slower : ∀ rest later final located held deadline refresh,
    Run (step config) anyAction after rest later → later.calls id = some final →
    final.phase = .racing located held deadline → later.refreshes id = some refresh →
    (refresh.phase = .running ∨ ∃ outcome, refresh.phase = .releasing outcome) →
    deadline ≤ later.now →
      step config (.timer id) later = some (servingStale later id final stale)

/-- The upstreams failed for the query that resolved the call: its own or that of
the leader it followed. -/
def UpstreamsFailed (state : State) (id : CallId) (call : Call) (fetch : Fetch) : Prop :=
  (⟨fetch, none⟩ : Reply) ∈ state.replies ∧
    ((fetch.task = .call id ∧ fetch.query = call.query) ∨
      ∃ leader owner, call.followed = some leader ∧ state.calls leader = some owner ∧
        fetch.task = .call leader ∧ fetch.query = owner.query)

structure Contract (config : Config) (before : State) : Prop where
  stale : ∀ id call question entry fetch, before.calls id = some call →
    call.phase = .looking question →
    before.cache.cache question.key = some (entry, fetch) → entry.validUntil < before.now →
    before.now ≤ entry.validUntil + before.cache.staleWindow →
      ∃ after, step config (.advance id) before = some after ∧
        StaleServed config after id call.query question
          ⟨some (rebuilt question (entry.toResponse staleServeTtl)), fetch⟩
  unfound : ∀ id call question after rest later final outcome status,
    before.calls id = some call → call.phase = .looking question →
    step config (.advance id) before = some after →
    Run (step config) anyAction after rest later → later.calls id = some final →
    final.phase = .done outcome status → outcome.answer = none →
      before.cache.get question before.now = none
  failed : ∀ id call outcome status, before.calls id = some call →
    call.phase = .done outcome status → outcome.answer = none →
      UpstreamsFailed before id call outcome.fetch

theorem tracked_run (config : Config) (allowed : Action → State → Prop) (state after : State)
    (actions : List Action) (tracked : Tracked config state)
    (run : Run (step config) allowed state actions after) : Tracked config after :=
  run_invariant (motive := Tracked config)
    (fun action before next kept _ taken => tracked_step config action before next kept taken)
    run tracked

theorem stale_served (config : Config) (after : State) (id : CallId) (query : Message)
    (question : Query) (stale : Outcome) (tracked : Tracked config after)
    (serving : Serving after id query question stale) (kept : stale.answer ≠ none) :
    StaleServed config after id query question stale := by
  -- In every later state the call is still one of the holders of this answer.
  have followed : ∀ rest later final, Run (step config) anyAction after rest later →
      later.calls id = some final →
      final.query = query ∧ Holding later id question stale final.phase := by
    intro rest later final run present
    rcases serving_run config anyAction after later rest id query question stale serving run with
      ⟨call, found, asked, holding⟩
    rw [present, Option.some.injEq] at found
    subst call
    exact ⟨asked, holding⟩
  have claims : ∀ rest later final located held, Run (step config) anyAction after rest later →
      later.calls id = some final → final.phase = .claiming located held →
      final.query = query ∧ final.phase = .claiming question stale := by
    intro rest later final located held run present claiming
    rcases followed rest later final run present with ⟨asked, holding⟩
    rw [claiming] at holding ⊢
    rw [holding.1, holding.2]
    exact ⟨asked, rfl⟩
  have races : ∀ rest later final located held deadline,
      Run (step config) anyAction after rest later → later.calls id = some final →
      final.phase = .racing located held deadline → final.phase = .racing question stale deadline
      := by
    intro rest later final located held deadline run present racing
    rcases followed rest later final run present with ⟨_, holding⟩
    rw [racing] at holding ⊢
    rw [holding.1, holding.2]
  constructor
  · intro rest later final outcome status run present ended
    rcases followed rest later final run present with ⟨asked, holding⟩
    rw [ended] at holding
    rcases holding with ⟨same, own | ⟨answered, refresh, spawned, finished⟩⟩
    · refine ⟨same, ?_, Or.inl own⟩
      rw [own]
      exact kept
    · have sound := (tracked_run config anyAction after later rest tracked run).sound
      rcases sound.refreshes id refresh spawned with ⟨⟨owner, found, equal⟩, _, phase⟩
      rw [present, Option.some.injEq] at found
      subst owner
      rw [finished] at phase
      have fetched : Fetched later (.refresh id) refresh.query outcome := phase
      rw [← equal, asked] at fetched
      exact ⟨same, answered, Or.inr ⟨refresh, spawned, finished, fetched⟩⟩
  · intro rest later final run present alive
    exact serving_returns config later id final question stale
      (tracked_run config anyAction after later rest tracked run).sound present
      (followed rest later final run present).2 alive kept
  · intro rest later final located held run present claiming taken
    exact in_flight_serves config later id final question stale present
      (claims rest later final located held run present claiming).2 taken
  · intro rest later final located held run present claiming free
    rcases claims rest later final located held run present claiming with ⟨asked, located⟩
    rw [← asked]
    exact claim_races config later id final question stale present located free
  · intro rest later final located held deadline refresh run present racing spawned ended
    have placed := races rest later final located held deadline run present racing
    rcases ended with panicked | ⟨outcome, finished, answered⟩
    · exact panicked_serves config later id final question stale deadline refresh present placed
        spawned panicked
    · exact failed_serves config later id final question stale outcome deadline refresh present
        placed spawned finished answered
  · intro rest later final located held deadline refresh run present racing spawned unfinished late
    exact late_serves config later id final question stale deadline refresh present
      (races rest later final located held deadline run present racing) spawned unfinished late

/-- A call that is answered from the cache, now or after its refresh. -/
def FromLookup : Phase → Prop
  | .prefetching _ _ | .claiming _ _ | .racing _ _ _ | .done _ .Hit | .done _ .Stale
  | .aborted => True
  | _ => False

theorem from_lookup_step (config : Config) (action : Action) (state after : State) (id : CallId)
    (found : ∃ call, state.calls id = some call ∧ FromLookup call.phase)
    (taken : step config action state = some after) :
    ∃ call, after.calls id = some call ∧ FromLookup call.phase := by
  rcases found with ⟨call, present, looked⟩
  have moved := step_moved config action state after taken
  by_cases acted : actor action = some id
  · have turned : ∀ next, after.calls = Function.update state.calls id (some next) →
        FromLookup next.phase → ∃ call, after.calls id = some call ∧ FromLookup call.phase := by
      intro next calls kept
      exact ⟨next, by rw [calls, Function.update_self], kept⟩
    cases moved with
    | tick elapsed => cases acted
    | evict question => cases acted
    | started fresh keyed =>
        cases acted
        rw [present] at fresh
        cases fresh
    | startedUncached fresh unkeyed =>
        cases acted
        rw [present] at fresh
        cases fresh
    | prefetched here located free =>
        cases acted
        exact turned _ rfl trivial
    | prefetchTaken here located held =>
        cases acted
        exact turned _ rfl trivial
    | claimed here located free =>
        cases acted
        exact turned _ rfl trivial
    | claimTaken here located held =>
        cases acted
        exact turned _ rfl trivial
    | raceWon here located spawned ended answered =>
        cases acted
        exact turned _ rfl trivial
    | raceLost here located spawned ended =>
        cases acted
        exact turned _ rfl trivial
    | timedOut here located spawned unfinished late =>
        cases acted
        exact turned _ rfl trivial
    | leaderAborted here located =>
        cases acted
        exact turned _ rfl trivial
    | aborted here located =>
        cases acted
        exact turned _ rfl trivial
    | refreshReplied here located => cases acted
    | refreshFinished here located => cases acted
    | refreshPanicked here located => cases acted
    | _ here located =>
        cases acted
        rw [present, Option.some.injEq] at here
        subst here
        rw [located] at looked
        exact False.elim looked
  · exact ⟨call, by rw [moved_elsewhere config action state after id moved acted]; exact present,
      looked⟩

theorem lookup_from_lookup (config : Config) (state after : State) (id : CallId) (call : Call)
    (question : Query) (found : CacheLookup) (fetch : Fetch) (sound : Sound config state)
    (encodes : Reencodes config state) (present : state.calls id = some call)
    (located : call.phase = .looking question)
    (looked : state.cache.get question state.now = some (found, fetch))
    (taken : step config (.advance id) state = some after) :
    ∃ final, after.calls id = some final ∧ FromLookup final.phase := by
  have built := lookup_builds config state question found fetch sound encodes looked
  simp only [step, present, Option.bind_some, advance, located, Option.some.injEq] at taken
  subst after
  cases found with
  | fresh response prefetch =>
      simp only [CacheLookup.response] at built
      cases prefetch <;> simp only [lookupStep, looked, built] <;>
        exact ⟨_, Function.update_self _ _ _, trivial⟩
  | stale response =>
      simp only [CacheLookup.response] at built
      simp only [lookupStep, looked, built]
      exact ⟨_, Function.update_self _ _ _, trivial⟩

theorem from_lookup_answered (config : Config) (state : State) (id : CallId) (call : Call)
    (outcome : Outcome) (status : CacheStatus) (sound : Sound config state)
    (present : state.calls id = some call) (ended : call.phase = .done outcome status)
    (found : FromLookup call.phase) : outcome.answer ≠ none := by
  have placed := sound.calls id call present
  rw [ended] at placed found
  cases status with
  | Uncached => exact False.elim found
  | Miss => exact False.elim found
  | Hit =>
      rcases placed with ⟨_, _, _, _, _, _, _, _, _, _, answer⟩
      rw [answer]
      exact Option.some_ne_none _
  | Stale =>
      rcases placed with ⟨_, _, ⟨_, _, _, _, _, _, _, _, answer⟩ | ⟨_, answered⟩⟩
      · rw [answer]
        exact Option.some_ne_none _
      · exact answered

theorem unanswered_failed (config : Config) (state : State) (id : CallId) (call : Call)
    (outcome : Outcome) (status : CacheStatus) (sound : Sound config state)
    (present : state.calls id = some call) (ended : call.phase = .done outcome status)
    (unanswered : outcome.answer = none) : UpstreamsFailed state id call outcome.fetch := by
  have placed := sound.calls id call present
  rw [ended] at placed
  have failed : ∀ task query, Fetched state task query outcome →
      (⟨outcome.fetch, none⟩ : Reply) ∈ state.replies := by
    intro task query fetched
    rw [← unanswered]
    exact fetched.logged
  cases status with
  | Uncached =>
      exact ⟨failed _ _ placed.2, Or.inl ⟨placed.2.task, placed.2.query⟩⟩
  | Miss =>
      rcases placed with ⟨_, fetched⟩ | ⟨leader, owner, followed, found, _, fetched⟩
      · exact ⟨failed _ _ fetched, Or.inl ⟨fetched.task, fetched.query⟩⟩
      · exact ⟨failed _ _ fetched,
          Or.inr ⟨leader, owner, followed, found, fetched.task, fetched.query⟩⟩
  | Hit =>
      exact absurd unanswered (from_lookup_answered config state id call outcome .Hit sound present
        ended (by rw [ended]; trivial))
  | Stale =>
      exact absurd unanswered (from_lookup_answered config state id call outcome .Stale sound
        present ended (by rw [ended]; trivial))

/-- A lookup that finds an expired entry inside its window leaves the call with the
entry's data. -/
theorem usable_claims (config : Config) (before : State) (id : CallId) (call : Call)
    (question : Query) (entry : CacheEntry) (fetch : Fetch) (sound : Sound config before)
    (encodes : Reencodes config before) (present : before.calls id = some call)
    (located : call.phase = .looking question)
    (held : before.cache.cache question.key = some (entry, fetch))
    (expired : entry.validUntil < before.now)
    (inside : before.now ≤ entry.validUntil + before.cache.staleWindow) :
    ∃ after next, step config (.advance id) before = some after ∧
      after.calls id = some next ∧ next.query = call.query ∧ next.phase = .claiming question
        ⟨some (rebuilt question (entry.toResponse staleServeTtl)), fetch⟩ := by
  have looked : before.cache.get question before.now =
      some (.stale (entry.toResponse staleServeTtl), fetch) := by
    have outside : ¬ before.now ≤ entry.validUntil := Nat.not_le_of_lt expired
    simp only [StaleCache.get, held, CacheEntry.lookup, outside, if_false, inside, if_true,
      Option.map_some]
  have built := lookup_builds config before question _ fetch sound encodes looked
  simp only [CacheLookup.response] at built
  simp only [step, present, Option.bind_some, advance, located, lookupStep, looked, built]
  exact ⟨_, _, rfl, Function.update_self _ _ _, rfl, rfl⟩

end Dnsix.ServeStale
