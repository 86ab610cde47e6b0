import Dnsix.ServeStale

/-!
Error responses against usable stale entries. A failed refresh leaves the stale answer
to be served, and so should a refresh that only brings an error; the race takes any
response for a fresh one. A run keeps its stale answers exactly as long as no call takes
up an error response of its refresh.
-/

namespace Dnsix.Displacement
open Dns LastWrite ResponseCache Transition Pool SlotInvariant StoreHistory Provenance
open Superseded ServeStale

variable {config : Config}

/-- The response codes that do not count as a refresh. -/
def errorCode : ResponseCode → Bool
  | .NoError | .NXDomain => false
  | _ => true

def erred : RefreshPhase → Bool
  | .finished outcome => outcome.answer.any (fun resp => errorCode resp.responseCode)
  | _ => false

/-- The refresh of the call has ended with an error response. -/
def refreshErred (state : State) (id : CallId) : Bool :=
  (state.refreshes id).any (fun refresh => erred refresh.phase)

/-- A call takes up no error response while it races its refresh. -/
def Unerring : Action → State → Prop
  | .advance id, state => ∀ call question stale deadline, state.calls id = some call →
      call.phase = .racing question stale deadline → refreshErred state id = false
  | _, _ => True

/-- The call is about to find an entry that has expired inside its stale window. -/
structure Usable (state : State) (id : CallId) (question : Query) (entry : CacheEntry)
    (fetch : Fetch) : Prop where
  looking : ∃ call, state.calls id = some call ∧ call.phase = .looking question
  held : state.cache.cache question.key = some (entry, fetch)
  expired : entry.validUntil < state.now
  inside : state.now ≤ entry.validUntil + state.cache.staleWindow

def staleAnswer (question : Query) (entry : CacheEntry) (fetch : Fetch) : Outcome :=
  ⟨some (rebuilt question (entry.toResponse staleServeTtl)), fetch⟩

/-- The call is not answered with an error code, and with the stale answer when its
refresh erred. -/
def Retained (state : State) (id : CallId) (stale : Outcome) : Prop :=
  ∀ call outcome status, state.calls id = some call → call.phase = .done outcome status →
    (∀ resp, outcome.answer = some resp → errorCode resp.responseCode = false) ∧
      (refreshErred state id = true → outcome = stale)

/-- In every state the run passes through, each call that found a usable stale entry
retains its answer. -/
def Undisplaced (config : Config) (actions : List Action) : Prop :=
  ∀ front id back before later question entry fetch,
    front ++ .advance id :: back <+: actions →
    Run (step config) anyAction (State.new config) front before →
    Usable before id question entry fetch →
    Run (step config) anyAction before (.advance id :: back) later →
      Retained later id (staleAnswer question entry fetch)

/-! The code of a stored entry. -/

theorem stored_code (resp : Message) (stamp : Nat) (storable : Storable resp) :
    errorCode (storedEntry resp stamp).responseCode = false := by
  rcases storable with ⟨kind, _⟩ | ⟨kind, _⟩
  · rw [storedEntry, if_pos kind]
    rfl
  · have other : ¬ positive resp := fun contrary => positive_not_negative resp contrary kind
    rw [storedEntry, if_neg other]
    rcases kind with refused | ⟨fine, _⟩
    · rw [refused]
      rfl
    · rw [fine]
      rfl

theorem stale_code (state : State) (sound : Sound config state) (id : CallId) (question : Query)
    (entry : CacheEntry) (fetch : Fetch) (usable : Usable state id question entry fetch)
    (resp : Message) (answers : (staleAnswer question entry fetch).answer = some resp) :
    errorCode resp.responseCode = false := by
  rcases sound.entries question.key entry fetch usable.held with
    ⟨reply, stamp, _, _, storable, same, _⟩
  cases answers
  subst entry
  exact stored_code reply stamp storable

/-! Moves of a call that holds a stale answer. -/
section Moves

/-- Only a lookup that finds a stale answer makes a call hold one. -/
theorem moved_held (action : Action) (state after : State) (id : CallId) (later : Call)
    (moved : Moved config state action after) (present : after.calls id = some later)
    (holds : (staleHeld later.phase).isSome) :
    (∃ call, state.calls id = some call ∧ (staleHeld call.phase).isSome) ∨
      ∃ question entry fetch, action = .advance id ∧ Usable state id question entry fetch := by
  -- The moves that leave the mover without a stale answer.
  have empty : ∀ mover next, after.calls = Function.update state.calls mover (some next) →
      staleHeld next.phase = none →
      (∃ call, state.calls id = some call ∧ (staleHeld call.phase).isSome) ∨
        ∃ question entry fetch, action = .advance id ∧ Usable state id question entry fetch := by
    intro mover next calls nothing
    rcases update_some calls present with ⟨_, rfl⟩ | ⟨_, before⟩
    · rw [nothing] at holds
      cases holds
    · exact .inl ⟨later, before, holds⟩
  cases moved with
  | tick elapsed => exact .inl ⟨later, present, holds⟩
  | evict question => exact .inl ⟨later, present, holds⟩
  | started fresh keyed => exact empty _ _ rfl rfl
  | startedUncached fresh unkeyed => exact empty _ _ rfl rfl
  | @hit mover call question response prefetch fetch resp phase found located looked built next =>
      apply empty _ _ rfl
      cases prefetch
      · rw [next]
        rfl
      · rw [next]
        rfl
  | @staleHit mover call question response fetch resp found located looked built =>
      rcases update_some rfl present with ⟨rfl, _⟩ | ⟨_, before⟩
      · rcases get_stale state.cache question state.now response fetch looked with
          ⟨entry, held, expired, inside, _⟩
        exact .inr ⟨question, entry, fetch, rfl, ⟨call, found, located⟩, held, expired, inside⟩
      · exact .inl ⟨later, before, holds⟩
  | @claimed mover call question stale found located free =>
      rcases update_some rfl present with ⟨rfl, _⟩ | ⟨_, before⟩
      · exact .inl ⟨call, found, by rw [located]; rfl⟩
      · exact .inl ⟨later, before, holds⟩
  | refreshReplied found located => exact .inl ⟨later, present, holds⟩
  | refreshFinished found located => exact .inl ⟨later, present, holds⟩
  | refreshPanicked found located => exact .inl ⟨later, present, holds⟩
  | _ => exact empty _ _ rfl rfl

/-- What a call that found a stale answer may end with. -/
def Kept (stale : Outcome) : Phase → Prop
  | .claiming _ held | .racing _ held _ => held = stale
  | .done outcome _ => outcome = stale ∨
      ∀ resp, outcome.answer = some resp → errorCode resp.responseCode = false
  | .aborted => True
  | _ => False

theorem kept_cases (stale : Outcome) (phase : Phase) (kept : Kept stale phase) :
    (∃ question, staleHeld phase = some (question, stale)) ∨ settled phase = true := by
  cases phase with
  | claiming question held =>
      cases kept
      exact .inl ⟨question, rfl⟩
  | racing question held deadline =>
      cases kept
      exact .inl ⟨question, rfl⟩
  | done outcome status => exact .inr rfl
  | aborted => exact .inr rfl
  | _ => cases kept

theorem kept_of_held (stale : Outcome) (question : Query) (phase : Phase)
    (holds : staleHeld phase = some (question, stale)) : Kept stale phase := by
  cases phase with
  | claiming located held =>
      cases holds
      rfl
  | racing located held deadline =>
      cases holds
      rfl
  | _ => cases holds

theorem answer_fine (state : State) (id : CallId) (refresh : Refresh) (outcome : Outcome)
    (spawned : state.refreshes id = some refresh) (ended : refresh.phase = .finished outcome)
    (fine : refreshErred state id = false) (resp : Message)
    (answered : outcome.answer = some resp) : errorCode resp.responseCode = false := by
  simp only [refreshErred, spawned, Option.any_some, ended, erred, answered] at fine
  exact fine

theorem kept_step (action : Action) (state after : State) (id : CallId) (stale : Outcome)
    (kept : ∃ call, state.calls id = some call ∧ Kept stale call.phase)
    (unerring : Unerring action state) (taken : step config action state = some after) :
    ∃ call, after.calls id = some call ∧ Kept stale call.phase := by
  rcases kept with ⟨call, present, keeps⟩
  rcases kept_cases stale call.phase keeps with ⟨question, holds⟩ | settles
  · rcases held_moves config action state after id call question stale present holds
      (step_moved config action state after taken) with
      ⟨next, found, _, still | served | aborted | won⟩
    · exact ⟨next, found, kept_of_held stale question next.phase still⟩
    · exact ⟨next, found, by rw [served]; exact .inl rfl⟩
    · exact ⟨next, found, by rw [aborted]; trivial⟩
    · rcases won with ⟨deadline, outcome, rfl, racing, ⟨_, refresh, spawned, ended⟩, _, served⟩
      have fine := unerring call question stale deadline present racing
      refine ⟨next, found, ?_⟩
      rw [served]
      exact .inr (answer_fine state id refresh outcome spawned ended fine)
  · exact ⟨call, settled_step config action state after id call taken present settles, keeps⟩

end Moves

/-! Runs. -/
section Runs

theorem unerring_retained (before later : State) (back : List Action) (id : CallId)
    (question : Query) (entry : CacheEntry) (fetch : Fetch) (sound : Sound config before)
    (encodes : Reencodes config before) (usable : Usable before id question entry fetch)
    (run : Run (step config) Unerring before (.advance id :: back) later) :
    Retained later id (staleAnswer question entry fetch) := by
  rcases usable.looking with ⟨call, present, located⟩
  rcases usable_claims config before id call question entry fetch sound encodes present located
    usable.held usable.expired usable.inside with ⟨after, next, taken, found, asked, claims⟩
  have serving : Serving after id call.query question (staleAnswer question entry fetch) :=
    ⟨next, found, asked, by rw [claims]; exact ⟨rfl, rfl⟩⟩
  cases run with
  | next _ again rest =>
      cases taken.symm.trans again
      have start : ∃ call, after.calls id = some call ∧
          Kept (staleAnswer question entry fetch) call.phase :=
        ⟨next, found, by rw [claims]; rfl⟩
      have kept := run_invariant (motive := fun state => ∃ call, state.calls id = some call ∧
          Kept (staleAnswer question entry fetch) call.phase)
        (fun action state next kept unerring moved =>
          kept_step action state next id _ kept unerring moved) rest start
      have served := serving_run config Unerring after later back id call.query question _ serving
        rest
      intro final outcome status found ended
      rcases kept with ⟨same, here, keeps⟩
      cases found.symm.trans here
      rcases served with ⟨same, here, _, holding⟩
      cases found.symm.trans here
      rw [ended] at keeps holding
      have fine : ∀ resp, outcome.answer = some resp → errorCode resp.responseCode = false := by
        rcases keeps with own | fine
        · intro resp answers
          rw [own] at answers
          exact stale_code before sound id question entry fetch usable resp answers
        · exact fine
      refine ⟨fine, ?_⟩
      intro errs
      rcases holding with ⟨_, own | ⟨answered, refresh, spawned, finished⟩⟩
      · exact own
      · simp only [refreshErred, spawned, Option.any_some, finished, erred] at errs
        rcases Option.any_eq_true .. |>.mp errs with ⟨resp, answers, code⟩
        rw [fine resp answers] at code
        cases code

/-- A call that holds a stale answer has found it earlier in the run. -/
def Found (config : Config) (id : CallId) (actions : List Action) (state : State) : Prop :=
  ∀ call, state.calls id = some call → (staleHeld call.phase).isSome →
    ∃ front back before question entry fetch, actions = front ++ .advance id :: back ∧
      Run (step config) anyAction (State.new config) front before ∧
      Usable before id question entry fetch ∧
      Run (step config) anyAction before (.advance id :: back) state

theorem found_run (actions : List Action) (state : State) (id : CallId)
    (run : Run (step config) anyAction (State.new config) actions state) :
    Found config id actions state := by
  apply run_history (motive := Found config id) _ _ run
  · intro call impossible
    cases impossible
  · intro front action before after begun found _ taken later present holds
    rcases moved_held action before after id later (step_moved config action before after taken)
      present holds with ⟨call, earlier, held⟩ | ⟨question, entry, fetch, rfl, usable⟩
    · rcases found call earlier held with
        ⟨start, back, looked, question, entry, fetch, rfl, first, usable, rest⟩
      refine ⟨start, back ++ [action], looked, question, entry, fetch, ?_, first, usable, ?_⟩
      · rw [List.append_assoc]
        rfl
      · exact run_append rest (.next trivial taken (.refl after))
    · exact ⟨front, [], before, question, entry, fetch, rfl, begun, usable,
        .next trivial taken (.refl after)⟩

theorem unerring_of_undisplaced (actions : List Action) (after : State)
    (run : Run (step config) anyAction (State.new config) actions after)
    (undisplaced : Undisplaced config actions) :
    Run (step config) Unerring (State.new config) actions after := by
  apply run_each run
  rintro front action back before next rfl begun taken
  cases action with
  | advance id =>
      intro call question stale deadline present racing
      by_contra erring
      rw [Bool.not_eq_false] at erring
      rcases Option.any_eq_true .. |>.mp erring with ⟨refresh, spawned, errs⟩
      rcases found_run front before id begun call present (by rw [racing]; rfl) with
        ⟨start, middle, looked, asked, entry, fetch, rfl, first, usable, rest⟩
      have reached : Run (step config) anyAction looked
          (.advance id :: (middle ++ [.advance id])) next :=
        run_append rest (.next trivial taken (.refl next))
      have retained : Retained next id (staleAnswer asked entry fetch) := by
        apply undisplaced start id (middle ++ [.advance id]) looked next asked entry fetch _ first
          usable reached
        exact ⟨back, by simp only [List.append_assoc, List.cons_append, List.nil_append]⟩
      cases ended : refresh.phase with
      | finished outcome =>
          rw [ended] at errs
          rcases Option.any_eq_true .. |>.mp errs with ⟨resp, answered, code⟩
          rw [won_serves config before id call question stale outcome deadline refresh resp present
            racing spawned ended answered, Option.some.injEq] at taken
          subst next
          have fine := (retained _ outcome .Stale (Function.update_self ..) rfl).1 resp answered
          rw [fine] at code
          cases code
      | _ =>
          rw [ended] at errs
          cases errs
  | _ => trivial

/-- No usable stale answer is displaced in a run exactly when none of its calls takes up
an error response of the refresh it races. -/
theorem undisplaced_iff (config : Config) (actions : List Action) (after : State)
    (run : Run (step config) anyAction (State.new config) actions after)
    (encodes : Reencodes config after) :
    Undisplaced config actions ↔
      Run (step config) Unerring (State.new config) actions after := by
  constructor
  · exact unerring_of_undisplaced actions after run
  · rintro unerring front id back before later question entry fetch ⟨rest, rfl⟩ begun usable taken
    rcases run_split unerring with ⟨last, covered, _⟩
    rcases run_split covered with ⟨middle, first, second⟩
    cases run_deterministic begun first
    cases run_deterministic taken second
    rcases run_split run with ⟨_, reached, ended⟩
    cases run_deterministic (run_append begun taken) reached
    have earlier := reencodes_start config _ before _ taken
      (reencodes_start config rest _ after ended encodes)
    exact unerring_retained before _ back id question entry fetch
      (reachable_sound config anyAction front before begun).2 earlier usable second

def unerring : Action → State → Bool
  | .advance id, state => !refreshErred state id
  | _, _ => true

theorem unerring_checked (action : Action) (state : State)
    (passes : unerring action state = true) : Unerring action state := by
  cases action with
  | advance id =>
      intro _ _ _ _ _ _
      exact (Bool.not_eq_true' _).mp passes
  | _ => trivial

/-- The entry of an earlier call has expired when the next call looks it up. -/
def expiredEntry : List Action :=
  [.call 0 sampleQuery, .advance 0, .advance 0, .reply 0 (some (sampleReply 300)), .advance 0,
    .advance 0, .tick (secs 301), .call 1 sampleQuery]

/-- The refresh brings a response before the timer fires. -/
def refreshed (response : Message) : List Action :=
  expiredEntry ++ .advance 1 ::
    [.advance 1, .replyRefresh 1 (some response), .finishRefresh 1, .advance 1]

theorem undisplaced_refreshed :
    ∃ after, exec (step sampleConfig) (refreshed (sampleReply 300)) (State.new sampleConfig) =
        some after ∧
      (after.calls 1).map Call.phase =
        some (.done ⟨some (sampleReply 300), ⟨.refresh 1, sampleQuery, 1⟩⟩ .Stale) ∧
      Undisplaced sampleConfig (refreshed (sampleReply 300)) := by
  have executed : exec (step sampleConfig) (refreshed (sampleReply 300))
      (State.new sampleConfig) = some _ := rfl
  refine ⟨_, executed, rfl,
    (undisplaced_iff sampleConfig _ _ (exec_run executed) ?_).mpr
      (exec_checked unerring_checked rfl)⟩
  intro reply resp question stamp ttl _ _ _
  rfl

def refusedReply : Message :=
  { Message.new with
    header := { Header.new with
      messageType := .Response
      responseCode := .Refused }
    queries := [sampleQuestion] }

theorem refused_displaces :
    (∃ after, exec (step sampleConfig) (refreshed refusedReply) (State.new sampleConfig) =
        some after ∧
      (after.calls 1).map Call.phase =
        some (.done ⟨some refusedReply, ⟨.refresh 1, sampleQuery, 1⟩⟩ .Stale)) ∧
      ¬ Undisplaced sampleConfig (refreshed refusedReply) := by
  refine ⟨⟨_, rfl, rfl⟩, ?_⟩
  intro undisplaced
  have begun : exec (step sampleConfig) expiredEntry (State.new sampleConfig) = some _ := rfl
  have retained := undisplaced expiredEntry 1 _ _ _ sampleQuestion _ _ (List.prefix_refl _)
    (exec_run begun) ⟨⟨_, rfl, rfl⟩, rfl, by decide, by decide⟩ (exec_run rfl)
  have fine := (retained _ _ _ rfl rfl).1 refusedReply rfl
  cases fine

end Runs

end Dnsix.Displacement
