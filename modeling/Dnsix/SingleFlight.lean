import Dnsix.SlotInvariant

/-!
What the invariant of the slots says about whole runs. A slot is orphaned exactly
when some leader was aborted at its upstream await, and then for good. Without
aborts every follower gets its own leader's answer and each slot has one holder.
-/

namespace Dnsix.SingleFlight
open Dns ResponseCache Broadcast Transition Pool SlotInvariant

variable {orphans : Prop}

/-! Orphaned slots. -/

/-- A question is in the slot map only while a leader for it is running, and a
waiting follower has a running leader, a value to read or a closed channel. -/
structure NoOrphan (state : State) : Prop where
  slotLed : ∀ key leader, state.singleFlight key = some leader →
    ∃ id call, state.calls id = some call ∧ holds call.phase = some key
  followerServed : ∀ id call leader next, state.calls id = some call →
    call.phase = .following leader next →
      (∃ owner, state.calls leader = some owner ∧ leaderRunning owner.phase = true) ∨
      (∃ outcome, (state.channels leader).recv next = .value outcome) ∨
      (state.channels leader).recv next = .closed

theorem coalesced_no_orphan (state : State) (inv : Coalesced False state) : NoOrphan state := by
  constructor
  · intro key leader slot
    rcases inv.slotHeld key leader slot with ⟨call, present, held | ⟨aborted, orphan⟩⟩
    · exact ⟨leader, call, present, held⟩
    · have fits := inv.channelFits leader
      rw [present, Option.map_some, aborted, orphan] at fits
      rcases fits with closed | ⟨impossible, _⟩
      · simp at closed
      · exact False.elim impossible
  · intro id call leader next present following
    rcases follower_reads state id call leader next inv present following with
      ⟨start, owner, found, ⟨outcome, _, read⟩ | ⟨running, _⟩ | ⟨aborted, _⟩⟩
    · subst next
      exact Or.inr (Or.inl ⟨outcome, read⟩)
    · exact Or.inl ⟨owner, found, running⟩
    · rcases (inv.followerFits id call leader present
        (inv.subscribed id call leader next present following)).led with ⟨other, same, leads⟩
      rw [found, Option.some.injEq] at same
      subst other
      rw [aborted] at leads
      have fits := inv.channelFits leader
      rw [found, Option.map_some, aborted, show state.channels leader = _ from leads] at fits
      rcases fits with closed | ⟨impossible, _⟩
      · simp at closed
      · exact False.elim impossible

/-- The slot of a question is held by an aborted call. -/
def Orphaned (key : Query) (leader : CallId) (state : State) : Prop :=
  state.singleFlight key = some leader ∧
    ∃ call, state.calls leader = some call ∧ call.phase = .aborted

/-- An orphaned slot stays: nobody else ever frees it. -/
theorem orphaned_step (config : Config) (action : Action) (state after : State) (key : Query)
    (leader : CallId) (inv : Coalesced True state) (orphaned : Orphaned key leader state)
    (taken : step config action state = some after) : Orphaned key leader after := by
  rcases orphaned with ⟨slot, call, present, aborted⟩
  refine ⟨?_, call, ?_, aborted⟩
  -- Only a running leader frees a slot, and this one is held by an aborted call.
  · rcases slot_step config action state after key leader taken slot with
      kept | ⟨id, other, question, outcome, _, found, located, same, _⟩
    · exact kept
    · have own := inv.holderSlotted id other question.key found (by rw [located]; rfl)
      rw [same, slot, Option.some.injEq] at own
      subst id
      rw [present, Option.some.injEq] at found
      subst other
      rw [aborted] at located
      cases located
  · exact settled_step config action state after leader call taken present
      (by rw [aborted]; rfl)

theorem orphaned_run (config : Config) (allowed : Action → State → Prop) (state after : State)
    (actions : List Action) (key : Query) (leader : CallId) (inv : Coalesced True state)
    (orphaned : Orphaned key leader state)
    (run : Run (step config) allowed state actions after) : Orphaned key leader after := by
  have both : Coalesced True after ∧ Orphaned key leader after :=
    run_invariant (motive := fun current => Coalesced True current ∧ Orphaned key leader current)
      (fun action before next kept _ taken =>
        ⟨coalesced_step config action before next kept.1 (Or.inl trivial) taken,
          orphaned_step config action before next key leader kept.1 kept.2 taken⟩)
      run ⟨inv, orphaned⟩
  exact both.2

theorem orphaned_unserved (state : State) (key : Query) (leader : CallId)
    (inv : Coalesced True state) (orphaned : Orphaned key leader state) : ¬ NoOrphan state := by
  intro served
  rcases orphaned with ⟨slot, call, present, aborted⟩
  rcases served.slotLed key leader slot with ⟨id, owner, found, holding⟩
  have own := inv.holderSlotted id owner key found holding
  rw [slot, Option.some.injEq] at own
  subst id
  rw [present, Option.some.injEq] at found
  subst owner
  rw [aborted] at holding
  cases holding

/-- Aborting a leader orphans its slot. -/
theorem abort_orphans (config : Config) (action : Action) (state after : State)
    (inv : Coalesced True state) (taken : step config action state = some after)
    (lost : ¬ keepsLeaders action state) : ∃ key leader, Orphaned key leader after := by
  cases step_moved config action state after taken with
  | @leaderAborted id call question present located =>
      have slot := inv.holderSlotted id call question.key present (by rw [located]; rfl)
      exact ⟨question.key, id, slot, _, Function.update_self _ _ _, rfl⟩
  | @aborted id call present located =>
      refine absurd ?_ lost
      intro other question same leading
      rw [present, Option.some.injEq] at same
      subst other
      rcases located with ⟨_, _, _, elsewhere⟩ | ⟨_, _, elsewhere⟩ | ⟨_, elsewhere⟩ <;>
        simp [elsewhere] at leading
  | _ => exact absurd trivial lost

theorem orphan_free_run (config : Config) (state after : State) (actions : List Action)
    (inv : Coalesced True state) (run : Run (step config) anyAction state actions after)
    (served : NoOrphan after) : Run (step config) keepsLeaders state actions after := by
  -- On the run: the first abort of a leader leaves an orphan that lasts to the end.
  induction run with
  | refl state => exact Run.refl state
  | @next before middle last action rest _ taken later ih =>
      have kept := coalesced_step config action before middle inv (Or.inl trivial) taken
      by_cases admitted : keepsLeaders action before
      · exact Run.next admitted taken (ih kept served)
      · rcases abort_orphans config action before middle inv taken admitted with
          ⟨key, leader, orphaned⟩
        have stays := orphaned_run config anyAction middle last rest key leader kept orphaned later
        have reached := coalesced_run config anyAction middle last rest kept
          (fun _ _ _ => Or.inl trivial) later
        exact absurd served (orphaned_unserved last key leader reached stays)

/-- A run ends without an orphan exactly when no step of it aborted a leader at
its upstream await. -/
theorem no_orphan_iff_leaders_kept (config : Config) (actions : List Action) (after : State)
    (run : Run (step config) anyAction (State.new config) actions after) :
    NoOrphan after ↔ Run (step config) keepsLeaders (State.new config) actions after := by
  constructor
  · intro served
    exact orphan_free_run config _ after actions (coalesced_new True config) run served
  · intro kept
    exact coalesced_no_orphan after (coalesced_run config keepsLeaders _ after actions
      (coalesced_new False config) (fun _ _ admitted => Or.inr admitted) kept)

/-- A leader that is not aborted orphans nothing, whoever follows it. -/
theorem no_orphan_followed_run :
    ∃ after, Run (step sampleConfig) anyAction (State.new sampleConfig)
        [.call 0 sampleQuery, .advance 0, .advance 0, .call 1 sampleQuery, .advance 1, .advance 1]
        after ∧
      (after.calls 1).map Call.phase = some (.following 0 0) ∧ NoOrphan after := by
  have executed : exec (step sampleConfig)
      [.call 0 sampleQuery, .advance 0, .advance 0, .call 1 sampleQuery, .advance 1, .advance 1]
      (State.new sampleConfig) = some _ := rfl
  refine ⟨_, exec_run executed, rfl, ?_⟩
  refine (no_orphan_iff_leaders_kept sampleConfig _ _ (exec_run executed)).mpr ?_
  refine exec_allowed ?_ executed
  intro action member state
  simp only [List.mem_cons, List.not_mem_nil, or_false] at member
  rcases member with rfl | rfl | rfl | rfl | rfl | rfl <;> trivial

/-- The leader is aborted at its upstream await; the next call for the question
follows it and waits for a value nobody will send. -/
theorem aborted_leader_orphans :
    ∃ after, Run (step sampleConfig) anyAction (State.new sampleConfig)
        [.call 0 sampleQuery, .advance 0, .advance 0, .abort 0,
          .call 1 sampleQuery, .advance 1, .advance 1] after ∧
      after.singleFlight sampleQuestion.key = some 0 ∧
      (after.calls 0).map Call.phase = some .aborted ∧
      (after.calls 1).map Call.phase = some (.following 0 0) ∧
      (after.channels 0).recv 0 = .pending ∧ ¬ NoOrphan after := by
  have executed : exec (step sampleConfig)
      [.call 0 sampleQuery, .advance 0, .advance 0, .abort 0,
        .call 1 sampleQuery, .advance 1, .advance 1] (State.new sampleConfig) = some _ := rfl
  refine ⟨_, exec_run executed, rfl, rfl, rfl, rfl, ?_⟩
  exact orphaned_unserved _ sampleQuestion.key 0
    (reachable_coalesced sampleConfig _ _ (exec_run executed)) ⟨rfl, _, rfl, rfl⟩

/-! Agreement of leaders and followers. -/

/-- No call is cancelled and none panics. -/
def noneAborted : Action → State → Prop
  | .abort _, _ => False
  | _, _ => True

theorem exec_none_aborted (config : Config) (state after : State) (actions : List Action)
    (calm : ∀ id, Action.abort id ∉ actions)
    (executed : exec (step config) actions state = some after) :
    Run (step config) noneAborted state actions after := by
  refine exec_allowed ?_ executed
  intro action member current
  cases action with
  | abort id => exact calm id member
  | _ => trivial

structure Agreement (config : Config) (state : State) : Prop where
  oneHolder : ∀ first second call other key, state.calls first = some call →
    state.calls second = some other → holds call.phase = some key →
    holds other.phase = some key → first = second
  received : ∀ id call leader, state.calls id = some call → call.followed = some leader →
    call.phase = .following leader 0 ∨ ∃ outcome owner, call.phase = .done outcome .Miss ∧
      state.calls leader = some owner ∧ owner.phase = .done outcome .Miss
  neverLost : ∀ id call leader next, state.calls id = some call →
    call.phase = .following leader next →
    (state.channels leader).recv next ≠ .lagged ∧ (state.channels leader).recv next ≠ .closed
  ownSlot : ∀ action after key leader, step config action state = some after →
    state.singleFlight key = some leader → after.singleFlight key ≠ some leader →
    action = .advance leader ∧ after.singleFlight = Function.update state.singleFlight key none
  woken : ∀ id call leader next owner outcome status, state.calls id = some call →
    call.phase = .following leader next → state.calls leader = some owner →
    owner.phase = .done outcome status →
    step config (.advance id) state = some (state.setPhase id call (.done outcome .Miss))

theorem one_holder (state : State) (inv : Coalesced orphans state) (first second : CallId)
    (call other : Call) (key : Query) (present : state.calls first = some call)
    (found : state.calls second = some other) (left : holds call.phase = some key)
    (right : holds other.phase = some key) : first = second := by
  have mine := inv.holderSlotted first call key present left
  have theirs := inv.holderSlotted second other key found right
  rw [mine, Option.some.injEq] at theirs
  exact theirs

theorem own_slot (config : Config) (state after : State) (action : Action) (key : Query)
    (leader : CallId) (inv : Coalesced orphans state)
    (taken : step config action state = some after) (slot : state.singleFlight key = some leader)
    (freed : after.singleFlight key ≠ some leader) :
    action = .advance leader ∧
      after.singleFlight = Function.update state.singleFlight key none := by
  rcases slot_step config action state after key leader taken slot with
    kept | ⟨id, call, question, outcome, acted, present, located, same, removed⟩
  · exact absurd kept freed
  · have own := inv.holderSlotted id call question.key present (by rw [located]; rfl)
    rw [same, slot, Option.some.injEq] at own
    subst id
    exact ⟨acted, removed⟩

/-- The step of a follower whose leader is done. -/
theorem follower_woken (config : Config) (state : State) (id leader : CallId) (call owner : Call)
    (next : Nat) (outcome : Outcome) (status : CacheStatus) (inv : Coalesced orphans state)
    (present : state.calls id = some call) (following : call.phase = .following leader next)
    (found : state.calls leader = some owner) (ended : owner.phase = .done outcome status) :
    step config (.advance id) state = some (state.setPhase id call (.done outcome .Miss)) := by
  rcases follower_reads state id call leader next inv present following with
    ⟨start, other, same, ⟨sent, finished, read⟩ | ⟨running, _⟩ | ⟨aborted, _⟩⟩
  · rw [found, Option.some.injEq] at same
    subst other
    rw [ended] at finished
    injection finished with equal _
    subst sent
    subst next
    simp only [step, present, Option.bind_some, advance, following, recvStep, read]
  · rw [found, Option.some.injEq] at same
    subst other
    rw [ended] at running
    cases running
  · rw [found, Option.some.injEq] at same
    subst other
    rw [ended] at aborted
    cases aborted

theorem agreement_of_coalesced (config : Config) (state : State) (inv : Coalesced False state)
    (alive : ∀ id call, state.calls id = some call → call.phase ≠ .aborted) :
    Agreement config state := by
  constructor
  · intro first second call other key present found left right
    exact one_holder state inv first second call other key present found left right
  · intro id call leader present followed
    rcases (inv.followerFits id call leader present followed).placed with
      following | aborted | matched
    · exact Or.inl following
    · exact absurd aborted (alive id call present)
    · exact Or.inr matched
  · intro id call leader next present following
    rcases follower_reads state id call leader next inv present following with
      ⟨start, owner, _, ⟨outcome, _, read⟩ | ⟨_, read⟩ | ⟨_, read⟩⟩
    all_goals
      subst next
      rw [read]
      constructor <;> intro lost <;> cases lost
  · intro action after key leader taken slot freed
    exact own_slot config state after action key leader inv taken slot freed
  · intro id call leader next owner outcome status present following found ended
    exact follower_woken config state id leader call owner next outcome status inv present
      following found ended

theorem alive_run (config : Config) (actions : List Action) (after : State)
    (run : Run (step config) noneAborted (State.new config) actions after) :
    ∀ id call, after.calls id = some call → call.phase ≠ .aborted := by
  refine run_invariant
    (motive := fun state => ∀ id call, state.calls id = some call → call.phase ≠ .aborted)
    ?_ run ?_
  · intro action before next alive admitted taken
    refine alive_step config action before next taken ?_ alive
    intro id same
    subst action
    exact admitted
  · intro id call present
    cases present

/-- Single flight, over every run without aborts: one holder for each slot, every
follower ends with its own leader's answer, a slot is freed by its holder alone,
and a follower of a finished leader has its value waiting. -/
theorem single_flight_agreement (config : Config) (actions : List Action) (after : State)
    (run : Run (step config) noneAborted (State.new config) actions after) :
    Agreement config after := by
  refine agreement_of_coalesced config after ?_ (alive_run config actions after run)
  refine coalesced_run config noneAborted _ after actions (coalesced_new False config) ?_ run
  intro action state admitted
  cases action with
  | abort id => exact False.elim admitted
  | _ => exact Or.inr trivial

theorem single_flight_agreement_two_calls :
    ∃ after, Run (step sampleConfig) noneAborted (State.new sampleConfig)
        [.call 0 sampleQuery, .advance 0, .advance 0, .call 1 sampleQuery, .advance 1, .advance 1,
          .reply 0 (some (sampleReply 300)), .advance 0, .advance 0, .advance 1] after ∧
      (after.calls 0).map Call.phase = (after.calls 1).map Call.phase ∧
      after.replies.length = 1 ∧ Agreement sampleConfig after := by
  have executed : exec (step sampleConfig)
      [.call 0 sampleQuery, .advance 0, .advance 0, .call 1 sampleQuery, .advance 1, .advance 1,
        .reply 0 (some (sampleReply 300)), .advance 0, .advance 0, .advance 1]
      (State.new sampleConfig) = some _ := rfl
  have run := exec_none_aborted sampleConfig _ _ _ (by intro id member; simp at member) executed
  exact ⟨_, run, rfl, rfl, single_flight_agreement sampleConfig _ _ run⟩

/-- Read with every call that took a slot and has not returned as a leader. -/
def OneLeader (config : Config) (state : State) : Prop :=
  ∀ first second call other question same, state.calls first = some call →
    state.calls second = some other → leaderRunning call.phase = true →
    leaderRunning other.phase = true → config.key call.query = some question →
    config.key other.query = some same → question.key = same.key → first = second

/-- A leader that has freed its slot and not yet published runs beside the next
leader for the same question. -/
theorem two_leaders_run :
    ∃ after, Run (step sampleConfig) noneAborted (State.new sampleConfig)
        [.call 0 sampleQuery, .advance 0, .advance 0, .reply 0 none, .advance 0,
          .call 1 sampleQuery, .advance 1, .advance 1] after ∧
      ¬ OneLeader sampleConfig after := by
  have executed : exec (step sampleConfig)
      [.call 0 sampleQuery, .advance 0, .advance 0, .reply 0 none, .advance 0,
        .call 1 sampleQuery, .advance 1, .advance 1] (State.new sampleConfig) = some _ := rfl
  have run := exec_none_aborted sampleConfig _ _ _ (by intro id member; simp at member) executed
  refine ⟨_, run, ?_⟩
  intro unique
  have same := unique 0 1 _ _ sampleQuestion sampleQuestion rfl rfl rfl rfl rfl rfl rfl
  cases same

end Dnsix.SingleFlight
