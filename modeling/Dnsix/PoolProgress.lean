import Dnsix.Draining
import Dnsix.RefreshSlots
import Dnsix.SingleFlight

/-!
How much work the calls of the pool make, and that the work comes to an end. Every call
brings a fixed number of steps and one upstream round trip with it, those of the refresh
it may spawn included. Where nothing but the upstreams' answers is waited for, the pool
always goes on: only the followers of an aborted leader are left behind.
-/

namespace Dnsix.PoolProgress
open Dns LastWrite ResponseCache Broadcast Transition Attribution Draining Pool SlotInvariant
open Provenance RefreshSlots SingleFlight

variable {config : Config}

/-! The loads of the calls. -/
section Loads

/-- Who a step is taken for: the call, or the call that spawned the refresh. -/
def worker : Action → Option CallId
  | .call id _ | .advance id | .reply id _ | .timer id | .abort id
  | .replyRefresh id _ | .finishRefresh id | .panicRefresh id => some id
  | .tick _ | .evict _ => none

def load (phases : Phase → Nat) (refreshPhases : RefreshPhase → Nat) (state : State)
    (id : CallId) : Nat :=
  ((state.calls id).map fun call => phases call.phase).getD 0 +
    ((state.refreshes id).map fun refresh => refreshPhases refresh.phase).getD 0

/-- The steps left in a phase, those of a refresh that is still to be spawned included. -/
def phaseSteps : Phase → Nat
  | .looking _ => 5
  | .claiming _ _ | .joining _ => 4
  | .prefetching _ _ | .leading _ => 3
  | .unslotting _ _ | .following _ _ => 2
  | .racing _ _ _ | .publishing _ | .resolving _ => 1
  | .done _ _ | .aborted => 0

def refreshSteps : RefreshPhase → Nat
  | .running => 2
  | .releasing _ => 1
  | .finished _ | .panicked => 0

/-- The steps of the calls and refreshes themselves. -/
def work : Action → Nat
  | .tick _ | .evict _ | .call _ _ => 0
  | _ => 1

/-- The round trips left in a phase. -/
def phaseTrips : Phase → Nat
  | .looking _ | .claiming _ _ | .joining _ | .prefetching _ _ | .leading _ | .following _ _
  | .resolving _ => 1
  | .unslotting _ _ | .racing _ _ _ | .publishing _ | .done _ _ | .aborted => 0

def refreshTrips : RefreshPhase → Nat
  | .running => 1
  | .releasing _ | .finished _ | .panicked => 0

def trips : Action → Nat
  | .reply _ _ | .replyRefresh _ _ => 1
  | _ => 0

def started : Action → Nat
  | .call _ _ => 1
  | _ => 0

theorem moved_others (action : Action) (state after : State) (who : CallId)
    (moved : Moved config state action after) (other : worker action ≠ some who) :
    after.calls who = state.calls who ∧ after.refreshes who = state.refreshes who := by
  have different : ∀ id, worker action = some id → who ≠ id := by
    rintro id mover rfl
    exact other mover
  cases moved with
  | tick elapsed => exact ⟨rfl, rfl⟩
  | evict question => exact ⟨rfl, rfl⟩
  | prefetched present located free =>
      exact ⟨Function.update_of_ne (different _ rfl) _ _,
        Function.update_of_ne (different _ rfl) _ _⟩
  | claimed present located free =>
      exact ⟨Function.update_of_ne (different _ rfl) _ _,
        Function.update_of_ne (different _ rfl) _ _⟩
  | refreshReplied present located =>
      exact ⟨rfl, Function.update_of_ne (different _ rfl) _ _⟩
  | refreshFinished present located =>
      exact ⟨rfl, Function.update_of_ne (different _ rfl) _ _⟩
  | refreshPanicked present located =>
      exact ⟨rfl, Function.update_of_ne (different _ rfl) _ _⟩
  | _ => exact ⟨Function.update_of_ne (different _ rfl) _ _, rfl⟩

end Loads

/-! What one step takes off the loads. -/
section Meters

variable {phases : Phase → Nat} {refreshPhases : RefreshPhase → Nat}
variable {state after : State} {id : CallId} {call next : Call} {refresh later : Refresh}
variable {cost income : Nat}

theorem started_pays (fresh : state.calls id = none)
    (calls : after.calls = Function.update state.calls id (some next))
    (refreshes : after.refreshes = state.refreshes)
    (pays : cost + phases next.phase ≤ income) :
    cost + load phases refreshPhases after id ≤ load phases refreshPhases state id + income := by
  simp only [load, calls, refreshes, fresh, Function.update_self, Option.map_some,
    Option.map_none, Option.getD_some, Option.getD_none]
  omega

theorem called_pays (present : state.calls id = some call)
    (calls : after.calls = Function.update state.calls id (some next))
    (refreshes : after.refreshes = state.refreshes)
    (pays : cost + phases next.phase ≤ phases call.phase) :
    cost + load phases refreshPhases after id ≤ load phases refreshPhases state id + income := by
  simp only [load, calls, refreshes, present, Function.update_self, Option.map_some,
    Option.getD_some]
  omega

theorem spawned_pays (present : state.calls id = some call)
    (calls : after.calls = Function.update state.calls id (some next))
    (refreshes : after.refreshes = Function.update state.refreshes id (some later))
   
    (pays : cost + phases next.phase + refreshPhases later.phase ≤ phases call.phase) :
    cost + load phases refreshPhases after id ≤ load phases refreshPhases state id + income := by
  simp only [load, calls, refreshes, present, Function.update_self, Option.map_some,
    Option.getD_some]
  omega

theorem refreshed_pays (present : state.refreshes id = some refresh)
    (calls : after.calls = state.calls)
    (refreshes : after.refreshes = Function.update state.refreshes id (some later))
   
    (pays : cost + refreshPhases later.phase ≤ refreshPhases refresh.phase) :
    cost + load phases refreshPhases after id ≤ load phases refreshPhases state id + income := by
  simp only [load, calls, refreshes, present, Function.update_self, Option.map_some,
    Option.getD_some]
  omega

/-- Each step of a call or of its refresh is one step less to take. -/
theorem moved_steps (action : Action) (who : CallId) (moved : Moved config state action after)
    (mover : worker action = some who) :
    work action + load phaseSteps refreshSteps after who ≤
      load phaseSteps refreshSteps state who + 5 * started action := by
  cases moved with
  | tick elapsed => cases mover
  | evict question => cases mover
  | started fresh keyed =>
      cases mover
      exact started_pays fresh rfl rfl (Nat.le_refl 5)
  | startedUncached fresh unkeyed =>
      cases mover
      exact started_pays fresh rfl rfl (Nat.le_add_left 1 4)
  | @hit id call question response prefetch fetch resp phase present located found built next =>
      cases mover
      refine called_pays present rfl rfl ?_
      cases prefetch <;> simp [work, phaseSteps, located, next]
  | prefetched present located free =>
      cases mover
      exact spawned_pays present rfl rfl (by simp [work, phaseSteps, refreshSteps, located])
  | claimed present located free =>
      cases mover
      exact spawned_pays present rfl rfl (by simp [work, phaseSteps, refreshSteps, located])
  | aborted present located =>
      cases mover
      refine called_pays present rfl rfl ?_
      rcases located with ⟨question, stale, deadline, racing⟩ | ⟨leader, next, following⟩ |
        ⟨status, resolving⟩
      · simp [work, phaseSteps, racing]
      · simp [work, phaseSteps, following]
      · simp [work, phaseSteps, resolving]
  | refreshReplied present located =>
      cases mover
      exact refreshed_pays present rfl rfl (by simp [work, refreshSteps, located])
  | refreshFinished present located =>
      cases mover
      exact refreshed_pays present rfl rfl (by simp [work, refreshSteps, located])
  | refreshPanicked present located =>
      cases mover
      exact refreshed_pays present rfl rfl (by simp [work, refreshSteps, located])
  | _ present located =>
      cases mover
      exact called_pays present rfl rfl (by simp [work, phaseSteps, located])

/-- A call makes one round trip at most, itself or through its refresh. -/
theorem moved_trips (action : Action) (who : CallId) (moved : Moved config state action after)
    (mover : worker action = some who) :
    trips action + load phaseTrips refreshTrips after who ≤
      load phaseTrips refreshTrips state who + started action := by
  cases moved with
  | tick elapsed => cases mover
  | evict question => cases mover
  | started fresh keyed =>
      cases mover
      exact started_pays fresh rfl rfl (Nat.le_refl 1)
  | startedUncached fresh unkeyed =>
      cases mover
      exact started_pays fresh rfl rfl (Nat.le_refl 1)
  | @hit id call question response prefetch fetch resp phase present located found built next =>
      cases mover
      refine called_pays present rfl rfl ?_
      cases prefetch <;> simp [trips, phaseTrips, located, next]
  | prefetched present located free =>
      cases mover
      exact spawned_pays present rfl rfl (by simp [trips, phaseTrips, refreshTrips, located])
  | claimed present located free =>
      cases mover
      exact spawned_pays present rfl rfl (by simp [trips, phaseTrips, refreshTrips, located])
  | aborted present located =>
      cases mover
      exact called_pays present rfl rfl (Nat.zero_le _)
  | refreshReplied present located =>
      cases mover
      exact refreshed_pays present rfl rfl (by simp [trips, refreshTrips, located])
  | refreshFinished present located =>
      cases mover
      exact refreshed_pays present rfl rfl (by simp [trips, refreshTrips, located])
  | refreshPanicked present located =>
      cases mover
      exact refreshed_pays present rfl rfl (by simp [trips, refreshTrips, located])
  | _ present located =>
      cases mover
      exact called_pays present rfl rfl (by simp [trips, phaseTrips, located])

theorem load_others (action : Action) (before after : State) (who : CallId)
    (taken : step config action before = some after) (other : worker action ≠ some who) :
    load phases refreshPhases after who = load phases refreshPhases before who := by
  rcases moved_others action before after who (step_moved config action before after taken)
    other with ⟨calls, refreshes⟩
  simp only [load, calls, refreshes]

theorem metered_steps : Metered (step config) anyAction worker (load phaseSteps refreshSteps)
    work (fun action => 5 * started action) where
  others action before after who _ taken other := load_others action before after who taken other
  own action before after who _ taken mover :=
    moved_steps action who (step_moved config action before after taken) mover
  unowned action free := by cases action <;> simp_all [worker, work]

theorem metered_trips : Metered (step config) anyAction worker (load phaseTrips refreshTrips)
    trips started where
  others action before after who _ taken other := load_others action before after who taken other
  own action before after who _ taken mover :=
    moved_trips action who (step_moved config action before after taken) mover
  unowned action free := by cases action <;> simp_all [worker, trips]

theorem unloaded_new (who : CallId) : load phases refreshPhases (State.new config) who = 0 := rfl

theorem total_scaled (times : Nat) (actions : List Action) :
    total (fun action => times * started action) actions = times * total started actions := by
  induction actions with
  | nil => rfl
  | cons action rest ih => rw [total_cons, total_cons, ih, Nat.mul_add]

/-- Every ended round trip was a reply. -/
theorem replies_counted {actions : List Action}
    (run : Run (step config) anyAction (State.new config) actions after) :
    after.replies.length = total trips actions := by
  refine run_history (motive := fun actions after =>
    after.replies.length = total trips actions) rfl ?_ run
  intro front action before after _ counted _ taken
  have last : after.replies.length = before.replies.length + trips action := by
    cases step_moved config action before after taken with
    | leaderReplied present located => exact List.length_append
    | replied present located => exact List.length_append
    | refreshReplied present located => exact List.length_append
    | _ => rfl
  rw [total_append, total_cons, total_nil, Nat.add_zero, ← counted]
  exact last

end Meters

/-! Where no step is left. -/
section Rest

/-- The steps that wait for nothing but the answers of the upstreams. -/
def goesOn (answers : Task → Option Message) : Action → Prop
  | .advance _ | .finishRefresh _ => True
  | .reply id response => response = answers (.call id)
  | .replyRefresh id response => response = answers (.refresh id)
  | _ => False

theorem goes_on_costly (answers : Task → Option Message) (action : Action)
    (goes : goesOn answers action) : 0 < work action ∧ 5 * started action = 0 := by
  cases action <;> simp_all [goesOn, work, started]

/-- Every refresh has ended, and every call but the followers of an aborted leader;
only such leaders are in a slot. -/
structure AtRest (state : State) : Prop where
  refreshes : ∀ id refresh, state.refreshes id = some refresh → guards refresh.phase = false
  inFlight : ∀ key, state.inFlight key = false
  calls : ∀ id call, state.calls id = some call → settled call.phase = true ∨
    ∃ leader next owner, call.phase = .following leader next ∧
      state.calls leader = some owner ∧ owner.phase = .aborted
  slots : ∀ key leader, state.singleFlight key = some leader → Orphaned key leader state

variable {answers : Task → Option Message} {state : State}

theorem stuck_refresh (stuck : Stuck (step config) (goesOn answers) state) (id : CallId)
    (refresh : Refresh) (present : state.refreshes id = some refresh) :
    guards refresh.phase = false := by
  cases located : refresh.phase with
  | running =>
      have refused := stuck (.replyRefresh id (answers (.refresh id))) rfl
      simp [step, present, Pool.replyRefresh, located] at refused
  | releasing outcome =>
      have refused := stuck (.finishRefresh id) trivial
      simp [step, present, Pool.finishRefresh, located] at refused
  | finished outcome => rfl
  | panicked => rfl

/-- A call that waits for no other call or refresh goes on. -/
theorem stuck_call (stuck : Stuck (step config) (goesOn answers) state) (id : CallId)
    (call : Call) (present : state.calls id = some call) :
    settled call.phase = true ∨
      (∃ question stale deadline, call.phase = .racing question stale deadline) ∨
      ∃ leader next, call.phase = .following leader next := by
  have advanced := stuck (.advance id) trivial
  have replied := stuck (.reply id (answers (.call id))) rfl
  simp only [step, present, Option.bind_some] at advanced replied
  cases located : call.phase with
  | racing question stale deadline => exact Or.inr (Or.inl ⟨question, stale, deadline, rfl⟩)
  | following leader next => exact Or.inr (Or.inr ⟨leader, next, rfl⟩)
  | done outcome status => exact Or.inl rfl
  | aborted => exact Or.inl rfl
  | leading question => simp [replyCall, located] at replied
  | resolving status => simp [replyCall, located] at replied
  | _ => simp [Pool.advance, located] at advanced

/-- The refresh a racing call waits for has ended, and the call can see it. -/
theorem racing_advances (sound : Sound config state) (id : CallId) (call : Call)
    (question : Query) (stale : Outcome) (deadline : Nat)
    (present : state.calls id = some call)
    (located : call.phase = .racing question stale deadline)
    (ended : ∀ refresh, state.refreshes id = some refresh → guards refresh.phase = false) :
    step config (.advance id) state ≠ none := by
  have waits := sound.calls id call present
  rw [located] at waits
  rcases waits with ⟨_, _, refresh, spawned⟩
  have past := ended refresh spawned
  simp only [step, present, Option.bind_some, Pool.advance, located, raceStep, spawned,
    Option.map_some]
  cases phase : refresh.phase with
  | running =>
      rw [phase] at past
      cases past
  | releasing outcome =>
      rw [phase] at past
      cases past
  | finished outcome => cases answer : outcome.answer <;> simp [answer]
  | panicked => simp

/-- Where nothing can go on, a call has settled or follows an aborted leader. -/
theorem stuck_settled (slots : Coalesced True state) (sound : Sound config state)
    (stuck : Stuck (step config) (goesOn answers) state) (id : CallId) (call : Call)
    (present : state.calls id = some call) : settled call.phase = true ∨
      ∃ leader next owner, call.phase = .following leader next ∧
        state.calls leader = some owner ∧ owner.phase = .aborted := by
  rcases stuck_call stuck id call present with
    past | ⟨question, stale, deadline, racing⟩ | ⟨leader, next, following⟩
  · exact Or.inl past
  · have possible := racing_advances sound id call question stale deadline present racing
      (stuck_refresh stuck id)
    exact absurd (stuck (.advance id) trivial) possible
  · right
    rcases follower_reads state id call leader next slots present following with
      ⟨rfl, owner, led, ⟨outcome, _, sent⟩ | ⟨running, _⟩ | ⟨aborted, _⟩⟩
    · have refused := stuck (.advance id) trivial
      simp [step, present, Pool.advance, following, recvStep, sent] at refused
    -- A running leader waits for nobody else.
    · rcases stuck_call stuck leader owner led with
        past | ⟨_, _, _, racing⟩ | ⟨_, _, chained⟩
      · cases phase : owner.phase <;> simp_all [leaderRunning, settled]
      · rw [racing] at running
        cases running
      · rw [chained] at running
        cases running
    · exact ⟨leader, 0, owner, following, led, aborted⟩

theorem stuck_at_rest (slots : Coalesced True state) (sound : Sound config state)
    (guarded : Guarded state) (stuck : Stuck (step config) (goesOn answers) state) :
    AtRest state := by
  refine ⟨stuck_refresh stuck, ?_, stuck_settled slots sound stuck, ?_⟩
  · intro key
    by_contra taken
    rcases guarded.owned key ((Bool.not_eq_false _).mp taken) with
      ⟨id, refresh, present, _, holding⟩
    rw [stuck_refresh stuck id refresh present] at holding
    cases holding
  · intro key leader slot
    rcases slots.slotHeld key leader slot with ⟨owner, present, holding | ⟨aborted, _⟩⟩
    · exfalso
      rcases stuck_settled slots sound stuck leader owner present with
        past | ⟨_, _, _, following, _⟩
      · cases phase : owner.phase <;> simp_all [holds, settled]
      · rw [following] at holding
        cases holding
    · exact ⟨slot, owner, present, aborted⟩

end Rest

/-! The followers of an aborted leader. -/
section Orphans

variable {answers : Task → Option Message}

/-- An aborted leader whose sender is still in the slot map. -/
def Stranded (state : State) (leader : CallId) : Prop :=
  ∃ call, state.calls leader = some call ∧ call.phase = .aborted ∧
    state.channels leader = ⟨1, [], 1⟩

/-- Such a leader has its slot to this day. -/
def Occupied (state : State) : Prop :=
  ∀ leader, Stranded state leader → ∃ key, state.singleFlight key = some leader

theorem occupied_step (action : Action) (state after : State) (slots : Coalesced True state)
    (occupied : Occupied state) (taken : step config action state = some after) :
    Occupied after := by
  rintro leader ⟨call, present, aborted, channel⟩
  -- One that was stranded before keeps its slot.
  have stayed : state.calls leader = some call →
      after.channels leader = state.channels leader →
      ∃ key, after.singleFlight key = some leader := by
    intro before same
    rcases occupied leader ⟨call, before, aborted, same ▸ channel⟩ with ⟨key, slot⟩
    exact ⟨key, (orphaned_step config action state after key leader slots
      ⟨slot, call, before, aborted⟩ taken).1⟩
  -- Any other step of a call leaves it in another phase.
  have turned : ∀ id next, after.calls = Function.update state.calls id (some next) →
      next.phase ≠ .aborted → (leader ≠ id → after.channels leader = state.channels leader) →
      ∃ key, after.singleFlight key = some leader := by
    intro id next calls alive channels
    rcases update_some calls present with ⟨rfl, rfl⟩ | ⟨other, before⟩
    · exact absurd aborted alive
    · exact stayed before (channels other)
  cases step_moved config action state after taken with
  | tick elapsed => exact stayed present rfl
  | evict question => exact stayed present rfl
  | @hit id call question response prefetch fetch resp phase found located looked built next =>
      refine turned _ _ rfl ?_ (fun _ => rfl)
      cases prefetch <;> simp [next]
  | led found located free =>
      exact turned _ _ rfl Phase.noConfusion (fun other => Function.update_of_ne other _ _)
  | @unslotted id mover question outcome found located =>
      refine turned _ _ rfl Phase.noConfusion (fun other => ?_)
      have held := slots.holderSlotted id mover question.key found (by rw [located]; rfl)
      rw [unslot_own state id mover question outcome held]
      exact Function.update_of_ne other _ _
  | published found located =>
      exact turned _ _ rfl Phase.noConfusion (fun other => Function.update_of_ne other _ _)
  | @leaderAborted id mover question found located =>
      rcases update_some rfl present with ⟨rfl, -⟩ | ⟨other, before⟩
      · exact ⟨question.key, slots.holderSlotted leader mover _ found (by rw [located]; rfl)⟩
      · exact stayed before (Function.update_of_ne other _ _)
  | @aborted id mover found located =>
      rcases update_some rfl present with ⟨rfl, -⟩ | ⟨other, before⟩
      · -- A call that led nothing has no sender.
        have fits := slots.channelFits leader
        have same : state.channels leader = ⟨1, [], 1⟩ := channel
        rw [found, Option.map_some, same] at fits
        rcases located with ⟨_, _, _, phase⟩ | ⟨_, _, phase⟩ | ⟨_, phase⟩ <;>
          simp [phase, ChannelFits] at fits
      · exact stayed before rfl
  | refreshReplied found located => exact stayed present rfl
  | refreshFinished found located => exact stayed present rfl
  | refreshPanicked found located => exact stayed present rfl
  | _ => exact turned _ _ rfl Phase.noConfusion (fun _ => rfl)

theorem reachable_occupied (actions : List Action) (after : State)
    (run : Run (step config) anyAction (State.new config) actions after) : Occupied after := by
  have both : Coalesced True after ∧ Occupied after :=
    run_invariant (motive := fun state => Coalesced True state ∧ Occupied state)
      (fun action before next kept _ taken =>
        ⟨coalesced_step config action before next kept.1 (Or.inl trivial) taken,
          occupied_step action before next kept.1 kept.2 taken⟩)
      run ⟨coalesced_new True config, fun _ stranded => nomatch stranded.choose_spec.1⟩
  exact both.2

/-- Only the abort of a leader strands a slot. -/
theorem orphaned_before (action : Action) (state after : State) (key : Query) (leader : CallId)
    (goes : goesOn answers action) (orphaned : Orphaned key leader after)
    (taken : step config action state = some after) : Orphaned key leader state := by
  rcases orphaned with ⟨slot, call, present, aborted⟩
  have moved := step_moved config action state after taken
  -- The leader was aborted before, since this step aborts nobody.
  have before : state.calls leader = some call := by
    rcases moved_calls config action state after moved with same | ⟨id, next, _, calls, _, aborts⟩
    · exact same ▸ present
    · rcases update_some calls present with ⟨_, rfl⟩ | ⟨_, before⟩
      · rw [aborts aborted] at goes
        cases goes
      · exact before
  rcases moved_slot config action state after key leader moved slot with
    held | ⟨joiner, question, found, joining, _⟩
  · exact ⟨held, call, before, aborted⟩
  · rw [before, Option.some.injEq] at found
    subst joiner
    rw [aborted] at joining
    cases joining

theorem orphaned_iff {state after : State} {actions : List Action} (slots : Coalesced True state)
    (run : Run (step config) (fun action _ => goesOn answers action) state actions after)
    (key : Query) (leader : CallId) : Orphaned key leader after ↔ Orphaned key leader state := by
  constructor
  · intro orphaned
    induction run with
    | refl => exact orphaned
    | @next before middle after action rest goes taken _ ih =>
        have later := coalesced_step config action before middle slots (Or.inl trivial) taken
        exact orphaned_before action before middle key leader goes (ih later orphaned) taken
  · intro orphaned
    exact orphaned_run config _ state after actions key leader slots orphaned run

/-- Every call has come to an end and no slot is taken. -/
structure AllDone (state : State) : Prop where
  refreshes : ∀ id refresh, state.refreshes id = some refresh → guards refresh.phase = false
  inFlight : ∀ key, state.inFlight key = false
  calls : ∀ id call, state.calls id = some call → settled call.phase = true
  slots : ∀ key, state.singleFlight key = none

theorem all_done_iff (state : State) (slots : Coalesced True state) (occupied : Occupied state)
    (rest : AtRest state) : AllDone state ↔ ∀ key leader, ¬Orphaned key leader state := by
  constructor
  · rintro done key leader ⟨slot, _⟩
    rw [done.slots key] at slot
    cases slot
  · intro free
    refine ⟨rest.refreshes, rest.inFlight, ?_, ?_⟩
    · intro id call present
      rcases rest.calls id call present with past | ⟨leader, next, owner, following, led, aborted⟩
      · exact past
      · -- An aborted leader that is followed still has its slot.
        exfalso
        rcases (slots.followerFits id call leader present
          (slots.subscribed id call leader next present following)).led with ⟨other, same, leads⟩
        rw [led, Option.some.injEq] at same
        subst other
        rw [aborted] at leads
        rcases occupied leader ⟨owner, led, aborted, leads⟩ with ⟨key, slot⟩
        exact free key leader ⟨slot, owner, led, aborted⟩
    · intro key
      cases slot : state.singleFlight key with
      | none => rfl
      | some leader => exact absurd (rest.slots key leader slot) (free key leader)

end Orphans

/-- What every continuation of a run comes to, in whatever order its steps are taken. -/
structure Drains (config : Config) (answers : Task → Option Message) (actions : List Action)
    (after : State) : Prop where
  bounded : ∀ more last, Run (step config) (fun action _ => goesOn answers action) after more last →
    total work actions + more.length ≤ 5 * total started actions
  ends : ∃ more last, Run (step config) (fun action _ => goesOn answers action) after more last ∧
    Stuck (step config) (goesOn answers) last
  rests : ∀ more last, Run (step config) (fun action _ => goesOn answers action) after more last →
    Stuck (step config) (goesOn answers) last →
    AtRest last ∧ (AllDone last ↔ ∀ key leader, ¬Orphaned key leader after)

/-- From every state the pool can come to, whatever the upstreams answer: the calls go on
until nothing is left to do, within five steps a call, and all of them end exactly when no
aborted leader is in a slot. -/
theorem pool_drains (config : Config) (answers : Task → Option Message) (actions : List Action)
    (after : State) (run : Run (step config) anyAction (State.new config) actions after) :
    Drains config answers actions after := by
  have continued : ∀ more last,
      Run (step config) (fun action _ => goesOn answers action) after more last →
      Run (step config) anyAction (State.new config) (actions ++ more) last := by
    intro more last later
    exact run_append run (run_weaken (fun _ _ _ => trivial) later)
  constructor
  · intro more last later
    have within := helped_within (metered_budgeted metered_steps unloaded_new)
      (goes_on_costly answers) run later
    rwa [total_scaled] at within
  · exact runs_out (metered_budgeted metered_steps unloaded_new) (goes_on_costly answers) run
  · intro more last later stuck
    have whole := continued more last later
    rcases reachable_sound config anyAction _ last whole with ⟨slots, sound⟩
    have rest := stuck_at_rest slots sound (reachable_guarded _ last whole).1 stuck
    refine ⟨rest, ?_⟩
    rw [all_done_iff last slots (reachable_occupied _ last whole) rest]
    have here := (reachable_sound config anyAction actions after run).1
    exact forall_congr' fun key => forall_congr' fun leader =>
      not_congr (orphaned_iff here later key leader)

/-- A leader that is aborted with a follower behind it. -/
def strandedActions : List Pool.Action :=
  [.call 0 sampleQuery, .advance 0, .advance 0, .call 1 sampleQuery, .advance 1, .advance 1,
    .abort 0]

/-- There the pool comes to rest at once, with the slot taken and the follower waiting. -/
theorem pool_drains_stranded :
    ∃ after, exec (step sampleConfig) strandedActions (State.new sampleConfig) = some after ∧
      after.singleFlight sampleQuestion.key = some 0 ∧
      (after.calls 1).map Call.phase = some (.following 0 0) ∧
      Drains sampleConfig (fun _ => some (sampleReply 300)) strandedActions after := by
  have executed : exec (step sampleConfig) strandedActions (State.new sampleConfig) = some _ := rfl
  exact ⟨_, executed, rfl, rfl, pool_drains sampleConfig _ _ _ (exec_run executed)⟩

/-! Round trips. -/
section RoundTrips

/-- The call a round trip was made for. -/
def asker : Task → CallId
  | .call id | .refresh id => id

def asked (id : CallId) (state : State) : Nat :=
  (state.replies.filter fun reply => asker reply.fetch.task = id).length

theorem asked_moved (action : Action) (state after : State) (who : CallId)
    (moved : Moved config state action after) :
    asked who after = asked who state + if worker action = some who then trips action else 0 := by
  -- A reply is logged for the call that waited for it.
  have logged : ∀ task query response, after.replies =
      state.replies ++ [⟨state.fetched task query, response⟩] →
      asked who after = asked who state + if asker task = who then 1 else 0 := by
    intro task query response same
    simp only [asked, same, List.filter_append, List.length_append, State.fetched]
    by_cases own : asker task = who <;> simp [own]
  cases moved with
  | leaderReplied present located =>
      simp only [worker, trips, Option.some.injEq]
      exact logged _ _ _ rfl
  | replied present located =>
      simp only [worker, trips, Option.some.injEq]
      exact logged _ _ _ rfl
  | refreshReplied present located =>
      simp only [worker, trips, Option.some.injEq]
      exact logged _ _ _ rfl
  | _ => simp [trips, asked, State.setPhase, State.setCall, State.count, State.setRefresh,
      State.claimRefresh, State.releaseRefresh, State.setChannel, servingStale, unslotStep,
      publishStep]

def startedBy (who : CallId) : Action → Nat
  | .call id _ => if id = who then 1 else 0
  | _ => 0

/-- A call is started once. -/
theorem started_once (who : CallId) {after : State} {actions : List Action}
    (run : Run (step config) anyAction (State.new config) actions after) :
    total (startedBy who) actions ≤ if (after.calls who).isSome then 1 else 0 := by
  refine run_history (motive := fun actions after =>
    total (startedBy who) actions ≤ if (after.calls who).isSome then 1 else 0)
    (Nat.zero_le _) ?_ run
  intro front action before after _ once _ taken
  rw [total_append, total_cons, total_nil, Nat.add_zero]
  rcases moved_calls config action before after (step_moved config action before after taken) with
    same | ⟨id, next, acted, calls, _⟩
  · rw [same]
    cases action with
    | call id query =>
        -- A call that starts is not there before.
        cases fresh : before.calls id with
        | some call => simp [step, fresh] at taken
        | none =>
            have present : after.calls id ≠ none := by
              simp only [step, fresh, Option.some.injEq] at taken
              subst after
              unfold startCall
              split <;> simp [State.setCall]
            rw [same] at present
            exact absurd fresh present
    | _ => exact once
  · by_cases own : who = id
    · subst id
      simp only [calls, Function.update_self, Option.isSome_some, if_true]
      cases action with
      | call other query =>
          cases fresh : before.calls other with
          | some call => simp [step, fresh] at taken
          | none =>
              cases acted
              simp only [fresh, Option.isSome_none, Bool.false_eq_true, if_false] at once
              simp only [startedBy, if_true]
              omega
      | _ =>
          refine Nat.le_trans once ?_
          split <;> simp
    · rw [calls, Function.update_of_ne own]
      cases action with
      | call other query =>
          cases acted
          simp only [startedBy, if_neg (Ne.symm own)]
          exact once
      | _ => exact once

/-- What a call has asked and may still ask. -/
theorem asked_within (who : CallId) {after : State} {actions : List Action}
    (run : Run (step config) anyAction (State.new config) actions after) :
    asked who after + load phaseTrips refreshTrips after who ≤ total (startedBy who) actions := by
  refine run_history (motive := fun actions after =>
    asked who after + load phaseTrips refreshTrips after who ≤ total (startedBy who) actions)
    ?_ ?_ run
  · exact Nat.le_refl 0
  intro front action before after _ within _ taken
  have moved := step_moved config action before after taken
  rw [total_append, total_cons, total_nil, Nat.add_zero, asked_moved action before after who moved]
  by_cases mover : worker action = some who
  · have paid := moved_trips action who moved mover
    have starts : started action = startedBy who action := by
      cases action with
      | call id query =>
          cases mover
          simp [started, startedBy]
      | _ => rfl
    rw [if_pos mover]
    omega
  · rw [if_neg mover, load_others action before after who taken mover]
    omega

variable {config : Config} {actions : List Action} {after : State}

theorem asked_once (id : CallId)
    (run : Run (step config) anyAction (State.new config) actions after) :
    (after.replies.filter fun reply => asker reply.fetch.task = id).length ≤ 1 := by
  have within := asked_within id run
  have once := started_once id run
  simp only [asked] at within
  split at once <;> omega

theorem replies_within (run : Run (step config) anyAction (State.new config) actions after) :
    after.replies.length ≤ total started actions := by
  have within := metered_run metered_trips unloaded_new run
  rw [replies_counted run]
  omega

end RoundTrips

/-- However the calls interleave, each makes one upstream round trip at most, itself or
through the refresh it spawned; so the upstreams are asked no more often than the pool. -/
theorem round_trips_bounded (config : Config) (actions : List Action) (after : State)
    (run : Run (step config) anyAction (State.new config) actions after) :
    (∀ id, (after.replies.filter fun reply => asker reply.fetch.task = id).length ≤ 1) ∧
      after.replies.length ≤ total started actions :=
  ⟨fun id => asked_once id run, replies_within run⟩

/-- A leader, a stale hit with its refresh, and a leader after an eviction. -/
theorem round_trips_bounded_crowded :
    ∃ after, exec (step sampleConfig) crowdedActions (State.new sampleConfig) = some after ∧
      (∀ id, (after.replies.filter fun reply => asker reply.fetch.task = id).length ≤ 1) ∧
      after.replies.length ≤ total started crowdedActions := by
  have executed : exec (step sampleConfig) crowdedActions (State.new sampleConfig) = some _ := rfl
  exact ⟨_, executed, round_trips_bounded sampleConfig _ _ (exec_run executed)⟩

end Dnsix.PoolProgress
