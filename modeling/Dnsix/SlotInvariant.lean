import Dnsix.PoolFrames

/-!
The invariant of the coalescing of concurrent misses. It ties the slot map, the
phases of the leaders and the channels of their followers together in every
state the pool can reach. One move of one call is enough to carry it: the other
calls see the mover only as the leader they may be subscribed to.
-/

namespace Dnsix.SlotInvariant
open Dns ResponseCache Broadcast Transition Pool

/-- The key whose slot a call holds: from taking the slot to removing it. -/
def holds : Phase → Option Query
  | .leading question | .unslotting question _ => some question.key
  | _ => none

/-- A leader that has neither returned nor been aborted. -/
def leaderRunning : Phase → Bool
  | .leading _ | .unslotting _ _ | .publishing _ => true
  | _ => false

/-- The channel a call owns, by the phase of the call. The second sender of a
running leader is the clone in the slot map; only where `orphans` are allowed can
that clone outlive its leader. -/
def ChannelFits (orphans : Prop) : Option Phase → Channel Outcome → Prop
  | some (.leading _), ch => ch = ⟨1, [], 2⟩
  | some (.unslotting _ _), ch => ch = ⟨1, [], 2⟩
  | some (.publishing _), ch => ch = ⟨1, [], 1⟩
  | some (.done outcome _), ch => ch = ⟨1, [], 0⟩ ∨ ch = ⟨1, [outcome], 0⟩
  | some .aborted, ch => ch = ⟨1, [], 0⟩ ∨ (orphans ∧ ch = ⟨1, [], 1⟩)
  | _, ch => ch = ⟨1, [], 0⟩

/-- A call whose channel was subscribed to: it leads, or it led to an answer, or
it was aborted while leading and left one sender behind. -/
def Led : Phase → Channel Outcome → Prop
  | .leading _, _ | .unslotting _ _, _ | .publishing _, _ => True
  | .done outcome status, ch => status = .Miss ∧ ch = ⟨1, [outcome], 0⟩
  | .aborted, ch => ch = ⟨1, [], 1⟩
  | _, _ => False

structure FollowerFits (state : State) (call : Call) (leader : CallId) : Prop where
  led : ∃ owner, state.calls leader = some owner ∧ Led owner.phase (state.channels leader)
  placed : call.phase = .following leader 0 ∨ call.phase = .aborted ∨
    ∃ outcome owner, call.phase = .done outcome .Miss ∧
      state.calls leader = some owner ∧ owner.phase = .done outcome .Miss

structure Coalesced (orphans : Prop) (state : State) : Prop where
  channelFits : ∀ id, ChannelFits orphans ((state.calls id).map Call.phase) (state.channels id)
  holderSlotted : ∀ id call key, state.calls id = some call → holds call.phase = some key →
    state.singleFlight key = some id
  slotHeld : ∀ key leader, state.singleFlight key = some leader →
    ∃ call, state.calls leader = some call ∧ (holds call.phase = some key ∨
      (call.phase = .aborted ∧ state.channels leader = ⟨1, [], 1⟩))
  followerFits : ∀ id call leader, state.calls id = some call → call.followed = some leader →
    FollowerFits state call leader
  subscribed : ∀ id call leader next, state.calls id = some call →
    call.phase = .following leader next → call.followed = some leader

theorem coalesced_new (orphans : Prop) (config : Config) :
    Coalesced orphans (State.new config) := by
  constructor
  · intro id
    exact rfl
  · intro id call key present
    cases present
  · intro key leader slot
    cases slot
  · intro id call leader present
    cases present
  · intro id call leader next present
    cases present

variable {orphans : Prop}

/-- The invariant reads nothing but the calls, the slots and the channels. -/
theorem coalesced_congr (state after : State) (inv : Coalesced orphans state)
    (calls : after.calls = state.calls) (slots : after.singleFlight = state.singleFlight)
    (channels : after.channels = state.channels) : Coalesced orphans after := by
  constructor
  · intro id
    rw [calls, channels]
    exact inv.channelFits id
  · rw [calls, slots]
    exact inv.holderSlotted
  · rw [calls, slots, channels]
    exact inv.slotHeld
  · intro id call leader present followed
    rw [calls] at present
    obtain ⟨led, placed⟩ := inv.followerFits id call leader present followed
    constructor
    · rw [calls, channels]
      exact led
    · rw [calls]
      exact placed
  · rw [calls]
    exact inv.subscribed

/-- One call moves, and with it at most its own slot and its own channel. -/
theorem coalesced_moved (state after : State) (id : CallId) (moved : Call)
    (inv : Coalesced orphans state)
    (calls : after.calls = Function.update state.calls id (some moved))
    (elsewhere : ∀ other, other ≠ id → after.channels other = state.channels other)
    (fits : ChannelFits orphans (some moved.phase) (after.channels id))
    (led : ∀ call, state.calls id = some call → Led call.phase (state.channels id) →
      Led moved.phase (after.channels id))
    (unfinished : ∀ call outcome status, state.calls id = some call →
      call.phase ≠ .done outcome status)
    (slots : ∀ key leader, leader ≠ id →
      (after.singleFlight key = some leader ↔ state.singleFlight key = some leader))
    (held : ∀ key, holds moved.phase = some key → after.singleFlight key = some id)
    (own : ∀ key, after.singleFlight key = some id → holds moved.phase = some key ∨
      (moved.phase = .aborted ∧ after.channels id = ⟨1, [], 1⟩))
    (follows : ∀ leader, moved.followed = some leader → FollowerFits after moved leader)
    (subscribed : ∀ leader next, moved.phase = .following leader next →
      moved.followed = some leader) :
    Coalesced orphans after := by
  have self : after.calls id = some moved := by rw [calls, Function.update_self]
  have others : ∀ other, other ≠ id → after.calls other = state.calls other := by
    intro other different
    rw [calls, Function.update_of_ne different]
  constructor
  · intro other
    by_cases same : other = id
    · subst other
      rw [self]
      exact fits
    · rw [others other same, elsewhere other same]
      exact inv.channelFits other
  · intro other call key present holding
    by_cases same : other = id
    · subst other
      rw [self, Option.some.injEq] at present
      subst call
      exact held key holding
    · rw [others other same] at present
      exact (slots key other same).mpr (inv.holderSlotted other call key present holding)
  · intro key leader slot
    by_cases same : leader = id
    · subst leader
      exact ⟨moved, self, own key slot⟩
    · rw [others leader same, elsewhere leader same]
      exact inv.slotHeld key leader ((slots key leader same).mp slot)
  · intro other call leader present followed
    by_cases same : other = id
    · subst other
      rw [self, Option.some.injEq] at present
      subst call
      exact follows leader followed
    · rw [others other same] at present
      obtain ⟨⟨owner, located, leads⟩, placed⟩ :=
        inv.followerFits other call leader present followed
      -- A follower may be subscribed to the mover.
      by_cases mine : leader = id
      · -- The leader itself moved: it was not done, so no follower was matched with it.
        subst leader
        constructor
        · exact ⟨moved, self, led owner located leads⟩
        · rcases placed with following | aborted | ⟨outcome, finished, _, found, ended⟩
          · exact Or.inl following
          · exact Or.inr (Or.inl aborted)
          · exact absurd ended (unfinished finished outcome .Miss found)
      · constructor
        · rw [others leader mine, elsewhere leader mine]
          exact ⟨owner, located, leads⟩
        · rw [others leader mine]
          exact placed
  · intro other call leader next present following
    by_cases same : other = id
    · subst other
      rw [self, Option.some.injEq] at present
      subst call
      exact subscribed leader next following
    · rw [others other same] at present
      exact inv.subscribed other call leader next present following

/-- A phase in which a call has no slot, no open channel and no leader. -/
def solo : Phase → Bool
  | .looking _ | .prefetching _ _ | .claiming _ _ | .racing _ _ _ | .joining _
  | .resolving _ => true
  | _ => false

theorem solo_unfollowed (state : State) (id : CallId) (call : Call) (inv : Coalesced orphans state)
    (present : state.calls id = some call) (alone : solo call.phase = true) :
    call.followed = none := by
  cases followed : call.followed with
  | none => rfl
  | some leader =>
      rcases (inv.followerFits id call leader present followed).placed with
        following | aborted | ⟨outcome, owner, finished, _⟩
      · simp [following, solo] at alone
      · simp [aborted, solo] at alone
      · simp [finished, solo] at alone

/-- A call with a solo phase holds no slot and its channel was never opened. -/
theorem solo_slotless (state : State) (id : CallId) (inv : Coalesced orphans state)
    (alone : ∀ call, state.calls id = some call → solo call.phase = true) (key : Query) :
    state.singleFlight key ≠ some id := by
  intro slot
  obtain ⟨call, present, held | ⟨aborted, _⟩⟩ := inv.slotHeld key id slot
  · have single := alone call present
    cases phase : call.phase <;> simp_all [solo, holds]
  · have single := alone call present
    simp [aborted, solo] at single

theorem solo_channel (state : State) (id : CallId) (inv : Coalesced orphans state)
    (alone : ∀ call, state.calls id = some call → solo call.phase = true) :
    state.channels id = ⟨1, [], 0⟩ := by
  have fits := inv.channelFits id
  cases present : state.calls id with
  | none =>
      rw [present] at fits
      exact fits
  | some call =>
      have single := alone call present
      rw [present] at fits
      cases phase : call.phase <;> simp_all [solo, ChannelFits]

/-- The moves of a call that coalesces with nobody. -/
theorem coalesced_solo (state after : State) (id : CallId) (moved : Call)
    (inv : Coalesced orphans state)
    (alone : ∀ call, state.calls id = some call → solo call.phase = true)
    (calls : after.calls = Function.update state.calls id (some moved))
    (slots : after.singleFlight = state.singleFlight)
    (channels : after.channels = state.channels)
    (unfollowed : moved.followed = none)
    (landed : solo moved.phase = true ∨ (∃ outcome status, moved.phase = .done outcome status) ∨
      moved.phase = .aborted) :
    Coalesced orphans after := by
  have closed : after.channels id = ⟨1, [], 0⟩ := by
    rw [channels]
    exact solo_channel state id inv alone
  refine coalesced_moved state after id moved inv calls ?_ ?_ ?_ ?_ ?_ ?_ ?_ ?_ ?_
  · intro other _
    rw [channels]
  · rw [closed]
    rcases landed with single | ⟨outcome, status, finished⟩ | aborted
    · cases phase : moved.phase <;> simp_all [solo, ChannelFits]
    · rw [finished]
      exact Or.inl rfl
    · rw [aborted]
      exact Or.inl rfl
  · intro call present leads
    have single := alone call present
    cases phase : call.phase <;> simp_all [solo, Led]
  · intro call outcome status present finished
    have single := alone call present
    simp [finished, solo] at single
  · intro key leader _
    rw [slots]
  · intro key holding
    rcases landed with single | ⟨outcome, status, finished⟩ | aborted
    · cases phase : moved.phase <;> simp_all [solo, holds]
    · simp [finished, holds] at holding
    · simp [aborted, holds] at holding
  · intro key slot
    rw [slots] at slot
    exact absurd slot (solo_slotless state id inv alone key)
  · intro leader followed
    rw [unfollowed] at followed
    cases followed
  · intro leader next following
    rcases landed with single | ⟨outcome, status, finished⟩ | aborted
    · simp [following, solo] at single
    · simp [finished] at following
    · simp [aborted] at following

/-- What a follower reads: its leader's answer once the leader is done, and
until then it waits. It never sees a lagged or a closed channel. -/
theorem follower_reads (state : State) (id : CallId) (call : Call) (leader : CallId) (next : Nat)
    (inv : Coalesced orphans state) (present : state.calls id = some call)
    (following : call.phase = .following leader next) :
    next = 0 ∧ ∃ owner, state.calls leader = some owner ∧
      ((∃ outcome, owner.phase = .done outcome .Miss ∧
          (state.channels leader).recv 0 = .value outcome) ∨
        (leaderRunning owner.phase = true ∧ (state.channels leader).recv 0 = .pending) ∨
        (owner.phase = .aborted ∧ (state.channels leader).recv 0 = .pending)) := by
  have followed := inv.subscribed id call leader next present following
  obtain ⟨⟨owner, located, leads⟩, placed⟩ := inv.followerFits id call leader present followed
  have start : next = 0 := by
    rcases placed with first | aborted | ⟨outcome, _, finished, _⟩
    · rw [following] at first
      injection first
    · simp [following] at aborted
    · simp [following] at finished
  refine ⟨start, owner, located, ?_⟩
  have fits := inv.channelFits leader
  rw [located] at fits
  cases phase : owner.phase with
  | leading question =>
      rw [Option.map_some, phase] at fits
      exact Or.inr (Or.inl ⟨rfl, by rw [fits]; rfl⟩)
  | unslotting question outcome =>
      rw [Option.map_some, phase] at fits
      exact Or.inr (Or.inl ⟨rfl, by rw [fits]; rfl⟩)
  | publishing outcome =>
      rw [Option.map_some, phase] at fits
      exact Or.inr (Or.inl ⟨rfl, by rw [fits]; rfl⟩)
  | done outcome status =>
      rw [phase] at leads
      obtain ⟨missed, sent⟩ := leads
      subst status
      exact Or.inl ⟨outcome, rfl, by
        rw [sent]
        exact recv_single_sent _ outcome Nat.one_pos rfl⟩
  | aborted =>
      rw [phase] at leads
      exact Or.inr (Or.inr ⟨rfl, by rw [leads]; rfl⟩)
  | _ => simp [phase, Led] at leads

theorem coalesced_followed (state : State) (id leader : CallId) (call : Call)
    (question : Query) (inv : Coalesced orphans state) (present : state.calls id = some call)
    (located : call.phase = .joining question)
    (slot : state.singleFlight question.key = some leader) :
    Coalesced orphans (state.setCall id
      { call with
        phase := .following leader (state.channels leader).subscribe
        followed := some leader }) := by
  have alone : ∀ other, state.calls id = some other → solo other.phase = true := by
    intro other same
    rw [present, Option.some.injEq] at same
    subst other
    simp [located, solo]
  -- A call joins before it can hold a slot, so it never follows itself.
  have different : leader ≠ id := by
    intro same
    subst leader
    exact solo_slotless state id inv alone question.key slot
  obtain ⟨owner, found, leads⟩ := inv.slotHeld question.key leader slot
  have fits := inv.channelFits leader
  rw [found] at fits
  -- Whoever is in the slot has not sent, so the follower starts at the first value.
  have opened : Led owner.phase (state.channels leader) ∧
      (state.channels leader).subscribe = 0 := by
    rcases leads with holding | ⟨aborted, orphan⟩
    · cases phase : owner.phase <;> simp_all [holds, Led, ChannelFits, Channel.subscribe]
    · rw [aborted, orphan]
      exact ⟨rfl, rfl⟩
  refine coalesced_moved state _ id _ inv rfl ?_ ?_ ?_ ?_ ?_ ?_ ?_ ?_ ?_
  · intro other _
    rfl
  · exact solo_channel state id inv alone
  · intro other same leading
    have single := alone other same
    cases phase : other.phase <;> simp_all [solo, Led]
  · intro other outcome status same finished
    have single := alone other same
    simp [finished, solo] at single
  · intro key other _
    rfl
  · intro key holding
    cases holding
  · intro key taken
    exact absurd taken (solo_slotless state id inv alone key)
  · intro other followed
    simp only [Option.some.injEq] at followed
    subst other
    refine ⟨⟨owner, ?_, opened.1⟩, Or.inl ?_⟩
    · exact (Function.update_of_ne different _ _).trans found
    · rw [opened.2]
  · intro other next following
    injection following with same _
    rw [same]

theorem coalesced_led (state : State) (id : CallId) (call : Call) (question : Query)
    (inv : Coalesced orphans state) (present : state.calls id = some call)
    (located : call.phase = .joining question)
    (free : state.singleFlight question.key = none) :
    Coalesced orphans (({ state with
        singleFlight := Function.update state.singleFlight question.key (some id) }.setChannel
      id ⟨1, [], 2⟩).setPhase id call (.leading question)) := by
  have alone : ∀ other, state.calls id = some other → solo other.phase = true := by
    intro other same
    rw [present, Option.some.injEq] at same
    subst other
    simp [located, solo]
  refine coalesced_moved state _ id _ inv rfl ?_ ?_ ?_ ?_ ?_ ?_ ?_ ?_ ?_
  · intro other different
    exact Function.update_of_ne different _ _
  · exact Function.update_self _ _ _
  · intro _ _ _
    trivial
  · intro other outcome status same finished
    have single := alone other same
    simp [finished, solo] at single
  · intro key leader different
    by_cases same : key = question.key
    · subst key
      simp [State.setPhase, State.setCall, State.setChannel, free, Ne.symm different]
    · simp [State.setPhase, State.setCall, State.setChannel, Function.update_of_ne same]
  · intro key holding
    simp only [holds, Option.some.injEq] at holding
    subst key
    exact Function.update_self _ _ _
  · intro key slot
    by_cases same : key = question.key
    · exact Or.inl (by rw [same]; rfl)
    · have before : state.singleFlight key = some id :=
        (Function.update_of_ne same _ _).symm.trans slot
      exact absurd before (solo_slotless state id inv alone key)
  · intro leader followed
    have unfollowed := solo_unfollowed state id call inv present (alone call present)
    exact absurd (unfollowed.symm.trans followed) (Option.some_ne_none leader).symm
  · intro leader next following
    cases following

/-- A call that holds a slot or is about to publish follows nobody. -/
theorem leader_unfollowed (state : State) (id : CallId) (call : Call)
    (inv : Coalesced orphans state) (present : state.calls id = some call)
    (running : leaderRunning call.phase = true) :
    call.followed = none := by
  cases followed : call.followed with
  | none => rfl
  | some leader =>
      rcases (inv.followerFits id call leader present followed).placed with
        following | aborted | ⟨outcome, owner, finished, _⟩
      · simp [following, leaderRunning] at running
      · simp [aborted, leaderRunning] at running
      · simp [finished, leaderRunning] at running

/-- The moves of a running leader: it keeps following nobody, and what it does
to the slot map and to its channel is given. -/
theorem coalesced_leader (state after : State) (id : CallId) (call : Call) (phase : Phase)
    (inv : Coalesced orphans state) (present : state.calls id = some call)
    (running : leaderRunning call.phase = true)
    (calls : after.calls = Function.update state.calls id (some { call with phase := phase }))
    (elsewhere : ∀ other, other ≠ id → after.channels other = state.channels other)
    (fits : ChannelFits orphans (some phase) (after.channels id))
    (led : Led phase (after.channels id))
    (slots : ∀ key leader, leader ≠ id →
      (after.singleFlight key = some leader ↔ state.singleFlight key = some leader))
    (held : ∀ key, holds phase = some key → after.singleFlight key = some id)
    (own : ∀ key, after.singleFlight key = some id → holds phase = some key ∨
      (phase = .aborted ∧ after.channels id = ⟨1, [], 1⟩)) :
    Coalesced orphans after := by
  have unfollowed := leader_unfollowed state id call inv present running
  refine coalesced_moved state after id _ inv calls elsewhere fits ?_ ?_ slots held own ?_ ?_
  · intro _ _ _
    exact led
  · intro other outcome status same finished
    rw [present, Option.some.injEq] at same
    subst other
    simp [finished, leaderRunning] at running
  · intro leader followed
    exact absurd (unfollowed.symm.trans followed) (Option.some_ne_none leader).symm
  · intro leader next following
    rw [show phase = .following leader next from following] at led
    exact False.elim led

theorem coalesced_leader_replied (config : Config) (state : State) (id : CallId) (call : Call)
    (question : Query) (response : Option Message) (outcome : Outcome)
    (inv : Coalesced orphans state) (present : state.calls id = some call)
    (located : call.phase = .leading question) :
    Coalesced orphans
      ((resolveAndCache config state (.call id) call.query response).setPhase id call
        (.unslotting question outcome)) := by
  have fits := inv.channelFits id
  rw [present, Option.map_some, located] at fits
  have slot := inv.holderSlotted id call question.key present (by rw [located]; rfl)
  refine coalesced_leader state _ id call (.unslotting question outcome) inv present
    (by rw [located]; rfl) rfl ?_ fits trivial ?_ ?_ ?_
  · intro other _
    rfl
  · intro key leader _
    rfl
  · intro key holding
    simp only [holds, Option.some.injEq] at holding
    subst key
    exact slot
  · intro key taken
    obtain ⟨owner, found, holding | ⟨aborted, _⟩⟩ := inv.slotHeld key id taken
    · rw [present, Option.some.injEq] at found
      subst owner
      rw [located] at holding
      exact Or.inl holding
    · rw [present, Option.some.injEq] at found
      subst owner
      simp [located] at aborted

/-- A leader finds itself in the slot it frees. -/
theorem unslot_own (state : State) (id : CallId) (call : Call) (question : Query)
    (outcome : Outcome) (slot : state.singleFlight question.key = some id) :
    unslotStep state id call question outcome =
      ({ state with
        singleFlight := Function.update state.singleFlight question.key none }.setChannel id
          (state.channels id).dropSender).setPhase id call (.publishing outcome) := by
  simp only [unslotStep, slot]
  rfl

theorem coalesced_unslotted (state : State) (id : CallId) (call : Call) (question : Query)
    (outcome : Outcome) (inv : Coalesced orphans state) (present : state.calls id = some call)
    (located : call.phase = .unslotting question outcome) :
    Coalesced orphans (unslotStep state id call question outcome) := by
  have slot := inv.holderSlotted id call question.key present (by rw [located]; rfl)
  have fits := inv.channelFits id
  rw [present, Option.map_some, located] at fits
  rw [unslot_own state id call question outcome slot]
  refine coalesced_leader state _ id call (.publishing outcome) inv present
    (by rw [located]; rfl) rfl ?_ ?_ trivial ?_ ?_ ?_
  · intro other different
    exact Function.update_of_ne different _ _
  · simp only [State.setPhase, State.setCall, State.setChannel, Function.update_self]
    rw [fits]
    rfl
  · intro key leader different
    by_cases same : key = question.key
    · subst key
      simp [State.setPhase, State.setCall, State.setChannel, slot, Ne.symm different]
    · simp [State.setPhase, State.setCall, State.setChannel, Function.update_of_ne same]
  · intro key holding
    cases holding
  · intro key taken
    by_cases same : key = question.key
    · subst key
      simp [State.setPhase, State.setCall, State.setChannel] at taken
    · have before : state.singleFlight key = some id :=
        (Function.update_of_ne same _ _).symm.trans taken
      obtain ⟨owner, found, holding | ⟨aborted, _⟩⟩ := inv.slotHeld key id before
      · rw [present, Option.some.injEq] at found
        subst owner
        simp only [located, holds, Option.some.injEq] at holding
        exact absurd holding.symm same
      · rw [present, Option.some.injEq] at found
        subst owner
        simp [located] at aborted

/-- A call that holds no slot and is not aborted is in no slot. -/
theorem unheld_slotless (state : State) (id : CallId) (call : Call) (inv : Coalesced orphans state)
    (present : state.calls id = some call) (unheld : holds call.phase = none)
    (alive : call.phase ≠ .aborted) (key : Query) : state.singleFlight key ≠ some id := by
  intro slot
  obtain ⟨owner, found, holding | ⟨aborted, _⟩⟩ := inv.slotHeld key id slot
  · rw [present, Option.some.injEq] at found
    subst owner
    rw [unheld] at holding
    cases holding
  · rw [present, Option.some.injEq] at found
    subst owner
    exact alive aborted

theorem coalesced_published (state : State) (id : CallId) (call : Call) (outcome : Outcome)
    (inv : Coalesced orphans state) (present : state.calls id = some call)
    (located : call.phase = .publishing outcome) :
    Coalesced orphans (publishStep state id call outcome) := by
  have fits := inv.channelFits id
  rw [present, Option.map_some, located] at fits
  have slotless := unheld_slotless state id call inv present (by rw [located]; rfl)
    (by rw [located]; exact Phase.noConfusion)
  have sent : (publishStep state id call outcome).channels id = ⟨1, [outcome], 0⟩ := by
    simp only [publishStep, State.setPhase, State.setCall, State.setChannel,
      Function.update_self]
    rw [fits]
    rfl
  refine coalesced_leader state _ id call (.done outcome .Miss) inv present
    (by rw [located]; rfl) rfl ?_ (Or.inr sent) ⟨rfl, sent⟩ ?_ ?_ ?_
  · intro other different
    exact Function.update_of_ne different _ _
  · intro key leader _
    rfl
  · intro key holding
    cases holding
  · intro key taken
    exact absurd taken (slotless key)

theorem coalesced_leader_aborted (state : State) (id : CallId) (call : Call) (question : Query)
    (inv : Coalesced orphans state) (admitted : orphans) (present : state.calls id = some call)
    (located : call.phase = .leading question) :
    Coalesced orphans ((state.setChannel id (state.channels id).dropSender).setPhase id call
      .aborted) := by
  have fits := inv.channelFits id
  rw [present, Option.map_some, located] at fits
  -- Its own sender goes, the clone in the slot map stays.
  have left : ((state.setChannel id (state.channels id).dropSender).setPhase id call
      .aborted).channels id = ⟨1, [], 1⟩ := by
    simp only [State.setPhase, State.setCall, State.setChannel, Function.update_self]
    rw [fits]
    rfl
  refine coalesced_leader state _ id call .aborted inv present (by rw [located]; rfl) rfl ?_
    (Or.inr ⟨admitted, left⟩) left ?_ ?_ ?_
  · intro other different
    exact Function.update_of_ne different _ _
  · intro key leader _
    rfl
  · intro key holding
    cases holding
  · intro key _
    exact Or.inr ⟨rfl, left⟩

/-- A follower ends: with its leader's answer, or aborted. -/
theorem coalesced_follower (state : State) (id leader : CallId) (call : Call) (next : Nat)
    (phase : Phase) (inv : Coalesced orphans state) (present : state.calls id = some call)
    (located : call.phase = .following leader next)
    (landed : phase = .aborted ∨ ∃ outcome owner, phase = .done outcome .Miss ∧
      state.calls leader = some owner ∧ owner.phase = .done outcome .Miss) :
    Coalesced orphans (state.setPhase id call phase) := by
  have followed := inv.subscribed id call leader next present located
  have leadership := inv.followerFits id call leader present followed
  have slotless := unheld_slotless state id call inv present (by rw [located]; rfl)
    (by rw [located]; exact Phase.noConfusion)
  have closed : state.channels id = ⟨1, [], 0⟩ := by
    have fits := inv.channelFits id
    rw [present, Option.map_some, located] at fits
    exact fits
  have different : leader ≠ id := by
    intro same
    subst leader
    obtain ⟨owner, found, leads⟩ := leadership.led
    rw [present, Option.some.injEq] at found
    subst owner
    rw [located] at leads
    exact leads
  have unmoved : (state.setPhase id call phase).calls leader = state.calls leader :=
    Function.update_of_ne different _ _
  refine coalesced_moved state _ id _ inv rfl ?_ ?_ ?_ ?_ ?_ ?_ ?_ ?_ ?_
  · intro other _
    rfl
  · rcases landed with aborted | ⟨outcome, owner, finished, _⟩
    · rw [show Call.phase { call with phase := phase } = .aborted from aborted]
      exact Or.inl closed
    · rw [show Call.phase { call with phase := phase } = .done outcome .Miss from finished]
      exact Or.inl closed
  · intro other same leads
    rw [present, Option.some.injEq] at same
    subst other
    rw [located] at leads
    exact False.elim leads
  · intro other outcome status same finished
    rw [present, Option.some.injEq] at same
    subst other
    simp [located] at finished
  · intro key other _
    rfl
  · intro key holding
    rcases landed with aborted | ⟨outcome, owner, finished, _⟩
    · subst phase
      cases holding
    · subst phase
      cases holding
  · intro key taken
    exact absurd taken (slotless key)
  · intro other same
    have equal : other = leader := by
      rw [show Call.followed { call with phase := phase } = call.followed from rfl, followed,
        Option.some.injEq] at same
      exact same.symm
    subst other
    constructor
    · rw [unmoved]
      exact leadership.led
    · rw [unmoved]
      exact Or.inr landed
  · intro other position following
    rcases landed with aborted | ⟨outcome, owner, finished, _⟩
    · subst phase
      cases following
    · subst phase
      cases following

/-- A move of a call in a solo phase, as the moves below use it. -/
theorem coalesced_alone (state after : State) (id : CallId) (call : Call) (phase : Phase)
    (inv : Coalesced orphans state) (present : state.calls id = some call)
    (alone : solo call.phase = true)
    (calls : after.calls = Function.update state.calls id (some { call with phase := phase }))
    (slots : after.singleFlight = state.singleFlight)
    (channels : after.channels = state.channels)
    (landed : solo phase = true ∨ (∃ outcome status, phase = .done outcome status) ∨
      phase = .aborted) :
    Coalesced orphans after := by
  refine coalesced_solo state after id _ inv ?_ calls slots channels ?_ landed
  · intro other same
    rw [present, Option.some.injEq] at same
    rw [← same]
    exact alone
  · exact solo_unfollowed state id call inv present alone

/-- No leader is aborted while it waits for the upstreams. -/
def keepsLeaders : Action → State → Prop
  | .abort id, state => ∀ call question, state.calls id = some call →
      call.phase ≠ .leading question
  | _, _ => True

/-- Every step of the pool keeps the invariant, and only the abort of a leader
makes an orphan. -/
theorem coalesced_step (config : Config) (action : Action) (state after : State)
    (inv : Coalesced orphans state) (admitted : orphans ∨ keepsLeaders action state)
    (taken : step config action state = some after) :
    Coalesced orphans after := by
  -- By the part the mover plays: bystander, leader, follower or refresh.
  cases step_moved config action state after taken with
  | tick elapsed => exact coalesced_congr state _ inv rfl rfl rfl
  | evict question => exact coalesced_congr state _ inv rfl rfl rfl
  | started fresh keyed =>
      refine coalesced_solo state _ _ _ inv ?_ rfl rfl rfl rfl (Or.inl rfl)
      intro call present
      rw [fresh] at present
      cases present
  | startedUncached fresh unkeyed =>
      refine coalesced_solo state _ _ _ inv ?_ rfl rfl rfl rfl (Or.inl rfl)
      intro call present
      rw [fresh] at present
      cases present
  | @hit id call question response prefetch fetch resp phase present located found built next =>
      refine coalesced_alone state _ id call phase inv present (by rw [located]; rfl) rfl rfl rfl ?_
      cases prefetch
      · exact Or.inr (Or.inl ⟨_, _, next⟩)
      · rw [next]
        exact Or.inl rfl
  | staleHit present located found built =>
      exact coalesced_alone state _ _ _ _ inv present (by rw [located]; rfl) rfl rfl rfl
        (Or.inl rfl)
  | unbuilt present located looked refused =>
      exact coalesced_alone state _ _ _ _ inv present (by rw [located]; rfl) rfl rfl rfl
        (Or.inl rfl)
  | miss present located nothing =>
      exact coalesced_alone state _ _ _ _ inv present (by rw [located]; rfl) rfl rfl rfl
        (Or.inl rfl)
  | prefetched present located free =>
      exact coalesced_alone state _ _ _ _ inv present (by rw [located]; rfl) rfl rfl rfl
        (Or.inr (Or.inl ⟨_, _, rfl⟩))
  | prefetchTaken present located taken =>
      exact coalesced_alone state _ _ _ _ inv present (by rw [located]; rfl) rfl rfl rfl
        (Or.inr (Or.inl ⟨_, _, rfl⟩))
  | claimed present located free =>
      exact coalesced_alone state _ _ _ _ inv present (by rw [located]; rfl) rfl rfl rfl
        (Or.inl rfl)
  | claimTaken present located taken =>
      exact coalesced_alone state _ _ _ _ inv present (by rw [located]; rfl) rfl rfl rfl
        (Or.inr (Or.inl ⟨_, _, rfl⟩))
  | raceWon present located spawned ended answered =>
      exact coalesced_alone state _ _ _ _ inv present (by rw [located]; rfl) rfl rfl rfl
        (Or.inr (Or.inl ⟨_, _, rfl⟩))
  | raceLost present located spawned ended =>
      exact coalesced_alone state _ _ _ _ inv present (by rw [located]; rfl) rfl rfl rfl
        (Or.inr (Or.inl ⟨_, _, rfl⟩))
  | timedOut present located spawned unfinished late =>
      exact coalesced_alone state _ _ _ _ inv present (by rw [located]; rfl) rfl rfl rfl
        (Or.inr (Or.inl ⟨_, _, rfl⟩))
  | followed present located slot =>
      exact coalesced_followed state _ _ _ _ inv present located slot
  | led present located free => exact coalesced_led state _ _ _ inv present located free
  | leaderReplied present located =>
      exact coalesced_leader_replied config state _ _ _ _ _ inv present located
  | replied present located =>
      exact coalesced_alone state _ _ _ _ inv present (by rw [located]; rfl) rfl rfl rfl
        (Or.inr (Or.inl ⟨_, _, rfl⟩))
  | unslotted present located => exact coalesced_unslotted state _ _ _ _ inv present located
  | published present located => exact coalesced_published state _ _ _ inv present located
  | @received id leader call next outcome present located value =>
      refine coalesced_follower state id leader call next _ inv present located (Or.inr ?_)
      rcases follower_reads state id call leader next inv present located with
        ⟨start, owner, found, ⟨sent, finished, read⟩ | ⟨_, read⟩ | ⟨_, read⟩⟩
      · subst next
        rw [read] at value
        injection value with same
        subst sent
        exact ⟨outcome, owner, rfl, found, finished⟩
      · subst next
        rw [read] at value
        cases value
      · subst next
        rw [read] at value
        cases value
  | @deserted id leader call next present located lost =>
      -- No follower ever finds its channel closed: the slot keeps a sender.
      rcases follower_reads state id call leader next inv present located with
        ⟨start, owner, found, ⟨sent, _, read⟩ | ⟨_, read⟩ | ⟨_, read⟩⟩
      all_goals
        subst next
        rw [read] at lost
        rcases lost with lagged | closed
        · contradiction
        · contradiction
  | leaderAborted present located =>
      rcases admitted with orphan | kept
      · exact coalesced_leader_aborted state _ _ _ inv orphan present located
      · exact absurd located (kept _ _ present)
  | @aborted id call present located =>
      rcases located with ⟨question, stale, deadline, racing⟩ | ⟨leader, next, following⟩ |
        ⟨status, resolving⟩
      · exact coalesced_alone state _ _ _ _ inv present (by rw [racing]; rfl) rfl rfl rfl
          (Or.inr (Or.inr rfl))
      · exact coalesced_follower state id leader call next _ inv present following (Or.inl rfl)
      · exact coalesced_alone state _ _ _ _ inv present (by rw [resolving]; rfl) rfl rfl rfl
          (Or.inr (Or.inr rfl))
  | refreshReplied present located =>
      exact coalesced_congr state _ inv rfl rfl rfl
  | refreshFinished present located => exact coalesced_congr state _ inv rfl rfl rfl
  | refreshPanicked present located => exact coalesced_congr state _ inv rfl rfl rfl

theorem coalesced_run (config : Config) (allowed : Action → State → Prop) (state after : State)
    (actions : List Action) (start : Coalesced orphans state)
    (admitted : ∀ action state, allowed action state → orphans ∨ keepsLeaders action state)
    (run : Run (step config) allowed state actions after) : Coalesced orphans after :=
  run_invariant (fun action before next inv accepted taken =>
    coalesced_step config action before next inv (admitted action before accepted) taken) run start

theorem reachable_coalesced (config : Config) (actions : List Action) (after : State)
    (run : Run (step config) anyAction (State.new config) actions after) :
    Coalesced True after :=
  coalesced_run config anyAction _ after actions (coalesced_new True config)
    (fun _ _ _ => Or.inl trivial) run

end Dnsix.SlotInvariant
