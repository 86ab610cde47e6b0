import Dnsix.Provenance
import Mathlib.Data.Fintype.Card

/-!
The slots of the background refreshes and the upstream work they bound. A key is in the
set exactly while one refresh holds the guard for it; with the slot map of the misses
this leaves room for two round trips for a question, one of a leader and one of a
refresh.
-/

namespace Dnsix.RefreshSlots
open Dns LastWrite ResponseCache Broadcast Transition Pool SlotInvariant Provenance

variable {config : Config}

/-- The task holds its guard: from the claim until the drop. -/
def guards : RefreshPhase → Bool
  | .running | .releasing _ => true
  | _ => false

def Alive (state : State) (key : Query) (id : CallId) : Prop :=
  ∃ refresh, state.refreshes id = some refresh ∧ refresh.question.key = key ∧
    guards refresh.phase = true

/-- The call has not come to the claim of its refresh. -/
def early : Phase → Bool
  | .looking _ | .prefetching _ _ | .claiming _ _ => true
  | _ => false

structure Guarded (state : State) : Prop where
  spawned : ∀ id refresh, state.refreshes id = some refresh →
    ∃ call, state.calls id = some call ∧ early call.phase = false
  held : ∀ id key, Alive state key id → state.inFlight key = true
  owned : ∀ key, state.inFlight key = true → ∃ id, Alive state key id
  unique : ∀ key first second, Alive state key first → Alive state key second → first = second

theorem guarded_new (config : Config) : Guarded (State.new config) where
  spawned _ _ present := nomatch present
  held _ _ alive := nomatch alive.choose_spec.1
  owned _ slot := nomatch slot
  unique _ _ _ alive := nomatch alive.choose_spec.1

/-! One move at a time. -/
section Moves

theorem alive_congr (state after : State) (refreshes : after.refreshes = state.refreshes)
    (key : Query) (id : CallId) : Alive after key id ↔ Alive state key id := by
  unfold Alive
  rw [refreshes]

/-- A move that leaves the refreshes and their slots alone, made by a call that does not
go back before its claim. -/
theorem guarded_kept (state after : State) (inv : Guarded state)
    (refreshes : after.refreshes = state.refreshes) (inFlight : after.inFlight = state.inFlight)
    (onward : ∀ id call, state.calls id = some call → early call.phase = false →
      ∃ later, after.calls id = some later ∧ early later.phase = false) : Guarded after := by
  constructor
  · intro id refresh present
    rw [refreshes] at present
    rcases inv.spawned id refresh present with ⟨call, found, past⟩
    exact onward id call found past
  · intro id key alive
    rw [inFlight]
    exact inv.held id key ((alive_congr state after refreshes key id).mp alive)
  · intro key slot
    rw [inFlight] at slot
    rcases inv.owned key slot with ⟨id, alive⟩
    exact ⟨id, (alive_congr state after refreshes key id).mpr alive⟩
  · intro key first second left right
    exact inv.unique key first second ((alive_congr state after refreshes key first).mp left)
      ((alive_congr state after refreshes key second).mp right)

theorem guarded_called (state after : State) (inv : Guarded state) (id : CallId) (next : Call)
    (calls : after.calls = Function.update state.calls id (some next))
    (refreshes : after.refreshes = state.refreshes) (inFlight : after.inFlight = state.inFlight)
    (forward : early next.phase = true → ∀ call, state.calls id = some call →
      early call.phase = true) : Guarded after := by
  apply guarded_kept state after inv refreshes inFlight
  intro other call present past
  by_cases same : other = id
  · subst other
    refine ⟨next, by rw [calls, Function.update_self], ?_⟩
    by_contra back
    have stuck := forward (Bool.not_eq_false _ ▸ back) call present
    rw [past] at stuck
    cases stuck
  · exact ⟨call, by rw [calls, Function.update_of_ne same]; exact present, past⟩

/-- The claim of a free slot together with the spawn. -/
theorem guarded_spawned (state after : State) (inv : Guarded state) (id : CallId) (call next : Call)
    (question : Query) (present : state.calls id = some call) (before : early call.phase = true)
    (free : state.inFlight question.key = false)
    (calls : after.calls = Function.update state.calls id (some next))
    (past : early next.phase = false)
    (refreshes : after.refreshes =
      Function.update state.refreshes id (some ⟨call.query, question, .running⟩))
    (inFlight : after.inFlight = Function.update state.inFlight question.key true) :
    Guarded after := by
  -- The call has no refresh yet.
  have none : state.refreshes id = none := by
    cases found : state.refreshes id with
    | none => rfl
    | some refresh =>
        rcases inv.spawned id refresh found with ⟨owner, same, late⟩
        rw [present, Option.some.injEq] at same
        rw [← same, before] at late
        cases late
  have split : ∀ key other, Alive after key other ↔
      (other = id ∧ key = question.key) ∨ Alive state key other := by
    intro key other
    unfold Alive
    rw [refreshes]
    by_cases same : other = id
    · subst other
      rw [Function.update_self, none]
      constructor
      · rintro ⟨refresh, shape, rfl, _⟩
        cases shape
        exact .inl ⟨rfl, rfl⟩
      · rintro (⟨_, rfl⟩ | ⟨refresh, impossible, _⟩)
        · exact ⟨_, rfl, rfl, rfl⟩
        · cases impossible
    · rw [Function.update_of_ne same]
      exact ⟨.inr, fun alive => alive.resolve_left fun own => same own.1⟩
  have other_key : ∀ other, ¬ Alive state question.key other := by
    intro other alive
    have slot := inv.held other question.key alive
    rw [free] at slot
    cases slot
  constructor
  · intro other refresh found
    by_cases same : other = id
    · subst other
      exact ⟨next, by rw [calls, Function.update_self], past⟩
    · rw [refreshes, Function.update_of_ne same] at found
      rw [calls, Function.update_of_ne same]
      exact inv.spawned other refresh found
  · intro other key alive
    rw [inFlight]
    rcases (split key other).mp alive with ⟨_, rfl⟩ | old
    · exact Function.update_self ..
    · by_cases same : key = question.key
      · exact absurd (same ▸ old) (other_key other)
      · rw [Function.update_of_ne same]
        exact inv.held other key old
  · intro key slot
    by_cases same : key = question.key
    · exact ⟨id, (split key id).mpr (.inl ⟨rfl, same⟩)⟩
    · rw [inFlight, Function.update_of_ne same] at slot
      rcases inv.owned key slot with ⟨other, alive⟩
      exact ⟨other, (split key other).mpr (.inr alive)⟩
  · intro key first second left right
    rcases (split key first).mp left with ⟨rfl, rfl⟩ | old
    · rcases (split _ second).mp right with ⟨rfl, _⟩ | older
      · rfl
      · exact absurd older (other_key second)
    · rcases (split key second).mp right with ⟨rfl, rfl⟩ | older
      · exact absurd old (other_key first)
      · exact inv.unique key first second old older

/-- The drop of a guard frees the slot it holds and no other. -/
theorem guarded_released (state after : State) (inv : Guarded state) (id : CallId)
    (refresh : Refresh) (phase : RefreshPhase) (present : state.refreshes id = some refresh)
    (holding : guards refresh.phase = true) (dropped : guards phase = false)
    (calls : after.calls = state.calls)
    (refreshes : after.refreshes =
      Function.update state.refreshes id (some { refresh with phase := phase }))
    (inFlight : after.inFlight = Function.update state.inFlight refresh.question.key false) :
    Guarded after := by
  have own : Alive state refresh.question.key id := ⟨refresh, present, rfl, holding⟩
  have split : ∀ key other, Alive after key other ↔ other ≠ id ∧ Alive state key other := by
    intro key other
    unfold Alive
    rw [refreshes]
    by_cases same : other = id
    · subst other
      rw [Function.update_self]
      constructor
      · rintro ⟨later, shape, _, holds⟩
        cases shape
        rw [dropped] at holds
        cases holds
      · rintro ⟨different, _⟩
        exact absurd rfl different
    · rw [Function.update_of_ne same]
      exact (and_iff_right same).symm
  constructor
  · intro other later found
    rw [calls]
    by_cases same : other = id
    · subst other
      exact inv.spawned id refresh present
    · rw [refreshes, Function.update_of_ne same] at found
      exact inv.spawned other later found
  · intro other key alive
    rcases (split key other).mp alive with ⟨different, old⟩
    rw [inFlight]
    by_cases same : key = refresh.question.key
    · exact absurd (inv.unique _ _ _ (same ▸ old) own) different
    · rw [Function.update_of_ne same]
      exact inv.held other key old
  · intro key slot
    by_cases same : key = refresh.question.key
    · rw [inFlight, same, Function.update_self] at slot
      cases slot
    · rw [inFlight, Function.update_of_ne same] at slot
      rcases inv.owned key slot with ⟨other, alive⟩
      refine ⟨other, (split key other).mpr ⟨?_, alive⟩⟩
      rintro rfl
      rcases alive with ⟨found, there, rfl, _⟩
      rw [present, Option.some.injEq] at there
      exact same (there ▸ rfl)
  · intro key first second left right
    exact inv.unique key first second ((split key first).mp left).2 ((split key second).mp right).2

/-- A refresh that has its reply still holds its guard. -/
theorem guarded_replied (state after : State) (inv : Guarded state) (id : CallId)
    (refresh : Refresh) (phase : RefreshPhase) (present : state.refreshes id = some refresh)
    (holding : guards refresh.phase = true) (holds : guards phase = true)
    (calls : after.calls = state.calls)
    (refreshes : after.refreshes =
      Function.update state.refreshes id (some { refresh with phase := phase }))
    (inFlight : after.inFlight = state.inFlight) : Guarded after := by
  have same : ∀ key other, Alive after key other ↔ Alive state key other := by
    intro key other
    unfold Alive
    rw [refreshes]
    by_cases same : other = id
    · subst other
      rw [Function.update_self, present]
      constructor
      · rintro ⟨later, shape, rfl, _⟩
        cases shape
        exact ⟨refresh, rfl, rfl, holding⟩
      · rintro ⟨later, shape, rfl, _⟩
        cases shape
        exact ⟨_, rfl, rfl, holds⟩
    · rw [Function.update_of_ne same]
  constructor
  · intro other later found
    rw [calls]
    by_cases own : other = id
    · subst other
      exact inv.spawned id refresh present
    · rw [refreshes, Function.update_of_ne own] at found
      exact inv.spawned other later found
  · intro other key alive
    rw [inFlight]
    exact inv.held other key ((same key other).mp alive)
  · intro key slot
    rw [inFlight] at slot
    rcases inv.owned key slot with ⟨other, alive⟩
    exact ⟨other, (same key other).mpr alive⟩
  · intro key first second left right
    exact inv.unique key first second ((same key first).mp left) ((same key second).mp right)

theorem guarded_step (action : Action) (state after : State) (inv : Guarded state)
    (taken : step config action state = some after) : Guarded after := by
  cases step_moved config action state after taken with
  | tick elapsed => exact guarded_kept state _ inv rfl rfl fun _ call found past => ⟨call, found, past⟩
  | evict question =>
      exact guarded_kept state _ inv rfl rfl fun _ call found past => ⟨call, found, past⟩
  | started fresh keyed =>
      refine guarded_called state _ inv _ _ rfl rfl rfl ?_
      intro _ call present
      rw [fresh] at present
      cases present
  | startedUncached fresh unkeyed =>
      exact guarded_called state _ inv _ _ rfl rfl rfl fun impossible => nomatch impossible
  | hit present located found built next =>
      refine guarded_called state _ inv _ _ rfl rfl rfl ?_
      intro _ call same
      rw [present, Option.some.injEq] at same
      rw [← same, located]
      rfl
  | staleHit present located found built =>
      refine guarded_called state _ inv _ _ rfl rfl rfl ?_
      intro _ call same
      rw [present, Option.some.injEq] at same
      rw [← same, located]
      rfl
  | prefetched present located free =>
      exact guarded_spawned state _ inv _ _ _ _ present (by rw [located]; rfl) free rfl rfl rfl rfl
  | claimed present located free =>
      exact guarded_spawned state _ inv _ _ _ _ present (by rw [located]; rfl) free rfl rfl rfl rfl
  | refreshReplied present located =>
      exact guarded_replied state _ inv _ _ _ present (by rw [located]; rfl) rfl rfl rfl rfl
  | refreshFinished present located =>
      exact guarded_released state _ inv _ _ _ present (by rw [located]; rfl) rfl rfl rfl rfl
  | refreshPanicked present located =>
      exact guarded_released state _ inv _ _ _ present (by rw [located]; rfl) rfl rfl rfl rfl
  | _ =>
      exact guarded_called state _ inv _ _ rfl rfl rfl fun impossible => nomatch impossible

end Moves

/-! No follower is ever deserted, so whoever waits for the upstreams under a key leads. -/
section Waiting

def Undeserted (state : State) : Prop :=
  ∀ id call, state.calls id = some call → call.phase ≠ .resolving .Miss

theorem undeserted_step (action : Action) (state after : State) (slots : Coalesced True state)
    (inv : Undeserted state) (taken : step config action state = some after) :
    Undeserted after := by
  have kept : ∀ id next, after.calls = Function.update state.calls id (some next) →
      next.phase ≠ .resolving .Miss → Undeserted after := by
    intro id next calls other mover call present
    rcases update_some calls present with ⟨_, rfl⟩ | ⟨_, before⟩
    · exact other
    · exact inv mover call before
  cases step_moved config action state after taken with
  | tick elapsed => exact inv
  | evict question => exact inv
  | @hit id call question response prefetch fetch resp phase present located found built next =>
      refine kept _ _ rfl ?_
      cases prefetch <;> simp [next]
  | @deserted id leader call next present located lost =>
      -- The slot of a leader that is gone still keeps a sender.
      rcases follower_reads state id call leader next slots present located with
        ⟨rfl, owner, _, ⟨sent, _, read⟩ | ⟨_, read⟩ | ⟨_, read⟩⟩
      all_goals
        rw [read] at lost
        rcases lost with lagged | closed
        · contradiction
        · contradiction
  | @replied id call status response present located => exact kept _ _ rfl Phase.noConfusion
  | refreshReplied present located => exact inv
  | refreshFinished present located => exact inv
  | refreshPanicked present located => exact inv
  | _ => exact kept _ _ rfl (by simp)

/-- The task waits for the upstreams on behalf of the key. -/
def Awaits (config : Config) (state : State) (key : Query) : Task → Prop
  | .call id => ∃ call question, state.calls id = some call ∧
      config.key call.query = some question ∧ question.key = key ∧
      ((∃ led, call.phase = .leading led) ∨ ∃ status, call.phase = .resolving status)
  | .refresh id => ∃ refresh, state.refreshes id = some refresh ∧
      refresh.question.key = key ∧ refresh.phase = .running

theorem awaiting_leads (state : State) (sound : Sound config state) (inv : Undeserted state)
    (key : Query) (id : CallId) (awaits : Awaits config state key (.call id)) :
    ∃ call question, state.calls id = some call ∧ call.phase = .leading question ∧
      question.key = key := by
  rcases awaits with ⟨call, question, present, keyed, rfl, ⟨led, leading⟩ | ⟨status, waiting⟩⟩
  · have placed := sound.calls id call present
    rw [leading] at placed
    rw [Option.some.inj (keyed.symm.trans placed)]
    exact ⟨call, led, present, leading, rfl⟩
  · have placed := sound.calls id call present
    rw [waiting] at placed
    rcases placed with ⟨_, unkeyed⟩ | ⟨rfl, _⟩
    · rw [keyed] at unkeyed
      cases unkeyed
    · exact absurd waiting (inv id call present)

end Waiting

/-- The refreshes and the upstream work of a state. -/
structure Bounded (config : Config) (state : State) : Prop where
  slotted : ∀ key, state.inFlight key = true ↔ ∃! id, Alive state key id
  oneRefresh : ∀ key first second, Alive state key first → Alive state key second →
    first = second
  leads : ∀ key id, Awaits config state key (.call id) → ∃ call question,
    state.calls id = some call ∧ call.phase = .leading question ∧
      state.singleFlight key = some id
  atMostTwo : ∀ key (tasks : List Task), tasks.Nodup → (∀ task ∈ tasks, Awaits config state key task) →
    tasks.length ≤ 2
  drained : (∀ id refresh, state.refreshes id = some refresh → guards refresh.phase = false) →
    ∀ key, state.inFlight key = false

def Task.isCall : Task → Bool
  | .call _ => true
  | .refresh _ => false

theorem bounded_of_guarded (state : State) (guarded : Guarded state)
    (slots : Coalesced True state) (sound : Sound config state) (undeserted : Undeserted state) :
    Bounded config state := by
  have slotted : ∀ key id, Awaits config state key (.call id) →
      ∃ call question, state.calls id = some call ∧ call.phase = .leading question ∧
        state.singleFlight key = some id := by
    intro key id awaits
    rcases awaiting_leads state sound undeserted key id awaits with
      ⟨call, question, present, leading, rfl⟩
    refine ⟨call, question, present, leading, ?_⟩
    exact slots.holderSlotted id call question.key present (by rw [leading]; rfl)
  have alive : ∀ key id, Awaits config state key (.refresh id) → Alive state key id := by
    rintro key id ⟨refresh, present, same, running⟩
    exact ⟨refresh, present, same, by rw [running]; rfl⟩
  constructor
  · intro key
    constructor
    · intro slot
      rcases guarded.owned key slot with ⟨id, own⟩
      exact ⟨id, own, fun other also => guarded.unique key other id also own⟩
    · rintro ⟨id, own, _⟩
      exact guarded.held id key own
  · exact guarded.unique
  · exact slotted
  · intro key tasks apart all
    -- One task of each kind at most.
    have separate : (tasks.map Task.isCall).Nodup := by
      apply List.Nodup.map_on _ apart
      intro first firstIn second secondIn same
      have left := all first firstIn
      have right := all second secondIn
      cases first with
      | call id =>
          cases second with
          | call other =>
              rcases slotted key id left with ⟨_, _, _, _, mine⟩
              rcases slotted key other right with ⟨_, _, _, _, theirs⟩
              rw [mine, Option.some.injEq] at theirs
              rw [theirs]
          | refresh other => cases same
      | refresh id =>
          cases second with
          | call other => cases same
          | refresh other =>
              rw [guarded.unique key id other (alive key id left) (alive key other right)]
    have short := separate.length_le_card
    rwa [List.length_map] at short
  · intro ended key
    by_contra slot
    rcases guarded.owned key (Bool.not_eq_false _ ▸ slot) with ⟨id, refresh, present, _, holding⟩
    rw [ended id refresh present] at holding
    cases holding

theorem reachable_guarded (actions : List Action) (after : State)
    (run : Run (step config) anyAction (State.new config) actions after) :
    Guarded after ∧ Undeserted after := by
  have all : Coalesced True after ∧ Guarded after ∧ Undeserted after :=
    run_invariant
      (motive := fun state => Coalesced True state ∧ Guarded state ∧ Undeserted state)
      (fun action before next kept _ taken =>
        ⟨coalesced_step config action before next kept.1 (Or.inl trivial) taken,
          guarded_step action before next kept.2.1 taken,
          undeserted_step action before next kept.1 kept.2.2 taken⟩)
      run ⟨coalesced_new True config, guarded_new config, fun _ _ present => nomatch present⟩
  exact all.2

/-- Whatever completes, panics or is cancelled: a slot is taken exactly while one guard
for it is alive, and a question costs two round trips at a time at most. -/
theorem upstream_work_bounded (config : Config) (actions : List Action) (after : State)
    (run : Run (step config) anyAction (State.new config) actions after) :
    Bounded config after := by
  rcases reachable_guarded actions after run with ⟨guarded, undeserted⟩
  rcases reachable_sound config anyAction actions after run with ⟨slots, sound⟩
  exact bounded_of_guarded after guarded slots sound undeserted

/-- An expired entry is refreshed, and evicted before the next call looks. -/
def crowdedActions : List Action :=
  [.call 0 sampleQuery, .advance 0, .advance 0, .reply 0 (some (sampleReply 300)), .advance 0,
    .advance 0, .tick (secs 301), .call 1 sampleQuery, .advance 1, .advance 1,
    .evict sampleQuestion, .call 2 sampleQuery, .advance 2, .advance 2]

/-- The bound is met: one leader and one refresh wait for the same question. -/
theorem upstream_work_bounded_crowded :
    ∃ after, exec (step sampleConfig) crowdedActions (State.new sampleConfig) = some after ∧
      (after.calls 2).map Call.phase = some (.leading sampleQuestion) ∧
      (after.refreshes 1).map Refresh.phase = some .running ∧ Bounded sampleConfig after := by
  have executed : exec (step sampleConfig) crowdedActions (State.new sampleConfig) = some _ := rfl
  exact ⟨_, executed, rfl, rfl, upstream_work_bounded sampleConfig _ _ (exec_run executed)⟩

end Dnsix.RefreshSlots
