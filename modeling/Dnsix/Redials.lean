import Dnsix.Reconnect
import Mathlib.Data.Finset.Card

/-!
The reconnect protocol over whole runs. A generation names one connection for good, so
what a task takes out of the cell is the very connection its own send failed on, and each
connection but the last one dialed has failed a send.
-/

namespace Dnsix.Redials
open Dns LastWrite Transition Reconnect
open Handler (SocketAddr)

variable {Conn Err : Type}

/-! What a step leaves alone. -/
section Frames

theorem moved_task (action : Action Conn Err) (state after : State Conn Err)
    (moved : Moved state action after) :
    ∃ task, after.tasks = Function.update state.tasks action.task (some task) := by
  cases moved with
  | @started id query action fresh called =>
      subst called
      cases query with
      | none => exact ⟨_, rfl⟩
      | some query => exact ⟨_, rfl⟩
  | _ => exact ⟨_, rfl⟩

theorem handed_sends (id : TaskId) (query : Option Message) (g : Nat) (conn : Conn) :
    ∀ send ∈ (query.map fun query => (⟨id, query, g, conn⟩ : Send Conn)).toList,
      send.task = id ∧ send.g = g ∧ send.conn = conn := by
  intro send member
  rw [Option.mem_toList, Option.map_eq_some_iff] at member
  rcases member with ⟨query, _, rfl⟩
  exact ⟨rfl, rfl, rfl⟩

theorem moved_sends (action : Action Conn Err) (state after : State Conn Err)
    (moved : Moved state action after) :
    ∃ later, after.sends = state.sends ++ later ∧ ∀ send ∈ later, send.task = action.task := by
  cases moved with
  | shared => exact ⟨_, rfl, fun send member => (handed_sends _ _ _ _ send member).1⟩
  | dialed => exact ⟨_, rfl, fun send member => (handed_sends _ _ _ _ send member).1⟩
  | _ => exact ⟨[], (List.append_nil _).symm, fun _ member => nomatch member⟩

theorem moved_replies (action : Action Conn Err) (state after : State Conn Err)
    (moved : Moved state action after) : state.replies ⊆ after.replies := by
  cases moved with
  | answered => exact List.subset_append_left ..
  | failed => exact List.subset_append_left ..
  | _ => exact List.Subset.refl _

theorem moved_dials (action : Action Conn Err) (state after : State Conn Err)
    (moved : Moved state action after) : ∃ later, after.dials = state.dials ++ later := by
  cases moved with
  | dialed => exact ⟨_, rfl⟩
  | _ => exact ⟨[], (List.append_nil _).symm⟩

end Frames

/-! Generations. -/
section Generations

def failed (reply : Reply Conn Err) : Bool :=
  match reply.result with
  | .ok _ => false
  | .error _ => true

/-- The generations on which some send failed. -/
def failedGenerations (state : State Conn Err) : Finset Nat :=
  ((state.replies.filter failed).map (·.send.g)).toFinset

theorem mem_failed (state : State Conn Err) (g : Nat) :
    g ∈ failedGenerations state ↔ ∃ reply ∈ state.replies, failed reply ∧ reply.send.g = g := by
  simp only [failedGenerations, List.mem_toFinset, List.mem_map, List.mem_filter, and_assoc]

structure Numbered (state : State Conn Err) : Prop where
  counted : state.upstream.gen = state.dials.length
  increasing : (state.dials.map Prod.fst).Pairwise (· < ·)
  bounded : ∀ dial ∈ state.dials, dial.1 ≤ state.upstream.gen
  held : ∀ dial, state.upstream.cell = some dial → state.dials.getLast? = some dial
  replaced : ∀ dial ∈ state.dials,
    state.upstream.cell = some dial ∨ dial.1 ∈ failedGenerations state

theorem numbered_new (addr : SocketAddr) : Numbered (State.new addr : State Conn Err) where
  counted := rfl
  increasing := List.Pairwise.nil
  bounded := fun _ member => nomatch member
  held := fun _ impossible => nomatch impossible
  replaced := fun _ member => nomatch member

theorem failed_grow (state after : State Conn Err) (replies : state.replies ⊆ after.replies)
    (g : Nat) (member : g ∈ failedGenerations state) : g ∈ failedGenerations after := by
  rw [mem_failed] at member ⊢
  rcases member with ⟨reply, logged, errs⟩
  exact ⟨reply, replies logged, errs⟩

theorem numbered_kept (state after : State Conn Err) (numbered : Numbered state)
    (cell : after.upstream.cell = state.upstream.cell)
    (gen : after.upstream.gen = state.upstream.gen) (dials : after.dials = state.dials)
    (replies : state.replies ⊆ after.replies) : Numbered after := by
  constructor
  · rw [gen, dials]
    exact numbered.counted
  · rw [dials]
    exact numbered.increasing
  · rw [gen, dials]
    exact numbered.bounded
  · rw [cell, dials]
    exact numbered.held
  · rw [cell, dials]
    intro dial member
    exact (numbered.replaced dial member).imp_right (failed_grow state after replies dial.1)

theorem numbered_installed (state after : State Conn Err) (conn : Conn)
    (numbered : Numbered state) (empty : state.upstream.cell = none)
    (unwrapped : after.dials.length < 2 ^ 64)
    (upstream : after.upstream = state.upstream.install conn)
    (dials : after.dials = state.dials ++ [(state.upstream.nextGen, conn)])
    (replies : state.replies ⊆ after.replies) : Numbered after := by
  have next : state.upstream.nextGen = state.dials.length + 1 := by
    rw [dials, List.length_append] at unwrapped
    rw [Upstream.nextGen, numbered.counted]
    exact Nat.mod_eq_of_lt unwrapped
  have gen : after.upstream.gen = state.dials.length + 1 := by
    rw [upstream]
    exact next
  have below : ∀ dial ∈ state.dials, dial.1 ≤ state.dials.length := by
    intro dial member
    rw [← numbered.counted]
    exact numbered.bounded dial member
  constructor
  · rw [gen, dials, List.length_append]
    rfl
  · rw [dials, List.map_append, List.pairwise_append]
    refine ⟨numbered.increasing, List.pairwise_singleton .., ?_⟩
    intro early member late last
    rcases List.mem_map.mp member with ⟨dial, listed, rfl⟩
    rw [List.mem_singleton.mp last, next]
    exact Nat.lt_succ_of_le (below dial listed)
  · intro dial member
    rw [dials, List.mem_append, List.mem_singleton] at member
    rw [gen]
    rcases member with listed | rfl
    · exact Nat.le_succ_of_le (below dial listed)
    · exact Nat.le_of_eq next
  · intro dial held
    rw [upstream] at held
    rw [dials, List.getLast?_concat]
    exact held
  · intro dial member
    rw [dials, List.mem_append, List.mem_singleton] at member
    rcases member with listed | rfl
    · rcases numbered.replaced dial listed with held | errs
      · rw [empty] at held
        cases held
      · exact .inr (failed_grow state after replies dial.1 errs)
    · left
      rw [upstream]
      rfl

theorem invalidate_cases (upstream : Upstream Conn) (g : Nat) :
    upstream.invalidate g = upstream ∨
      ∃ conn, upstream.cell = some (g, conn) ∧
        upstream.invalidate g = { upstream with cell := none } := by
  unfold Upstream.invalidate
  split
  · rename_i cg conn held
    split
    · rename_i same
      exact .inr ⟨conn, same ▸ held, rfl⟩
    · exact .inl rfl
  · exact .inl rfl

theorem numbered_invalidated (state after : State Conn Err) (g : Nat)
    (numbered : Numbered state) (errs : g ∈ failedGenerations state)
    (upstream : after.upstream = state.upstream.invalidate g) (dials : after.dials = state.dials)
    (replies : state.replies ⊆ after.replies) : Numbered after := by
  rcases invalidate_cases state.upstream g with same | ⟨conn, held, cleared⟩
  · rw [same] at upstream
    exact numbered_kept state after numbered (by rw [upstream]) (by rw [upstream]) dials
      replies
  · rw [cleared] at upstream
    constructor
    · rw [upstream, dials]
      exact numbered.counted
    · rw [dials]
      exact numbered.increasing
    · rw [upstream, dials]
      exact numbered.bounded
    · intro dial filled
      rw [upstream] at filled
      cases filled
    · intro dial member
      right
      apply failed_grow state after replies
      rw [dials] at member
      rcases numbered.replaced dial member with current | failing
      · rw [held, Option.some.injEq] at current
        rw [← current]
        exact errs
      · exact failing

/-- Each connection but the one in the cell has failed a send. -/
theorem dials_le (state : State Conn Err) (numbered : Numbered state) :
    state.dials.length ≤ 1 + (failedGenerations state).card := by
  let current := (state.upstream.cell.map Prod.fst).getD 0
  have covered : (state.dials.map Prod.fst).toFinset ⊆
      insert current (failedGenerations state) := by
    intro g member
    rw [List.mem_toFinset] at member
    rcases List.mem_map.mp member with ⟨dial, listed, rfl⟩
    rw [Finset.mem_insert]
    apply (numbered.replaced dial listed).imp_left
    intro held
    simp only [current, held, Option.map_some, Option.getD_some]
  have distinct : (state.dials.map Prod.fst).Nodup :=
    numbered.increasing.imp Nat.ne_of_lt
  calc state.dials.length
      = (state.dials.map Prod.fst).toFinset.card := by
        rw [List.toFinset_card_of_nodup distinct, List.length_map]
    _ ≤ (insert current (failedGenerations state)).card := Finset.card_le_card covered
    _ ≤ (failedGenerations state).card + 1 := Finset.card_insert_le ..
    _ = 1 + (failedGenerations state).card := Nat.add_comm ..

theorem one_connection (state : State Conn Err) (numbered : Numbered state) (g : Nat)
    (left right : Conn) (first : (g, left) ∈ state.dials) (second : (g, right) ∈ state.dials) :
    left = right := by
  have distinct : (state.dials.map Prod.fst).Nodup := numbered.increasing.imp Nat.ne_of_lt
  have same := List.inj_on_of_nodup_map distinct first second rfl
  exact congrArg Prod.snd same

end Generations

/-! The lock of the cell. -/
section Lock

/-- Only a dial keeps the lock, and only with an empty cell. -/
structure Locked (state : State Conn Err) : Prop where
  empty : ∀ id, state.upstream.holder = some id → state.upstream.cell = none
  dialing : ∀ id, state.upstream.holder = some id ↔
    ∃ task, state.tasks id = some task ∧ task.phase = .dialing

theorem locked_new (addr : SocketAddr) : Locked (State.new addr : State Conn Err) := by
  constructor
  · intro id impossible
    cases impossible
  · intro id
    constructor
    · intro impossible
      cases impossible
    · rintro ⟨task, impossible, _⟩
      cases impossible

theorem locked_kept (state after : State Conn Err) (id : TaskId) (next : Task Conn Err)
    (locks : Locked state)
    (tasks : after.tasks = Function.update state.tasks id (some next))
    (holder : after.upstream.holder = state.upstream.holder)
    (cell : state.upstream.cell = none → after.upstream.cell = none)
    (elsewhere : ∀ task, state.tasks id = some task → task.phase ≠ .dialing)
    (onward : next.phase ≠ .dialing) : Locked after := by
  constructor
  · intro other held
    rw [holder] at held
    exact cell (locks.empty other held)
  · intro other
    rw [holder, tasks, locks.dialing other]
    by_cases same : other = id
    · rw [same, Function.update_self]
      constructor
      · rintro ⟨task, present, located⟩
        exact absurd located (elsewhere task present)
      · rintro ⟨task, present, located⟩
        cases present
        exact absurd located onward
    · rw [Function.update_of_ne same]

theorem locked_released (state after : State Conn Err) (id : TaskId) (task next : Task Conn Err)
    (locks : Locked state) (present : state.tasks id = some task) (located : task.phase = .dialing)
    (tasks : after.tasks = Function.update state.tasks id (some next))
    (holder : after.upstream.holder = none) (onward : next.phase ≠ .dialing) :
    Locked after := by
  have own := (locks.dialing id).mpr ⟨task, present, located⟩
  constructor
  · intro other held
    rw [holder] at held
    cases held
  · intro other
    rw [holder, tasks]
    constructor
    · intro impossible
      cases impossible
    · rintro ⟨dialer, found, dials⟩
      rcases update_some rfl found with ⟨_, rfl⟩ | ⟨different, before⟩
      · exact absurd dials onward
      · have theirs := (locks.dialing other).mpr ⟨dialer, before, dials⟩
        rw [own, Option.some.injEq] at theirs
        exact absurd theirs.symm different

theorem locked_taken (state after : State Conn Err) (id : TaskId) (next : Task Conn Err)
    (locks : Locked state) (free : state.upstream.holder = none)
    (empty : after.upstream.cell = none) (located : next.phase = .dialing)
    (tasks : after.tasks = Function.update state.tasks id (some next))
    (holder : after.upstream.holder = some id) : Locked after := by
  constructor
  · intro _ _
    exact empty
  · intro other
    rw [holder, tasks, Option.some.injEq]
    by_cases same : other = id
    · rw [same, Function.update_self]
      exact iff_of_true rfl ⟨next, rfl, located⟩
    · rw [Function.update_of_ne same, ← locks.dialing other, free]
      exact iff_of_false (fun own => same own.symm) nofun

theorem acquired_onward (task : Task Conn Err) (g : Nat) (conn : Conn) :
    (task.acquired g conn).phase ≠ .dialing := by
  unfold Task.acquired
  split <;> exact nofun

theorem retried_cases (task : Task Conn Err) (addr : SocketAddr) (err : Err) :
    (task.round + 1 < 2 ∧ (task.retried addr err).phase = .acquiring ∧
      (task.retried addr err).round = task.round + 1) ∨
    (task.retried addr err).phase = .returned (.error (.failedAfterReconnect addr err)) := by
  unfold Task.retried
  dsimp only
  split
  · rename_i again
    exact .inl ⟨again, rfl, rfl⟩
  · exact .inr rfl

theorem retried_onward (task : Task Conn Err) (addr : SocketAddr) (err : Err) :
    (task.retried addr err).phase ≠ .dialing := by
  rcases retried_cases task addr err with ⟨_, located, _⟩ | located
  · rw [located]
    exact nofun
  · rw [located]
    exact nofun

theorem invalidate_holder (upstream : Upstream Conn) (g : Nat) :
    (upstream.invalidate g).holder = upstream.holder := by
  rcases invalidate_cases upstream g with same | ⟨conn, _, cleared⟩
  · rw [same]
  · rw [cleared]

theorem invalidate_empty (upstream : Upstream Conn) (g : Nat) (empty : upstream.cell = none) :
    (upstream.invalidate g).cell = none := by
  rcases invalidate_cases upstream g with same | ⟨conn, _, cleared⟩
  · rw [same, empty]
  · rw [cleared]

theorem locked_step (action : Action Conn Err) (state after : State Conn Err)
    (locks : Locked state) (moved : Moved state action after) : Locked after := by
  have outside : ∀ (id : TaskId) (task : Task Conn Err), state.tasks id = some task →
      task.phase ≠ .dialing → ∀ other, state.tasks id = some other → other.phase ≠ .dialing := by
    intro id task present located other found
    cases present.symm.trans found
    exact located
  cases moved with
  | started fresh called =>
      refine locked_kept state _ _ _ locks rfl rfl id ?_ nofun
      intro task present
      rw [fresh] at present
      cases present
  | shared present located =>
      exact locked_kept state _ _ _ locks rfl rfl id (outside _ _ present (by simp [located]))
        (acquired_onward _ _ _)
  | locked present located free empty =>
      exact locked_taken state _ _ _ locks free empty rfl rfl rfl
  | dialed present located =>
      exact locked_released state _ _ _ _ locks present located rfl rfl (acquired_onward _ _ _)
  | undialed present located =>
      exact locked_released state _ _ _ _ locks present located rfl rfl nofun
  | answered present located =>
      exact locked_kept state _ _ _ locks rfl rfl id (outside _ _ present (by simp [located]))
        nofun
  | failed present located =>
      exact locked_kept state _ _ _ locks rfl rfl id (outside _ _ present (by simp [located]))
        nofun
  | invalidated present located free =>
      exact locked_kept state _ _ _ locks rfl (invalidate_holder ..) (invalidate_empty _ _)
        (outside _ _ present (by simp [located])) (retried_onward _ _ _)
  | unlocked present located =>
      exact locked_released state _ _ _ _ locks present located rfl rfl nofun
  | aborted present running lockless =>
      exact locked_kept state _ _ _ locks rfl rfl id (outside _ _ present lockless) nofun

end Lock

/-! Where every task stands. -/
section Places

def sendCount (state : State Conn Err) (id : TaskId) : Nat :=
  state.sends.countP (fun send => send.task = id)

/-- How many sends a task can have begun. -/
def allowance (task : Task Conn Err) : Nat :=
  match task.phase with
  | .acquiring | .dialing => task.round
  | .sending _ _ | .invalidating _ _ => task.round + 1
  | _ => 2

/-- A reply to a send of the task's own. -/
def Replied (state : State Conn Err) (id : TaskId) (result : Except Err Message) (g : Nat)
    (query : Option Message) : Prop :=
  ∃ reply ∈ state.replies, reply.send.task = id ∧ reply.result = result ∧
    reply.send.g = g ∧ query = some reply.send.query

def Backed (state : State Conn Err) (id : TaskId) (task : Task Conn Err) : Prop :=
  match task.phase with
  | .sending g conn => ∃ query, task.query = some query ∧ ⟨id, query, g, conn⟩ ∈ state.sends
  | .invalidating g err => Replied state id (.error err) g task.query
  | .returned (.ok resp) => ∃ g, Replied state id (.ok resp) g task.query
  | .panicked => False
  | _ => True

structure Placed (state : State Conn Err) (id : TaskId) (task : Task Conn Err) : Prop where
  round : task.phase.ended = false → task.round < 2
  count : sendCount state id ≤ allowance task
  backed : Backed state id task

theorem backed_kept (state after : State Conn Err) (id : TaskId) (task : Task Conn Err)
    (sends : state.sends ⊆ after.sends) (replies : state.replies ⊆ after.replies)
    (backed : Backed state id task) : Backed after id task := by
  unfold Backed at backed ⊢
  split at backed
  · rcases backed with ⟨query, asked, begun⟩
    exact ⟨query, asked, sends begun⟩
  · rcases backed with ⟨reply, logged, own⟩
    exact ⟨reply, replies logged, own⟩
  · rcases backed with ⟨g, reply, logged, own⟩
    exact ⟨g, reply, replies logged, own⟩
  · exact backed
  · trivial

theorem count_elsewhere (action : Action Conn Err) (state after : State Conn Err)
    (moved : Moved state action after) (other : TaskId) (different : other ≠ action.task) :
    sendCount after other = sendCount state other := by
  rcases moved_sends action state after moved with ⟨later, sends, own⟩
  have none : later.countP (fun send => send.task = other) = 0 := by
    rw [List.countP_eq_zero]
    intro send member theirs
    exact different (of_decide_eq_true theirs ▸ own send member)
  rw [sendCount, sends, List.countP_append, none]
  rfl

theorem count_handed (state : State Conn Err) (id : TaskId) (task : Task Conn Err) (g : Nat)
    (conn : Conn) : sendCount (state.handOver id task g conn) id ≤
      sendCount state id + task.query.toList.length := by
  simp only [sendCount, State.handOver, State.setTask, List.countP_append]
  apply Nat.add_le_add_left
  apply Nat.le_trans List.countP_le_length
  cases task.query with
  | none => exact Nat.le_refl 0
  | some query => exact Nat.le_refl 1

/-- A task that has its connection has one more send at most. -/
theorem placed_handed (state : State Conn Err) (id : TaskId) (task : Task Conn Err) (g : Nat)
    (conn : Conn) (round : task.round < 2) (count : sendCount state id ≤ task.round) :
    Placed (state.handOver id task g conn) id (task.acquired g conn) := by
  have counted := count_handed state id task g conn
  cases asked : task.query with
  | none =>
      rw [asked] at counted
      have next : task.acquired g conn = task.goto .connected := by
        simp only [Task.acquired, asked]
      rw [next]
      refine ⟨nofun, ?_, trivial⟩
      exact Nat.le_trans counted (Nat.le_trans count (Nat.le_of_lt round))
  | some query =>
      rw [asked] at counted
      have next : task.acquired g conn = task.goto (.sending g conn) := by
        simp only [Task.acquired, asked]
      rw [next]
      refine ⟨fun _ => round, ?_, query, asked, ?_⟩
      · exact Nat.le_trans counted (Nat.add_le_add_right count 1)
      · simp only [State.handOver, State.setTask, asked]
        exact List.mem_append_right _ List.mem_cons_self

theorem placed_retried (state : State Conn Err) (id : TaskId) (task : Task Conn Err)
    (addr : SocketAddr) (err : Err) (round : task.round < 2)
    (count : sendCount state id ≤ task.round + 1) :
    Placed state id (task.retried addr err) := by
  rcases retried_cases task addr err with ⟨again, located, next⟩ | located
  · constructor
    · intro _
      rw [next]
      exact again
    · rw [allowance, located, next]
      exact count
    · rw [Backed, located]
      trivial
  · constructor
    · intro running
      rw [located] at running
      cases running
    · rw [allowance, located]
      exact Nat.le_trans count round
    · rw [Backed, located]
      trivial

theorem placed_count (state : State Conn Err) (id : TaskId) (task : Task Conn Err)
    (placed : Placed state id task) : sendCount state id ≤ 2 := by
  have count := placed.count
  have round := placed.round
  cases located : task.phase with
  | acquiring | dialing =>
      rw [allowance, located] at count
      rw [located] at round
      exact Nat.le_trans count (Nat.le_of_lt (round rfl))
  | sending g conn | invalidating g err =>
      rw [allowance, located] at count
      rw [located] at round
      exact Nat.le_trans count (round rfl)
  | _ =>
      rw [allowance, located] at count
      exact count

structure Ledger (state : State Conn Err) : Prop where
  sent : ∀ send ∈ state.sends, (send.g, send.conn) ∈ state.dials
  replied : ∀ reply ∈ state.replies, reply.send ∈ state.sends
  unstarted : ∀ id, state.tasks id = none → sendCount state id = 0
  placed : ∀ id task, state.tasks id = some task → Placed state id task

theorem asked_backed (state : State Conn Err) (id : TaskId) (task : Task Conn Err) (g : Nat)
    (conn : Conn) (query : Message) (backed : Backed state id task)
    (located : task.phase = .sending g conn) (asked : task.query = some query) :
    ⟨id, query, g, conn⟩ ∈ state.sends := by
  rw [Backed, located] at backed
  rcases backed with ⟨own, same, begun⟩
  cases same.symm.trans asked
  exact begun

theorem sent_step (action : Action Conn Err) (state after : State Conn Err)
    (numbered : Numbered state) (ledger : Ledger state) (moved : Moved state action after) :
    ∀ send ∈ after.sends, (send.g, send.conn) ∈ after.dials := by
  cases moved with
  | shared present located free held =>
      intro send member
      rcases List.mem_append.mp member with begun | next
      · exact ledger.sent send begun
      · rcases handed_sends _ _ _ _ send next with ⟨_, rfl, rfl⟩
        exact List.mem_of_getLast? (numbered.held _ held)
  | dialed present located =>
      intro send member
      rcases List.mem_append.mp member with begun | next
      · exact List.mem_append_left _ (ledger.sent send begun)
      · rcases handed_sends _ _ _ _ send next with ⟨_, gen, rfl⟩
        rw [gen]
        exact List.mem_append_right _ List.mem_cons_self
  | _ => exact ledger.sent

theorem replied_step (action : Action Conn Err) (state after : State Conn Err)
    (ledger : Ledger state) (moved : Moved state action after) :
    ∀ reply ∈ after.replies, reply.send ∈ after.sends := by
  cases moved with
  | shared =>
      intro reply logged
      exact List.mem_append_left _ (ledger.replied reply logged)
  | dialed =>
      intro reply logged
      exact List.mem_append_left _ (ledger.replied reply logged)
  | answered present located asked =>
      intro reply member
      rcases List.mem_append.mp member with logged | last
      · exact ledger.replied reply logged
      · rw [List.mem_singleton.mp last]
        exact asked_backed state _ _ _ _ _ (ledger.placed _ _ present).backed located asked
  | failed present located asked =>
      intro reply member
      rcases List.mem_append.mp member with logged | last
      · exact ledger.replied reply logged
      · rw [List.mem_singleton.mp last]
        exact asked_backed state _ _ _ _ _ (ledger.placed _ _ present).backed located asked
  | _ => exact ledger.replied

theorem placed_waiting (state : State Conn Err) (id : TaskId) (task : Task Conn Err)
    (ledger : Ledger state) (present : state.tasks id = some task)
    (located : task.phase = .acquiring ∨ task.phase = .dialing) :
    task.round < 2 ∧ sendCount state id ≤ task.round := by
  have placed := ledger.placed id task present
  have round := placed.round
  have count := placed.count
  rcases located with located | located
  · rw [located] at round
    rw [allowance, located] at count
    exact ⟨round rfl, count⟩
  · rw [located] at round
    rw [allowance, located] at count
    exact ⟨round rfl, count⟩

theorem placed_begun (state : State Conn Err) (id : TaskId) (task : Task Conn Err)
    (ledger : Ledger state) (present : state.tasks id = some task)
    (located : (∃ g conn, task.phase = .sending g conn) ∨
      ∃ g err, task.phase = .invalidating g err) :
    task.round < 2 ∧ sendCount state id ≤ task.round + 1 := by
  have placed := ledger.placed id task present
  have round := placed.round
  have count := placed.count
  rcases located with ⟨g, conn, located⟩ | ⟨g, err, located⟩
  · rw [located] at round
    rw [allowance, located] at count
    exact ⟨round rfl, count⟩
  · rw [located] at round
    rw [allowance, located] at count
    exact ⟨round rfl, count⟩

/-- The place of the task that moves. -/
theorem placed_moved (action : Action Conn Err) (state after : State Conn Err)
    (ledger : Ledger state) (moved : Moved state action after) :
    ∃ task, after.tasks = Function.update state.tasks action.task (some task) ∧
      Placed after action.task task := by
  -- A task that ends keeps the count it has.
  have counted : ∀ id task, state.tasks id = some task → sendCount state id ≤ 2 := by
    intro id task present
    exact placed_count state id task (ledger.placed id task present)
  cases moved with
  | @started id query action fresh called =>
      have own : action.task = id := by
        rw [called]
        cases query <;> rfl
      rw [own]
      refine ⟨_, rfl, fun _ => Nat.zero_lt_two, ?_, trivial⟩
      exact Nat.le_of_eq (ledger.unstarted id fresh)
  | shared present located =>
      rcases placed_waiting state _ _ ledger present (.inl located) with ⟨round, count⟩
      exact ⟨_, rfl, placed_handed state _ _ _ _ round count⟩
  | locked present located =>
      rcases placed_waiting state _ _ ledger present (.inl located) with ⟨round, count⟩
      exact ⟨_, rfl, fun _ => round, count, trivial⟩
  | dialed present located =>
      rcases placed_waiting state _ _ ledger present (.inr located) with ⟨round, count⟩
      exact ⟨_, rfl, placed_handed (state.installed _) _ _ _ _ round count⟩
  | undialed present located =>
      exact ⟨_, rfl, nofun, counted _ _ present, trivial⟩
  | answered present located asked =>
      exact ⟨_, rfl, nofun, counted _ _ present, _, _,
        List.mem_append_right _ List.mem_cons_self, rfl, rfl, rfl, asked⟩
  | failed present located asked =>
      rcases placed_begun state _ _ ledger present (.inl ⟨_, _, located⟩) with ⟨round, count⟩
      exact ⟨_, rfl, fun _ => round, count, _, List.mem_append_right _ List.mem_cons_self, rfl,
        rfl, rfl, asked⟩
  | invalidated present located =>
      rcases placed_begun state _ _ ledger present (.inr ⟨_, _, located⟩) with ⟨round, count⟩
      exact ⟨_, rfl, placed_retried _ _ _ _ _ round count⟩
  | unlocked present located =>
      exact ⟨_, rfl, nofun, counted _ _ present, trivial⟩
  | aborted present running =>
      exact ⟨_, rfl, nofun, counted _ _ present, trivial⟩

theorem ledger_step (action : Action Conn Err) (state after : State Conn Err)
    (numbered : Numbered state) (ledger : Ledger state) (moved : Moved state action after) :
    Ledger after := by
  rcases placed_moved action state after ledger moved with ⟨next, tasks, placed⟩
  constructor
  · exact sent_step action state after numbered ledger moved
  · exact replied_step action state after ledger moved
  · intro id unstarted
    rw [tasks] at unstarted
    by_cases own : id = action.task
    · rw [own, Function.update_self] at unstarted
      cases unstarted
    · rw [Function.update_of_ne own] at unstarted
      rw [count_elsewhere action state after moved id own]
      exact ledger.unstarted id unstarted
  · intro id task present
    rcases update_some tasks present with ⟨rfl, rfl⟩ | ⟨own, existed⟩
    · exact placed
    · have before := ledger.placed id task existed
      rcases moved_sends action state after moved with ⟨later, sends, _⟩
      constructor
      · exact before.round
      · rw [count_elsewhere action state after moved id own]
        exact before.count
      · apply backed_kept state after id task ?_ (moved_replies action state after moved)
          before.backed
        rw [sends]
        exact List.subset_append_left ..

end Places

/-! Runs. -/
section Runs

structure Sound (state : State Conn Err) : Prop where
  numbered : Numbered state
  locks : Locked state
  ledger : Ledger state

theorem sound_new (addr : SocketAddr) : Sound (State.new addr : State Conn Err) where
  numbered := numbered_new addr
  locks := locked_new addr
  ledger := by
    constructor
    · intro send member
      cases member
    · intro reply member
      cases member
    · intro id _
      rfl
    · intro id task present
      cases present

theorem failed_of_replied (state : State Conn Err) (id : TaskId) (err : Err) (g : Nat)
    (query : Option Message) (replied : Replied state id (.error err) g query) :
    g ∈ failedGenerations state := by
  rcases replied with ⟨reply, logged, _, errs, gen, _⟩
  rw [mem_failed]
  exact ⟨reply, logged, by rw [failed, errs], gen⟩

theorem numbered_step (action : Action Conn Err) (state after : State Conn Err)
    (sound : Sound state) (moved : Moved state action after)
    (unwrapped : after.dials.length < 2 ^ 64) : Numbered after := by
  have replies := moved_replies action state after moved
  cases moved with
  | dialed present located =>
      have held := (sound.locks.dialing _).mpr ⟨_, present, located⟩
      exact numbered_installed state _ _ sound.numbered (sound.locks.empty _ held) unwrapped rfl
        rfl replies
  | invalidated present located =>
      have backed := (sound.ledger.placed _ _ present).backed
      rw [Backed, located] at backed
      exact numbered_invalidated state _ _ sound.numbered (failed_of_replied state _ _ _ _ backed)
        rfl rfl replies
  | _ => exact numbered_kept state _ sound.numbered rfl rfl rfl replies

theorem sound_step (action : Action Conn Err) (state after : State Conn Err)
    (sound : Sound state) (moved : Moved state action after)
    (unwrapped : after.dials.length < 2 ^ 64) : Sound after :=
  ⟨numbered_step action state after sound moved unwrapped,
    locked_step action state after sound.locks moved,
    ledger_step action state after sound.numbered sound.ledger moved⟩

theorem dials_grow (action : Action Conn Err) (state after : State Conn Err)
    (moved : Moved state action after) : state.dials.length ≤ after.dials.length := by
  rcases moved_dials action state after moved with ⟨later, dials⟩
  rw [dials, List.length_append]
  exact Nat.le_add_right ..

theorem dials_run (actions : List (Action Conn Err)) (state after : State Conn Err)
    (run : Run step anyAction state actions after) : state.dials.length ≤ after.dials.length := by
  apply run_invariant (motive := fun last => state.dials.length ≤ last.dials.length) _ run
    (Nat.le_refl _)
  intro action before next grown _ taken
  exact Nat.le_trans grown (dials_grow action before next (step_moved action before next taken))

/-- A run that does not wrap the counter takes each of its steps from a sound state. -/
theorem run_sound (actions : List (Action Conn Err)) (state after : State Conn Err)
    (run : Run step anyAction state actions after) (sound : Sound state)
    (unwrapped : after.dials.length < 2 ^ 64) :
    Sound after ∧ Run step (fun _ before => Sound before) state actions after := by
  induction run with
  | refl state => exact ⟨sound, .refl state⟩
  | @next before middle after action rest _ taken later ih =>
      have small := Nat.lt_of_le_of_lt (dials_run rest middle after later) unwrapped
      have moved := step_moved action before middle taken
      rcases ih (sound_step action before middle sound moved small) unwrapped with ⟨ended, tail⟩
      exact ⟨ended, .next sound taken tail⟩

/-- What a step takes out of the cell is a connection that the invalidating task's own
send has failed on, under the generation it remembers. -/
def DiscardsFailed (action : Action Conn Err) (before after : State Conn Err) : Prop :=
  ∀ g conn, before.upstream.cell = some (g, conn) → after.upstream.cell ≠ some (g, conn) →
    ∃ id task err, action = .invalidate id ∧ before.tasks id = some task ∧
      task.phase = .invalidating g err ∧ ∃ reply ∈ before.replies,
        reply.send.task = id ∧ reply.send.g = g ∧ reply.send.conn = conn ∧
          reply.result = .error err

theorem discards_failed (action : Action Conn Err) (before after : State Conn Err)
    (sound : Sound before) (moved : Moved before action after) :
    DiscardsFailed action before after := by
  intro g conn held gone
  cases moved with
  | @invalidated id task failing err present located free =>
      rcases invalidate_cases before.upstream failing with same | ⟨current, found, _⟩
      · exact absurd ((congrArg Upstream.cell same).trans held) gone
      · cases found.symm.trans held
        refine ⟨id, task, err, rfl, present, located, ?_⟩
        have backed := (sound.ledger.placed id task present).backed
        rw [Backed, located] at backed
        rcases backed with ⟨reply, logged, own, errs, gen, _⟩
        have sent := sound.ledger.sent reply.send (sound.ledger.replied reply logged)
        rw [gen] at sent
        have dialed := List.mem_of_getLast? (sound.numbered.held _ held)
        exact ⟨reply, logged, own, gen,
          one_connection before sound.numbered g _ _ sent dialed, errs⟩
  | dialed present located =>
      have locked := (sound.locks.dialing _).mpr ⟨_, present, located⟩
      rw [sound.locks.empty _ locked] at held
      cases held
  | _ => exact absurd held gone

/-- A task has begun two sends at most, and what it has returned is the response to one
of them or an error. -/
def Concluded (state : State Conn Err) (id : TaskId) (task : Task Conn Err) : Prop :=
  sendCount state id ≤ 2 ∧
    match task.phase with
    | .returned (.ok resp) => ∃ reply ∈ state.replies, reply.send ∈ state.sends ∧
        reply.send.task = id ∧ task.query = some reply.send.query ∧ reply.result = .ok resp
    | .panicked => False
    | _ => True

theorem concluded (state : State Conn Err) (sound : Sound state) (id : TaskId)
    (task : Task Conn Err) (present : state.tasks id = some task) : Concluded state id task := by
  have placed := sound.ledger.placed id task present
  constructor
  · exact placed_count state id task placed
  · have backed := placed.backed
    unfold Backed at backed
    split
    · rename_i resp located
      rw [located] at backed
      rcases backed with ⟨g, reply, logged, own, answers, _, asked⟩
      exact ⟨reply, logged, sound.ledger.replied reply logged, own, asked, answers⟩
    · rename_i located
      rw [located] at backed
      exact backed
    · trivial

end Runs

/-! Calls end. -/
section Ends

/-- The steps a task has left. -/
def rank (task : Task Conn Err) : Nat :=
  match task.phase with
  | .acquiring => 4 * (2 - task.round)
  | .dialing => 4 * (2 - task.round) - 1
  | .sending _ _ => 4 * (2 - task.round) - 2
  | .invalidating _ _ => 4 * (2 - task.round) - 3
  | _ => 0

def budget (state : State Conn Err) (id : TaskId) : Nat := (state.tasks id).elim 9 rank

theorem rank_acquired (task : Task Conn Err) (g : Nat) (conn : Conn) :
    rank (task.acquired g conn) ≤ 4 * (2 - task.round) - 2 := by
  unfold Task.acquired
  split
  · exact Nat.le_refl _
  · exact Nat.zero_le _

theorem rank_retried (task : Task Conn Err) (addr : SocketAddr) (err : Err) :
    rank (task.retried addr err) ≤ 4 * (2 - task.round) - 4 := by
  rcases retried_cases task addr err with ⟨_, located, next⟩ | located
  · rw [rank, located, next]
    dsimp only
    omega
  · rw [rank, located]
    exact Nat.zero_le _

theorem budget_falls (state after : State Conn Err) (id : TaskId) (task next : Task Conn Err)
    (present : state.tasks id = some task)
    (tasks : after.tasks = Function.update state.tasks id (some next))
    (less : rank next < rank task) : budget after id < budget state id := by
  rw [budget, budget, tasks, present, Function.update_self]
  exact less

theorem rank_running (task : Task Conn Err) (round : task.phase.ended = false → task.round < 2)
    (running : task.phase.ended = false) : 0 < rank task := by
  have left := round running
  cases located : task.phase with
  | acquiring | dialing | sending g conn | invalidating g err =>
      rw [rank, located]
      dsimp only
      omega
  | _ =>
      rw [located] at running
      cases running

theorem rank_falls (action : Action Conn Err) (state after : State Conn Err)
    (ledger : Ledger state) (moved : Moved state action after) :
    budget after action.task < budget state action.task := by
  cases moved with
  | @started id query action fresh called =>
      have own : action.task = id := by
        rw [called]
        cases query <;> rfl
      rw [own, budget, budget, fresh]
      simp only [State.setTask, Function.update_self, Option.elim_some, Option.elim_none]
      exact Nat.lt_succ_self 8
  | shared present located =>
      have round := (placed_waiting state _ _ ledger present (.inl located)).1
      apply budget_falls state _ _ _ _ present rfl
      apply Nat.lt_of_le_of_lt (rank_acquired _ _ _)
      rw [rank, located]
      dsimp only
      omega
  | locked present located =>
      have round := (placed_waiting state _ _ ledger present (.inl located)).1
      apply budget_falls state _ _ _ _ present rfl
      rw [rank, rank, located]
      dsimp only [Task.goto]
      omega
  | dialed present located =>
      have round := (placed_waiting state _ _ ledger present (.inr located)).1
      apply budget_falls state _ _ _ _ present rfl
      apply Nat.lt_of_le_of_lt (rank_acquired _ _ _)
      rw [rank, located]
      dsimp only
      omega
  | failed present located =>
      have round := (placed_begun state _ _ ledger present (.inl ⟨_, _, located⟩)).1
      apply budget_falls state _ _ _ _ present rfl
      rw [rank, rank, located]
      dsimp only [Task.goto]
      omega
  | invalidated present located =>
      have round := (placed_begun state _ _ ledger present (.inr ⟨_, _, located⟩)).1
      apply budget_falls state _ _ _ _ present rfl
      apply Nat.lt_of_le_of_lt (rank_retried _ _ _)
      rw [rank, located]
      dsimp only
      omega
  | undialed present located =>
      exact budget_falls state _ _ _ _ present rfl
        (rank_running _ (ledger.placed _ _ present).round (by rw [located]; rfl))
  | answered present located =>
      exact budget_falls state _ _ _ _ present rfl
        (rank_running _ (ledger.placed _ _ present).round (by rw [located]; rfl))
  | unlocked present located =>
      exact budget_falls state _ _ _ _ present rfl
        (rank_running _ (ledger.placed _ _ present).round (by rw [located]; rfl))
  | aborted present running =>
      exact budget_falls state _ _ _ _ present rfl
        (rank_running _ (ledger.placed _ _ present).round running)

theorem budget_elsewhere (action : Action Conn Err) (state after : State Conn Err)
    (moved : Moved state action after) (id : TaskId) (other : id ≠ action.task) :
    budget after id = budget state id := by
  rcases moved_task action state after moved with ⟨task, tasks⟩
  rw [budget, tasks, Function.update_of_ne other]
  rfl

theorem budget_run (actions : List (Action Conn Err)) (state after : State Conn Err)
    (run : Run step (fun _ before => Sound before) state actions after) (id : TaskId) :
    actions.countP (fun action => action.task = id) + budget after id ≤ budget state id := by
  induction run with
  | refl => exact Nat.le_of_eq (Nat.zero_add _)
  | @next before middle after action rest sound taken _ ih =>
      have moved := step_moved action before middle taken
      rw [List.countP_cons]
      by_cases own : action.task = id
      · have falls := rank_falls action before middle sound.ledger moved
        rw [own] at falls
        simp only [own, decide_true, if_true]
        omega
      · have same := budget_elsewhere action before middle moved id (fun eq => own eq.symm)
        simp only [own, decide_false, Bool.false_eq_true, if_false]
        omega

/-- A task that has not ended can go on as soon as the lock is free, or the dialer or the
connection has answered. -/
def Proceeds (state : State Conn Err) (id : TaskId) (task : Task Conn Err) : Prop :=
  match task.phase with
  | .acquiring => state.upstream.holder = none → (step (.acquire id) state).isSome
  | .dialing => ∀ result, (step (.dialed id result) state).isSome
  | .sending _ _ => ∀ result, (step (.replied id result) state).isSome
  | .invalidating _ _ => state.upstream.holder = none → (step (.invalidate id) state).isSome
  | _ => True

theorem proceeds (state : State Conn Err) (ledger : Ledger state) (id : TaskId)
    (task : Task Conn Err) (present : state.tasks id = some task) : Proceeds state id task := by
  unfold Proceeds
  split
  · rename_i located
    intro free
    simp only [step, present, Option.bind_some, acquireStep, located, free]
    split <;> rfl
  · rename_i located
    intro result
    cases result <;>
      simp only [step, present, Option.bind_some, dialedStep, located, Option.isSome_some]
  · rename_i g conn located
    intro result
    have backed := (ledger.placed id task present).backed
    rw [Backed, located] at backed
    rcases backed with ⟨query, asked, _⟩
    cases result <;>
      simp only [step, present, Option.bind_some, repliedStep, located, asked, Option.isSome_some]
  · rename_i g err located
    intro free
    simp only [step, present, Option.bind_some, invalidateStep, located, free, Option.isSome_some]
  · trivial

/-- The lock is never kept by a task that waits for anything but its dial. -/
theorem holder_proceeds (state : State Conn Err) (locks : Locked state) (id : TaskId)
    (held : state.upstream.holder = some id) (result : Except Err Conn) :
    (step (.dialed id result) state).isSome := by
  rcases (locks.dialing id).mp held with ⟨task, present, located⟩
  cases result <;>
    simp only [step, present, Option.bind_some, dialedStep, located, Option.isSome_some]

/-- Over any run the generations installed increase, and only a connection that failed
under the invalidated generation is discarded. Every call begins two sends at most and
returns the response to one of them or an error; it has nine steps of its own at most,
and the next one is open as soon as the lock is free or an answer is there. And the
dials that succeed are at most one more than the generations that failed. -/
theorem reconnect_protocol (addr : SocketAddr) (actions : List (Action Conn Err))
    (after : State Conn Err) (run : Run step anyAction (State.new addr) actions after)
    (unwrapped : after.dials.length < 2 ^ 64) :
    ((after.dials.map Prod.fst).Pairwise (· < ·) ∧
      ∀ dial, after.upstream.cell = some dial → after.dials.getLast? = some dial) ∧
    (∀ front action back before next, actions = front ++ action :: back →
      Run step anyAction (State.new addr) front before → step action before = some next →
      DiscardsFailed action before next) ∧
    (∀ id task, after.tasks id = some task →
      Concluded after id task ∧ Proceeds after id task) ∧
    (∀ id result, after.upstream.holder = some id → (step (.dialed id result) after).isSome) ∧
    (∀ id, actions.countP (fun action => action.task = id) + budget after id ≤ 9) ∧
    after.dials.length ≤ 1 + (failedGenerations after).card := by
  rcases run_sound actions _ after run (sound_new addr) unwrapped with ⟨sound, soundRun⟩
  refine ⟨⟨sound.numbered.increasing, sound.numbered.held⟩, ?_, ?_, ?_, ?_,
    dials_le after sound.numbered⟩
  · rintro front action back before next rfl begun taken
    rcases run_split soundRun with ⟨middle, first, second⟩
    cases run_deterministic begun first
    cases second with
    | next steady _ _ =>
        exact discards_failed action before next steady (step_moved action before next taken)
  · intro id task present
    exact ⟨concluded after sound id task present, proceeds after sound.ledger id task present⟩
  · intro id result held
    exact holder_proceeds after sound.locks id held result
  · intro id
    exact budget_run actions _ after soundRun id

/-- Two calls fail on the first connection. One reports it and dials again, and the late
report of the other leaves the new connection in place. -/
def burst : List (Reconnect.Action Nat Unit) :=
  [.connect 0, .acquire 0, .dialed 0 (.ok 10), .resolve 1 .new, .acquire 1, .resolve 2 .new,
    .acquire 2, .replied 1 (.error ()), .replied 2 (.error ()), .invalidate 1, .acquire 1,
    .dialed 1 (.ok 11), .invalidate 2, .acquire 2, .replied 1 (.ok .new),
    .replied 2 (.ok .new)]

theorem reconnect_protocol_burst :
    ∃ after : State Nat Unit, exec step burst (State.new ⟨.V6 1, 853⟩) = some after ∧
      after.dials = [(1, 10), (2, 11)] ∧
      after.dials.length ≤ 1 + (failedGenerations after).card ∧
      ∀ id, burst.countP (fun action => action.task = id) + budget after id ≤ 9 := by
  have executed : exec step burst (State.new ⟨.V6 1, 853⟩ : State Nat Unit) = some _ := rfl
  have protocol := reconnect_protocol ⟨.V6 1, 853⟩ burst _ (exec_run executed) (by decide)
  exact ⟨_, executed, rfl, protocol.2.2.2.2.2, protocol.2.2.2.2.1⟩

end Ends

end Dnsix.Redials
