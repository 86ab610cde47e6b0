import Dnsix.Handler
import Dnsix.Transition

/-!
One `Upstream` of `upstream.rs` as a transition system. Any number of calls of `resolve`,
and of the `acquire` of `connect`, run interleaved on one connection cell. A step is what
a task does between two awaits, and only a dial keeps the lock of the cell over an await.
What a dial and a send come to is given from outside.
-/

namespace Dnsix.Reconnect
open Dns
open Handler (SocketAddr)

variable {Conn Err : Type}

abbrev TaskId := Nat

/-- An error of `resolve`: the one of `acquire`, or the last send's in the context
"upstream {addr} failed after reconnect". -/
inductive Failure (Err : Type) where
  | dial (err : Err)
  | failedAfterReconnect (addr : SocketAddr) (err : Err)
  deriving DecidableEq

/-- `holder` is the task that has the lock of the cell, if one keeps it over an await. -/
structure Upstream (Conn : Type) where
  addr : SocketAddr
  cell : Option (Nat × Conn)
  gen : Nat
  holder : Option TaskId
  deriving DecidableEq

def Upstream.withDialer (addr : SocketAddr) : Upstream Conn :=
  { addr, cell := none, gen := 0, holder := none }

def Upstream.lock (upstream : Upstream Conn) (id : TaskId) : Upstream Conn :=
  { upstream with holder := some id }

def Upstream.unlock (upstream : Upstream Conn) : Upstream Conn :=
  { upstream with holder := none }

/-- The generation of the next connection; the counter wraps. -/
def Upstream.nextGen (upstream : Upstream Conn) : Nat := (upstream.gen + 1) % 2 ^ 64

/-- The end of `acquire` after a successful dial. -/
def Upstream.install (upstream : Upstream Conn) (conn : Conn) : Upstream Conn :=
  { upstream with
    cell := some (upstream.nextGen, conn)
    gen := upstream.nextGen
    holder := none }

def Upstream.invalidate (upstream : Upstream Conn) (g : Nat) : Upstream Conn :=
  match upstream.cell with
  | some (cg, _) => if cg = g then { upstream with cell := none } else upstream
  | none => upstream

/-- Where a task stands, with its live local variables. -/
inductive Phase (Conn Err : Type) where
  -- `acquire` and `invalidate` wait for the lock, a dial keeps it.
  | acquiring
  | dialing
  | sending (g : Nat) (conn : Conn)
  | invalidating (g : Nat) (err : Err)
  | connected
  | returned (result : Except (Failure Err) Message)
  -- `expect` on a `last_err` that was never set.
  | panicked
  | aborted

def Phase.ended : Phase Conn Err → Bool
  | .connected | .returned _ | .panicked | .aborted => true
  | _ => false

/-- A task of `connect` has no query. -/
structure Task (Conn Err : Type) where
  query : Option Message
  round : Nat
  lastErr : Option Err
  phase : Phase Conn Err

def Task.start (query : Option Message) : Task Conn Err :=
  { query, round := 0, lastErr := none, phase := .acquiring }

def Task.goto (task : Task Conn Err) (phase : Phase Conn Err) : Task Conn Err :=
  { task with phase }

/-- What `acquire` hands its caller. -/
def Task.acquired (task : Task Conn Err) (g : Nat) (conn : Conn) : Task Conn Err :=
  match task.query with
  | some _ => task.goto (.sending g conn)
  | none => task.goto .connected

/-- The end of a round of the loop, and what comes after it. -/
def Task.retried (task : Task Conn Err) (addr : SocketAddr) (err : Err) : Task Conn Err :=
  let task := { task with round := task.round + 1, lastErr := some err }
  if task.round < 2 then task.goto .acquiring
  else
    match task.lastErr with
    | some err => task.goto (.returned (.error (.failedAfterReconnect addr err)))
    | none => task.goto .panicked

structure Send (Conn : Type) where
  task : TaskId
  query : Message
  g : Nat
  conn : Conn
  deriving DecidableEq

structure Reply (Conn Err : Type) where
  send : Send Conn
  result : Except Err Message

/-- `dials` lists the connections that were installed, `sends` the sends that were begun
and `replies` those that have ended. -/
structure State (Conn Err : Type) where
  upstream : Upstream Conn
  tasks : TaskId → Option (Task Conn Err)
  dials : List (Nat × Conn)
  sends : List (Send Conn)
  replies : List (Reply Conn Err)

def State.new (addr : SocketAddr) : State Conn Err :=
  { upstream := .withDialer addr, tasks := fun _ => none, dials := [], sends := [],
    replies := [] }

def State.setTask (state : State Conn Err) (id : TaskId) (task : Task Conn Err) :
    State Conn Err :=
  { state with tasks := Function.update state.tasks id (some task) }

def State.setUpstream (state : State Conn Err) (upstream : Upstream Conn) : State Conn Err :=
  { state with upstream }

/-- A task has its connection, and a `resolve` begins its send. -/
def State.handOver (state : State Conn Err) (id : TaskId) (task : Task Conn Err) (g : Nat)
    (conn : Conn) : State Conn Err :=
  { state.setTask id (task.acquired g conn) with
    sends := state.sends ++ (task.query.map fun query => ⟨id, query, g, conn⟩).toList }

def State.installed (state : State Conn Err) (conn : Conn) : State Conn Err :=
  { state.setUpstream (state.upstream.install conn) with
    dials := state.dials ++ [(state.upstream.nextGen, conn)] }

def State.logReply (state : State Conn Err) (reply : Reply Conn Err) : State Conn Err :=
  { state with replies := state.replies ++ [reply] }

inductive Action (Conn Err : Type) where
  | connect (id : TaskId)
  | resolve (id : TaskId) (query : Message)
  | acquire (id : TaskId)
  | dialed (id : TaskId) (result : Except Err Conn)
  | replied (id : TaskId) (result : Except Err Message)
  | invalidate (id : TaskId)
  -- The future is dropped, or a panic of the dialer or the connection unwinds it; the
  -- guard of the lock goes with it.
  | abort (id : TaskId)

def Action.task : Action Conn Err → TaskId
  | .connect id | .resolve id _ | .acquire id | .dialed id _ | .replied id _ | .invalidate id
  | .abort id => id

def start (state : State Conn Err) (id : TaskId) (query : Option Message) :
    Option (State Conn Err) :=
  match state.tasks id with
  | none => some (state.setTask id (.start query))
  | some _ => none

def acquireStep (state : State Conn Err) (id : TaskId) (task : Task Conn Err) :
    Option (State Conn Err) :=
  match task.phase, state.upstream.holder with
  | .acquiring, none =>
      match state.upstream.cell with
      | some (g, conn) => some (state.handOver id task g conn)
      | none =>
          some ((state.setUpstream (state.upstream.lock id)).setTask id (task.goto .dialing))
  | _, _ => none

def dialedStep (state : State Conn Err) (id : TaskId) (result : Except Err Conn)
    (task : Task Conn Err) : Option (State Conn Err) :=
  match task.phase, result with
  | .dialing, .ok conn =>
      some ((state.installed conn).handOver id task state.upstream.nextGen conn)
  | .dialing, .error err =>
      some ((state.setUpstream state.upstream.unlock).setTask id
        (task.goto (.returned (.error (.dial err)))))
  | _, _ => none

def repliedStep (state : State Conn Err) (id : TaskId) (result : Except Err Message)
    (task : Task Conn Err) : Option (State Conn Err) :=
  match task.phase, task.query with
  | .sending g conn, some query =>
      let state := state.logReply ⟨⟨id, query, g, conn⟩, result⟩
      match result with
      | .ok resp => some (state.setTask id (task.goto (.returned (.ok resp))))
      | .error err => some (state.setTask id (task.goto (.invalidating g err)))
  | _, _ => none

def invalidateStep (state : State Conn Err) (id : TaskId) (task : Task Conn Err) :
    Option (State Conn Err) :=
  match task.phase, state.upstream.holder with
  | .invalidating g err, none =>
      some ((state.setUpstream (state.upstream.invalidate g)).setTask id
        (task.retried state.upstream.addr err))
  | _, _ => none

def abortStep (state : State Conn Err) (id : TaskId) (task : Task Conn Err) :
    Option (State Conn Err) :=
  match task.phase with
  | .dialing =>
      some ((state.setUpstream state.upstream.unlock).setTask id (task.goto .aborted))
  | phase => if phase.ended then none else some (state.setTask id (task.goto .aborted))

def step (action : Action Conn Err) (state : State Conn Err) : Option (State Conn Err) :=
  match action with
  | .connect id => start state id none
  | .resolve id query => start state id (some query)
  | .acquire id => (state.tasks id).bind (acquireStep state id)
  | .dialed id result => (state.tasks id).bind (dialedStep state id result)
  | .replied id result => (state.tasks id).bind (repliedStep state id result)
  | .invalidate id => (state.tasks id).bind (invalidateStep state id)
  | .abort id => (state.tasks id).bind (abortStep state id)

/-- What one step can do. -/
inductive Moved (state : State Conn Err) : Action Conn Err → State Conn Err → Prop where
  | started {id : TaskId} {query : Option Message} {action : Action Conn Err}
      (fresh : state.tasks id = none)
      (called : action = query.elim (.connect id) (.resolve id)) :
      Moved state action (state.setTask id (.start query))
  | shared {id : TaskId} {task : Task Conn Err} {g : Nat} {conn : Conn}
      (present : state.tasks id = some task) (located : task.phase = .acquiring)
      (free : state.upstream.holder = none) (held : state.upstream.cell = some (g, conn)) :
      Moved state (.acquire id) (state.handOver id task g conn)
  | locked {id : TaskId} {task : Task Conn Err}
      (present : state.tasks id = some task) (located : task.phase = .acquiring)
      (free : state.upstream.holder = none) (empty : state.upstream.cell = none) :
      Moved state (.acquire id)
        ((state.setUpstream (state.upstream.lock id)).setTask id (task.goto .dialing))
  | dialed {id : TaskId} {task : Task Conn Err} {conn : Conn}
      (present : state.tasks id = some task) (located : task.phase = .dialing) :
      Moved state (.dialed id (.ok conn))
        ((state.installed conn).handOver id task state.upstream.nextGen conn)
  | undialed {id : TaskId} {task : Task Conn Err} {err : Err}
      (present : state.tasks id = some task) (located : task.phase = .dialing) :
      Moved state (.dialed id (.error err))
        ((state.setUpstream state.upstream.unlock).setTask id
          (task.goto (.returned (.error (.dial err)))))
  | answered {id : TaskId} {task : Task Conn Err} {query resp : Message} {g : Nat} {conn : Conn}
      (present : state.tasks id = some task) (located : task.phase = .sending g conn)
      (asked : task.query = some query) :
      Moved state (.replied id (.ok resp))
        ((state.logReply ⟨⟨id, query, g, conn⟩, .ok resp⟩).setTask id
          (task.goto (.returned (.ok resp))))
  | failed {id : TaskId} {task : Task Conn Err} {query : Message} {g : Nat} {conn : Conn}
      {err : Err} (present : state.tasks id = some task)
      (located : task.phase = .sending g conn) (asked : task.query = some query) :
      Moved state (.replied id (.error err))
        ((state.logReply ⟨⟨id, query, g, conn⟩, .error err⟩).setTask id
          (task.goto (.invalidating g err)))
  | invalidated {id : TaskId} {task : Task Conn Err} {g : Nat} {err : Err}
      (present : state.tasks id = some task) (located : task.phase = .invalidating g err)
      (free : state.upstream.holder = none) :
      Moved state (.invalidate id)
        ((state.setUpstream (state.upstream.invalidate g)).setTask id
          (task.retried state.upstream.addr err))
  | unlocked {id : TaskId} {task : Task Conn Err}
      (present : state.tasks id = some task) (located : task.phase = .dialing) :
      Moved state (.abort id)
        ((state.setUpstream state.upstream.unlock).setTask id (task.goto .aborted))
  | aborted {id : TaskId} {task : Task Conn Err}
      (present : state.tasks id = some task) (running : task.phase.ended = false)
      (lockless : task.phase ≠ .dialing) :
      Moved state (.abort id) (state.setTask id (task.goto .aborted))

theorem start_moved (state after : State Conn Err) (id : TaskId) (query : Option Message)
    (taken : start state id query = some after) :
    Moved state (query.elim (.connect id) (.resolve id)) after := by
  unfold start at taken
  split at taken
  · rename_i fresh
    cases taken
    exact .started fresh rfl
  · cases taken

theorem step_moved (action : Action Conn Err) (state after : State Conn Err)
    (taken : step action state = some after) : Moved state action after := by
  cases action with
  | connect id => exact start_moved state after id none taken
  | resolve id query => exact start_moved state after id (some query) taken
  | acquire id =>
      rcases Option.bind_eq_some_iff.mp taken with ⟨task, present, taken⟩
      unfold acquireStep at taken
      split at taken
      · rename_i located free
        split at taken
        · rename_i g conn held
          cases taken
          exact .shared present located free held
        · rename_i empty
          cases taken
          exact .locked present located free empty
      · cases taken
  | dialed id result =>
      rcases Option.bind_eq_some_iff.mp taken with ⟨task, present, taken⟩
      cases result with
      | ok conn =>
          unfold dialedStep at taken
          split at taken
          · rename_i located same
            cases same
            cases taken
            exact .dialed present located
          · rename_i failed
            cases failed
          · cases taken
      | error err =>
          unfold dialedStep at taken
          split at taken
          · rename_i dialed
            cases dialed
          · rename_i located same
            cases same
            cases taken
            exact .undialed present located
          · cases taken
  | replied id result =>
      rcases Option.bind_eq_some_iff.mp taken with ⟨task, present, taken⟩
      unfold repliedStep at taken
      split at taken
      · rename_i g conn query located asked
        cases result with
        | ok resp =>
            cases taken
            exact .answered present located asked
        | error err =>
            cases taken
            exact .failed present located asked
      · cases taken
  | invalidate id =>
      rcases Option.bind_eq_some_iff.mp taken with ⟨task, present, taken⟩
      unfold invalidateStep at taken
      split at taken
      · rename_i g err located free
        cases taken
        exact .invalidated present located free
      · cases taken
  | abort id =>
      rcases Option.bind_eq_some_iff.mp taken with ⟨task, present, taken⟩
      unfold abortStep at taken
      split at taken
      · rename_i located
        cases taken
        exact .unlocked present located
      · rename_i lockless
        split at taken
        · cases taken
        · rename_i running
          cases taken
          exact .aborted present (Bool.eq_false_iff.mpr running) lockless

end Dnsix.Reconnect
