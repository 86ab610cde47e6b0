import Dnsix.FirstAnswer
import Dnsix.Reconnect

/-!
The two retry levels of `upstream.rs`, one call after the other: `Upstream::resolve`
reconnects once, and `UpstreamSet::resolve` goes through the upstreams in order until
one answers. A call alone is a run of the transition system of the upstream, with
nobody in between.
-/

namespace Dnsix.Failover
open Dns FirstAnswer Panics Reconnect Transition
open Handler (SocketAddr)

variable {Conn Err World : Type}

/-- What dials and sends come to, in a world of their own that they may change. -/
structure Network (Conn Err World : Type) where
  dial : SocketAddr → World → Except Err Conn × World
  send : Conn → Message → World → Except Err Message × World

/-! One upstream. -/
section Upstreams

variable (net : Network Conn Err World)

def acquire (state : State Conn Err) (world : World) :
    Except (Failure Err) (Nat × Conn) × State Conn Err × World :=
  match state.upstream.cell with
  | some held => (.ok held, state, world)
  | none =>
      match net.dial state.upstream.addr world with
      | (.ok conn, world) => (.ok (state.upstream.nextGen, conn), state.installed conn, world)
      | (.error err, world) => (.error (.dial err), state, world)

def invalidate (state : State Conn Err) (g : Nat) : State Conn Err :=
  state.setUpstream (state.upstream.invalidate g)

/-- The loop of `resolve` with `rounds` to go. -/
def resolveRounds (id : TaskId) (query : Message) :
    Nat → Option Err → State Conn Err → World →
      Checked (Except (Failure Err) Message × State Conn Err × World)
  | 0, lastErr, state, world => do
      let err ← expect lastErr
      .ok (.error (.failedAfterReconnect state.upstream.addr err), state, world)
  | rounds + 1, _, state, world =>
      match acquire net state world with
      | (.error failure, state, world) => .ok (.error failure, state, world)
      | (.ok (g, conn), state, world) =>
          match net.send conn query world with
          | (.ok resp, world) =>
              .ok (.ok resp, state.logReply ⟨⟨id, query, g, conn⟩, .ok resp⟩, world)
          | (.error err, world) =>
              resolveRounds id query rounds (some err)
                (invalidate (state.logReply ⟨⟨id, query, g, conn⟩, .error err⟩) g) world

def resolve (id : TaskId) (query : Message) (state : State Conn Err) (world : World) :
    Checked (Except (Failure Err) Message × State Conn Err × World) :=
  resolveRounds net id query 2 none state world

/-- One call after the other. -/
def resolveEach (id : TaskId) : List Message → State Conn Err → World →
    Checked (List (Except (Failure Err) Message) × State Conn Err × World)
  | [], state, world => .ok ([], state, world)
  | query :: rest, state, world => do
      let (result, state, world) ← resolve net id query state world
      let (results, state, world) ← resolveEach (id + 1) rest state world
      .ok (result :: results, state, world)

end Upstreams

/-! A call alone is a run of the upstream. -/
section Runs
variable {net : Network Conn Err World}

/-- The two states agree on the cell and on what was dialed and answered. -/
structure Agrees (state other : State Conn Err) : Prop where
  upstream : state.upstream = other.upstream
  dials : state.dials = other.dials
  replies : state.replies = other.replies

theorem exec_cons (action : Reconnect.Action Conn Err) (rest : List (Reconnect.Action Conn Err))
    (state middle : State Conn Err) (taken : step action state = some middle) :
    exec step (action :: rest) state = exec step rest middle := by
  rw [exec, taken, Option.bind_some]

@[simp] theorem set_task_self (state : State Conn Err) (id : TaskId)
    (task : Reconnect.Task Conn Err) :
    (state.setTask id task).tasks id = some task := Function.update_self ..

/-! The steps of a task that nobody gets in the way of. -/
section Steps
variable {state : State Conn Err} {id : TaskId} {task : Reconnect.Task Conn Err}

theorem step_shared {g : Nat} {conn : Conn} (present : state.tasks id = some task)
    (located : task.phase = .acquiring) (free : state.upstream.holder = none)
    (held : state.upstream.cell = some (g, conn)) :
    step (.acquire id) state = some (state.handOver id task g conn) := by
  simp only [step, present, Option.bind_some, acquireStep, located, free, held]

theorem step_locked (present : state.tasks id = some task) (located : task.phase = .acquiring)
    (free : state.upstream.holder = none) (empty : state.upstream.cell = none) :
    step (.acquire id) state =
      some ((state.setUpstream (state.upstream.lock id)).setTask id (task.goto .dialing)) := by
  simp only [step, present, Option.bind_some, acquireStep, located, free, empty]

theorem step_dialed (conn : Conn) (present : state.tasks id = some task)
    (located : task.phase = .dialing) :
    step (.dialed id (.ok conn)) state =
      some ((state.installed conn).handOver id task state.upstream.nextGen conn) := by
  simp only [step, present, Option.bind_some, dialedStep, located]

theorem step_undialed (err : Err) (present : state.tasks id = some task)
    (located : task.phase = .dialing) :
    step (.dialed id (.error err)) state =
      some ((state.setUpstream state.upstream.unlock).setTask id
        (task.goto (.returned (.error (.dial err))))) := by
  simp only [step, present, Option.bind_some, dialedStep, located]

theorem step_answered {query : Message} {g : Nat} {conn : Conn} (resp : Message)
    (present : state.tasks id = some task) (located : task.phase = .sending g conn)
    (asked : task.query = some query) :
    step (.replied id (.ok resp)) state =
      some ((state.logReply ⟨⟨id, query, g, conn⟩, .ok resp⟩).setTask id
        (task.goto (.returned (.ok resp)))) := by
  simp only [step, present, Option.bind_some, repliedStep, located, asked]

theorem step_failed {query : Message} {g : Nat} {conn : Conn} (err : Err)
    (present : state.tasks id = some task) (located : task.phase = .sending g conn)
    (asked : task.query = some query) :
    step (.replied id (.error err)) state =
      some ((state.logReply ⟨⟨id, query, g, conn⟩, .error err⟩).setTask id
        (task.goto (.invalidating g err))) := by
  simp only [step, present, Option.bind_some, repliedStep, located, asked]

theorem step_invalidated {g : Nat} {err : Err} (present : state.tasks id = some task)
    (located : task.phase = .invalidating g err) (free : state.upstream.holder = none) :
    step (.invalidate id) state =
      some ((state.setUpstream (state.upstream.invalidate g)).setTask id
        (task.retried state.upstream.addr err)) := by
  simp only [step, present, Option.bind_some, invalidateStep, located, free]

end Steps

/-- Where a task stands once `acquire` has returned. -/
def reached : Except (Failure Err) (Nat × Conn) → Phase Conn Err
  | .ok (g, conn) => .sending g conn
  | .error failure => .returned (.error failure)

/-- The task goes on in another phase of the same round. -/
structure Onward (state : State Conn Err) (id : TaskId) (task : Reconnect.Task Conn Err)
    (phase : Phase Conn Err) (next : Reconnect.Task Conn Err) : Prop where
  present : state.tasks id = some next
  located : next.phase = phase
  asked : next.query = task.query
  round : next.round = task.round

theorem hand_over_onward (state : State Conn Err) (id : TaskId) (task : Reconnect.Task Conn Err)
    (g : Nat) (conn : Conn) (query : Message) (asked : task.query = some query) :
    Onward (state.handOver id task g conn) id task (.sending g conn) (task.acquired g conn) := by
  refine ⟨Function.update_self .., ?_, ?_, ?_⟩ <;> simp [Task.acquired, asked, Task.goto]

/-- A task that acquires gets what the call alone gets. -/
theorem acquire_executes (real state after : State Conn Err) (world later : World) (id : TaskId)
    (task : Reconnect.Task Conn Err) (query : Message) (present : real.tasks id = some task)
    (located : task.phase = .acquiring) (asked : task.query = some query)
    (free : state.upstream.holder = none) (agrees : Agrees real state)
    (result : Except (Failure Err) (Nat × Conn))
    (acquired : acquire net state world = (result, after, later)) :
    ∃ actions last next, exec step actions real = some last ∧ Agrees last after ∧
      after.upstream.holder = none ∧ Onward last id task (reached result) next := by
  rcases agrees with ⟨upstream, dials, replies⟩
  have unheld : real.upstream.holder = none := by rw [upstream, free]
  unfold acquire at acquired
  cases held : state.upstream.cell with
  | some pair =>
      rcases pair with ⟨g, conn⟩
      rw [held] at acquired
      cases acquired
      have taken := step_shared present located unheld (by rw [upstream, held])
      exact ⟨[.acquire id], _, _, exec_cons _ [] real _ taken, ⟨upstream, dials, replies⟩, free,
        hand_over_onward real id task g conn query asked⟩
  | none =>
      have locks := step_locked present located unheld (by rw [upstream, held])
      rw [held] at acquired
      cases dialed : net.dial state.upstream.addr world with
      | mk outcome reached =>
          rw [dialed] at acquired
          cases outcome with
          | ok conn =>
              cases acquired
              have installs := step_dialed conn (set_task_self (real.setUpstream
                (real.upstream.lock id)) id (task.goto .dialing)) rfl
              have generation : real.upstream.nextGen = state.upstream.nextGen := by rw [upstream]
              have onward := hand_over_onward (((real.setUpstream
                (real.upstream.lock id)).setTask id (task.goto .dialing)).installed conn) id
                  (task.goto .dialing) real.upstream.nextGen conn query asked
              have installed : (real.upstream.lock id).install conn =
                  state.upstream.install conn := by
                rw [upstream]
                rfl
              have logged : real.dials ++ [(real.upstream.nextGen, conn)] =
                  state.dials ++ [(state.upstream.nextGen, conn)] := by
                rw [dials, generation]
              refine ⟨[.acquire id, .dialed id (.ok conn)], _, _,
                (exec_cons _ _ real _ locks).trans (exec_cons _ [] _ _ installs),
                ⟨installed, logged, replies⟩, rfl, onward.present, ?_, onward.asked, onward.round⟩
              rw [onward.located, generation]
              rfl
          | error err =>
              cases acquired
              have returns := step_undialed err (set_task_self (real.setUpstream
                (real.upstream.lock id)) id (task.goto .dialing)) rfl
              -- The lock is given back, so the cell is as it was.
              have unlocked : (real.upstream.lock id).unlock = real.upstream := by
                rw [Upstream.unlock, Upstream.lock, ← unheld]
              exact ⟨[.acquire id, .dialed id (.error err)], _, _,
                (exec_cons _ _ real _ locks).trans (exec_cons _ [] _ _ returns),
                ⟨unlocked.trans upstream, dials, replies⟩, free,
                Function.update_self .., rfl, rfl, rfl⟩

theorem exec_append (front back : List (Reconnect.Action Conn Err))
    (state middle after : State Conn Err)
    (first : exec step front state = some middle) (second : exec step back middle = some after) :
    exec step (front ++ back) state = some after := by
  induction front generalizing state with
  | nil =>
      cases first
      exact second
  | cons action rest ih =>
      rcases Option.bind_eq_some_iff.mp first with ⟨next, taken, others⟩
      rw [List.cons_append, exec_cons _ _ state next taken]
      exact ih next others

/-- A send that fails ends the round: the connection is given up and the task retries. -/
theorem send_fails (real state : State Conn Err) (id : TaskId) (task : Reconnect.Task Conn Err)
    (query : Message) (g : Nat) (conn : Conn) (err : Err) (present : real.tasks id = some task)
    (located : task.phase = .sending g conn) (asked : task.query = some query)
    (free : state.upstream.holder = none) (agrees : Agrees real state) :
    ∃ actions last, exec step actions real = some last ∧
      Agrees last (invalidate (state.logReply ⟨⟨id, query, g, conn⟩, .error err⟩) g) ∧
      last.tasks id =
        some ((task.goto (.invalidating g err)).retried state.upstream.addr err) := by
  rcases agrees with ⟨upstream, dials, replies⟩
  have fails := step_failed err present located asked
  have discards := step_invalidated (set_task_self (real.logReply
    ⟨⟨id, query, g, conn⟩, .error err⟩) id (task.goto (.invalidating g err))) rfl
      ((congrArg Upstream.holder upstream).trans free)
  refine ⟨[.replied id (.error err), .invalidate id], _,
    (exec_cons _ _ real _ fails).trans (exec_cons _ [] _ _ discards), ⟨?_, dials, ?_⟩, ?_⟩
  · exact congrArg (·.invalidate g) upstream
  · exact congrArg (· ++ [⟨⟨id, query, g, conn⟩, .error err⟩]) replies
  · rw [set_task_self]
    exact congrArg (fun addr => some ((task.goto (.invalidating g err)).retried addr err))
      (congrArg Upstream.addr upstream)

theorem send_answers (real state : State Conn Err) (id : TaskId) (task : Reconnect.Task Conn Err)
    (query resp : Message) (g : Nat) (conn : Conn) (present : real.tasks id = some task)
    (located : task.phase = .sending g conn) (asked : task.query = some query)
    (agrees : Agrees real state) :
    ∃ actions last next, exec step actions real = some last ∧
      Agrees last (state.logReply ⟨⟨id, query, g, conn⟩, .ok resp⟩) ∧
      last.tasks id = some next ∧ next.phase = .returned (.ok resp) := by
  have answers := step_answered resp present located asked
  refine ⟨[.replied id (.ok resp)], _, _, exec_cons _ [] real _ answers,
    ⟨agrees.upstream, agrees.dials, ?_⟩, set_task_self .., rfl⟩
  exact congrArg (· ++ [⟨⟨id, query, g, conn⟩, .ok resp⟩]) agrees.replies

theorem invalidate_free (state : State Conn Err) (g : Nat)
    (free : state.upstream.holder = none) : (invalidate state g).upstream.holder = none := by
  simp only [invalidate, State.setUpstream, Upstream.invalidate]
  split
  · split
    · exact free
    · exact free
  · exact free

/-- The task has returned what the call returns. -/
def Returns (real after : State Conn Err) (id : TaskId) (result : Except (Failure Err) Message) :
    Prop :=
  ∃ actions last next, exec step actions real = some last ∧ Agrees last after ∧
    after.upstream.holder = none ∧ last.tasks id = some next ∧ next.phase = .returned result

theorem returns_later (actions : List (Reconnect.Action Conn Err))
    (real middle after : State Conn Err) (id : TaskId) (result : Except (Failure Err) Message)
    (executed : exec step actions real = some middle) (returns : Returns middle after id result) :
    Returns real after id result := by
  rcases returns with ⟨rest, last, next, others, agreed⟩
  exact ⟨actions ++ rest, last, next,
    exec_append actions rest real middle last executed others, agreed⟩

variable (net) in
/-- One round: the call returns with the task, or both have given up a connection. -/
theorem round_executes (rounds : Nat) (real state : State Conn Err) (world : World)
    (id : TaskId) (task : Reconnect.Task Conn Err) (query : Message) (lastErr : Option Err)
    (present : real.tasks id = some task) (located : task.phase = .acquiring)
    (asked : task.query = some query) (free : state.upstream.holder = none)
    (agrees : Agrees real state) :
    (∃ result after later, resolveRounds net id query (rounds + 1) lastErr state world =
        .ok (result, after, later) ∧ Returns real after id result) ∨
      ∃ (middle : State Conn Err) (reached : World) (err : Err)
          (actions : List (Reconnect.Action Conn Err)) (last : State Conn Err) (next : Reconnect.Task Conn Err),
        resolveRounds net id query (rounds + 1) lastErr state world =
          resolveRounds net id query rounds (some err) middle reached ∧
        exec step actions real = some last ∧ Agrees last middle ∧
        middle.upstream.holder = none ∧ next.query = some query ∧ next.round = task.round ∧
        last.tasks id = some (next.retried middle.upstream.addr err) := by
  rw [resolveRounds]
  cases acquired : acquire net state world with
  | mk outcome rest =>
      rcases rest with ⟨middle, reached⟩
      rcases acquire_executes real state middle world reached id task query present located
        asked free agrees outcome acquired with
        ⟨front, last, next, executed, agreed, unheld, onward⟩
      cases outcome with
      | error failure =>
          exact .inl ⟨_, _, _, rfl, front, last, next, executed, agreed, unheld, onward.present,
            onward.located⟩
      | ok pair =>
          rcases pair with ⟨g, conn⟩
          have asking := onward.asked.trans asked
          cases sent : net.send conn query reached with
          | mk reply final =>
              simp only [sent]
              cases reply with
              | ok resp =>
                  rcases send_answers last middle id next query resp g conn onward.present
                    onward.located asking agreed with
                    ⟨back, ended, returned, answers, same, found, phase⟩
                  exact .inl ⟨_, _, _, rfl, returns_later front real last _ id _ executed
                    ⟨back, ended, returned, answers, same, unheld, found, phase⟩⟩
              | error err =>
                  rcases send_fails last middle id next query g conn err onward.present
                    onward.located asking unheld agreed with ⟨back, ended, fails, same, found⟩
                  have addr : (invalidate (middle.logReply ⟨⟨id, query, g, conn⟩, .error err⟩)
                      g).upstream.addr = middle.upstream.addr := by
                    rw [invalidate, State.setUpstream, Upstream.invalidate]
                    split
                    · split <;> rfl
                    · rfl
                  rw [← addr] at found
                  exact .inr ⟨_, _, err, front ++ back, ended, _, rfl,
                    exec_append front back real last ended executed fails, same,
                    invalidate_free _ g unheld, asking, onward.round, found⟩

/-- The rounds of a task are those of the call alone. -/
theorem rounds_execute (rounds : Nat) (real state after : State Conn Err) (world later : World)
    (id : TaskId) (task : Reconnect.Task Conn Err) (query : Message) (lastErr : Option Err)
    (present : real.tasks id = some task) (located : task.phase = .acquiring)
    (asked : task.query = some query) (counted : task.round + (rounds + 1) = 2)
    (free : state.upstream.holder = none) (agrees : Agrees real state)
    (result : Except (Failure Err) Message)
    (resolved : resolveRounds net id query (rounds + 1) lastErr state world =
      .ok (result, after, later)) : Returns real after id result := by
  induction rounds generalizing real state world task lastErr with
  | zero =>
      rcases round_executes net 0 real state world id task query lastErr present located
        asked free agrees with ⟨_, _, _, ended, returns⟩ |
          ⟨middle, reached, err, actions, last, next, goes, executed, agreed, unheld, asking,
            round, found⟩
      · rw [resolved] at ended
        cases ended
        exact returns
      · rw [resolved] at goes
        cases goes
        have beyond : ¬task.round + 1 < 2 := by omega
        simp only [Task.retried, round, beyond, if_false] at found
        exact ⟨actions, last, _, executed, agreed, unheld, found, rfl⟩
  | succ rounds ih =>
      rcases round_executes net (rounds + 1) real state world id task query lastErr
        present located asked free agrees with ⟨_, _, _, ended, returns⟩ |
          ⟨middle, reached, err, actions, last, next, goes, executed, agreed, unheld, asking,
            round, found⟩
      · rw [resolved] at ended
        cases ended
        exact returns
      · have more : task.round + 1 < 2 := by omega
        simp only [Task.retried, round, more, if_true] at found
        refine returns_later actions real last after id result executed ?_
        exact ih last middle reached _ (some err) found rfl asking
          (by simp only [Task.goto]; omega) unheld agreed (goes.symm.trans resolved)

/-- A call alone is a run of its task from its start to its return. -/
theorem resolve_executes (real state after : State Conn Err) (world later : World) (id : TaskId)
    (query : Message) (fresh : real.tasks id = none) (free : state.upstream.holder = none)
    (agrees : Agrees real state) (result : Except (Failure Err) Message)
    (resolved : resolve net id query state world = .ok (result, after, later)) :
    Returns real after id result := by
  have starts : step (.resolve id query) real =
      some (real.setTask id (.start (some query))) := by
    simp only [step, start, fresh]
  refine returns_later [.resolve id query] real _ after id result (exec_cons _ [] real _ starts) ?_
  exact rounds_execute 1 _ state after world later id (.start (some query)) query none
    (set_task_self ..) rfl rfl rfl free ⟨agrees.upstream, agrees.dials, agrees.replies⟩ result
    resolved

end Runs

/-! Dials against failed sends. -/
section Dials
variable {net : Network Conn Err World}

def failedSend (reply : Reply Conn Err) : Bool :=
  match reply.result with
  | .ok _ => false
  | .error _ => true

def failures (state : State Conn Err) : Nat := state.replies.countP failedSend

/-- Every dial but the first follows a send that failed; an empty cell waits for its. -/
def Paid (state : State Conn Err) : Prop :=
  state.dials.length + (if state.upstream.cell.isNone then 1 else 0) = 1 + failures state

theorem paid_new (addr : SocketAddr) : Paid (State.new addr : State Conn Err) := rfl

theorem acquire_paid (state after : State Conn Err) (world later : World)
    (result : Except (Failure Err) (Nat × Conn))
    (acquired : acquire net state world = (result, after, later)) (paid : Paid state) :
    Paid after ∧ ∀ held, result = .ok held → after.upstream.cell = some held := by
  unfold acquire at acquired
  cases cell : state.upstream.cell with
  | some pair =>
      rw [cell] at acquired
      cases acquired
      refine ⟨paid, ?_⟩
      rintro held same
      cases same
      exact cell
  | none =>
      rw [cell] at acquired
      cases dialed : net.dial state.upstream.addr world with
      | mk outcome reached =>
          rw [dialed] at acquired
          cases outcome with
          | error err =>
              cases acquired
              refine ⟨paid, ?_⟩
              intro held same
              cases same
          | ok conn =>
              cases acquired
              constructor
              · simp only [Paid, cell, Option.isNone_none, if_true] at paid
                simpa [Paid, State.installed, State.setUpstream, Upstream.install, failures]
                  using paid
              · intro held same
                cases same
                rfl

theorem answered_paid (state : State Conn Err) (send : Send Conn) (resp : Message)
    (paid : Paid state) : Paid (state.logReply ⟨send, .ok resp⟩) := by
  simpa [Paid, State.logReply, failures, failedSend] using paid

/-- A failed send empties the cell it took its connection from. -/
theorem failed_paid (state : State Conn Err) (send : Send Conn) (err : Err)
    (held : state.upstream.cell = some (send.g, send.conn)) (paid : Paid state) :
    Paid (invalidate (state.logReply ⟨send, .error err⟩) send.g) ∧
      (invalidate (state.logReply ⟨send, .error err⟩) send.g).upstream.cell = none := by
  have emptied : (invalidate (state.logReply ⟨send, .error err⟩) send.g).upstream.cell =
      none := by
    simp [invalidate, State.setUpstream, State.logReply, Upstream.invalidate, held]
  refine ⟨?_, emptied⟩
  have counted : failures (invalidate (state.logReply ⟨send, .error err⟩) send.g) =
      failures state + 1 := by
    simp [failures, invalidate, State.setUpstream, State.logReply, failedSend]
  simp only [Paid, held, Option.isNone_some, Bool.false_eq_true, if_false] at paid
  rw [Paid, emptied, counted]
  simp only [Option.isNone_none, if_true]
  have dials : (invalidate (state.logReply ⟨send, .error err⟩) send.g).dials = state.dials := rfl
  rw [dials]
  omega

theorem rounds_paid (rounds : Nat) (id : TaskId) (query : Message) (lastErr : Option Err)
    (state after : State Conn Err) (world later : World)
    (result : Except (Failure Err) Message)
    (resolved : resolveRounds net id query rounds lastErr state world =
      .ok (result, after, later)) (paid : Paid state) : Paid after := by
  induction rounds generalizing lastErr state world with
  | zero =>
      cases lastErr with
      | none => cases resolved
      | some err =>
          cases resolved
          exact paid
  | succ rounds ih =>
      rw [resolveRounds] at resolved
      cases acquired : acquire net state world with
      | mk outcome rest =>
          rcases rest with ⟨middle, reached⟩
          rcases acquire_paid state middle world reached outcome acquired paid with ⟨kept, held⟩
          rw [acquired] at resolved
          cases outcome with
          | error failure =>
              cases resolved
              exact kept
          | ok pair =>
              rcases pair with ⟨g, conn⟩
              cases sent : net.send conn query reached with
              | mk reply final =>
                  simp only [sent] at resolved
                  cases reply with
                  | ok resp =>
                      cases resolved
                      exact answered_paid middle _ resp kept
                  | error err =>
                      exact ih (some err) _ final resolved
                        (failed_paid middle ⟨id, query, g, conn⟩ err (held _ rfl) kept).1

end Dials

/-! Healing. -/
section Heals
variable {net : Network Conn Err World}

/-- Dialing always succeeds, and a connection just dialed answers the next query. -/
def Heals (net : Network Conn Err World) : Prop :=
  ∀ addr world, ∃ conn after, net.dial addr world = (.ok conn, after) ∧
    ∀ query, ∃ resp last, net.send conn query after = (.ok resp, last)

/-- An empty cell is filled with a connection that answers at once. -/
theorem empty_heals (heals : Heals net) (rounds : Nat) (id : TaskId) (query : Message)
    (lastErr : Option Err) (state : State Conn Err) (world : World)
    (empty : state.upstream.cell = none) :
    ∃ resp after later, resolveRounds net id query (rounds + 1) lastErr state world =
      .ok (.ok resp, after, later) ∧ after.upstream.cell.isSome := by
  rcases heals state.upstream.addr world with ⟨conn, reached, dialed, answers⟩
  rcases answers query with ⟨resp, last, sent⟩
  refine ⟨resp, (state.installed conn).logReply ⟨⟨id, query, state.upstream.nextGen, conn⟩,
    .ok resp⟩, last, ?_, rfl⟩
  simp only [resolveRounds, acquire, empty, dialed, sent]

theorem resolve_heals (heals : Heals net) (id : TaskId) (query : Message)
    (state : State Conn Err) (world : World) :
    ∃ resp after later, resolve net id query state world = .ok (.ok resp, after, later) ∧
      after.upstream.cell.isSome := by
  cases held : state.upstream.cell with
  | none => exact empty_heals heals 1 id query none state world held
  | some pair =>
      rcases pair with ⟨g, conn⟩
      cases sent : net.send conn query world with
      | mk reply last =>
          cases reply with
          | ok resp =>
              refine ⟨resp, state.logReply ⟨⟨id, query, g, conn⟩, .ok resp⟩, last, ?_, ?_⟩
              · simp only [resolve, resolveRounds, acquire, held, sent]
              · simp [State.logReply, held]
          | error err =>
              have emptied : (invalidate (state.logReply ⟨⟨id, query, g, conn⟩, .error err⟩)
                  g).upstream.cell = none := by
                simp [invalidate, State.setUpstream, State.logReply, Upstream.invalidate, held]
              rcases empty_heals heals 0 id query (some err) _ last emptied with
                ⟨resp, after, later, healed, filled⟩
              refine ⟨resp, after, later, ?_, filled⟩
              rw [← healed, resolve, resolveRounds]
              simp only [acquire, held, sent]

theorem each_heals (heals : Heals net) (id : TaskId) (queries : List Message)
    (state : State Conn Err) (world : World) (paid : Paid state) :
    ∃ results after later, resolveEach net id queries state world =
        .ok (results, after, later) ∧
      results.length = queries.length ∧ (∀ result ∈ results, ∃ resp, result = .ok resp) ∧
      Paid after ∧ (queries ≠ [] ∨ state.upstream.cell.isSome → after.upstream.cell.isSome) := by
  induction queries generalizing id state world with
  | nil =>
      refine ⟨[], state, world, rfl, rfl, ?_, paid, ?_⟩
      · intro result listed
        cases listed
      · rintro (some | filled)
        · exact absurd rfl some
        · exact filled
  | cons query rest ih =>
      rcases resolve_heals heals id query state world with ⟨resp, middle, reached, healed, filled⟩
      have kept := rounds_paid 2 id query none state middle world reached _ healed paid
      rcases ih (id + 1) middle reached kept with
        ⟨results, after, later, others, length, answered, paidAfter, full⟩
      refine ⟨.ok resp :: results, after, later, ?_, ?_, ?_, paidAfter, fun _ => full (.inr filled)⟩
      · rw [resolveEach, healed]
        simp only [bind, Except.bind, others]
      · rw [List.length_cons, List.length_cons, length]
      · intro result listed
        rcases List.mem_cons.mp listed with rfl | later
        · exact ⟨resp, rfl⟩
        · exact answered result later

end Heals

/-! The ordered set. -/
section Sets

abbrev UpstreamId := Nat

/-- The upstreams, the world of their network, and who was contacted so far. -/
structure Env (Conn Err World : Type) where
  upstreams : UpstreamId → State Conn Err
  world : World
  contacted : List UpstreamId

variable (net : Network Conn Err World) (id : TaskId) (query : Message)

def contact (which : UpstreamId) (env : Env Conn Err World) :
    Checked (Except (Failure Err) Message × Env Conn Err World) := do
  let (result, state, world) ← resolve net id query (env.upstreams which) env.world
  .ok (result, { upstreams := Function.update env.upstreams which state, world,
                 contacted := env.contacted ++ [which] })

/-- The loop body of `UpstreamSet::resolve`. -/
def attempt (which : UpstreamId) (env : Env Conn Err World) :
    Checked (Option Message × Env Conn Err World) := do
  match ← contact net id query which env with
  | (.ok resp, after) =>
      if resp.responseCode = .ServFail then .ok (none, after) else .ok (some resp, after)
  | (.error _, after) => .ok (none, after)

def resolveSet (upstreams : List UpstreamId) (env : Env Conn Err World) :
    Checked (Option Message × Env Conn Err World) :=
  firstAnswer (attempt net id query) upstreams env

variable {net id query}

theorem rounds_completes (rounds : Nat) (lastErr : Option Err) (state : State Conn Err)
    (world : World) (last : rounds = 0 → lastErr.isSome) :
    Completes (resolveRounds net id query rounds lastErr state world) := by
  induction rounds generalizing lastErr state world with
  | zero =>
      rcases Option.isSome_iff_exists.mp (last rfl) with ⟨err, rfl⟩
      exact completes_ok _
  | succ rounds ih =>
      rw [resolveRounds]
      split
      · exact completes_ok _
      · split
        · exact completes_ok _
        · exact ih _ _ _ fun _ => rfl

variable (net id query) in
theorem contact_completes (which : UpstreamId) (env : Env Conn Err World) :
    Ensures (contact net id query which env) fun pair =>
      pair.2.contacted = env.contacted ++ [which] := by
  refine ensures_bind (rounds_completes 2 none _ _ (by simp)) fun result _ => ?_
  exact ensures_ok _ rfl

theorem attempt_cases (which : UpstreamId) (env after : Env Conn Err World)
    (answer : Option Message) (tried : attempt net id query which env = .ok (answer, after)) :
    after.contacted = env.contacted ++ [which] ∧ ∃ result,
      contact net id query which env = .ok (result, after) ∧
      match answer with
      | some resp => result = .ok resp ∧ resp.responseCode ≠ .ServFail
      | none => ∀ resp, result = .ok resp → resp.responseCode = .ServFail := by
  rcases contact_completes net id query which env with
    ⟨⟨result, last⟩, contacted, logged⟩
  simp only [attempt, contacted, bind, Except.bind] at tried
  cases result with
  | error failure =>
      cases tried
      exact ⟨logged, _, contacted, fun resp same => by cases same⟩
  | ok resp =>
      dsimp only at tried
      split at tried
      · rename_i refused
        cases tried
        refine ⟨logged, _, contacted, ?_⟩
        intro other same
        cases same
        exact refused
      · rename_i fine
        cases tried
        exact ⟨logged, _, contacted, rfl, fine⟩

variable (net id query) in
theorem attempt_completes (which : UpstreamId) (env : Env Conn Err World) :
    Completes (attempt net id query which env) := by
  refine ensures_bind (contact_completes net id query which env) fun pair _ => ?_
  rcases pair with ⟨result, after⟩
  cases result with
  | error failure => exact completes_ok _
  | ok resp => exact ensures_ite (fun _ => completes_ok _) fun _ => completes_ok _

theorem barren_contacted (upstreams : List UpstreamId) (env after : Env Conn Err World)
    (barren : Barren (attempt net id query) upstreams env after) :
    after.contacted = env.contacted ++ upstreams := by
  induction barren with
  | nil env => exact (List.append_nil _).symm
  | cons which rest env middle after nothing _ ih =>
      rw [ih, (attempt_cases which env middle none nothing).1, List.append_assoc]
      rfl

variable (net id query) in
/-- The answer is that of the first upstream in order that has one other than SERVFAIL;
all before it were contacted and failed, and nobody after it was contacted. Without an
answer all were contacted and failed. -/
def Decided (upstreams : List UpstreamId) (env : Env Conn Err World) (answer : Option Message)
    (after : Env Conn Err World) : Prop :=
  match answer with
  | some resp => ∃ front winner back middle, upstreams = front ++ winner :: back ∧
      Barren (attempt net id query) front env middle ∧
      contact net id query winner middle = .ok (.ok resp, after) ∧
      resp.responseCode ≠ .ServFail ∧ after.contacted = env.contacted ++ front ++ [winner]
  | none => Barren (attempt net id query) upstreams env after ∧
      after.contacted = env.contacted ++ upstreams

theorem set_decided (upstreams : List UpstreamId) (env : Env Conn Err World) :
    ∃ answer after, resolveSet net id query upstreams env = .ok (answer, after) ∧
      Decided net id query upstreams env answer after ∧
      (answer = none ↔ ∃ last, Barren (attempt net id query) upstreams env last) := by
  rcases first_answer_completes upstreams env fun which _ env =>
    attempt_completes net id query which env with
    ⟨⟨answer, after⟩, resolved, _⟩
  refine ⟨answer, after, resolved, ?_, ?_⟩
  · cases answer with
    | none =>
        have barren := (first_answer_none_iff upstreams env after).mp resolved
        exact ⟨barren, barren_contacted upstreams env after barren⟩
    | some resp =>
        rcases (first_answer_some_iff upstreams env after resp).mp resolved with
          ⟨front, winner, back, middle, split, barren, won⟩
        rcases attempt_cases winner middle after (some resp) won with
          ⟨logged, result, contacted, rfl, fine⟩
        refine ⟨front, winner, back, middle, split, barren, contacted, fine, ?_⟩
        rw [logged, barren_contacted front env middle barren]
  · constructor
    · rintro rfl
      exact ⟨after, (first_answer_none_iff upstreams env after).mp resolved⟩
    · rintro ⟨last, barren⟩
      have empty := (first_answer_none_iff upstreams env last).mpr barren
      have same := resolved.symm.trans empty
      cases same
      rfl

end Sets

/-- How many were dialed, and how many queries each still answers. -/
structure Lives where
  dialed : Nat
  remaining : Nat → Nat

def flaky (lifetimes : Nat → Nat) : Network Nat Unit Lives where
  dial _ lives :=
    (.ok lives.dialed,
      ⟨lives.dialed + 1, Function.update lives.remaining lives.dialed (lifetimes lives.dialed)⟩)
  send conn _ lives :=
    if lives.remaining conn = 0 then (.error (), lives)
    else
      (.ok .new,
        { lives with
          remaining := Function.update lives.remaining conn (lives.remaining conn - 1) })

theorem flaky_heals (lifetimes : Nat → Nat) (alive : ∀ k, 1 ≤ lifetimes k) :
    Heals (flaky lifetimes) := by
  intro addr lives
  refine ⟨_, _, rfl, fun query => ?_⟩
  have answers : ¬lifetimes lives.dialed = 0 := by
    have positive := alive lives.dialed
    omega
  simp [flaky, answers]

example : (resolveEach (flaky fun _ => 1) 0 (List.replicate 4 .new) (State.new ⟨.V6 1, 853⟩)
    ⟨0, fun _ => 0⟩).toOption.map (fun done => done.2.1.dials.length) = some 4 := rfl

end Dnsix.Failover
