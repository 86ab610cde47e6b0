import Dnsix.Configuration
import Dnsix.Failover

/-!
The connections of `upstream.rs` under the two retry levels: a plain one asks over UDP and
repeats a truncated answer over TCP, a DoT one asks over TLS. What the wire does with a
connect or a message is given from outside. Everything sent is kept in a log; no step looks
at it.
-/

namespace Dnsix.Transport
open Ascii Dns Failover FirstAnswer Panics Reconnect
open Handler (SocketAddr)

variable {Client Err World : Type}

/-! The connection. -/
section Connections

abbrev UpstreamConfig := Configuration.Upstream

def UpstreamConfig.addr : UpstreamConfig → SocketAddr
  | .Plain addr => addr
  | .Tls addr _ => addr

inductive Via where
  | udp | tcp | tls
  deriving DecidableEq

/-- Why a send failed. -/
inductive Cause (Err : Type) where
  | raised (err : Err)
  | closed
  deriving DecidableEq

/-- An error under what was being done. -/
inductive Fault (Err : Type) where
  | connecting (via : Via) (err : Err)
  | udpQuery (cause : Cause Err)
  | tcpRetry (cause : Cause Err)
  | dotQuery (cause : Cause Err)
  deriving DecidableEq

def Fault.context : Fault Err → Text
  | .connecting .udp _ => "connecting UDP client to upstream".toList
  | .connecting .tcp _ => "connecting TCP client to upstream".toList
  | .connecting .tls _ => "connecting DoT client to upstream".toList
  | .udpQuery _ => "UDP query".toList
  | .tcpRetry _ => "TCP retry".toList
  | .dotQuery _ => "DoT query".toList

inductive Conn (Client : Type) where
  | Plain (udp tcp : Client)
  | Tls (client : Client)
  deriving DecidableEq

/-- Connects, and the first response to a message: a stream may end without one. -/
structure Wire (Client Err World : Type) where
  connect : Via → UpstreamConfig → World → Except Err Client × World
  send : Client → Message → World → Option (Except Err Message) × World

/-- One message and what came of it. -/
structure Exchange (Client Err : Type) where
  via : Via
  client : Client
  query : Message
  result : Except (Cause Err) Message

/-- The world with the log of what was sent, and the number of connections dialed. -/
structure Wired (Client Err World : Type) where
  world : World
  sent : List (Exchange Client Err)
  dials : Nat

variable (wire : Wire Client Err World)

def Conn.connect (cfg : UpstreamConfig) (wired : Wired Client Err World) :
    Except (Fault Err) (Conn Client) × Wired Client Err World :=
  let dialed := { wired with dials := wired.dials + 1 }
  match cfg with
  | .Plain _ =>
      match wire.connect .udp cfg wired.world with
      | (.error err, world) => (.error (.connecting .udp err), { dialed with world })
      | (.ok udp, world) =>
          match wire.connect .tcp cfg world with
          | (.error err, world) => (.error (.connecting .tcp err), { dialed with world })
          | (.ok tcp, world) => (.ok (.Plain udp tcp), { dialed with world })
  | .Tls _ _ =>
      match wire.connect .tls cfg wired.world with
      | (.error err, world) => (.error (.connecting .tls err), { dialed with world })
      | (.ok client, world) => (.ok (.Tls client), { dialed with world })

def received : Option (Except Err Message) → Except (Cause Err) Message
  | some (.ok resp) => .ok resp
  | some (.error err) => .error (.raised err)
  | none => .error .closed

def sendOnce (via : Via) (client : Client) (query : Message) (wired : Wired Client Err World) :
    Except (Cause Err) Message × Wired Client Err World :=
  let (response, world) := wire.send client query wired.world
  let result := received response
  (result, { wired with world, sent := wired.sent ++ [⟨via, client, query, result⟩] })

def Conn.resolve (conn : Conn Client) (query : Message) (wired : Wired Client Err World) :
    Except (Fault Err) Message × Wired Client Err World :=
  match conn with
  | .Plain udp tcp =>
      match sendOnce wire .udp udp query wired with
      | (.error cause, wired) => (.error (.udpQuery cause), wired)
      | (.ok resp, wired) =>
          if resp.header.truncation then
            let (result, wired) := sendOnce wire .tcp tcp query wired
            (result.mapError .tcpRetry, wired)
          else (.ok resp, wired)
  | .Tls client =>
      let (result, wired) := sendOnce wire .tls client query wired
      (result.mapError .dotQuery, wired)

/-- The connections of one upstream, as its retry level uses them. -/
def network (cfg : UpstreamConfig) :
    Network (Conn Client) (Fault Err) (Wired Client Err World) where
  dial _ wired := Conn.connect wire cfg wired
  send conn query wired := conn.resolve wire query wired

/-- `UpstreamSet::resolve` over upstreams that each have their configuration. -/
def resolveAll (configs : UpstreamId → UpstreamConfig) (id : TaskId) (query : Message)
    (upstreams : List UpstreamId)
    (env : Env (Conn Client) (Fault Err) (Wired Client Err World)) :
    Checked (Option Message × Env (Conn Client) (Fault Err) (Wired Client Err World)) :=
  firstAnswer (fun which => attempt (network wire (configs which)) id query which) upstreams env

end Connections

/-! What one use of a connection sends. -/
section Turns

/-- A plain question, a truncated one with its repetition, or a question over TLS. -/
inductive Turn (Client Err : Type) where
  | plain (udp : Client) (result : Except (Cause Err) Message)
  | repeated (udp tcp : Client) (cut : Message) (result : Except (Cause Err) Message)
  | dot (client : Client) (result : Except (Cause Err) Message)

def Turn.sent (query : Message) : Turn Client Err → List (Exchange Client Err)
  | .plain udp result => [⟨.udp, udp, query, result⟩]
  | .repeated udp tcp cut result => [⟨.udp, udp, query, .ok cut⟩, ⟨.tcp, tcp, query, result⟩]
  | .dot client result => [⟨.tls, client, query, result⟩]

def Turn.result : Turn Client Err → Except (Fault Err) Message
  | .plain _ result => result.mapError .udpQuery
  | .repeated _ _ _ result => result.mapError .tcpRetry
  | .dot _ result => result.mapError .dotQuery

/-- Only truncated answers are repeated, and a truncated answer of UDP is never taken. -/
def Turn.Whole : Turn Client Err → Prop
  | .plain _ result => ∀ resp, result = .ok resp → resp.header.truncation = false
  | .repeated _ _ cut _ => cut.header.truncation = true
  | .dot _ _ => True

/-- What is configured for TLS goes over TLS, and nothing else does. -/
def Turn.Fits : UpstreamConfig → Turn Client Err → Prop
  | .Plain _, .dot _ _ => False
  | .Plain _, _ => True
  | .Tls _ _, .dot _ _ => True
  | .Tls _ _, _ => False

def Conn.Fits : UpstreamConfig → Conn Client → Prop
  | .Plain _, .Plain _ _ => True
  | .Tls _ _, .Tls _ => True
  | _, _ => False

variable {wire : Wire Client Err World}

theorem send_once_logged (via : Via) (client : Client) (query : Message)
    (wired after : Wired Client Err World) (result : Except (Cause Err) Message)
    (sending : sendOnce wire via client query wired = (result, after)) :
    after.sent = wired.sent ++ [⟨via, client, query, result⟩] ∧ after.dials = wired.dials := by
  cases sending
  exact ⟨rfl, rfl⟩

theorem conn_turn (cfg : UpstreamConfig) (conn : Conn Client) (fits : conn.Fits cfg)
    (query : Message) (wired after : Wired Client Err World) (result : Except (Fault Err) Message)
    (resolved : conn.resolve wire query wired = (result, after)) :
    ∃ turn : Turn Client Err, turn.Whole ∧ turn.Fits cfg ∧ turn.result = result ∧
      after.sent = wired.sent ++ turn.sent query ∧ after.dials = wired.dials := by
  cases conn with
  | Tls client =>
      cases cfg with
      | Plain addr => exact fits.elim
      | Tls addr dnsName =>
          cases sending : sendOnce wire .tls client query wired with
          | mk outcome later =>
              obtain ⟨sent, dials⟩ := send_once_logged .tls client query wired later outcome sending
              rw [Conn.resolve, sending] at resolved
              cases resolved
              exact ⟨.dot client outcome, trivial, trivial, rfl, sent, dials⟩
  | Plain udp tcp =>
      cases cfg with
      | Tls addr dnsName => exact fits.elim
      | Plain addr =>
          cases sending : sendOnce wire .udp udp query wired with
          | mk outcome later =>
              obtain ⟨sent, dials⟩ := send_once_logged .udp udp query wired later outcome sending
              rw [Conn.resolve, sending] at resolved
              cases outcome with
              | error cause =>
                  cases resolved
                  exact ⟨.plain udp (.error cause), (fun _ answered => nomatch answered), trivial,
                    rfl, sent, dials⟩
              | ok resp =>
                  dsimp only at resolved
                  split at resolved
                  · rename_i cut
                    cases again : sendOnce wire .tcp tcp query later with
                    | mk final last =>
                        rw [again] at resolved
                        cases resolved
                        obtain ⟨more, same⟩ :=
                          send_once_logged .tcp tcp query later last final again
                        refine ⟨.repeated udp tcp resp final, cut, trivial, rfl, ?_, ?_⟩
                        · rw [more, sent, List.append_assoc]
                          rfl
                        · rw [same, dials]
                  · rename_i whole
                    cases resolved
                    refine ⟨.plain udp (.ok resp), ?_, trivial, rfl, sent, dials⟩
                    rintro _ ⟨⟩
                    exact Bool.eq_false_of_not_eq_true whole

theorem connect_fits (cfg : UpstreamConfig) (wired after : Wired Client Err World)
    (result : Except (Fault Err) (Conn Client))
    (connected : Conn.connect wire cfg wired = (result, after)) :
    (∀ conn, result = .ok conn → conn.Fits cfg) ∧ after.sent = wired.sent ∧
      after.dials = wired.dials + 1 := by
  unfold Conn.connect at connected
  cases cfg with
  | Plain addr =>
      dsimp only at connected
      split at connected
      · cases connected
        exact ⟨nofun, rfl, rfl⟩
      · split at connected
        · cases connected
          exact ⟨nofun, rfl, rfl⟩
        · cases connected
          refine ⟨?_, rfl, rfl⟩
          rintro _ ⟨⟩
          trivial
  | Tls addr dnsName =>
      dsimp only at connected
      split at connected
      · cases connected
        exact ⟨nofun, rfl, rfl⟩
      · cases connected
        refine ⟨?_, rfl, rfl⟩
        rintro _ ⟨⟩
        trivial

end Turns

/-! What one query sends. -/
section Queries

variable {wire : Wire Client Err World}

abbrev Upstreams (Client Err World : Type) :=
  Env (Conn Client) (Fault Err) (Wired Client Err World)

/-- An upstream holds a connection of its own kind. -/
def Holds (cfg : UpstreamConfig) (state : Reconnect.State (Conn Client) (Fault Err)) : Prop :=
  ∀ g conn, state.upstream.cell = some (g, conn) → conn.Fits cfg

/-- At most `rounds` turns and as many dials, and an answer is that of the last turn. -/
structure Sends (cfg : UpstreamConfig) (query : Message) (rounds : Nat)
    (before after : Wired Client Err World) (answer : Option Message)
    (turns : List (Turn Client Err)) : Prop where
  few : turns.length ≤ rounds
  whole : ∀ turn ∈ turns, turn.Whole ∧ turn.Fits cfg
  sent : after.sent = before.sent ++ turns.flatMap (Turn.sent query)
  dials : after.dials ≤ before.dials + rounds
  answered : ∀ resp, answer = some resp → turns.getLast?.map Turn.result = some (.ok resp)

theorem acquire_holds (cfg : UpstreamConfig)
    (state after : Reconnect.State (Conn Client) (Fault Err)) (wired later : Wired Client Err World)
    (result : Except (Reconnect.Failure (Fault Err)) (Nat × Conn Client))
    (acquired : acquire (network wire cfg) state wired = (result, after, later))
    (holds : Holds cfg state) :
    Holds cfg after ∧ (∀ g conn, result = .ok (g, conn) → conn.Fits cfg) ∧
      later.sent = wired.sent ∧ later.dials ≤ wired.dials + 1 := by
  unfold acquire at acquired
  split at acquired
  · rename_i held cell
    cases acquired
    refine ⟨holds, ?_, rfl, Nat.le_succ _⟩
    rintro g conn ⟨⟩
    exact holds g conn cell
  · rename_i cell
    cases dialed : (network wire cfg).dial state.upstream.addr wired with
    | mk outcome last =>
        obtain ⟨fits, sent, dials⟩ := connect_fits cfg wired last outcome dialed
        rw [dialed] at acquired
        cases outcome with
        | error err =>
            cases acquired
            exact ⟨holds, nofun, sent, dials.le⟩
        | ok conn =>
            cases acquired
            refine ⟨?_, ?_, sent, dials.le⟩
            · rintro g other ⟨⟩
              exact fits conn rfl
            · rintro g other ⟨⟩
              exact fits conn rfl

theorem invalidate_holds (cfg : UpstreamConfig)
    (state : Reconnect.State (Conn Client) (Fault Err)) (g : Nat) (holds : Holds cfg state) :
    Holds cfg (invalidate state g) := by
  intro other conn cell
  refine holds other conn ?_
  change (state.upstream.invalidate g).cell = some (other, conn) at cell
  unfold Upstream.invalidate at cell
  split at cell
  · split at cell
    · cases cell
    · exact cell
  · exact cell

/-- No turn was taken. -/
theorem sends_none {cfg : UpstreamConfig} {query : Message} {rounds : Nat}
    {before after : Wired Client Err World} (sent : after.sent = before.sent)
    (dials : after.dials ≤ before.dials + rounds) :
    Sends cfg query rounds before after none [] := by
  refine ⟨Nat.zero_le _, List.forall_mem_nil _, ?_, dials, ?_⟩
  · rw [sent, List.flatMap_nil, List.append_nil]
  · rintro resp ⟨⟩

/-- The first turn had an answer. -/
theorem sends_one {cfg : UpstreamConfig} {query resp : Message} {rounds : Nat}
    {before after : Wired Client Err World} {turn : Turn Client Err} (whole : turn.Whole)
    (fits : turn.Fits cfg) (sent : after.sent = before.sent ++ turn.sent query)
    (dials : after.dials ≤ before.dials + (rounds + 1)) (turned : turn.result = .ok resp) :
    Sends cfg query (rounds + 1) before after (some resp) [turn] := by
  refine ⟨Nat.succ_le_succ (Nat.zero_le _), ?_, ?_, dials, ?_⟩
  · rw [List.forall_mem_singleton]
    exact ⟨whole, fits⟩
  · rw [sent, List.flatMap_singleton]
  · rintro _ ⟨⟩
    exact congrArg some turned

/-- The first turn had none, and others followed. -/
theorem Sends.cons {cfg : UpstreamConfig} {query : Message} {rounds : Nat}
    {before middle after : Wired Client Err World} {answer : Option Message}
    {turn : Turn Client Err} {turns : List (Turn Client Err)}
    (sends : Sends cfg query rounds middle after answer turns) (whole : turn.Whole)
    (fits : turn.Fits cfg) (sent : middle.sent = before.sent ++ turn.sent query)
    (dials : middle.dials ≤ before.dials + 1) :
    Sends cfg query (rounds + 1) before after answer (turn :: turns) := by
  have few := sends.few
  have redials := sends.dials
  refine ⟨?_, ?_, ?_, by omega, ?_⟩
  · rw [List.length_cons]
    omega
  · rw [List.forall_mem_cons]
    exact ⟨⟨whole, fits⟩, sends.whole⟩
  · rw [sends.sent, sent, List.flatMap_cons, List.append_assoc]
  · intro resp answered
    have ended := sends.answered resp answered
    rcases Option.map_eq_some_iff.mp ended with ⟨final, found, _⟩
    rw [found] at ended
    rw [List.getLast?_cons, found]
    exact ended

/-- Each round takes a turn, and the first turn with an answer ends them. -/
theorem rounds_send (cfg : UpstreamConfig) (rounds : Nat) (id : TaskId) (query : Message)
    (lastErr : Option (Fault Err)) (state after : Reconnect.State (Conn Client) (Fault Err))
    (wired later : Wired Client Err World)
    (result : Except (Reconnect.Failure (Fault Err)) Message) (holds : Holds cfg state)
    (resolved : resolveRounds (network wire cfg) id query rounds lastErr state wired =
      .ok (result, after, later)) :
    Holds cfg after ∧ ∃ turns, Sends cfg query rounds wired later result.toOption turns := by
  induction rounds generalizing lastErr state wired with
  | zero =>
      cases lastErr with
      | none => cases resolved
      | some err =>
          cases resolved
          exact ⟨holds, [], sends_none rfl (Nat.le_refl _)⟩
  | succ rounds ih =>
      rw [resolveRounds] at resolved
      cases acquired : acquire (network wire cfg) state wired with
      | mk reached rest =>
          obtain ⟨held, opened⟩ := rest
          obtain ⟨kept, fits, sent, dials⟩ :=
            acquire_holds cfg state held wired opened reached acquired holds
          rw [acquired] at resolved
          cases reached with
          | error failure =>
              cases resolved
              exact ⟨kept, [], sends_none sent (by omega)⟩
          | ok pair =>
              obtain ⟨g, conn⟩ := pair
              dsimp only at resolved
              cases asked : (network wire cfg).send conn query opened with
              | mk outcome spent =>
                  obtain ⟨turn, whole, fit, turned, more, same⟩ :=
                    conn_turn cfg conn (fits g conn rfl) query opened spent outcome asked
                  rw [asked] at resolved
                  cases outcome with
                  | ok resp =>
                      cases resolved
                      exact ⟨kept, [turn],
                        sends_one whole fit (by rw [more, sent]) (by omega) turned⟩
                  | error err =>
                      have logged : Holds cfg (held.logReply ⟨⟨id, query, g, conn⟩, .error err⟩) :=
                        kept
                      obtain ⟨last, turns, sends⟩ := ih (some err) _ spent
                        (invalidate_holds cfg _ g logged) resolved
                      exact ⟨last, turn :: turns,
                        sends.cons whole fit (by rw [more, sent]) (by omega)⟩

end Queries

/-! What the set sends. -/
section Sets

variable {wire : Wire Client Err World} {configs : UpstreamId → UpstreamConfig}

def AllHold (configs : UpstreamId → UpstreamConfig) (env : Upstreams Client Err World) : Prop :=
  ∀ which, Holds (configs which) (env.upstreams which)

/-- The turns of one query, each with its upstream: two at most for each, in their order. -/
structure Traffic (configs : UpstreamId → UpstreamConfig) (query : Message)
    (upstreams : List UpstreamId) (before after : Wired Client Err World)
    (answer : Option Message) (turns : List (UpstreamId × Turn Client Err)) : Prop where
  order : (turns.map Prod.fst).Sublist (upstreams.flatMap fun which => [which, which])
  whole : ∀ entry ∈ turns, entry.2.Whole ∧ entry.2.Fits (configs entry.1)
  sent : after.sent = before.sent ++ turns.flatMap fun entry => entry.2.sent query
  dials : after.dials ≤ before.dials + 2 * upstreams.length
  answered : ∀ resp, answer = some resp → resp.responseCode ≠ .ServFail ∧
    turns.getLast?.map (fun entry => entry.2.result) = some (.ok resp)

theorem holds_update (env : Upstreams Client Err World) (holds : AllHold configs env)
    (which : UpstreamId) (state : Reconnect.State (Conn Client) (Fault Err))
    (kept : Holds (configs which) state) (other : UpstreamId) :
    Holds (configs other) (Function.update env.upstreams which state other) := by
  by_cases same : other = which
  · subst same
    rwa [Function.update_self]
  · rw [Function.update_of_ne same]
    exact holds other

/-- One upstream of the set. -/
theorem attempt_sends (id : TaskId) (query : Message) (which : UpstreamId)
    (env after : Upstreams Client Err World) (answer : Option Message) (holds : AllHold configs env)
    (tried : attempt (network wire (configs which)) id query which env = .ok (answer, after)) :
    AllHold configs after ∧ ∃ turns,
      Sends (configs which) query 2 env.world after.world answer turns ∧
      ∀ resp, answer = some resp → resp.responseCode ≠ .ServFail := by
  obtain ⟨_, result, contacted, decides⟩ := attempt_cases which env after answer tried
  obtain ⟨⟨outcome, state, later⟩, resolved, rest⟩ := bind_ok contacted
  cases rest
  obtain ⟨kept, turns, sends⟩ := rounds_send (configs which) 2 id query none _ state env.world later
    result (holds which) resolved
  refine ⟨holds_update env holds which state kept, turns, ?_, ?_⟩
  · refine ⟨sends.few, sends.whole, sends.sent, sends.dials, ?_⟩
    rintro resp rfl
    exact sends.answered resp (by rw [decides.1]; rfl)
  · rintro resp rfl
    exact decides.2

/-- The turns of one upstream under its name. -/
theorem sends_traffic (query : Message) (which : UpstreamId) (before after : Wired Client Err World)
    (answer : Option Message) (turns : List (Turn Client Err))
    (sends : Sends (configs which) query 2 before after answer turns)
    (fine : ∀ resp, answer = some resp → resp.responseCode ≠ .ServFail) :
    Traffic configs query [which] before after answer (turns.map fun turn => (which, turn)) := by
  constructor
  · have names : (turns.map fun turn => (which, turn)).map Prod.fst =
        List.replicate turns.length which := by
      rw [List.map_map]
      exact List.map_const'
    rw [names]
    exact (List.replicate_sublist_replicate which).mpr sends.few
  · rintro entry listed
    obtain ⟨turn, inside, rfl⟩ := List.mem_map.mp listed
    exact sends.whole turn inside
  · rw [sends.sent, List.flatMap_map]
  · exact sends.dials
  · intro resp answered
    refine ⟨fine resp answered, ?_⟩
    rw [List.getLast?_map, Option.map_map]
    exact sends.answered resp answered

theorem traffic_append (query : Message) (first others : List UpstreamId)
    (before middle after : Wired Client Err World) (answer : Option Message)
    (front back : List (UpstreamId × Turn Client Err))
    (one : Traffic configs query first before middle none front)
    (rest : Traffic configs query others middle after answer back) :
    Traffic configs query (first ++ others) before after answer (front ++ back) := by
  have dials := one.dials
  have redials := rest.dials
  constructor
  · rw [List.map_append, List.flatMap_append]
    exact one.order.append rest.order
  · intro entry listed
    exact (List.mem_append.mp listed).elim (one.whole entry) (rest.whole entry)
  · rw [rest.sent, one.sent, List.flatMap_append, List.append_assoc]
  · rw [List.length_append]
    omega
  · intro resp answered
    obtain ⟨fine, ended⟩ := rest.answered resp answered
    refine ⟨fine, ?_⟩
    rcases Option.map_eq_some_iff.mp ended with ⟨final, found, _⟩
    rw [List.getLast?_append, found]
    rw [found] at ended
    exact ended

theorem traffic_more (query : Message) (first others : List UpstreamId)
    (before after : Wired Client Err World) (answer : Option Message)
    (turns : List (UpstreamId × Turn Client Err))
    (traffic : Traffic configs query first before after answer turns) :
    Traffic configs query (first ++ others) before after answer turns := by
  have dials := traffic.dials
  refine ⟨?_, traffic.whole, traffic.sent, ?_, traffic.answered⟩
  · rw [List.flatMap_append]
    exact traffic.order.trans (List.sublist_append_left _ _)
  · rw [List.length_append]
    omega

/-- Each query goes through the set by turns that fit. -/
theorem set_traffic (id : TaskId) (query : Message) (upstreams : List UpstreamId)
    (env : Upstreams Client Err World) (holds : AllHold configs env) :
    ∃ answer after turns, resolveAll wire configs id query upstreams env = .ok (answer, after) ∧
      AllHold configs after ∧
      Traffic configs query upstreams env.world after.world answer turns := by
  induction upstreams generalizing env with
  | nil =>
      exact ⟨none, env, [], rfl, holds, .slnil, List.forall_mem_nil _, (List.append_nil _).symm,
        Nat.le_refl _, fun _ answered => nomatch answered⟩
  | cons which rest ih =>
      obtain ⟨⟨answer, middle⟩, tried, _⟩ :=
        attempt_completes (network wire (configs which)) id query which env
      obtain ⟨kept, turns, sends, fine⟩ :=
        attempt_sends id query which env middle answer holds tried
      have one := sends_traffic query which env.world middle.world answer turns sends fine
      cases answer with
      | some resp =>
          exact ⟨some resp, middle, _, first_answer_won which rest env middle resp tried, kept,
            traffic_more query [which] rest _ _ _ _ one⟩
      | none =>
          obtain ⟨answer, after, others, resolved, last, traffic⟩ := ih middle kept
          have passed : resolveAll wire configs id query (which :: rest) env =
              resolveAll wire configs id query rest middle :=
            first_answer_passed which rest env middle tried
          exact ⟨answer, after, _, passed.trans resolved, last,
            traffic_append query [which] rest _ _ _ _ _ _ one traffic⟩

/-- One query after the other. -/
def askEach (wire : Wire Client Err World) (configs : UpstreamId → UpstreamConfig)
    (upstreams : List UpstreamId) : TaskId → List Message → Upstreams Client Err World →
      Checked (List (Option Message) × Upstreams Client Err World)
  | _, [], env => .ok ([], env)
  | id, query :: rest, env => do
      let (answer, env) ← resolveAll wire configs id query upstreams env
      let (answers, env) ← askEach wire configs upstreams (id + 1) rest env
      .ok (answer :: answers, env)

/-- The traffic of each query, one after the other. -/
inductive Asked (configs : UpstreamId → UpstreamConfig) (upstreams : List UpstreamId) :
    List Message → Wired Client Err World → List (Option Message) → Wired Client Err World → Prop
  | nil (wired : Wired Client Err World) : Asked configs upstreams [] wired [] wired
  | cons {query : Message} {rest : List Message} {before middle after : Wired Client Err World}
      {answer : Option Message} {answers : List (Option Message)}
      (turns : List (UpstreamId × Turn Client Err))
      (traffic : Traffic configs query upstreams before middle answer turns)
      (others : Asked configs upstreams rest middle answers after) :
      Asked configs upstreams (query :: rest) before (answer :: answers) after

theorem each_asked (wire : Wire Client Err World) (configs : UpstreamId → UpstreamConfig)
    (upstreams : List UpstreamId) (id : TaskId) (queries : List Message)
    (env : Upstreams Client Err World) (holds : AllHold configs env) :
    ∃ answers after, askEach wire configs upstreams id queries env = .ok (answers, after) ∧
      Asked configs upstreams queries env.world answers after.world := by
  induction queries generalizing id env with
  | nil => exact ⟨[], env, rfl, .nil env.world⟩
  | cons query rest ih =>
      obtain ⟨answer, middle, turns, resolved, kept, traffic⟩ :=
        set_traffic id query upstreams env holds
      obtain ⟨answers, after, others, asked⟩ := ih (id + 1) middle kept
      refine ⟨answer :: answers, after, ?_, .cons turns traffic asked⟩
      rw [askEach, resolved]
      change (do
        let (answers, env) ← askEach wire configs upstreams (id + 1) rest middle
        .ok (answer :: answers, env)) = _
      rw [others]
      rfl

theorem turn_private (addr : SocketAddr) (dnsName : Text) (query : Message) (turn : Turn Client Err)
    (fits : turn.Fits (.Tls addr dnsName)) (exchange : Exchange Client Err)
    (inside : exchange ∈ turn.sent query) : exchange.via = .tls := by
  cases turn with
  | dot client result => rw [List.mem_singleton.mp inside]
  | plain udp result => exact fits.elim
  | repeated udp tcp cut result => exact fits.elim

theorem turn_query (query : Message) (turn : Turn Client Err) (exchange : Exchange Client Err)
    (inside : exchange ∈ turn.sent query) : exchange.query = query := by
  cases turn with
  | dot client result => rw [List.mem_singleton.mp inside]
  | plain udp result => rw [List.mem_singleton.mp inside]
  | repeated udp tcp cut result =>
      rcases List.mem_cons.mp inside with rfl | last
      · rfl
      · rw [List.mem_singleton.mp last]

theorem turns_length (query : Message) (turns : List (UpstreamId × Turn Client Err)) :
    (turns.flatMap fun entry => entry.2.sent query).length ≤ 2 * turns.length := by
  induction turns with
  | nil => exact Nat.le_refl 0
  | cons entry rest ih =>
      have two : (entry.2.sent query).length ≤ 2 := by
        cases entry.2 <;> simp [Turn.sent]
      rw [List.flatMap_cons, List.length_append, List.length_cons]
      omega

theorem doubled_length (upstreams : List UpstreamId) :
    (upstreams.flatMap fun which => [which, which]).length = 2 * upstreams.length := by
  induction upstreams with
  | nil => rfl
  | cons which rest ih =>
      rw [List.flatMap_cons, List.length_append, List.length_cons, ih]
      simp only [List.length_cons, List.length_nil]
      omega

/-- What is sent for a number of queries: each as it is, four times an upstream at most, and
over TLS alone where all upstreams are DoT. -/
structure Carried (configs : UpstreamId → UpstreamConfig) (upstreams : List UpstreamId)
    (queries : List Message) (exchanges : List (Exchange Client Err)) : Prop where
  few : exchanges.length ≤ 4 * (upstreams.length * queries.length)
  same : ∀ exchange ∈ exchanges, exchange.query ∈ queries
  covert : (∀ which, ∃ addr dnsName, configs which = .Tls addr dnsName) →
    ∀ exchange ∈ exchanges, exchange.via = .tls

theorem asked_carried (upstreams : List UpstreamId) (queries : List Message)
    (before after : Wired Client Err World) (answers : List (Option Message))
    (asked : Asked configs upstreams queries before answers after) :
    ∃ exchanges, after.sent = before.sent ++ exchanges ∧
      Carried configs upstreams queries exchanges := by
  induction asked with
  | nil wired =>
      exact ⟨[], (List.append_nil _).symm, Nat.zero_le _, List.forall_mem_nil _,
        fun _ => List.forall_mem_nil _⟩
  | @cons query rest before middle after answer answers turns traffic _ ih =>
      obtain ⟨later, sent, few, same, covert⟩ := ih
      refine ⟨(turns.flatMap fun entry => entry.2.sent query) ++ later, ?_, ?_, ?_, ?_⟩
      · rw [sent, traffic.sent, List.append_assoc]
      · have turnsFew := traffic.order.length_le
        have exchanged := turns_length query turns
        rw [List.length_map, doubled_length] at turnsFew
        rw [List.length_append, List.length_cons, Nat.mul_succ]
        omega
      · intro exchange inside
        rcases List.mem_append.mp inside with now | behind
        · obtain ⟨entry, _, within⟩ := List.mem_flatMap.mp now
          rw [turn_query query entry.2 exchange within]
          exact List.mem_cons_self
        · exact List.mem_cons_of_mem query (same exchange behind)
      · intro dot exchange inside
        rcases List.mem_append.mp inside with now | behind
        · obtain ⟨entry, listed, within⟩ := List.mem_flatMap.mp now
          obtain ⟨addr, dnsName, isDot⟩ := dot entry.1
          have fits := (traffic.whole entry listed).2
          rw [isDot] at fits
          exact turn_private addr dnsName query entry.2 fits exchange within
        · exact covert dot exchange behind

/-- Whatever the wire does to any number of queries: each goes through the set by turns that
fit their upstreams, and an answer is one of these turns', whole and no SERVFAIL. -/
theorem queries_carried (wire : Wire Client Err World) (configs : UpstreamId → UpstreamConfig)
    (upstreams : List UpstreamId) (queries : List Message) (world : World) :
    ∃ answers after, askEach wire configs upstreams 0 queries
        ⟨fun which => .new (configs which).addr, ⟨world, [], 0⟩, []⟩ = .ok (answers, after) ∧
      Asked configs upstreams queries ⟨world, [], 0⟩ answers after.world ∧
      Carried configs upstreams queries after.world.sent := by
  have fresh : AllHold configs (⟨fun which => .new (configs which).addr, ⟨world, [], 0⟩, []⟩ :
      Upstreams Client Err World) := fun which => nofun
  obtain ⟨answers, after, resolved, asked⟩ := each_asked wire configs upstreams 0 queries _ fresh
  obtain ⟨exchanges, sent, carried⟩ := asked_carried upstreams queries _ _ answers asked
  refine ⟨answers, after, resolved, asked, ?_⟩
  rw [sent]
  exact carried

end Sets

end Dnsix.Transport
