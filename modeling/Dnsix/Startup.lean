import Dnsix.AclMatching
import Dnsix.BlocklistSemantics
import Dnsix.Gate
import Dnsix.ListFetch
import Dnsix.Transport
import Dnsix.Workload

/-!
How `main` comes from a configuration to a server: what it checks, builds, dials and
loads, and in which order. Then what the configuration promises of every request the
server answers: who is refused, what is blocked, and that nothing is remembered of anyone
unless the dashboard is on.
-/

namespace Dnsix.Startup
open Acl AclMatching Address Ascii Blocking BlocklistSemantics Dns Dnsix.Configuration Failover
open FirstAnswer Forwarder Gate Handler ListFetch Reconnect Served Synth SynthChain Transition
open Transport

variable {text : NameText} {Client Err World : Type}

/-! From the configuration to the handler. -/
section Launching

/-- Why `main` returns before it serves. -/
inductive StartError (Err : Type) where
  | configuration (error : ConfigError)
  | synthesizers (error : BuildError)
  | upstream (error : Reconnect.Failure (Fault Err))
  | clientNetworks (error : AclError)

/-- `Pool::connect`: every upstream is made and dialed once, in order. -/
def connectAll (wire : Wire Client Err World) : List (UpstreamConfig × UpstreamId) →
    Upstreams Client Err World →
      Except (Reconnect.Failure (Fault Err)) Unit × Upstreams Client Err World
  | [], env => (.ok (), env)
  | (cfg, which) :: rest, env =>
      match acquire (network wire cfg) (.new cfg.addr) env.world with
      | (.error failure, _, world) => (.error failure, { env with world })
      | (.ok _, state, world) =>
          connectAll wire rest
            { env with upstreams := Function.update env.upstreams which state, world }

variable (text) in
/-- The lists are fetched through the pool, once, when there are any. -/
def loadLists (outside : Outside (Upstreams Client Err World)) (config : Config)
    (env : Upstreams Client Err World) :
    Option (Blocklist FetchError) × Upstreams Client Err World :=
  if config.blocklists.isEmpty then (none, env)
  else
    let (bl, journal) := load text outside config.nat64Prefix config.blocklists ⟨env, []⟩
    (some bl, journal.world)

variable (text) in
/-- What the handler is made of, but for the pool and the counters. -/
structure Started where
  chain : Chain text
  queryLog : Bool
  gates : Gates FetchError

def Started.handler (started : Started text) : Dns64Handler text :=
  started.gates.handler started.chain started.queryLog

variable (text) in
/-- `main`, up to the sockets. -/
def start (wire : Wire Client Err World) (outside : Outside (Upstreams Client Err World))
    (config : Config) (env : Upstreams Client Err World) :
    Except (StartError Err) (Started text) × Upstreams Client Err World :=
  match config.validate with
  | .error error => (.error (.configuration error), env)
  | .ok () =>
      match config.settings.build with
      | .error error => (.error (.synthesizers error), env)
      | .ok chain =>
          match connectAll wire config.upstreams.zipIdx env with
          | (.error error, env) => (.error (.upstream error), env)
          | (.ok (), env) =>
              let (blocklist, env) := loadLists text outside config env
              match ClientAcl.parse config.clientNetworks with
              | .error error => (.error (.clientNetworks error), env)
              | .ok acl =>
                  let clientAcl := if acl.isEmpty then none else some acl
                  (.ok ⟨chain, config.uiListen.isSome, ⟨blocklist, clientAcl⟩⟩, env)

end Launching

/-! The upstreams. -/
section Dialing
variable {wire : Wire Client Err World}

/-- Each of the upstreams was dialed once and holds a connection of its kind. -/
structure Dialed (pairs : List (UpstreamConfig × UpstreamId))
    (before after : Upstreams Client Err World) : Prop where
  sent : after.world.sent = before.world.sent
  dials : after.world.dials = before.world.dials + pairs.length
  held : ∀ pair ∈ pairs, ∃ g conn,
    (after.upstreams pair.2).upstream.cell = some (g, conn) ∧ conn.Fits pair.1
  frame : ∀ which, (∀ pair ∈ pairs, pair.2 ≠ which) →
    after.upstreams which = before.upstreams which

/-- The upstreams before the first that fails were dialed, and none behind it. -/
structure Refused (pairs : List (UpstreamConfig × UpstreamId))
    (failure : Reconnect.Failure (Fault Err)) (before after : Upstreams Client Err World) :
    Prop where
  dialing : ∃ err, failure = .dial err
  sent : after.world.sent = before.world.sent
  stopped : ∃ front pair back middle, pairs = front ++ pair :: back ∧
    Dialed front before middle ∧ after.upstreams = middle.upstreams ∧
    after.world.dials = before.world.dials + front.length + 1

/-- A new upstream is dialed. -/
theorem acquire_new (cfg : UpstreamConfig) (wired later : Wired Client Err World)
    (state : Reconnect.State (Conn Client) (Fault Err))
    (result : Except (Reconnect.Failure (Fault Err)) (Nat × Conn Client))
    (acquired : acquire (network wire cfg) (.new cfg.addr) wired = (result, state, later)) :
    later.sent = wired.sent ∧ later.dials = wired.dials + 1 ∧
      ((∃ err, result = .error (.dial err)) ∨
        ∃ g conn, result = .ok (g, conn) ∧ state.upstream.cell = some (g, conn) ∧
          conn.Fits cfg) := by
  unfold acquire at acquired
  split at acquired
  · rename_i held cell
    cases cell
  · cases dialed : (network wire cfg).dial (State.new cfg.addr).upstream.addr wired with
    | mk outcome world =>
        obtain ⟨fits, sent, dials⟩ := connect_fits cfg wired world outcome dialed
        rw [dialed] at acquired
        cases outcome with
        | error err =>
            cases acquired
            exact ⟨sent, dials, .inl ⟨err, rfl⟩⟩
        | ok conn =>
            cases acquired
            exact ⟨sent, dials, .inr ⟨_, conn, rfl, rfl, fits conn rfl⟩⟩

theorem dialed_cons (cfg : UpstreamConfig) (which : UpstreamId)
    (rest : List (UpstreamConfig × UpstreamId)) (env after : Upstreams Client Err World)
    (state : Reconnect.State (Conn Client) (Fault Err)) (world : Wired Client Err World)
    (absent : ∀ pair ∈ rest, pair.2 ≠ which) (sent : world.sent = env.world.sent)
    (dials : world.dials = env.world.dials + 1)
    (held : ∃ g conn, state.upstream.cell = some (g, conn) ∧ conn.Fits cfg)
    (others : Dialed rest
      { env with upstreams := Function.update env.upstreams which state, world } after) :
    Dialed ((cfg, which) :: rest) env after := by
  constructor
  · exact others.sent.trans sent
  · rw [others.dials, dials, List.length_cons]
    omega
  · rintro pair listed
    rcases List.mem_cons.mp listed with rfl | behind
    · have stays := others.frame which absent
      dsimp only at stays ⊢
      rw [stays, Function.update_self]
      exact held
    · exact others.held pair behind
  · intro other unlisted
    rw [others.frame other fun pair behind => unlisted pair (List.mem_cons_of_mem _ behind)]
    exact Function.update_of_ne (Ne.symm (unlisted (cfg, which) List.mem_cons_self)) _ _

theorem connect_all_cases (wire : Wire Client Err World)
    (pairs : List (UpstreamConfig × UpstreamId))
    (distinct : (pairs.map Prod.snd).Nodup) (env : Upstreams Client Err World) :
    (∃ after, connectAll wire pairs env = (.ok (), after) ∧ Dialed pairs env after) ∨
      ∃ failure after, connectAll wire pairs env = (.error failure, after) ∧
        Refused pairs failure env after := by
  induction pairs generalizing env with
  | nil =>
      exact .inl ⟨env, rfl, rfl, rfl, List.forall_mem_nil _, fun _ _ => rfl⟩
  | cons pair rest ih =>
      obtain ⟨cfg, which⟩ := pair
      obtain ⟨fresh, others⟩ := List.nodup_cons.mp distinct
      have absent : ∀ pair ∈ rest, pair.2 ≠ which := by
        intro pair listed same
        have inside : pair.2 ∈ rest.map Prod.snd := List.mem_map_of_mem listed
        exact fresh (same ▸ inside)
      cases acquired : acquire (network wire cfg) (.new cfg.addr) env.world with
      | mk result more =>
          obtain ⟨state, world⟩ := more
          obtain ⟨sent, dials, outcome⟩ := acquire_new cfg env.world world state result acquired
          rw [connectAll, acquired]
          rcases outcome with ⟨err, rfl⟩ | ⟨g, conn, rfl, held⟩
          · refine .inr ⟨.dial err, _, rfl, ⟨err, rfl⟩, sent, [], (cfg, which), rest, env, rfl, ?_,
              rfl, dials⟩
            exact ⟨rfl, rfl, List.forall_mem_nil _, fun _ _ => rfl⟩
          · rcases ih others
              { env with upstreams := Function.update env.upstreams which state, world } with
              ⟨after, connected, dialed⟩ | ⟨failure, after, failed, refused⟩
            · exact .inl ⟨after, connected,
                dialed_cons cfg which rest env after state world absent sent dials
                  ⟨g, conn, held⟩ dialed⟩
            · obtain ⟨front, last, back, middle, rfl, dialed, same, count⟩ := refused.stopped
              refine .inr ⟨failure, after, failed, refused.dialing, refused.sent.trans sent,
                (cfg, which) :: front, last, back, middle, rfl, ?_, same, ?_⟩
              · exact dialed_cons cfg which front env middle state world
                  (fun pair listed => absent pair (List.mem_append_left _ listed)) sent dials
                  ⟨g, conn, held⟩ dialed
              · rw [count, dials, List.length_cons]
                omega

end Dialing

/-! What `main` comes to. -/
section Outcomes

variable (text) in
/-- How `main` ends before it serves, or what it serves with. What becomes of the lists
never ends it. -/
inductive Launched (outside : Outside (Upstreams Client Err World)) (config : Config)
    (before : Upstreams Client Err World) :
    Except (StartError Err) (Started text) → Upstreams Client Err World → Prop where
  | misconfigured (error : ConfigError) (wrong : config.validate = .error error) :
      Launched outside config before (.error (.configuration error)) before
  | unbuilt (error : BuildError) (valid : Validated config)
      (wrong : (config.settings.build : Except BuildError (Chain text)) = .error error) :
      Launched outside config before (.error (.synthesizers error)) before
  | unreachable (chain : Chain text) (failure : Reconnect.Failure (Fault Err))
      (after : Upstreams Client Err World) (valid : Validated config)
      (built : config.settings.build = .ok chain)
      (refused : Refused config.upstreams.zipIdx failure before after) :
      Launched outside config before (.error (.upstream failure)) after
  | up (chain : Chain text) (acl : ClientAcl) (dialed : Upstreams Client Err World)
      (valid : Validated config) (built : config.settings.build = .ok chain)
      (connected : Dialed config.upstreams.zipIdx before dialed)
      (parsed : ClientAcl.parse config.clientNetworks = .ok acl) :
      Launched outside config before
        (.ok ⟨chain, config.uiListen.isSome, ⟨(loadLists text outside config dialed).1,
          if acl.isEmpty then none else some acl⟩⟩)
        (loadLists text outside config dialed).2

theorem start_launched (wire : Wire Client Err World)
    (outside : Outside (Upstreams Client Err World)) (config : Config)
    (env : Upstreams Client Err World) :
    Launched text outside config env (start text wire outside config env).1
      (start text wire outside config env).2 := by
  unfold start
  cases checked : config.validate with
  | error error => exact .misconfigured error checked
  | ok _ =>
      have valid := (validate_ok_iff config).mp checked
      cases built : (config.settings.build : Except BuildError (Chain text)) with
      | error error => exact .unbuilt error valid built
      | ok chain =>
          have distinct : (config.upstreams.zipIdx.map Prod.snd).Nodup := by
            rw [List.zipIdx_map_snd]
            exact List.nodup_range'
          rcases connect_all_cases wire config.upstreams.zipIdx distinct env with
            ⟨dialed, connected, held⟩ | ⟨failure, after, failed, refused⟩
          · obtain ⟨acl, parsed⟩ := valid.clients
            dsimp only
            rw [connected, parsed]
            exact .up chain acl dialed valid built held parsed
          · dsimp only
            rw [failed]
            exact .unreachable chain failure after valid built refused

end Outcomes

/-! What the gates owe every request. -/
section Policing
variable {config : Pool.Config} {handler : Dns64Handler text}

/-- The question of a request the gates let pass. -/
structure Passed (handler : Dns64Handler text) (request : Request) (query : Query) : Prop where
  formed : RequestRuns.WellFormed request
  asked : request.message.queries = [query]
  admitted : handler.refuses request = false
  cleared : handler.blocks query.name = false

/-- The response of a request, with the lookups it made. -/
inductive Judged (handler : Dns64Handler text) (request : Request) (lookups : List Pool.CallId)
    (response : Message) : Prop where
  | malformed (unfit : ¬ RequestRuns.WellFormed request) (silent : lookups = [])
  | refused (query : Query) (asked : request.message.queries = [query])
      (outside : handler.refuses request = true)
      (told : response = serveError request .Refused) (silent : lookups = [])
  | blocked (query : Query) (asked : request.message.queries = [query])
      (admitted : handler.refuses request = false) (listed : handler.blocks query.name = true)
      (told : response = serveError request .NXDomain) (silent : lookups = [])
  | forwarded (query : Query) (passed : Passed handler request query) (spoken : lookups ≠ [])

/-- What the gates owe a request where it stands. -/
def Policed (handler : Dns64Handler text) (h : RequestRuns.Handling text)
    (lookups : List Pool.CallId) : Prop :=
  match h.place with
  | .received => lookups = []
  | .gating query => RequestRuns.WellFormed h.request ∧ h.request.message.queries = [query] ∧
      lookups = []
  | .joining query | .observing query => Passed handler h.request query
  | .trying query _ _ _ _ | .won query _ _ _ _ => Passed handler h.request query ∧ lookups ≠ []
  | .closing _ response _ | .decided response _ | .finished response =>
      Judged handler h.request lookups response

theorem sent_to_refused (request : Request) (query : Query)
    (sent : RequestRuns.sentTo handler request query = .refused) :
    handler.refuses request = true := by
  unfold RequestRuns.sentTo at sent
  split at sent
  · assumption
  · split at sent
    · cases sent
    · split at sent <;> cases sent

theorem sent_to_blocked (request : Request) (query : Query)
    (sent : RequestRuns.sentTo handler request query = .blocked) :
    handler.refuses request = false ∧ handler.blocks query.name = true := by
  unfold RequestRuns.sentTo at sent
  split at sent
  · cases sent
  · rename_i admitted
    split at sent
    · exact ⟨Bool.eq_false_of_not_eq_true admitted, by assumption⟩
    · split at sent <;> cases sent

theorem sent_to_passed (request : Request) (query : Query)
    (formed : RequestRuns.WellFormed request) (asked : request.message.queries = [query])
    (sent : RequestRuns.sentTo handler request query = .dns64 ∨
      RequestRuns.sentTo handler request query = .passthrough) :
    Passed handler request query := by
  have open_ : handler.refuses request = false ∧ handler.blocks query.name = false := by
    unfold RequestRuns.sentTo at sent
    split at sent
    · rcases sent with sent | sent <;> cases sent
    · rename_i admitted
      split at sent
      · rcases sent with sent | sent <;> cases sent
      · rename_i cleared
        exact ⟨Bool.eq_false_of_not_eq_true admitted, Bool.eq_false_of_not_eq_true cleared⟩
  exact ⟨formed, asked, open_.1, open_.2⟩

/-- A step of a request whose lookups are all begun. -/
theorem policed_moved {Handle : Type} (h : RequestRuns.Handling text)
    (event : RequestRuns.Event Handle) (progress : RequestRuns.Progress text)
    (lookups : List Pool.CallId) (policed : Policed handler h lookups)
    (spoken : wants handler h ≠ [] → lookups ≠ [])
    (moved : RequestRuns.Moved handler h event progress) :
    Policed handler progress.handling lookups := by
  cases moved with
  | malformed code placed unfit =>
      simp only [Policed, placed] at policed
      exact .malformed unfit policed
  | received query placed fit asked =>
      simp only [Policed, placed] at policed
      exact ⟨fit, asked, policed⟩
  | refused query placed sent =>
      simp only [Policed, placed] at policed
      exact .refused query policed.2.1 (sent_to_refused _ _ sent) rfl policed.2.2
  | blocked query placed sent =>
      simp only [Policed, placed] at policed
      obtain ⟨admitted, listed⟩ := sent_to_blocked _ _ sent
      exact .blocked query policed.2.1 admitted listed rfl policed.2.2
  | routed query placed sent =>
      simp only [Policed, placed] at policed
      exact sent_to_passed _ query policed.1 policed.2.1 (.inl sent)
  | passedOn query placed sent =>
      simp only [Policed, placed] at policed
      exact sent_to_passed _ query policed.1 policed.2.1 (.inr sent)
  | failed query _ _ placed | native query _ _ _ placed | missing query _ _ _ placed
  | errored query _ _ _ placed | relayed query _ _ placed | unanswered query _ placed =>
      simp only [Policed, placed] at policed
      simp only [wants, placed] at spoken
      exact .forwarded query policed (spoken (List.cons_ne_nil _ _))
  | nodata query aaaa cache aRes placed =>
      simp only [Policed, placed] at policed
      simp only [wants, placed] at spoken
      exact ⟨policed, spoken (List.cons_ne_nil _ _)⟩
  | missed query aaaa cache ctx synth rest resolve world placed =>
      simp only [Policed, placed] at policed
      exact policed
  | hit query aaaa cache ctx synth rest resolve world records placed =>
      simp only [Policed, placed] at policed
      exact policed
  | empty query aaaa cache ctx placed =>
      simp only [Policed, placed] at policed
      exact .forwarded query policed.1 policed.2
  | appended query cache ctx id records extra resolve world placed =>
      simp only [Policed, placed] at policed
      exact .forwarded query policed.1 policed.2
  | counted query response obs placed =>
      simp only [Policed, placed] at policed
      exact policed
  | finished response due placed =>
      simp only [Policed, placed] at policed
      exact policed

/-- A request that asks once more has been let pass. -/
theorem policed_asked (h : RequestRuns.Handling text) (lookups more : List Pool.CallId)
    (policed : Policed handler h lookups) (wanting : wants handler h ≠ []) :
    Policed handler h (lookups ++ more) := by
  unfold Policed at policed ⊢
  unfold wants at wanting
  cases placed : h.place with
  | joining query | observing query =>
      simp only [placed] at policed
      exact policed
  | trying query aaaa cache ctx rest =>
      simp only [placed] at policed
      exact ⟨policed.1, List.append_ne_nil_of_left_ne_nil policed.2 more⟩
  | won query cache ctx id records =>
      simp only [placed] at policed
      exact ⟨policed.1, List.append_ne_nil_of_left_ne_nil policed.2 more⟩
  | received | gating query | closing query response obs | decided response due
  | finished response =>
      simp only [placed] at wanting
      exact absurd rfl wanting

theorem policed_step (action : Action) (state after : Forwarder.State text)
    (transcribed : Transcribed handler state)
    (policed : ∀ r h, state.requests.handlings[r]? = some h →
      Policed handler h (ownLookups state.lookups r))
    (taken : Forwarder.step config handler action state = some after) (r : Nat)
    (h : RequestRuns.Handling text) (present : after.requests.handlings[r]? = some h) :
    Policed handler h (ownLookups after.lookups r) := by
  cases step_moved action state after taken with
  | pooled inside moved => exact policed r h present
  | arrived request =>
      rcases joined_cases present with old | ⟨rfl, rfl⟩
      · exact policed r h old
      · exact (transcribed.absent _ (List.getElem?_eq_none (Nat.le_refl _))).1
  | @asked id other query pool found wanted turn called =>
      have before := policed r h present
      dsimp only
      rw [own_append]
      by_cases own : r = id
      · subst r
        obtain rfl : h = other := Option.some.inj (present.symm.trans found)
        refine policed_asked h _ _ before ?_
        intro none
        rw [none] at wanted
        cases wanted
      · rw [if_neg (Ne.symm own), List.append_nil]
        exact before
  | @advanced id other answers event progress found complete answered heard next =>
      rcases replaced_cases (List.getElem?_eq_some_iff.mp found).1 present with
        ⟨rfl, rfl⟩ | ⟨own, stays⟩
      · have moved := RequestRuns.next_moved other event progress next
        refine policed_moved other event progress _ (policed r other found) ?_ moved
        -- What it wanted has been asked.
        obtain ⟨taken, answers, queries, known⟩ := transcribed.present r other found
        intro wanting
        rw [known.own]
        refine List.append_ne_nil_of_right_ne_nil taken ?_
        rw [← List.length_pos_iff, complete]
        exact List.length_pos_iff.mpr wanting
      · exact policed r h stays

theorem reachable_policed (metrics : Counters.Metrics) (actions : List Action)
    (after : Forwarder.State text)
    (run : Run (Forwarder.step config handler) anyAction (.new text config metrics) actions
      after) (r : Nat) (h : RequestRuns.Handling text)
    (present : after.requests.handlings[r]? = some h) :
    Policed handler h (ownLookups after.lookups r) := by
  have kept := run_invariant (motive := fun state : Forwarder.State text =>
      Transcribed handler state ∧ ∀ r h, state.requests.handlings[r]? = some h →
        Policed handler h (ownLookups state.lookups r))
    (fun action before next kept _ taken =>
      ⟨transcribed_step action before next kept.1 taken,
        policed_step action before next kept.1 kept.2 taken⟩)
    run ⟨transcribed_new metrics, fun _ _ impossible => nomatch impossible⟩
  exact kept.2 r h present

/-- Without the dashboard nothing is written down of any request. -/
theorem reachable_unlogged (off : handler.queryLog = false) (metrics : Counters.Metrics)
    (actions : List Action) (after : Forwarder.State text)
    (run : Run (Forwarder.step config handler) anyAction (.new text config metrics) actions
      after) : after.requests.log = [] := by
  refine run_invariant (motive := fun state : Forwarder.State text => state.requests.log = [])
    (fun action before next kept _ taken => ?_) run rfl
  cases step_moved action before next taken with
  | pooled inside moved => exact kept
  | arrived request => exact kept
  | asked present wanted turn called => exact kept
  | @advanced id h answers event progress present complete answered heard following =>
      have silent : progress.logged = none := by
        cases RequestRuns.next_moved h event progress following with
        | finished response due placed =>
            cases due with
            | none => rfl
            | some entry =>
                simp [RequestRuns.Handling.finish, Dns64Handler.log, off]
        | _ => rfl
      simp only [RequestRuns.State.progressed, silent, kept]
      rfl

end Policing

/-! What the configuration promises. -/
section Promises

/-- Networks are configured, and none covers the client. -/
def Excluded (config : Config) (client : IpAddr) : Prop :=
  config.clientNetworks ≠ [] ∧
    ∀ v6, client = .V6 v6 → ∀ entry ∈ config.clientNetworks, ¬ Covers entry v6

variable (text) in
/-- The name, or what follows a dot of it, is a given domain. -/
def Named (name : Name) (given : Text → Prop) : Prop :=
  ∃ rest ∈ walked text name :: afterDots (walked text name), given rest

variable (text) in
def Condemned (contents : List Text) (name : Name) : Prop :=
  Named text name (GivenBlock contents) ∧ ¬ Named text name (GivenAllow contents)

variable (text) in
/-- The lists that could be fetched. -/
def fetched (outside : Outside (Upstreams Client Err World)) (config : Config)
    (env : Upstreams Client Err World) : List Text :=
  contentsOf (outcomes (fetchText text outside config.nat64Prefix) config.blocklists ⟨env, []⟩)

theorem excluded_iff (config : Config) (acl : ClientAcl)
    (parsed : ClientAcl.parse config.clientNetworks = .ok acl)
    (blocklist : Option (Blocklist FetchError)) (client : IpAddr) :
    (Gates.mk blocklist (if acl.isEmpty then none else some acl)).Outside client ↔
      Excluded config client := by
  have matched := (parse_ok_iff config.clientNetworks acl).mp parsed
  have length := matched.length_eq
  unfold Gates.Outside Excluded
  by_cases empty : acl.isEmpty = true
  · have none : config.clientNetworks = [] := by
      rw [ClientAcl.isEmpty, List.isEmpty_iff] at empty
      rw [empty] at length
      exact List.length_eq_zero_iff.mp length
    simp [empty, none]
  · have some : config.clientNetworks ≠ [] := by
      intro none
      rw [none] at length
      apply empty
      rw [ClientAcl.isEmpty, List.isEmpty_iff]
      exact List.length_eq_zero_iff.mp length.symm
    rw [if_neg empty]
    have covered := any_contains_iff config.clientNetworks acl.nets matched
    simp only [Option.some.injEq, exists_eq_left', ClientAcl.allows]
    rw [ClientAcl.isEmpty] at empty
    rw [if_neg empty]
    cases client with
    | V4 v4 => simp [some]
    | V6 v6 =>
        have here := covered v6
        simp only [IpAddr.V6.injEq, forall_eq', some, ne_eq, not_false_eq_true, true_and,
          List.any_eq_false]
        constructor
        · intro denied entry listed covers
          obtain ⟨net, inside, contains⟩ := here.mpr ⟨entry, listed, covers⟩
          exact denied net inside contains
        · intro uncovered net inside contains
          obtain ⟨entry, listed, covers⟩ := here.mp ⟨net, inside, contains⟩
          exact uncovered entry listed covers

variable (text) in
theorem condemned_iff (outside : Outside (Upstreams Client Err World)) (config : Config)
    (env : Upstreams Client Err World) (clientAcl : Option ClientAcl) (name : Name) :
    (Gates.mk (loadLists text outside config env).1 clientAcl).Blocked text name ↔
      Condemned text (fetched text outside config env) name := by
  have given := loaded_given (fetchText text outside config.nat64Prefix) config.blocklists ⟨env, []⟩
  have named : [] ∉ (loadWith (fetchText text outside config.nat64Prefix) config.blocklists
      ⟨env, []⟩).1.block := by
    intro listed
    have domain := given_block_domain _ _ ((given []).1.mp listed)
    exact absurd domain.dotted List.not_mem_nil
  have met : (loadWith (fetchText text outside config.nat64Prefix) config.blocklists
      ⟨env, []⟩).1.isBlocked text name = true ↔ _ := is_blocked_iff _ name named
  simp only [(given _).1, (given _).2] at met
  unfold Gates.Blocked loadLists
  by_cases none : config.blocklists.isEmpty = true
  · have silent : ∀ domain, ¬ GivenBlock (fetched text outside config env) domain := by
      rw [fetched, List.isEmpty_iff.mp none]
      rintro domain ⟨content, listed, _⟩
      cases listed
    simp only [none, if_true, reduceCtorEq, false_and, exists_false, false_iff]
    rintro ⟨⟨rest, _, listed⟩, _⟩
    exact silent rest listed
  · simp only [none, Bool.false_eq_true, if_false, Option.some.injEq, exists_eq_left']
    exact met

variable (text) in
/-- A well formed request is refused, blocked or forwarded as the configuration and the
fetched lists say, and only one that is forwarded has the pool asked. -/
structure Enforced (config : Config) (contents : List Text) (request : Request) (query : Query)
    (lookups : List Pool.CallId) (response : Message) : Prop where
  excluded : Excluded config request.src →
    response = serveError request .Refused ∧ lookups = []
  condemned : ¬ Excluded config request.src → Condemned text contents query.name →
    response = serveError request .NXDomain ∧ lookups = []
  forwarded : ¬ Excluded config request.src → ¬ Condemned text contents query.name →
    lookups ≠ []

theorem judged_enforced (outside : Outside (Upstreams Client Err World)) (config : Config)
    (dialed : Upstreams Client Err World) (chain : Chain text) (queryLog : Bool) (acl : ClientAcl)
    (parsed : ClientAcl.parse config.clientNetworks = .ok acl) (request : Request)
    (query : Query) (formed : RequestRuns.WellFormed request)
    (asked : request.message.queries = [query]) (lookups : List Pool.CallId) (response : Message)
    (judged : Judged (Gates.handler ⟨(loadLists text outside config dialed).1,
      if acl.isEmpty then none else some acl⟩ chain queryLog) request lookups response) :
    Enforced text config (fetched text outside config dialed) request query lookups
      response := by
  have shut := excluded_iff config acl parsed (loadLists text outside config dialed).1
    request.src
  have banned := condemned_iff text outside config dialed (if acl.isEmpty then none else some acl)
    query.name
  rw [← refuses_iff _ chain queryLog request] at shut
  rw [← blocks_iff _ chain queryLog query.name] at banned
  have same : ∀ other, request.message.queries = [other] → other = query := by
    intro other also
    rw [asked] at also
    cases also
    rfl
  cases judged with
  | malformed unfit silent => exact absurd formed unfit
  | refused other also outside told silent =>
      have excluded := shut.mp outside
      exact ⟨fun _ => ⟨told, silent⟩, fun open_ => absurd excluded open_,
        fun open_ => absurd excluded open_⟩
  | blocked other also admitted listed told silent =>
      cases same other also
      have open_ : ¬ Excluded config request.src := fun excluded =>
        Bool.false_ne_true (admitted.symm.trans (shut.mpr excluded))
      exact ⟨fun excluded => absurd excluded open_, fun _ _ => ⟨told, silent⟩,
        fun _ free => absurd (banned.mp listed) free⟩
  | forwarded other passed spoken =>
      cases same other passed.asked
      have open_ : ¬ Excluded config request.src := fun excluded =>
        Bool.false_ne_true (passed.admitted.symm.trans (shut.mpr excluded))
      have free : ¬ Condemned text (fetched text outside config dialed) query.name :=
        fun condemned => Bool.false_ne_true (passed.cleared.symm.trans (banned.mpr condemned))
      exact ⟨fun excluded => absurd excluded open_, fun _ condemned => absurd condemned free,
        fun _ _ => spoken⟩

/-! A list that cannot be fetched, and a client outside `2001::/16`. -/
def sampleConfig : Config :=
  { Configuration.sampleConfig with
    blocklists := [['h']]
    clientNetworks := [['2', '0', '0', '1', ':', ':', '/', '1', '6']] }

def sampleWire : Wire Unit Unit Unit :=
  { connect := fun _ _ world => (.ok (), world), send := fun _ _ world => (none, world) }

def sampleOutside : Outside (Upstreams Unit Unit Unit) :=
  { resolve := fun _ env => (none, env), validServerName := fun _ => true
    exchange := fun _ _ _ env => (⟨false, false, false, []⟩, env) }

def sampleBefore : Upstreams Unit Unit Unit :=
  { upstreams := fun _ => .new ⟨.V6 0, 53⟩, world := ⟨(), [], 0⟩, contacted := [] }

def sampleActions : List Forwarder.Action :=
  [.arrive Conservation.sampleRequest, .advance 0, .advance 0, .advance 0]

end Promises

end Dnsix.Startup
