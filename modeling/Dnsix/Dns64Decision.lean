import Dnsix.ChainContract
import Dnsix.Handler

/-!
What decides the answer to a DNS64 request. The AAAA response alone decides
whether anything may be synthesized; the A response, the chain and the state of
the pool only matter once it is NoError without an AAAA record.
-/

namespace Dnsix.Dns64Decision
open Address Cdn ChainContract Counters Dns Handler Panics Synth SynthChain
open Pool (CacheStatus)

variable {text : NameText} {World : Type}

/-- A standard IN AAAA request with CD clear and one question, from an allowed
client and for a name that is not blocked. -/
structure Admitted (handler : Dns64Handler text) (request : Request) (query : Query) :
    Prop where
  opCode : request.message.header.opCode = .Query
  messageType : request.message.header.messageType = .Query
  single : request.message.queries = [query]
  queryType : query.queryType = .AAAA
  queryClass : query.queryClass = .IN
  checking : request.message.checkingDisabled = false
  allowed : handler.refuses request = false
  unblocked : handler.blocks query.name = false

variable (text World) in
/-- Everything but the request: the handler, its lookups and their state. -/
structure Scene where
  handler : Dns64Handler text
  lookups : Lookups World
  env : Env World

namespace Scene

def run (scene : Scene text World) (request : Request) : Checked (Handled × Env World) :=
  scene.handler.handleRequest scene.lookups request scene.env

/-- Both lookups of the DNS64 path, with the pool they leave. -/
def joined (scene : Scene text World) (request : Request) (query : Query) :
    ((Option Message × CacheStatus) × Option Message) × World :=
  scene.lookups.join (upstreamQuery request query)
    (upstreamQuery request { name := query.name, queryType := .A, queryClass := .IN })
    scene.env.world

def aaaaRes (scene : Scene text World) (request : Request) (query : Query) : Option Message :=
  (scene.joined request query).1.1.1

def aRes (scene : Scene text World) (request : Request) (query : Query) : Option Message :=
  (scene.joined request query).1.2

/-- The counters when the lookups have returned. -/
def waited (scene : Scene text World) (request : Request) (query : Query) : Env World :=
  { world := (scene.joined request query).2
    metrics := (scene.env.metrics.recordQtype query.queryType).incQueriesDns64 }

/-- What the chain makes of an AAAA response without data. -/
def synthesized (scene : Scene text World) (request : Request) (query : Query)
    (aaaa : Message) : Checked (Option (List Record × String) × Env World) :=
  scene.handler.chain.synthesize scene.lookups.resolve
    (synthContext text query aaaa (scene.aRes request query))
    ((scene.waited request query).count Metrics.incNodata)

end Scene

/-- The response leaves no room for synthesis. -/
def Settled (aaaa : Message) : Prop :=
  hasNativeAaaa aaaa = true ∨ aaaa.responseCode ≠ .NoError

/-- The client gets the upstream's sections, RCODE and AD bit. -/
structure Relays (response resp : Message) : Prop where
  answers : response.answers = resp.answers
  nameServers : response.nameServers = resp.nameServers
  additionals : response.additionals = resp.additionals
  responseCode : response.responseCode = resp.responseCode
  authenticData : response.header.authenticData = resp.header.authenticData

/-- The client gets the chain's AAAA records at the queried name and nothing else. -/
structure Synthesizes (response : Message) (name : Name) (records : List Record) : Prop where
  responseCode : response.responseCode = .NoError
  authenticData : response.header.authenticData = false
  answers : response.answers = records
  owned : ∀ record ∈ records, ∃ ttl ip, record = aaaaRecord name ttl ip
  nameServers : response.nameServers = []
  additionals : response.additionals = []

theorem relay_relays (request : Request) (resp : Message) : Relays (relay request resp) resp :=
  ⟨rfl, rfl, rfl, rfl, rfl⟩

/-- Whatever the synthesizers are, the chain's records are AAAA records at the name
of its context. -/
theorem synthesize_owned (chain : Chain text) (resolve : Resolver World)
    (ctx : SynthContext text) (env after : Env World) (records : List Record) (id : String)
    (answered : chain.synthesize resolve ctx env = .ok (some (records, id), after)) :
    ∀ record ∈ records, ∃ ttl ip, record = aaaaRecord ctx.name ttl ip := by
  rcases synthesize_won chain resolve ctx env after records id answered with
    ⟨_, winner, _, world, plan, _, _, _, _, _, made, _⟩
  intro record listed
  rw [made, appended_spec] at listed
  rcases List.mem_append.mp listed with first | extra
  · rcases List.mem_map.mp first with ⟨ip, _, same⟩
    exact ⟨_, ip, same.symm⟩
  · dsimp only at extra
    split_ifs at extra
    · cases extra
    · rcases List.mem_flatMap.mp extra with ⟨nat64, _, found⟩
      rcases Option.map_eq_some_iff.mp (Option.mem_toList.mp found) with ⟨ip, _, same⟩
      exact ⟨_, _, same.symm⟩

/-- An admitted request goes through the gates to the two joined lookups. -/
theorem admitted_run (scene : Scene text World) (request : Request) (query : Query)
    (admitted : Admitted scene.handler request query) :
    scene.run request = (do
      let ((response, obs), after) ← scene.handler.decideDns64 scene.lookups request query
        (scene.aaaaRes request query) (scene.joined request query).1.1.2
        (scene.aRes request query) (scene.waited request query)
      .ok (⟨response, scene.handler.log request query obs⟩, after)) := by
  have dns64 : isDns64 request query = true := by
    simp [isDns64, admitted.queryType, admitted.queryClass, admitted.checking]
  rw [Scene.run, Dns64Handler.handleRequest, admitted.single]
  simp only [admitted.opCode, admitted.messageType, ne_eq, not_true_eq_false, or_self, if_false,
    Dns64Handler.answer, admitted.allowed, admitted.unblocked, Bool.false_eq_true, dns64, if_true]
  rfl

theorem decide_failed (scene : Scene text World) (request : Request) (query : Query)
    (admitted : Admitted scene.handler request query)
    (failed : scene.aaaaRes request query = none) :
    ∃ handled after, scene.run request = .ok (handled, after) ∧
      handled.response = serveFail request := by
  rw [admitted_run scene request query admitted, failed]
  exact ⟨_, _, rfl, rfl⟩

/-- A settled response is relayed before the A response or the chain is looked at. -/
theorem decide_settled (scene : Scene text World) (request : Request) (query : Query)
    (admitted : Admitted scene.handler request query) (aaaa : Message)
    (answered : scene.aaaaRes request query = some aaaa) (settled : Settled aaaa) :
    ∃ handled after, scene.run request = .ok (handled, after) ∧
      handled.response = relay request aaaa := by
  rw [admitted_run scene request query admitted, answered]
  unfold Dns64Handler.decideDns64
  -- Three relays that differ only in what they report.
  by_cases native : hasNativeAaaa aaaa = true
  · simp only [native, if_true]
    exact ⟨_, _, rfl, rfl⟩
  by_cases missing : aaaa.responseCode = .NXDomain
  · simp only [native, missing, if_true]
    exact ⟨_, _, rfl, rfl⟩
  · have error : aaaa.responseCode ≠ .NoError := settled.resolve_left native
    simp only [native, missing, error, ne_eq, not_false_eq_true, if_true]
    exact ⟨_, _, rfl, rfl⟩

theorem decide_nodata (scene : Scene text World) (request : Request) (query : Query)
    (admitted : Admitted scene.handler request query) (aaaa : Message)
    (answered : scene.aaaaRes request query = some aaaa) (pending : ¬Settled aaaa)
    (answer : Option (List Record × String)) (after : Env World)
    (chained : scene.synthesized request query aaaa = .ok (answer, after)) :
    ∃ handled last, scene.run request = .ok (handled, last) ∧
      handled.response = match answer with
        | some (records, _) => sendSynthesized request records
        | none => relay request aaaa := by
  have native : hasNativeAaaa aaaa = false := by
    rw [← Bool.not_eq_true]
    exact fun present => pending (.inl present)
  have fine : aaaa.responseCode = .NoError := not_not.mp fun error => pending (.inr error)
  rw [Scene.synthesized] at chained
  rw [admitted_run scene request query admitted, answered]
  simp only [Dns64Handler.decideDns64, native, Bool.false_eq_true, if_false, fine,
    reduceCtorEq, ne_eq, not_true_eq_false, chained]
  cases answer with
  | none => exact ⟨_, _, rfl, rfl⟩
  | some pair => exact ⟨_, _, rfl, rfl⟩

/-- The response, by the AAAA result alone: SERVFAIL without one, the upstream's
own answer for a settled one, and otherwise the chain's records or, when it has
none, the upstream's answer. The last part is over two runs: handler, A result,
chain, pool and counters may all differ, a settled response does not. -/
theorem dns64_decision (scene : Scene text World) (request : Request) (query : Query)
    (settings : Settings) (admitted : Admitted scene.handler request query)
    (accepted : settings.build = .ok scene.handler.chain) (accepts : AcceptsConstants text) :
    ∃ handled after, scene.run request = .ok (handled, after) ∧
      (scene.aaaaRes request query = none →
        handled.response.responseCode = .ServFail ∧ handled.response.answers = []) ∧
      (∀ aaaa, scene.aaaaRes request query = some aaaa → Settled aaaa →
        Relays handled.response aaaa) ∧
      (∀ aaaa, scene.aaaaRes request query = some aaaa → ¬Settled aaaa →
        ∃ answer last, scene.synthesized request query aaaa = .ok (answer, last) ∧
          match answer with
          | some (records, _) => Synthesizes handled.response query.name records
          | none => Relays handled.response aaaa) ∧
      (∀ aaaa, scene.aaaaRes request query = some aaaa → aaaa.responseCode ≠ .NoError →
        handled.response.responseCode ≠ .NoError) ∧
      ∀ {Other : Type} (other : Scene text Other), Admitted other.handler request query →
        other.aaaaRes request query = scene.aaaaRes request query →
        (∀ aaaa, scene.aaaaRes request query = some aaaa → Settled aaaa) →
        ∃ handled' after', other.run request = .ok (handled', after') ∧
          handled'.response = handled.response := by
  -- By the AAAA result alone: none, settled, or a NODATA left to the chain.
  cases result : scene.aaaaRes request query with
  | none =>
      rcases decide_failed scene request query admitted result with
        ⟨handled, after, ran, response⟩
      refine ⟨handled, after, ran, ?_, ?_, ?_, ?_, ?_⟩
      · intro _
        rw [response]
        exact ⟨rfl, rfl⟩
      · intro aaaa impossible
        cases impossible
      · intro aaaa impossible
        cases impossible
      · intro aaaa impossible
        cases impossible
      · intro Other other elsewhere same _
        rcases decide_failed other request query elsewhere same with
          ⟨handled', after', ran', response'⟩
        exact ⟨handled', after', ran', response'.trans response.symm⟩
  | some aaaa =>
      by_cases settled : Settled aaaa
      · rcases decide_settled scene request query admitted aaaa result settled with
          ⟨handled, after, ran, response⟩
        have relays : Relays handled.response aaaa := by
          rw [response]
          exact relay_relays request aaaa
        refine ⟨handled, after, ran, ?_, ?_, ?_, ?_, ?_⟩
        · intro impossible
          cases impossible
        · rintro _ ⟨⟩ _
          exact relays
        · rintro _ ⟨⟩ pending
          exact absurd settled pending
        · rintro _ ⟨⟩ error
          rw [relays.responseCode]
          exact error
        · intro Other other elsewhere same _
          rcases decide_settled other request query elsewhere aaaa same settled with
            ⟨handled', after', ran', response'⟩
          exact ⟨handled', after', ran', response'.trans response.symm⟩
      · rcases built_completes _ _ _ _ _ (build_built _ _ _ _ _ accepted) accepts
            scene.lookups.resolve (synthContext text query aaaa (scene.aRes request query))
            ((scene.waited request query).count Metrics.incNodata) with
          ⟨⟨answer, last⟩, chained, _⟩
        rcases decide_nodata scene request query admitted aaaa result settled answer last
          chained with ⟨handled, after, ran, response⟩
        refine ⟨handled, after, ran, ?_, ?_, ?_, ?_, ?_⟩
        · intro impossible
          cases impossible
        · rintro _ ⟨⟩ impossible
          exact absurd impossible settled
        · rintro _ ⟨⟩ _
          refine ⟨answer, last, chained, ?_⟩
          cases answer with
          | none =>
              dsimp only at response ⊢
              rw [response]
              exact relay_relays request aaaa
          | some pair =>
              have owned := synthesize_owned _ _ _ _ _ pair.1 pair.2 chained
              dsimp only at response ⊢
              rw [response]
              exact ⟨rfl, rfl, rfl, owned, rfl, rfl⟩
        · rintro _ ⟨⟩ error
          exact absurd (.inr error) settled
        · intro Other other _ _ all
          exact absurd (all aaaa rfl) settled

/-! A handler without gates over the two-element chain, and lookups that return the
given results. -/
def sampleLookups (aaaaRes aRes : Option Message) : Lookups Unit :=
  { resolveObserved := fun _ world => ((aaaaRes, .Miss), world)
    join := fun _ _ world => (((aaaaRes, .Miss), aRes), world)
    resolve := silentPool }

def sampleScene (aaaaRes aRes : Option Message) : Scene plainText Unit :=
  { handler := { chain := sampleChain, queryLog := true, blocklist := none, clientAcl := none }
    lookups := sampleLookups aaaaRes aRes
    env := sampleEnv }

def sampleRequest : Request := ⟨Pool.sampleQuery, .V6 (v6 0x2001 0xdb8 0 0 0 0 0 1)⟩

def sampleNxdomain : Message :=
  { Message.new with
    header := { Header.new with messageType := .Response, responseCode := .NXDomain }
    queries := [Pool.sampleQuestion] }

theorem dns64_decision_nxdomain :
    ∃ handled after,
      (sampleScene (some sampleNxdomain) (some (sampleAddress 300 (v4 23 227 38 10)))).run
        sampleRequest = .ok (handled, after) ∧
      handled.response.responseCode = .NXDomain := by
  have admitted : Admitted (sampleScene (some sampleNxdomain)
      (some (sampleAddress 300 (v4 23 227 38 10)))).handler sampleRequest Pool.sampleQuestion :=
    ⟨rfl, rfl, rfl, rfl, rfl, rfl, rfl, rfl⟩
  rcases dns64_decision _ sampleRequest Pool.sampleQuestion sampleSettings admitted rfl
    plain_text_accepts with ⟨handled, after, ran, _, relayed, _⟩
  have settled : Settled sampleNxdomain := .inr (by decide)
  exact ⟨handled, after, ran, (relayed sampleNxdomain rfl settled).responseCode⟩

end Dnsix.Dns64Decision
