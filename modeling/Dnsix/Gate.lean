import Dnsix.Acl
import Dnsix.Blocking
import Dnsix.ChainContract

/-!
The gate before any lookup. A client outside the access list, or a blocked name, is
answered from the request and the configuration alone: what the pool holds and what
the upstreams would say never enters, and nothing of the pool changes.
-/

namespace Dnsix.Gate
open Acl Blocking Counters Dns Handler Panics Synth SynthChain

variable {text : NameText} {Error : Type}

/-- The handler of a configuration, with its two optional gates. -/
structure Gates (Error : Type) where
  blocklist : Option (Blocklist Error)
  clientAcl : Option ClientAcl

def Gates.handler (gates : Gates Error) (chain : Chain text) (queryLog : Bool) :
    Dns64Handler text :=
  { chain, queryLog
    blocklist := gates.blocklist.map fun bl => bl.isBlocked text
    clientAcl := gates.clientAcl.map ClientAcl.allows }

/-- The client is outside a configured access list. -/
def Gates.Outside (gates : Gates Error) (client : IpAddr) : Prop :=
  ∃ acl, gates.clientAcl = some acl ∧ acl.allows client = false

variable (text) in
def Gates.Blocked (gates : Gates Error) (name : Name) : Prop :=
  ∃ bl, gates.blocklist = some bl ∧ bl.isBlocked text name = true

/-- A query with one question. -/
structure WellFormed (request : Request) (query : Query) : Prop where
  opCode : request.message.header.opCode = .Query
  messageType : request.message.header.messageType = .Query
  single : request.message.queries = [query]

theorem refuses_iff (gates : Gates Error) (chain : Chain text) (queryLog : Bool)
    (request : Request) :
    (gates.handler chain queryLog).refuses request = true ↔ gates.Outside request.src := by
  simp [Dns64Handler.refuses, Gates.handler, Gates.Outside, Option.any_eq_true]

theorem blocks_iff (gates : Gates Error) (chain : Chain text) (queryLog : Bool) (name : Name) :
    (gates.handler chain queryLog).blocks name = true ↔ gates.Blocked text name := by
  simp [Dns64Handler.blocks, Gates.handler, Gates.Blocked, Option.any_eq_true]

/-- The verdict of the gate: the RCODE and the outcome it is recorded with. -/
structure Verdict where
  code : ResponseCode
  outcome : Outcome

def Verdict.handled (verdict : Verdict) (request : Request) (query : Query) (queryLog : Bool) :
    Handled :=
  { response := serveError request verdict.code
    logged := if queryLog then
      some
        { client := request.src, name := query.name, qtype := query.queryType
          rcode := verdict.code, cache := .Uncached, outcome := verdict.outcome }
      else none }

/-- In every world and with any lookups, a request is handled to this end: the pool is
left as it was and one RCODE is counted. -/
def Settles (handler : Dns64Handler text) (request : Request) (handled : Handled)
    (code : ResponseCode) : Prop :=
  ∀ (World : Type) (lookups : Lookups World) (env : Env World), ∃ after,
    handler.handleRequest lookups request env = .ok (handled, after) ∧
      after.world = env.world ∧ after.metrics.rcode = env.metrics.rcode.record code ∧
      after.metrics.rcode.total = env.metrics.rcode.total + 1

/-- Over a real pool: its cache, its refresh set and its map of leaders are as before. -/
theorem settles_pool (handler : Dns64Handler text) (request : Request) (handled : Handled)
    (code : ResponseCode) (settles : Settles handler request handled code)
    (lookups : Lookups Pool.State) (env : Env Pool.State) :
    ∃ after, handler.handleRequest lookups request env = .ok (handled, after) ∧
      after.world.cache = env.world.cache ∧ after.world.inFlight = env.world.inFlight ∧
      after.world.singleFlight = env.world.singleFlight := by
  rcases settles Pool.State lookups env with ⟨after, ran, same, _⟩
  exact ⟨after, ran, congrArg _ same, congrArg _ same, congrArg _ same⟩

theorem refused_settles (handler : Dns64Handler text) (request : Request) (query : Query)
    (formed : WellFormed request query) (refused : handler.refuses request = true) :
    Settles handler request
      (Verdict.handled ⟨.Refused, .Refused⟩ request query handler.queryLog) .Refused := by
  intro World lookups env
  have ran : handler.handleRequest lookups request env =
      .ok (Verdict.handled ⟨.Refused, .Refused⟩ request query handler.queryLog,
        (env.count (·.recordQtype query.queryType)).count (·.recordRcode .Refused)) := by
    simp only [Dns64Handler.handleRequest, formed.opCode, formed.messageType, formed.single,
      Dns64Handler.answer, refused]
    rfl
  exact ⟨_, ran, rfl, rfl, record_total _ _⟩

theorem blocked_settles (handler : Dns64Handler text) (request : Request) (query : Query)
    (formed : WellFormed request query) (admitted : handler.refuses request = false)
    (blocked : handler.blocks query.name = true) :
    Settles handler request
      (Verdict.handled ⟨.NXDomain, .Blocked⟩ request query handler.queryLog) .NXDomain := by
  intro World lookups env
  have ran : handler.handleRequest lookups request env =
      .ok (Verdict.handled ⟨.NXDomain, .Blocked⟩ request query handler.queryLog,
        ((env.count (·.recordQtype query.queryType)).count Metrics.incBlocked).count
          (·.recordRcode .NXDomain)) := by
    simp only [Dns64Handler.handleRequest, formed.opCode, formed.messageType, formed.single,
      Dns64Handler.answer, admitted, blocked]
    rfl
  exact ⟨_, ran, rfl, rfl, record_total _ _⟩

/-- A gated request is answered before any lookup: REFUSED outside the access list,
whatever the blocklist says, and otherwise NXDOMAIN for a blocked name, whatever the type,
the class, and the CD and DO bits of the query. -/
theorem pre_resolution_gate (gates : Gates Error) (chain : Chain text) (queryLog : Bool)
    (request : Request) (query : Query) (formed : WellFormed request query)
    (gated : gates.Outside request.src ∨ gates.Blocked text query.name) :
    ∃ handled code, Settles (gates.handler chain queryLog) request handled code ∧
      (∀ (lookups : Lookups Pool.State) (env : Env Pool.State), ∃ after,
        (gates.handler chain queryLog).handleRequest lookups request env =
          .ok (handled, after) ∧
        after.world.cache = env.world.cache ∧ after.world.inFlight = env.world.inFlight ∧
        after.world.singleFlight = env.world.singleFlight) ∧
      handled.response = serveError request code ∧
      handled.response.responseCode = code ∧ handled.response.answers = [] ∧
      (gates.Outside request.src → code = .Refused) ∧
      (¬ gates.Outside request.src → code = .NXDomain) ∧
      (queryLog = true ↔ ∃ entry, handled.logged = some entry) ∧
      ∀ entry, handled.logged = some entry →
        entry.client = request.src ∧ entry.name = query.name ∧
        entry.qtype = query.queryType ∧ entry.rcode = code := by
  have logging : ∀ verdict : Verdict,
      (queryLog = true ↔ ∃ entry, (verdict.handled request query queryLog).logged = some entry) ∧
      ∀ entry, (verdict.handled request query queryLog).logged = some entry →
        entry.client = request.src ∧ entry.name = query.name ∧
        entry.qtype = query.queryType ∧ entry.rcode = verdict.code := by
    intro verdict
    cases queryLog with
    | true =>
        refine ⟨⟨fun _ => ⟨_, rfl⟩, fun _ => rfl⟩, ?_⟩
        rintro entry ⟨⟩
        exact ⟨rfl, rfl, rfl, rfl⟩
    | false => simp [Verdict.handled]
  by_cases outside : gates.Outside request.src
  · have refused := (refuses_iff gates chain queryLog request).mpr outside
    have settles := refused_settles (gates.handler chain queryLog) request query formed refused
    exact ⟨_, .Refused, settles, settles_pool _ request _ _ settles, rfl, rfl, rfl,
      fun _ => rfl, fun inside => absurd outside inside, logging ⟨.Refused, .Refused⟩⟩
  · have admitted : (gates.handler chain queryLog).refuses request = false :=
      Bool.eq_false_iff.mpr fun refused =>
        outside ((refuses_iff gates chain queryLog request).mp refused)
    have blocked := (blocks_iff gates chain queryLog query.name).mpr
      (gated.resolve_left outside)
    have settles := blocked_settles (gates.handler chain queryLog) request query formed admitted
      blocked
    exact ⟨_, .NXDomain, settles, settles_pool _ request _ _ settles, rfl, rfl, rfl,
      fun impossible => absurd impossible outside, fun _ => rfl, logging ⟨.NXDomain, .Blocked⟩⟩

/-! Two requests for `ads.example.com`, from inside and from outside 2001:db8::/32. -/
def sampleGates : Gates Unit :=
  { blocklist := some ⟨["example.com"], [], []⟩
    clientAcl := some
      ⟨[{ base := Address.v6 0x2001 0xdb8 0 0 0 0 0 0, prefixLen := 32, bounded := by decide
          masked := by decide }]⟩ }

def adsQuestion : Query :=
  ⟨⟨[[97, 100, 115], [101, 120, 97, 109, 112, 108, 101], [99, 111, 109]], true⟩, .TXT, .IN⟩

def adsRequest (client : Ipv6Addr) : Request :=
  ⟨{ Message.new with queries := [adsQuestion] }, .V6 client⟩

theorem pre_resolution_gate_ads :
    (∃ handled, Settles (sampleGates.handler ChainContract.sampleChain true)
        (adsRequest (Address.v6 0x2001 0xdb9 0 0 0 0 0 1)) handled .Refused) ∧
      ∃ handled, Settles (sampleGates.handler ChainContract.sampleChain true)
        (adsRequest (Address.v6 0x2001 0xdb8 0 0 0 0 0 1)) handled .NXDomain := by
  have blocked : sampleGates.Blocked plainText adsQuestion.name := ⟨_, rfl, by decide⟩
  constructor
  · have outside : sampleGates.Outside (.V6 (Address.v6 0x2001 0xdb9 0 0 0 0 0 1)) :=
      ⟨_, rfl, by decide⟩
    rcases pre_resolution_gate sampleGates ChainContract.sampleChain true
      (adsRequest (Address.v6 0x2001 0xdb9 0 0 0 0 0 1)) adsQuestion ⟨rfl, rfl, rfl⟩
      (.inl outside) with ⟨handled, code, settles, _, _, _, _, refused, _⟩
    exact ⟨handled, refused outside ▸ settles⟩
  · have inside : ¬ sampleGates.Outside (.V6 (Address.v6 0x2001 0xdb8 0 0 0 0 0 1)) := by
      rintro ⟨acl, set, denied⟩
      cases set
      exact absurd denied (by decide)
    rcases pre_resolution_gate sampleGates ChainContract.sampleChain true
      (adsRequest (Address.v6 0x2001 0xdb8 0 0 0 0 0 1)) adsQuestion ⟨rfl, rfl, rfl⟩
      (.inr blocked) with ⟨handled, code, settles, _, _, _, _, _, nxdomain, _⟩
    exact ⟨handled, nxdomain inside ▸ settles⟩

end Dnsix.Gate
