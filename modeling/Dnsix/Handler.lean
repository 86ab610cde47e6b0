import Dnsix.Pool
import Dnsix.SynthChain

/-!
The request handler: the gates before any lookup, the decision between relaying
and synthesizing, and the responses it builds. The pool is seen through what its
lookups return; the allowlist and the blocklist are predicates here. Sending the
response and the latency of a request are left out.
-/

namespace Dnsix.Handler
open Counters Dns Panics Synth SynthChain
open Pool (CacheStatus)

variable {text : NameText} {World : Type}

inductive IpAddr where
  | V4 (addr : Ipv4Addr)
  | V6 (addr : Ipv6Addr)
  deriving DecidableEq

structure SocketAddr where
  ip : IpAddr
  port : Nat
  deriving DecidableEq

structure Request where
  message : Message
  src : IpAddr
  deriving DecidableEq

inductive Outcome where
  | NativeAaaa | Nxdomain
  | Synthesized (id : String)
  | EmptyNodata | Passthrough | Blocked | Refused | ServFail
  deriving DecidableEq

structure Observation where
  rcode : ResponseCode
  cache : CacheStatus
  outcome : Outcome
  deriving DecidableEq

/-- One Query-log entry, without its time and latency. -/
structure LogRecord where
  client : IpAddr
  name : Name
  qtype : RecordType
  rcode : ResponseCode
  cache : CacheStatus
  outcome : Outcome
  deriving DecidableEq

/-- The pool as the handler uses it: one observed lookup, two lookups joined (an
observed one and a plain one), and the chain's reference lookups. -/
structure Lookups (World : Type) where
  resolveObserved : Message → World → (Option Message × CacheStatus) × World
  join : Message → Message → World → ((Option Message × CacheStatus) × Option Message) × World
  resolve : Resolver World

variable (text) in
/-- The optional parts are absent where nothing is configured. -/
structure Dns64Handler where
  chain : Chain text
  queryLog : Bool
  blocklist : Option (Name → Bool)
  clientAcl : Option (IpAddr → Bool)

/-! Messages sent upstream and to the client. -/
section Messages

/-- The request's header turned into a response's. -/
def Header.responseFromRequest (header : Header) : Header :=
  { Header.new with
    id := header.id
    messageType := .Response
    opCode := header.opCode
    recursionDesired := header.recursionDesired
    checkingDisabled := header.checkingDisabled }

def upstreamQuery (request : Request) (query : Query) : Message :=
  { Message.new with
    header := { Header.new with
      messageType := .Query
      opCode := .Query
      recursionDesired := true
      checkingDisabled := request.message.checkingDisabled }
    queries := [query]
    edns := some
      { version := 0, maxPayload := ednsPayload, dnssecOk := request.message.dnssecOk } }

/-- An OPT record for a client that sent one, with its DO bit. -/
def responseEdns (request : Request) : Option Edns :=
  request.message.edns.map fun edns =>
    { version := 0, maxPayload := ednsPayload, dnssecOk := edns.dnssecOk }

def relay (request : Request) (resp : Message) : Message :=
  { header := { Header.responseFromRequest request.message.header with
      responseCode := resp.responseCode
      recursionAvailable := true
      authenticData := resp.header.authenticData }
    queries := request.message.queries
    answers := resp.answers
    nameServers := resp.nameServers
    additionals := resp.additionals
    edns := responseEdns request }

def sendSynthesized (request : Request) (answers : List Record) : Message :=
  { header := { Header.responseFromRequest request.message.header with
      responseCode := .NoError
      recursionAvailable := true
      authenticData := false }
    queries := request.message.queries
    answers
    nameServers := []
    additionals := []
    edns := responseEdns request }

def serveError (request : Request) (code : ResponseCode) : Message :=
  { header := { Header.responseFromRequest request.message.header with responseCode := code }
    queries := request.message.queries
    answers := []
    nameServers := []
    additionals := []
    edns := none }

def serveFail (request : Request) : Message := serveError request .ServFail

end Messages

/-! What the synthesis path reads off the upstream responses. -/
section Context

def hasNativeAaaa (aaaa : Message) : Bool :=
  aaaa.answers.any fun r => decide (r.recordType = .AAAA)

def aRecords (aRes : Option Message) : List (Ipv4Addr × Nat) :=
  match aRes with
  | some a =>
      if a.responseCode = .NoError then
        a.answers.filterMap fun r =>
          match r.data with
          | .A addr => some (addr, r.ttl)
          | _ => none
      else []
  | none => []

def cnameTargets (aaaa : Message) : List Name :=
  aaaa.answers.filterMap fun r =>
    match r.data with
    | .CNAME c => some c
    | _ => none

def soaAuthority (r : Record) : Option Authority :=
  match r.data with
  | .SOA soa => some ⟨some soa.rname, some r.name⟩
  | _ => none

def extractAuthority (resp : Message) : Authority :=
  (resp.nameServers.findSome? soaAuthority).getD .default

variable (text) in
def synthContext (query : Query) (aaaa : Message) (aRes : Option Message) : SynthContext text :=
  .new text query.name (cnameTargets aaaa) (aRecords aRes) (extractAuthority aaaa)

end Context

/-! The two query paths. -/
section Paths

/-- The end of the synthesis path, from the chain's answer on. -/
def finishNodata (request : Request) (aaaa : Message) (cache : CacheStatus)
    (answer : Option (List Record × String)) (env : Env World) :
    (Message × Observation) × Env World :=
  match answer with
  | some (records, synthId) =>
      ((sendSynthesized request records, ⟨.NoError, cache, .Synthesized synthId⟩),
        (env.count Metrics.incSynthesized).count (·.recordRcode .NoError))
  | none =>
      ((relay request aaaa, ⟨aaaa.responseCode, cache, .EmptyNodata⟩),
        (env.count Metrics.incEmpty).count (·.recordRcode aaaa.responseCode))

/-- `handle_dns64` once both lookups have returned. -/
def Dns64Handler.decideDns64 (handler : Dns64Handler text) (lookups : Lookups World)
    (request : Request) (query : Query) (aaaaRes : Option Message) (cache : CacheStatus)
    (aRes : Option Message) (env : Env World) : Checked ((Message × Observation) × Env World) :=
  match aaaaRes with
  | none =>
      .ok ((serveFail request, ⟨.ServFail, cache, .ServFail⟩),
        env.count (·.recordRcode .ServFail))
  | some aaaa =>
      -- Looked at before the RCODE, so any response with an AAAA record is native.
      if hasNativeAaaa aaaa then
        .ok ((relay request aaaa, ⟨aaaa.responseCode, cache, .NativeAaaa⟩),
          (env.count Metrics.incNativeAaaa).count (·.recordRcode aaaa.responseCode))
      else if aaaa.responseCode = .NXDomain then
        .ok ((relay request aaaa, ⟨.NXDomain, cache, .Nxdomain⟩),
          (env.count Metrics.incNxdomain64).count (·.recordRcode .NXDomain))
      else if aaaa.responseCode ≠ .NoError then
        .ok ((relay request aaaa, ⟨aaaa.responseCode, cache, .Passthrough⟩),
          env.count (·.recordRcode aaaa.responseCode))
      else do
        let ctx := synthContext text query aaaa aRes
        let (answer, after) ← handler.chain.synthesize lookups.resolve ctx
          (env.count Metrics.incNodata)
        .ok (finishNodata request aaaa cache answer after)

def Dns64Handler.handleDns64 (handler : Dns64Handler text) (lookups : Lookups World)
    (request : Request) (query : Query) (env : Env World) :
    Checked ((Message × Observation) × Env World) :=
  -- Both lookups are made together, whether the A response will be used or not.
  let aaaaQ := upstreamQuery request query
  let aQ := upstreamQuery request { name := query.name, queryType := .A, queryClass := .IN }
  let (((aaaaRes, cache), aRes), world) := lookups.join aaaaQ aQ env.world
  handler.decideDns64 lookups request query aaaaRes cache aRes { env with world }

def passthrough (lookups : Lookups World) (request : Request) (query : Query)
    (env : Env World) : (Message × Observation) × Env World :=
  let ((resp, cache), world) := lookups.resolveObserved (upstreamQuery request query) env.world
  let env : Env World := { env with world }
  match resp with
  | some resp =>
      ((relay request resp, ⟨resp.responseCode, cache, .Passthrough⟩),
        env.count (·.recordRcode resp.responseCode))
  | none =>
      ((serveFail request, ⟨.ServFail, cache, .Passthrough⟩),
        env.count (·.recordRcode .ServFail))

end Paths

/-! The request. -/
section Requests

/-- The response built for the client, and the Query-log entry if one is made. -/
structure Handled where
  response : Message
  logged : Option LogRecord
  deriving DecidableEq

def Dns64Handler.refuses (handler : Dns64Handler text) (request : Request) : Bool :=
  handler.clientAcl.any fun allows => !allows request.src

def Dns64Handler.blocks (handler : Dns64Handler text) (name : Name) : Bool :=
  handler.blocklist.any fun isBlocked => isBlocked name

def isDns64 (request : Request) (query : Query) : Bool :=
  decide (query.queryType = .AAAA) && decide (query.queryClass = .IN) &&
    !request.message.checkingDisabled

/-- The gates, in their order, and then one of the two paths. -/
def Dns64Handler.answer (handler : Dns64Handler text) (lookups : Lookups World)
    (request : Request) (query : Query) (env : Env World) :
    Checked ((Message × Observation) × Env World) :=
  -- The access list comes first, then the blocklist.
  if handler.refuses request then
    .ok ((serveError request .Refused, ⟨.Refused, .Uncached, .Refused⟩),
      env.count (·.recordRcode .Refused))
  else if handler.blocks query.name then
    .ok ((serveError request .NXDomain, ⟨.NXDomain, .Uncached, .Blocked⟩),
      (env.count Metrics.incBlocked).count (·.recordRcode .NXDomain))
  else if isDns64 request query then
    handler.handleDns64 lookups request query (env.count Metrics.incQueriesDns64)
  else .ok (passthrough lookups request query (env.count Metrics.incQueriesPassthrough))

def Dns64Handler.log (handler : Dns64Handler text) (request : Request) (query : Query)
    (obs : Observation) : Option LogRecord :=
  if handler.queryLog then
    some
      { client := request.src, name := query.name, qtype := query.queryType, rcode := obs.rcode
        cache := obs.cache, outcome := obs.outcome }
  else none

def Dns64Handler.handleRequest (handler : Dns64Handler text) (lookups : Lookups World)
    (request : Request) (env : Env World) : Checked (Handled × Env World) :=
  if request.message.header.opCode ≠ .Query ∨ request.message.header.messageType ≠ .Query then
    .ok (⟨serveError request .NotImp, none⟩, env.count (·.recordRcode .NotImp))
  else
    match request.message.queries with
    | [query] => do
        let ((response, obs), after) ← handler.answer lookups request query
          (env.count (·.recordQtype query.queryType))
        .ok (⟨response, handler.log request query obs⟩, after)
    | _ => .ok (⟨serveError request .FormErr, none⟩, env.count (·.recordRcode .FormErr))

end Requests

/-! Responses for concrete runs: one A record, and an empty answer. -/
def sampleAddress (ttl : Nat) (ip : Ipv4Addr) : Message :=
  { Message.new with
    header := { Header.new with messageType := .Response, recursionAvailable := true }
    answers := [.fromRdata Pool.sampleName ttl (.A ip)] }

def sampleNodata : Message :=
  { Message.new with
    header := { Header.new with messageType := .Response, recursionAvailable := true }
    queries := [Pool.sampleQuestion] }

/-- A pool in which every reference has one address, with a TTL of 300. -/
def referencePool : Resolver Unit := fun _ world =>
  (some { sampleNodata with
    answers := [.fromRdata Pool.sampleName 300
      (.AAAA (Address.v6 0x2a04 0x4e42 0 0 0 0 0 0))] }, world)

end Dnsix.Handler
