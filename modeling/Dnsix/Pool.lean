import Dnsix.Broadcast
import Dnsix.CacheHistory
import Dnsix.Transition

/-!
The pool of `upstream.rs` as a transition system. Any number of calls of
`resolve_observed` and of background refreshes run interleaved; each step is one
access to shared state (the cache, the two slot maps, a broadcast channel)
together with the local work around it, and the replies of the upstreams, the
clock, evictions and aborts come from outside at any time. `Outcome` pairs an
answer with the upstream round trip it goes back to; no step reads that pairing.
-/

namespace Dnsix.Pool
open Dns ResponseCache Broadcast

/-- 1800 milliseconds. -/
def clientResponseTimeout : Nat := 1800000000

inductive CacheStatus where
  | Uncached | Miss | Hit | Stale
  deriving DecidableEq

abbrev CallId := Nat

/-- Who asked the upstream: a call itself, or the one refresh that call spawned. -/
inductive Task where
  | call (id : CallId)
  | refresh (id : CallId)
  deriving DecidableEq

/-- An upstream round trip: who made it, the message sent upstream, and how many
round trips had ended before it. -/
structure Fetch where
  task : Task
  query : Message
  place : Nat
  deriving DecidableEq

structure Outcome where
  answer : Option Message
  fetch : Fetch
  deriving DecidableEq

/-- `encodes` stands for the encoder that turns a rebuilt message into a response. -/
structure Config where
  cacheSize : Nat
  serveStale : Bool
  encodes : Message → Bool

def Config.staleWindow (config : Config) : Nat :=
  if config.serveStale then staleMaxWindow else 0

def cacheableQuestion (query : Message) : Option Query :=
  if query.dnssecOk then none
  else
    match query.queries with
    | [question] => some question
    | _ => none

/-- The key of a query: none when there is no cache or the query is not cacheable. -/
def Config.key (config : Config) (query : Message) : Option Query :=
  if 0 < config.cacheSize then cacheableQuestion query else none

/-- The store block of `resolve_and_cache`. -/
def storeResponse {Tag : Type} (cache : StaleCache Tag) (question : Query) (resp : Message)
    (now : Nat) (tag : Tag) : StaleCache Tag :=
  let rcode := resp.responseCode
  -- Any answer record makes the response positive, whatever was asked.
  if rcode = .NoError ∧ resp.answers ≠ [] then
    cache.insert question resp.answers now tag
  else if rcode = .NXDomain ∨ (rcode = .NoError ∧ resp.answers = []) then
    let soa := negativeSoa resp
    if soa ≠ [] then cache.insertNegative question rcode soa now tag else cache
  else cache

/-- Where a call of `resolve_observed` stands, with its live local variables. -/
inductive Phase where
  | looking (question : Query)
  | prefetching (question : Query) (hit : Outcome)
  | claiming (question : Query) (stale : Outcome)
  | racing (question : Query) (stale : Outcome) (deadline : Nat)
  | joining (question : Query)
  -- `resolve_coalesced`: the slot is taken, the upstreams are awaited.
  | leading (question : Query)
  -- Answered, with the key still in `single_flight`.
  | unslotting (question : Query) (outcome : Outcome)
  -- The key is removed, nothing is sent yet.
  | publishing (outcome : Outcome)
  -- Subscribed; `next` is the place of the value it reads.
  | following (leader : CallId) (next : Nat)
  -- Waiting for the upstreams without a slot.
  | resolving (status : CacheStatus)
  | done (outcome : Outcome) (status : CacheStatus)
  | aborted
  deriving DecidableEq

/-- `followed` remembers the leader a call subscribed to, if it became a follower. -/
structure Call where
  query : Message
  phase : Phase
  followed : Option CallId
  deriving DecidableEq

inductive RefreshPhase where
  | running
  | releasing (outcome : Outcome)
  | finished (outcome : Outcome)
  | panicked
  deriving DecidableEq

structure Refresh where
  query : Message
  question : Query
  phase : RefreshPhase
  deriving DecidableEq

structure Metrics where
  cacheHits : Nat
  cacheMisses : Nat
  negativeCacheHits : Nat
  servedStale : Nat
  prefetches : Nat
  upstreamFailed : Nat
  deriving DecidableEq

structure Reply where
  fetch : Fetch
  response : Option Message
  deriving DecidableEq

/-- `singleFlight` maps a question to the call whose channel's sender it holds;
`replies` lists every upstream round trip that has ended. -/
structure State where
  now : Nat
  cache : StaleCache Fetch
  inFlight : Query → Bool
  singleFlight : Query → Option CallId
  channels : CallId → Channel Outcome
  calls : CallId → Option Call
  refreshes : CallId → Option Refresh
  metrics : Metrics
  replies : List Reply

def State.new (config : Config) : State :=
  { now := 0
    cache := .new config.staleWindow
    inFlight := fun _ => false
    singleFlight := fun _ => none
    channels := fun _ => ⟨1, [], 0⟩
    calls := fun _ => none
    refreshes := fun _ => none
    metrics := ⟨0, 0, 0, 0, 0, 0⟩
    replies := [] }

def State.setCall (state : State) (id : CallId) (call : Call) : State :=
  { state with calls := Function.update state.calls id (some call) }

def State.setPhase (state : State) (id : CallId) (call : Call) (phase : Phase) : State :=
  state.setCall id { call with phase := phase }

def State.setRefresh (state : State) (id : CallId) (refresh : Refresh) : State :=
  { state with refreshes := Function.update state.refreshes id (some refresh) }

def State.setChannel (state : State) (id : CallId) (ch : Channel Outcome) : State :=
  { state with channels := Function.update state.channels id ch }

def State.count (state : State) (bump : Metrics → Metrics) : State :=
  { state with metrics := bump state.metrics }

def Metrics.incCacheHit (m : Metrics) : Metrics := { m with cacheHits := m.cacheHits + 1 }

def Metrics.incCacheMiss (m : Metrics) : Metrics := { m with cacheMisses := m.cacheMisses + 1 }

def Metrics.incNegative (negative : Bool) (m : Metrics) : Metrics :=
  if negative then { m with negativeCacheHits := m.negativeCacheHits + 1 } else m

def Metrics.incServedStale (m : Metrics) : Metrics := { m with servedStale := m.servedStale + 1 }

def Metrics.incPrefetch (m : Metrics) : Metrics := { m with prefetches := m.prefetches + 1 }

def Metrics.incUpstreamFailed (m : Metrics) : Metrics :=
  { m with upstreamFailed := m.upstreamFailed + 1 }

/-- The round trip `task` ends now. -/
def State.fetched (state : State) (task : Task) (query : Message) : Fetch :=
  ⟨task, query, state.replies.length⟩

/-- `resolve_and_cache` from the moment the upstreams answered: a failure is
counted, a response is offered to the cache under the query's key. -/
def resolveAndCache (config : Config) (state : State) (task : Task) (query : Message)
    (response : Option Message) : State :=
  let fetch := state.fetched task query
  { state with
    cache :=
      match response, config.key query with
      | some resp, some question => storeResponse state.cache question resp state.now fetch
      | _, _ => state.cache
    metrics :=
      match response with
      | some _ => state.metrics
      | none => state.metrics.incUpstreamFailed
    replies := state.replies ++ [⟨fetch, response⟩] }

def State.outcome (state : State) (task : Task) (query : Message) (response : Option Message) :
    Outcome :=
  ⟨response, state.fetched task query⟩

def State.claimRefresh (state : State) (question : Query) : State :=
  { state with inFlight := Function.update state.inFlight question.key true }

def tryClaimRefresh (state : State) (question : Query) : Option State :=
  if state.inFlight question.key then none else some (state.claimRefresh question)

def spawnRefresh (state : State) (id : CallId) (query : Message) (question : Query) :
    Option State :=
  (tryClaimRefresh state question).map fun claimed =>
    claimed.setRefresh id ⟨query, question, .running⟩

/-- The drop of a `RefreshGuard`. -/
def State.releaseRefresh (state : State) (question : Query) : State :=
  { state with inFlight := Function.update state.inFlight question.key false }

/-- The start of `resolve_observed`: only a query with a key consults the cache. -/
def startCall (config : Config) (state : State) (id : CallId) (query : Message) : State :=
  match config.key query with
  | some question => state.setCall id ⟨query, .looking question, none⟩
  | none => state.setCall id ⟨query, .resolving .Uncached, none⟩

def lookupStep (config : Config) (state : State) (id : CallId) (call : Call)
    (question : Query) : State :=
  match state.cache.get question state.now with
  | some (.fresh response prefetch, fetch) =>
      match buildCachedResponse config.encodes question response with
      | some resp =>
          let counted := (state.count Metrics.incCacheHit).count
            (Metrics.incNegative response.negative)
          if prefetch then counted.setPhase id call (.prefetching question ⟨some resp, fetch⟩)
          else counted.setPhase id call (.done ⟨some resp, fetch⟩ .Hit)
      -- A message that cannot be encoded counts as neither a hit nor a miss.
      | none => state.setPhase id call (.joining question)
  | some (.stale response, fetch) =>
      match buildCachedResponse config.encodes question response with
      | some resp =>
          (state.count (Metrics.incNegative response.negative)).setPhase id call
            (.claiming question ⟨some resp, fetch⟩)
      | none => state.setPhase id call (.joining question)
  | none => (state.count Metrics.incCacheMiss).setPhase id call (.joining question)

/-- A fresh hit near its end starts a refresh unless one is running. -/
def prefetchStep (state : State) (id : CallId) (call : Call) (question : Query)
    (hit : Outcome) : State :=
  match spawnRefresh state id call.query question with
  | some spawned => (spawned.count Metrics.incPrefetch).setPhase id call (.done hit .Hit)
  | none => state.setPhase id call (.done hit .Hit)

def servingStale (state : State) (id : CallId) (call : Call) (stale : Outcome) : State :=
  (state.count Metrics.incServedStale).setPhase id call (.done stale .Stale)

/-- The start of `serve_stale`. -/
def claimStep (state : State) (id : CallId) (call : Call) (question : Query)
    (stale : Outcome) : State :=
  match spawnRefresh state id call.query question with
  | some spawned =>
      spawned.setPhase id call (.racing question stale (state.now + clientResponseTimeout))
  | none => servingStale state id call stale

/-- The refresh this call waits for has ended before the timer. -/
def raceStep (state : State) (id : CallId) (call : Call) (stale : Outcome) : Option State :=
  match (state.refreshes id).map Refresh.phase with
  | some (.finished outcome) =>
      match outcome.answer with
      | some _ => some (state.setPhase id call (.done outcome .Stale))
      | none => some (servingStale state id call stale)
  -- The join handle reports the panic as an error.
  | some .panicked => some (servingStale state id call stale)
  | _ => none

/-- The map lookup of `resolve_coalesced`, under its lock: follow the leader in
the slot, or take the slot and lead. -/
def joinStep (state : State) (id : CallId) (call : Call) (question : Query) : State :=
  match state.singleFlight question.key with
  | some leader =>
      state.setCall id
        { call with
          phase := .following leader (state.channels leader).subscribe
          followed := some leader }
  | none =>
      -- One sender stays with the leader, its clone goes into the map.
      let tx : Channel Outcome := channel 1
      ({ state with
          singleFlight := Function.update state.singleFlight question.key (some id) }.setChannel id
        tx.cloneSender).setPhase id call (.leading question)

/-- The removal of a key drops the sender clone that was stored under it. -/
def unslotStep (state : State) (id : CallId) (call : Call) (question : Query)
    (outcome : Outcome) : State :=
  ({ state with
    singleFlight := Function.update state.singleFlight question.key none
    channels :=
      match state.singleFlight question.key with
      | some held => Function.update state.channels held (state.channels held).dropSender
      | none => state.channels }).setPhase id call (.publishing outcome)

/-- The leader broadcasts, drops its sender and returns. -/
def publishStep (state : State) (id : CallId) (call : Call) (outcome : Outcome) : State :=
  (state.setChannel id ((state.channels id).send outcome).dropSender).setPhase id call
    (.done outcome .Miss)

def recvStep (state : State) (id : CallId) (call : Call) (leader : CallId) (next : Nat) :
    Option State :=
  match (state.channels leader).recv next with
  | .value outcome => some (state.setPhase id call (.done outcome .Miss))
  | .lagged => some (state.setPhase id call (.resolving .Miss))
  -- The fallback of the follower: a resolution of its own.
  | .closed => some (state.setPhase id call (.resolving .Miss))
  | .pending => none

/-- A call's next step, where it needs nothing from outside. -/
def advance (config : Config) (state : State) (id : CallId) (call : Call) : Option State :=
  match call.phase with
  | .looking question => some (lookupStep config state id call question)
  | .prefetching question hit => some (prefetchStep state id call question hit)
  | .claiming question stale => some (claimStep state id call question stale)
  | .racing _ stale _ => raceStep state id call stale
  | .joining question => some (joinStep state id call question)
  | .unslotting question outcome => some (unslotStep state id call question outcome)
  | .publishing outcome => some (publishStep state id call outcome)
  | .following leader next => recvStep state id call leader next
  | _ => none

/-- The upstreams answer a call that is waiting in `resolve_and_cache`. -/
def replyCall (config : Config) (state : State) (id : CallId) (call : Call)
    (response : Option Message) : Option State :=
  let outcome := state.outcome (.call id) call.query response
  let stored := resolveAndCache config state (.call id) call.query response
  match call.phase with
  | .leading question => some (stored.setPhase id call (.unslotting question outcome))
  | .resolving status => some (stored.setPhase id call (.done outcome status))
  | _ => none

/-- The client-response timer fires; the refresh is looked at first, so it must
still be unfinished. -/
def timerStep (state : State) (id : CallId) (call : Call) : Option State :=
  match call.phase, (state.refreshes id).map Refresh.phase with
  | .racing _ stale deadline, some .running | .racing _ stale deadline, some (.releasing _) =>
      if deadline ≤ state.now then some (servingStale state id call stale) else none
  | _, _ => none

/-- A call is cancelled or panics at an await. A leader's own sender is dropped
with it; the clone in the slot map is not. -/
def abortStep (state : State) (id : CallId) (call : Call) : Option State :=
  match call.phase with
  | .leading _ =>
      some ((state.setChannel id (state.channels id).dropSender).setPhase id call .aborted)
  -- No other await holds anything another call could see.
  | .racing _ _ _ | .following _ _ | .resolving _ => some (state.setPhase id call .aborted)
  | _ => none

def replyRefresh (config : Config) (state : State) (id : CallId) (refresh : Refresh)
    (response : Option Message) : Option State :=
  match refresh.phase with
  | .running =>
      some ((resolveAndCache config state (.refresh id) refresh.query response).setRefresh id
        { refresh with
          phase := .releasing (state.outcome (.refresh id) refresh.query response) })
  | _ => none

/-- The refresh drops its guard and hands its result to the join handle. -/
def finishRefresh (state : State) (id : CallId) (refresh : Refresh) : Option State :=
  match refresh.phase with
  | .releasing outcome =>
      some ((state.releaseRefresh refresh.question).setRefresh id
        { refresh with phase := .finished outcome })
  | _ => none

def panicRefresh (state : State) (id : CallId) (refresh : Refresh) : Option State :=
  match refresh.phase with
  | .running =>
      some ((state.releaseRefresh refresh.question).setRefresh id
        { refresh with phase := .panicked })
  | _ => none

inductive Action where
  | tick (elapsed : Nat)
  | evict (question : Query)
  | call (id : CallId) (query : Message)
  | advance (id : CallId)
  | reply (id : CallId) (response : Option Message)
  | timer (id : CallId)
  | abort (id : CallId)
  | replyRefresh (id : CallId) (response : Option Message)
  | finishRefresh (id : CallId)
  | panicRefresh (id : CallId)
  deriving DecidableEq

def step (config : Config) : Action → State → Option State
  | .tick elapsed, state => some { state with now := state.now + elapsed }
  | .evict question, state => some { state with cache := state.cache.evict question }
  | .call id query, state =>
      match state.calls id with
      | none => some (startCall config state id query)
      | some _ => none
  | .advance id, state => (state.calls id).bind (Pool.advance config state id)
  | .reply id response, state =>
      (state.calls id).bind fun call => replyCall config state id call response
  | .timer id, state => (state.calls id).bind (timerStep state id)
  | .abort id, state => (state.calls id).bind (abortStep state id)
  | .replyRefresh id response, state =>
      (state.refreshes id).bind fun refresh => Pool.replyRefresh config state id refresh response
  | .finishRefresh id, state => (state.refreshes id).bind (Pool.finishRefresh state id)
  | .panicRefresh id, state => (state.refreshes id).bind (Pool.panicRefresh state id)

/-! A configuration and a query for concrete runs. -/
def sampleConfig : Config := ⟨100, true, fun _ => true⟩

def sampleName : Name := ⟨[[97], [98, 99]], true⟩

def sampleQuestion : Query := ⟨sampleName, .AAAA, .IN⟩

def sampleQuery : Message :=
  { Message.new with
    header := { Header.new with recursionDesired := true }
    queries := [sampleQuestion] }

def sampleReply (ttl : Nat) : Message :=
  { Message.new with
    header := { Header.new with messageType := .Response, recursionAvailable := true }
    queries := [sampleQuestion]
    answers := [.fromRdata sampleName ttl (.AAAA 1)] }

end Dnsix.Pool
