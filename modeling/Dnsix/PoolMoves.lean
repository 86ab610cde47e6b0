import Dnsix.Pool

/-!
What one step of the pool can do, said once: a constructor for each way a step
can go, with its guards and the state it leaves. The invariants of the pool are
proved by cases on this relation and never unfold `step` themselves.
-/

namespace Dnsix.Pool
open Dns ResponseCache Broadcast

inductive Moved (config : Config) (state : State) : Action → State → Prop where
  -- From outside: time passes, moka evicts, a call arrives.
  | tick (elapsed : Nat) : Moved config state (.tick elapsed)
      { state with now := state.now + elapsed }
  | evict (question : Query) : Moved config state (.evict question)
      { state with cache := state.cache.evict question }
  | started {id : CallId} {query : Message} {question : Query}
      (fresh : state.calls id = none) (keyed : config.key query = some question) :
      Moved config state (.call id query)
        (state.setCall id ⟨query, .looking question, none⟩)
  | startedUncached {id : CallId} {query : Message}
      (fresh : state.calls id = none) (unkeyed : config.key query = none) :
      Moved config state (.call id query)
        (state.setCall id ⟨query, .resolving .Uncached, none⟩)
  -- The lookup of `resolve_observed`.
  | hit {id : CallId} {call : Call} {question : Query} {response : CachedResponse}
      {prefetch : Bool} {fetch : Fetch} {resp : Message} {phase : Phase}
      (present : state.calls id = some call) (located : call.phase = .looking question)
      (found : state.cache.get question state.now = some (.fresh response prefetch, fetch))
      (built : buildCachedResponse config.encodes question response = some resp)
      (next : phase = if prefetch then .prefetching question ⟨some resp, fetch⟩
        else .done ⟨some resp, fetch⟩ .Hit) :
      Moved config state (.advance id)
        (((state.count Metrics.incCacheHit).count
          (Metrics.incNegative response.negative)).setPhase id call phase)
  | staleHit {id : CallId} {call : Call} {question : Query} {response : CachedResponse}
      {fetch : Fetch} {resp : Message}
      (present : state.calls id = some call) (located : call.phase = .looking question)
      (found : state.cache.get question state.now = some (.stale response, fetch))
      (built : buildCachedResponse config.encodes question response = some resp) :
      Moved config state (.advance id)
        ((state.count (Metrics.incNegative response.negative)).setPhase id call
          (.claiming question ⟨some resp, fetch⟩))
  | unbuilt {id : CallId} {call : Call} {question : Query} {found : CacheLookup} {fetch : Fetch}
      (present : state.calls id = some call) (located : call.phase = .looking question)
      (looked : state.cache.get question state.now = some (found, fetch))
      (refused : buildCachedResponse config.encodes question found.response = none) :
      Moved config state (.advance id) (state.setPhase id call (.joining question))
  | miss {id : CallId} {call : Call} {question : Query}
      (present : state.calls id = some call) (located : call.phase = .looking question)
      (nothing : state.cache.get question state.now = none) :
      Moved config state (.advance id)
        ((state.count Metrics.incCacheMiss).setPhase id call (.joining question))
  -- `maybe_prefetch` and `serve_stale`.
  | prefetched {id : CallId} {call : Call} {question : Query} {hit : Outcome}
      (present : state.calls id = some call) (located : call.phase = .prefetching question hit)
      (free : state.inFlight question.key = false) :
      Moved config state (.advance id)
        ((((state.claimRefresh question).setRefresh id ⟨call.query, question, .running⟩).count
          Metrics.incPrefetch).setPhase id call (.done hit .Hit))
  | prefetchTaken {id : CallId} {call : Call} {question : Query} {hit : Outcome}
      (present : state.calls id = some call) (located : call.phase = .prefetching question hit)
      (taken : state.inFlight question.key = true) :
      Moved config state (.advance id) (state.setPhase id call (.done hit .Hit))
  | claimed {id : CallId} {call : Call} {question : Query} {stale : Outcome}
      (present : state.calls id = some call) (located : call.phase = .claiming question stale)
      (free : state.inFlight question.key = false) :
      Moved config state (.advance id)
        (((state.claimRefresh question).setRefresh id
          ⟨call.query, question, .running⟩).setPhase id call
          (.racing question stale (state.now + clientResponseTimeout)))
  | claimTaken {id : CallId} {call : Call} {question : Query} {stale : Outcome}
      (present : state.calls id = some call) (located : call.phase = .claiming question stale)
      (taken : state.inFlight question.key = true) :
      Moved config state (.advance id) (servingStale state id call stale)
  | raceWon {id : CallId} {call : Call} {question : Query} {stale outcome : Outcome}
      {deadline : Nat} {refresh : Refresh} {resp : Message}
      (present : state.calls id = some call)
      (located : call.phase = .racing question stale deadline)
      (spawned : state.refreshes id = some refresh) (ended : refresh.phase = .finished outcome)
      (answered : outcome.answer = some resp) :
      Moved config state (.advance id) (state.setPhase id call (.done outcome .Stale))
  | raceLost {id : CallId} {call : Call} {question : Query} {stale : Outcome}
      {deadline : Nat} {refresh : Refresh}
      (present : state.calls id = some call)
      (located : call.phase = .racing question stale deadline)
      (spawned : state.refreshes id = some refresh)
      (ended : refresh.phase = .panicked ∨
        ∃ outcome, refresh.phase = .finished outcome ∧ outcome.answer = none) :
      Moved config state (.advance id) (servingStale state id call stale)
  | timedOut {id : CallId} {call : Call} {question : Query} {stale : Outcome}
      {deadline : Nat} {refresh : Refresh}
      (present : state.calls id = some call)
      (located : call.phase = .racing question stale deadline)
      (spawned : state.refreshes id = some refresh)
      (unfinished : refresh.phase = .running ∨ ∃ outcome, refresh.phase = .releasing outcome)
      (late : deadline ≤ state.now) :
      Moved config state (.timer id) (servingStale state id call stale)
  -- `resolve_coalesced`: join, resolve, unslot, publish, receive.
  | followed {id leader : CallId} {call : Call} {question : Query}
      (present : state.calls id = some call) (located : call.phase = .joining question)
      (slot : state.singleFlight question.key = some leader) :
      Moved config state (.advance id)
        (state.setCall id
          { call with
            phase := .following leader (state.channels leader).subscribe
            followed := some leader })
  | led {id : CallId} {call : Call} {question : Query}
      (present : state.calls id = some call) (located : call.phase = .joining question)
      (free : state.singleFlight question.key = none) :
      Moved config state (.advance id)
        (({ state with
            singleFlight := Function.update state.singleFlight question.key (some id) }.setChannel
          id ⟨1, [], 2⟩).setPhase id call (.leading question))
  | leaderReplied {id : CallId} {call : Call} {question : Query} {response : Option Message}
      (present : state.calls id = some call) (located : call.phase = .leading question) :
      Moved config state (.reply id response)
        ((resolveAndCache config state (.call id) call.query response).setPhase id call
          (.unslotting question (state.outcome (.call id) call.query response)))
  | replied {id : CallId} {call : Call} {status : CacheStatus} {response : Option Message}
      (present : state.calls id = some call) (located : call.phase = .resolving status) :
      Moved config state (.reply id response)
        ((resolveAndCache config state (.call id) call.query response).setPhase id call
          (.done (state.outcome (.call id) call.query response) status))
  | unslotted {id : CallId} {call : Call} {question : Query} {outcome : Outcome}
      (present : state.calls id = some call) (located : call.phase = .unslotting question outcome) :
      Moved config state (.advance id) (unslotStep state id call question outcome)
  | published {id : CallId} {call : Call} {outcome : Outcome}
      (present : state.calls id = some call) (located : call.phase = .publishing outcome) :
      Moved config state (.advance id) (publishStep state id call outcome)
  | received {id leader : CallId} {call : Call} {next : Nat} {outcome : Outcome}
      (present : state.calls id = some call) (located : call.phase = .following leader next)
      (value : (state.channels leader).recv next = .value outcome) :
      Moved config state (.advance id) (state.setPhase id call (.done outcome .Miss))
  | deserted {id leader : CallId} {call : Call} {next : Nat}
      (present : state.calls id = some call) (located : call.phase = .following leader next)
      (lost : (state.channels leader).recv next = .lagged ∨
        (state.channels leader).recv next = .closed) :
      Moved config state (.advance id) (state.setPhase id call (.resolving .Miss))
  -- Aborts at an await.
  | leaderAborted {id : CallId} {call : Call} {question : Query}
      (present : state.calls id = some call) (located : call.phase = .leading question) :
      Moved config state (.abort id)
        ((state.setChannel id (state.channels id).dropSender).setPhase id call .aborted)
  | aborted {id : CallId} {call : Call}
      (present : state.calls id = some call)
      (located : (∃ question stale deadline, call.phase = .racing question stale deadline) ∨
        (∃ leader next, call.phase = .following leader next) ∨
        ∃ status, call.phase = .resolving status) :
      Moved config state (.abort id) (state.setPhase id call .aborted)
  -- The spawned refresh.
  | refreshReplied {id : CallId} {refresh : Refresh} {response : Option Message}
      (present : state.refreshes id = some refresh) (located : refresh.phase = .running) :
      Moved config state (.replyRefresh id response)
        ((resolveAndCache config state (.refresh id) refresh.query response).setRefresh id
          { refresh with
            phase := .releasing (state.outcome (.refresh id) refresh.query response) })
  | refreshFinished {id : CallId} {refresh : Refresh} {outcome : Outcome}
      (present : state.refreshes id = some refresh) (located : refresh.phase = .releasing outcome) :
      Moved config state (.finishRefresh id)
        ((state.releaseRefresh refresh.question).setRefresh id
          { refresh with phase := .finished outcome })
  | refreshPanicked {id : CallId} {refresh : Refresh}
      (present : state.refreshes id = some refresh) (located : refresh.phase = .running) :
      Moved config state (.panicRefresh id)
        ((state.releaseRefresh refresh.question).setRefresh id
          { refresh with phase := .panicked })

theorem lookup_moved (config : Config) (state : State) (id : CallId) (call : Call)
    (question : Query) (present : state.calls id = some call)
    (located : call.phase = .looking question) :
    Moved config state (.advance id) (lookupStep config state id call question) := by
  cases looked : state.cache.get question state.now with
  | none =>
      simp only [lookupStep, looked]
      exact .miss present located looked
  | some pair =>
      obtain ⟨found, fetch⟩ := pair
      cases built : buildCachedResponse config.encodes question found.response with
      | none =>
          cases found <;> simp only [CacheLookup.response] at built <;>
            simp only [lookupStep, looked, built] <;>
            exact .unbuilt present located looked built
      | some resp =>
          cases found with
          | fresh response prefetch =>
              simp only [CacheLookup.response] at built
              cases prefetch <;> simp only [lookupStep, looked, built] <;>
                exact .hit present located looked built rfl
          | stale response =>
              simp only [CacheLookup.response] at built
              simp only [lookupStep, looked, built]
              exact .staleHit present located looked built

theorem race_moved (config : Config) (state after : State) (id : CallId) (call : Call)
    (question : Query) (stale : Outcome) (deadline : Nat)
    (present : state.calls id = some call) (located : call.phase = .racing question stale deadline)
    (taken : raceStep state id call stale = some after) :
    Moved config state (.advance id) after := by
  cases spawned : state.refreshes id with
  | none => simp [raceStep, spawned] at taken
  | some refresh =>
      cases ended : refresh.phase with
      | running => simp [raceStep, spawned, ended] at taken
      | releasing outcome => simp [raceStep, spawned, ended] at taken
      | finished outcome =>
          cases answered : outcome.answer with
          | none =>
              simp only [raceStep, spawned, Option.map_some, ended, answered,
                Option.some.injEq] at taken
              subst after
              exact .raceLost present located spawned (Or.inr ⟨outcome, ended, answered⟩)
          | some resp =>
              simp only [raceStep, spawned, Option.map_some, ended, answered,
                Option.some.injEq] at taken
              subst after
              exact .raceWon present located spawned ended answered
      | panicked =>
          simp only [raceStep, spawned, Option.map_some, ended, Option.some.injEq] at taken
          subst after
          exact .raceLost present located spawned (Or.inl ended)

theorem advance_moved (config : Config) (state after : State) (id : CallId) (call : Call)
    (present : state.calls id = some call)
    (taken : advance config state id call = some after) :
    Moved config state (.advance id) after := by
  cases located : call.phase with
  | looking question =>
      simp only [advance, located, Option.some.injEq] at taken
      subst after
      exact lookup_moved config state id call question present located
  | prefetching question hit =>
      simp only [advance, located, Option.some.injEq, prefetchStep] at taken
      cases held : state.inFlight question.key with
      | true =>
          simp only [spawnRefresh, tryClaimRefresh, held, if_true, Option.map_none] at taken
          subst after
          exact .prefetchTaken present located held
      | false =>
          simp only [spawnRefresh, tryClaimRefresh, held, Bool.false_eq_true, if_false,
            Option.map_some] at taken
          subst after
          exact .prefetched present located held
  | claiming question stale =>
      simp only [advance, located, Option.some.injEq, claimStep] at taken
      cases held : state.inFlight question.key with
      | true =>
          simp only [spawnRefresh, tryClaimRefresh, held, if_true, Option.map_none] at taken
          subst after
          exact .claimTaken present located held
      | false =>
          simp only [spawnRefresh, tryClaimRefresh, held, Bool.false_eq_true, if_false,
            Option.map_some] at taken
          subst after
          exact .claimed present located held
  | racing question stale deadline =>
      simp only [advance, located] at taken
      exact race_moved config state after id call question stale deadline present located taken
  | joining question =>
      simp only [advance, located, Option.some.injEq, joinStep] at taken
      cases slot : state.singleFlight question.key with
      | none =>
          simp only [slot] at taken
          subst after
          exact .led present located slot
      | some leader =>
          simp only [slot] at taken
          subst after
          exact .followed present located slot
  | unslotting question outcome =>
      simp only [advance, located, Option.some.injEq] at taken
      subst after
      exact .unslotted present located
  | publishing outcome =>
      simp only [advance, located, Option.some.injEq] at taken
      subst after
      exact .published present located
  | following leader next =>
      simp only [advance, located, recvStep] at taken
      cases received : (state.channels leader).recv next with
      | value outcome =>
          simp only [received, Option.some.injEq] at taken
          subst after
          exact .received present located received
      | lagged =>
          simp only [received, Option.some.injEq] at taken
          subst after
          exact .deserted present located (Or.inl received)
      | closed =>
          simp only [received, Option.some.injEq] at taken
          subst after
          exact .deserted present located (Or.inr received)
      | pending => simp [received] at taken
  | leading question => simp [advance, located] at taken
  | resolving status => simp [advance, located] at taken
  | done outcome status => simp [advance, located] at taken
  | aborted => simp [advance, located] at taken

/-- Everything a step can do. -/
theorem step_moved (config : Config) (action : Action) (state after : State)
    (taken : step config action state = some after) : Moved config state action after := by
  cases action with
  | tick elapsed =>
      simp only [step, Option.some.injEq] at taken
      subst after
      exact .tick elapsed
  | evict question =>
      simp only [step, Option.some.injEq] at taken
      subst after
      exact .evict question
  | call id query =>
      cases fresh : state.calls id with
      | some call => simp [step, fresh] at taken
      | none =>
          simp only [step, fresh, Option.some.injEq, startCall] at taken
          cases keyed : config.key query with
          | none =>
              simp only [keyed] at taken
              subst after
              exact .startedUncached fresh keyed
          | some question =>
              simp only [keyed] at taken
              subst after
              exact .started fresh keyed
  | advance id =>
      obtain ⟨call, present, moved⟩ := Option.bind_eq_some_iff.mp taken
      exact advance_moved config state after id call present moved
  | reply id response =>
      obtain ⟨call, present, moved⟩ := Option.bind_eq_some_iff.mp taken
      cases located : call.phase with
      | leading question =>
          simp only [replyCall, located, Option.some.injEq] at moved
          subst after
          exact .leaderReplied present located
      | resolving status =>
          simp only [replyCall, located, Option.some.injEq] at moved
          subst after
          exact .replied present located
      | _ => simp [replyCall, located] at moved
  | timer id =>
      obtain ⟨call, present, moved⟩ := Option.bind_eq_some_iff.mp taken
      simp only [timerStep] at moved
      split at moved
      · rename_i question stale deadline located running
        obtain ⟨refresh, spawned, phase⟩ := Option.map_eq_some_iff.mp running
        split at moved
        · rename_i late
          simp only [Option.some.injEq] at moved
          subst after
          exact .timedOut present located spawned (Or.inl phase) late
        · cases moved
      · rename_i question stale deadline outcome located releasing
        obtain ⟨refresh, spawned, phase⟩ := Option.map_eq_some_iff.mp releasing
        split at moved
        · rename_i late
          simp only [Option.some.injEq] at moved
          subst after
          exact .timedOut present located spawned (Or.inr ⟨outcome, phase⟩) late
        · cases moved
      · cases moved
  | abort id =>
      obtain ⟨call, present, moved⟩ := Option.bind_eq_some_iff.mp taken
      cases located : call.phase with
      | leading question =>
          simp only [abortStep, located, Option.some.injEq] at moved
          subst after
          exact .leaderAborted present located
      | racing question stale deadline =>
          simp only [abortStep, located, Option.some.injEq] at moved
          subst after
          exact .aborted present (Or.inl ⟨question, stale, deadline, located⟩)
      | following leader next =>
          simp only [abortStep, located, Option.some.injEq] at moved
          subst after
          exact .aborted present (Or.inr (Or.inl ⟨leader, next, located⟩))
      | resolving status =>
          simp only [abortStep, located, Option.some.injEq] at moved
          subst after
          exact .aborted present (Or.inr (Or.inr ⟨status, located⟩))
      | _ => simp [abortStep, located] at moved
  | replyRefresh id response =>
      obtain ⟨refresh, present, moved⟩ := Option.bind_eq_some_iff.mp taken
      cases located : refresh.phase with
      | running =>
          simp only [Pool.replyRefresh, located, Option.some.injEq] at moved
          subst after
          exact .refreshReplied present located
      | _ => simp [Pool.replyRefresh, located] at moved
  | finishRefresh id =>
      obtain ⟨refresh, present, moved⟩ := Option.bind_eq_some_iff.mp taken
      cases located : refresh.phase with
      | releasing outcome =>
          simp only [Pool.finishRefresh, located, Option.some.injEq] at moved
          subst after
          exact .refreshFinished present located
      | _ => simp [Pool.finishRefresh, located] at moved
  | panicRefresh id =>
      obtain ⟨refresh, present, moved⟩ := Option.bind_eq_some_iff.mp taken
      cases located : refresh.phase with
      | running =>
          simp only [Pool.panicRefresh, located, Option.some.injEq] at moved
          subst after
          exact .refreshPanicked present located
      | _ => simp [Pool.panicRefresh, located] at moved

end Dnsix.Pool
