import Dnsix.PoolFrames

/-!
Two states of the pool that differ only in some calls nobody else depends on. `hide`
drops these calls with their round trips, the counter of failures, and everywhere else
the place of a round trip in the log; every step of another call does the same before
and after hiding.
-/

namespace Dnsix.Pool
open Dns ResponseCache Broadcast Transition

attribute [ext] State

def Fetch.unplaced (fetch : Fetch) : Fetch := { fetch with place := 0 }

def Outcome.unplaced (outcome : Outcome) : Outcome :=
  { outcome with fetch := outcome.fetch.unplaced }

def Phase.unplaced : Phase → Phase
  | .prefetching question hit => .prefetching question hit.unplaced
  | .claiming question stale => .claiming question stale.unplaced
  | .racing question stale deadline => .racing question stale.unplaced deadline
  | .unslotting question outcome => .unslotting question outcome.unplaced
  | .publishing outcome => .publishing outcome.unplaced
  | .done outcome status => .done outcome.unplaced status
  | phase => phase

def Call.unplaced (call : Call) : Call := { call with phase := call.phase.unplaced }

def RefreshPhase.unplaced : RefreshPhase → RefreshPhase
  | .releasing outcome => .releasing outcome.unplaced
  | .finished outcome => .finished outcome.unplaced
  | phase => phase

def Refresh.unplaced (refresh : Refresh) : Refresh :=
  { refresh with phase := refresh.phase.unplaced }

def Reply.unplaced (reply : Reply) : Reply := { reply with fetch := reply.fetch.unplaced }

def unplacedCache (cache : StaleCache Fetch) : StaleCache Fetch :=
  { cache with cache := fun key => (cache.cache key).map fun pair => (pair.1, pair.2.unplaced) }

def unplacedChannel (ch : Channel Outcome) : Channel Outcome :=
  { ch with sent := ch.sent.map Outcome.unplaced }

def Metrics.unfailed (m : Metrics) : Metrics := { m with upstreamFailed := 0 }

/-- The round trips of the calls that are kept, and of every refresh. -/
def visibleReply (gone : CallId → Bool) (reply : Reply) : Bool :=
  match reply.fetch.task with
  | .call id => !gone id
  | .refresh _ => true

def hide (gone : CallId → Bool) (state : State) : State :=
  { state with
    cache := unplacedCache state.cache
    channels := fun id => unplacedChannel (state.channels id)
    calls := fun id => if gone id then none else (state.calls id).map Call.unplaced
    refreshes := fun id => (state.refreshes id).map Refresh.unplaced
    metrics := state.metrics.unfailed
    replies := (state.replies.filter (visibleReply gone)).map Reply.unplaced }

variable {gone : CallId → Bool}

/-! Hiding twice. -/
section Idempotent

theorem phase_unplaced_unplaced (phase : Phase) : phase.unplaced.unplaced = phase.unplaced := by
  cases phase <;> rfl

theorem call_unplaced_unplaced (call : Call) : call.unplaced.unplaced = call.unplaced :=
  congrArg (fun phase => { call with phase := phase }) (phase_unplaced_unplaced call.phase)

theorem refresh_unplaced_unplaced (refresh : Refresh) :
    refresh.unplaced.unplaced = refresh.unplaced := by
  rcases refresh with ⟨query, question, phase⟩
  cases phase <;> rfl

theorem cache_unplaced_unplaced (cache : StaleCache Fetch) :
    unplacedCache (unplacedCache cache) = unplacedCache cache := by
  refine congrArg (StaleCache.mk · _) ?_
  funext key
  exact (Option.map_map ..).trans rfl

theorem hide_hide (gone : CallId → Bool) (state : State) :
    hide gone (hide gone state) = hide gone state := by
  apply State.ext
  · rfl
  · exact cache_unplaced_unplaced state.cache
  · rfl
  · rfl
  · funext id
    refine congrArg (Channel.mk _ · _) ?_
    exact (List.map_map ..).trans rfl
  · funext id
    change (if gone id then none else
      (if gone id then none else (state.calls id).map Call.unplaced).map Call.unplaced) = _
    cases hidden : gone id with
    | true => simp [hide, hidden]
    | false =>
        simp only [hide, hidden, Bool.false_eq_true, if_false, Option.map_map]
        exact congrArg (Option.map · _) (funext call_unplaced_unplaced)
  · funext id
    exact (Option.map_map ..).trans (congrArg (Option.map · _) (funext refresh_unplaced_unplaced))
  · rfl
  · have again : ∀ replies : List Reply,
        ((replies.map Reply.unplaced).filter (visibleReply gone)).map Reply.unplaced =
          (replies.filter (visibleReply gone)).map Reply.unplaced := by
      intro replies
      rw [List.filter_map, List.map_map]
      rfl
    change (((state.replies.filter (visibleReply gone)).map Reply.unplaced).filter
      (visibleReply gone)).map Reply.unplaced = _
    rw [again, List.filter_filter]
    simp [hide]

end Idempotent

/-! The parts of a step. -/
section Parts

theorem get_unplaced (cache : StaleCache Fetch) (question : Query) (now : Nat) :
    (unplacedCache cache).get question now =
      (cache.get question now).map fun pair => (pair.1, pair.2.unplaced) := by
  unfold StaleCache.get unplacedCache
  dsimp only
  cases cache.cache question.key with
  | none => rfl
  | some pair =>
      rcases pair with ⟨entry, tag⟩
      dsimp only [Option.map_some]
      rw [Option.map_map]
      rfl

theorem store_unplaced (cache : StaleCache Fetch) (question : Query) (entry : CacheEntry)
    (tag : Fetch) : unplacedCache (cache.store question entry tag) =
      (unplacedCache cache).store question entry tag.unplaced := by
  refine congrArg (StaleCache.mk · _) ?_
  funext key
  by_cases same : key = question.key
  · subst key
    simp [StaleCache.store]
  · simp [StaleCache.store, unplacedCache, Function.update_of_ne same]

theorem store_response_unplaced (cache : StaleCache Fetch) (question : Query) (resp : Message)
    (now : Nat) (tag : Fetch) : unplacedCache (storeResponse cache question resp now tag) =
      storeResponse (unplacedCache cache) question resp now tag.unplaced := by
  have positive : unplacedCache (cache.insert question resp.answers now tag) =
      (unplacedCache cache).insert question resp.answers now tag.unplaced := by
    unfold StaleCache.insert
    dsimp only
    split
    · rfl
    · exact store_unplaced cache question _ tag
  have negative : unplacedCache (cache.insertNegative question resp.responseCode
        (negativeSoa resp) now tag) =
      (unplacedCache cache).insertNegative question resp.responseCode (negativeSoa resp) now
        tag.unplaced := by
    unfold StaleCache.insertNegative
    dsimp only
    split
    · rfl
    · exact store_unplaced cache question _ tag
  unfold storeResponse
  dsimp only
  split
  · exact positive
  split
  · split
    · exact negative
    · rfl
  · rfl

theorem evict_unplaced (cache : StaleCache Fetch) (question : Query) :
    unplacedCache (cache.evict question) = (unplacedCache cache).evict question := by
  refine congrArg (StaleCache.mk · _) ?_
  funext key
  by_cases same : key = question.key
  · subst key
    simp [StaleCache.evict]
  · simp [StaleCache.evict, unplacedCache, Function.update_of_ne same]

theorem recv_unplaced (ch : Channel Outcome) (next : Nat) :
    (unplacedChannel ch).recv next =
      match ch.recv next with
      | .value outcome => .value outcome.unplaced
      | .lagged => .lagged
      | .closed => .closed
      | .pending => .pending := by
  unfold Channel.recv unplacedChannel
  dsimp only
  rw [List.length_map, List.getElem?_map]
  split
  · rfl
  cases ch.sent[next]? with
  | some outcome => rfl
  | none =>
      by_cases closed : ch.senders = 0
      · simp [closed]
      · simp [closed]

theorem hide_set_call (state : State) (id : CallId) (call : Call) (shown : gone id = false) :
    hide gone (state.setCall id call) = (hide gone state).setCall id call.unplaced := by
  apply State.ext <;> try rfl
  funext other
  change (if gone other then none else (Function.update state.calls id (some call) other).map
    Call.unplaced) = Function.update (hide gone state).calls id (some call.unplaced) other
  by_cases same : other = id
  · subst other
    simp [shown]
  · simp [hide, Function.update_of_ne same]

theorem hide_hidden_call (state : State) (id : CallId) (call : Call) (hidden : gone id = true) :
    hide gone (state.setCall id call) = hide gone state := by
  apply State.ext <;> try rfl
  funext other
  change (if gone other then none else (Function.update state.calls id (some call) other).map
    Call.unplaced) = if gone other then none else (state.calls other).map Call.unplaced
  by_cases same : other = id
  · subst other
    rw [hidden, if_pos rfl, if_pos rfl]
  · rw [Function.update_of_ne same]

theorem hide_set_phase (state : State) (id : CallId) (call : Call) (phase : Phase)
    (shown : gone id = false) : hide gone (state.setPhase id call phase) =
      (hide gone state).setPhase id call.unplaced phase.unplaced :=
  hide_set_call state id { call with phase := phase } shown

theorem hide_set_refresh (state : State) (id : CallId) (refresh : Refresh) :
    hide gone (state.setRefresh id refresh) =
      (hide gone state).setRefresh id refresh.unplaced := by
  apply State.ext <;> try rfl
  funext other
  change (Function.update state.refreshes id (some refresh) other).map Refresh.unplaced =
    Function.update (hide gone state).refreshes id (some refresh.unplaced) other
  by_cases same : other = id
  · subst other
    simp
  · simp [hide, Function.update_of_ne same]

theorem hide_set_channel (state : State) (id : CallId) (ch : Channel Outcome) :
    hide gone (state.setChannel id ch) = (hide gone state).setChannel id (unplacedChannel ch) := by
  apply State.ext <;> try rfl
  funext other
  change unplacedChannel (Function.update state.channels id ch other) =
    Function.update (hide gone state).channels id (unplacedChannel ch) other
  by_cases same : other = id
  · subst other
    simp
  · simp [hide, Function.update_of_ne same]

theorem hide_count (state : State) (bump : Metrics → Metrics)
    (apart : ∀ m, (bump m).unfailed = bump m.unfailed) :
    hide gone (state.count bump) = (hide gone state).count bump :=
  congrArg (fun metrics => { hide gone state with metrics := metrics }) (apart state.metrics)

theorem negative_unfailed (negative : Bool) (m : Metrics) :
    (Metrics.incNegative negative m).unfailed = Metrics.incNegative negative m.unfailed := by
  cases negative <;> rfl

end Parts

/-! The steps of a call. -/
section Steps

variable (config : Config) (state : State) (id : CallId) (call : Call)

theorem hide_lookup (question : Query) (shown : gone id = false) :
    hide gone (lookupStep config state id call question) =
      lookupStep config (hide gone state) id call.unplaced question := by
  have looked : (hide gone state).cache.get question (hide gone state).now =
      (state.cache.get question state.now).map fun pair => (pair.1, pair.2.unplaced) :=
    get_unplaced state.cache question state.now
  unfold lookupStep
  rw [looked]
  cases state.cache.get question state.now with
  | none =>
      dsimp only [Option.map_none]
      rw [hide_set_phase _ _ _ _ shown, hide_count _ Metrics.incCacheMiss fun _ => rfl]
      rfl
  | some pair =>
      rcases pair with ⟨found, fetch⟩
      cases found with
      | fresh response prefetch =>
          dsimp only [Option.map_some]
          cases buildCachedResponse config.encodes question response with
          | none => exact hide_set_phase _ _ _ _ shown
          | some resp =>
              dsimp only
              cases prefetch with
              | true =>
                  rw [if_pos rfl, if_pos rfl, hide_set_phase _ _ _ _ shown,
                    hide_count _ _ (negative_unfailed _),
                    hide_count _ Metrics.incCacheHit fun _ => rfl]
                  rfl
              | false =>
                  rw [if_neg Bool.false_ne_true, if_neg Bool.false_ne_true,
                    hide_set_phase _ _ _ _ shown, hide_count _ _ (negative_unfailed _),
                    hide_count _ Metrics.incCacheHit fun _ => rfl]
                  rfl
      | stale response =>
          dsimp only [Option.map_some]
          cases buildCachedResponse config.encodes question response with
          | none => exact hide_set_phase _ _ _ _ shown
          | some resp =>
              dsimp only
              rw [hide_set_phase _ _ _ _ shown, hide_count _ _ (negative_unfailed _)]
              rfl

theorem hide_spawn (query : Message) (question : Query) :
    (spawnRefresh state id query question).map (hide gone) =
      spawnRefresh (hide gone state) id query question := by
  have held : (hide gone state).inFlight question.key = state.inFlight question.key := rfl
  unfold spawnRefresh tryClaimRefresh
  rw [held]
  split
  · rfl
  · rw [Option.map_some, Option.map_some, Option.map_some, hide_set_refresh]
    rfl

theorem hide_prefetch (question : Query) (hit : Outcome) (shown : gone id = false) :
    hide gone (prefetchStep state id call question hit) =
      prefetchStep (hide gone state) id call.unplaced question hit.unplaced := by
  unfold prefetchStep
  have spawned : (spawnRefresh state id call.query question).map (hide gone) =
      spawnRefresh (hide gone state) id call.unplaced.query question :=
    hide_spawn state id call.query question
  rw [← spawned]
  cases spawnRefresh state id call.query question with
  | none => exact hide_set_phase _ _ _ _ shown
  | some next =>
      dsimp only [Option.map_some]
      rw [hide_set_phase _ _ _ _ shown, hide_count _ Metrics.incPrefetch fun _ => rfl]
      rfl

theorem hide_serving (stale : Outcome) (shown : gone id = false) :
    hide gone (servingStale state id call stale) =
      servingStale (hide gone state) id call.unplaced stale.unplaced := by
  unfold servingStale
  rw [hide_set_phase _ _ _ _ shown, hide_count _ Metrics.incServedStale fun _ => rfl]
  rfl

theorem hide_claim (question : Query) (stale : Outcome) (shown : gone id = false) :
    hide gone (claimStep state id call question stale) =
      claimStep (hide gone state) id call.unplaced question stale.unplaced := by
  unfold claimStep
  have spawned : (spawnRefresh state id call.query question).map (hide gone) =
      spawnRefresh (hide gone state) id call.unplaced.query question :=
    hide_spawn state id call.query question
  rw [← spawned]
  cases spawnRefresh state id call.query question with
  | none => exact hide_serving state id call stale shown
  | some next => exact hide_set_phase _ _ _ _ shown

theorem hide_race (stale : Outcome) (shown : gone id = false) :
    (raceStep state id call stale).map (hide gone) =
      raceStep (hide gone state) id call.unplaced stale.unplaced := by
  have phases : ((hide gone state).refreshes id).map Refresh.phase =
      ((state.refreshes id).map Refresh.phase).map RefreshPhase.unplaced := by
    change ((state.refreshes id).map Refresh.unplaced).map Refresh.phase = _
    rw [Option.map_map, Option.map_map]
    rfl
  unfold raceStep
  rw [phases]
  cases (state.refreshes id).map Refresh.phase with
  | none => rfl
  | some phase =>
      cases phase with
      | running => rfl
      | releasing outcome => rfl
      | finished outcome =>
          rcases outcome with ⟨answer, fetch⟩
          cases answer with
          | none => exact congrArg some (hide_serving state id call stale shown)
          | some resp => exact congrArg some (hide_set_phase _ _ _ _ shown)
      | panicked => exact congrArg some (hide_serving state id call stale shown)

theorem hide_timer (shown : gone id = false) :
    (timerStep state id call).map (hide gone) = timerStep (hide gone state) id call.unplaced := by
  have phases : ((hide gone state).refreshes id).map Refresh.phase =
      ((state.refreshes id).map Refresh.phase).map RefreshPhase.unplaced := by
    change ((state.refreshes id).map Refresh.unplaced).map Refresh.phase = _
    rw [Option.map_map, Option.map_map]
    rfl
  unfold timerStep
  rw [phases]
  rcases call with ⟨query, phase, followed⟩
  cases phase with
  | racing question stale deadline =>
      have lapsed : (if deadline ≤ state.now then some (servingStale state id
            ⟨query, .racing question stale deadline, followed⟩ stale) else none).map (hide gone) =
          if deadline ≤ state.now then some (servingStale (hide gone state) id
            (Call.unplaced ⟨query, .racing question stale deadline, followed⟩) stale.unplaced)
          else none := by
        split
        · exact congrArg some (hide_serving _ _ _ _ shown)
        · rfl
      cases (state.refreshes id).map Refresh.phase with
      | none => rfl
      | some phase =>
          cases phase with
          | running => exact lapsed
          | releasing outcome => exact lapsed
          | finished outcome => rfl
          | panicked => rfl
  | _ => rfl

theorem hide_join (question : Query) (shown : gone id = false) :
    hide gone (joinStep state id call question) =
      joinStep (hide gone state) id call.unplaced question := by
  have slots : (hide gone state).singleFlight question.key = state.singleFlight question.key := rfl
  unfold joinStep
  rw [slots]
  cases state.singleFlight question.key with
  | none =>
      dsimp only
      rw [hide_set_phase _ _ _ _ shown, hide_set_channel]
      rfl
  | some leader =>
      have position : ((hide gone state).channels leader).subscribe =
          (state.channels leader).subscribe := List.length_map ..
      dsimp only
      rw [hide_set_call _ _ _ shown, position]
      rfl

theorem hide_unslot (question : Query) (outcome : Outcome) (shown : gone id = false) :
    hide gone (unslotStep state id call question outcome) =
      unslotStep (hide gone state) id call.unplaced question outcome.unplaced := by
  have slots : (hide gone state).singleFlight question.key = state.singleFlight question.key := rfl
  unfold unslotStep
  rw [hide_set_phase _ _ _ _ shown, slots]
  cases state.singleFlight question.key with
  | none => rfl
  | some held =>
      exact congrArg (fun dropped : State => { dropped with
          singleFlight := Function.update state.singleFlight question.key none }.setPhase id
        call.unplaced (.publishing outcome.unplaced))
        (hide_set_channel state held (state.channels held).dropSender)

theorem hide_publish (outcome : Outcome) (shown : gone id = false) :
    hide gone (publishStep state id call outcome) =
      publishStep (hide gone state) id call.unplaced outcome.unplaced := by
  have sent : unplacedChannel ((state.channels id).send outcome).dropSender =
      (((hide gone state).channels id).send outcome.unplaced).dropSender :=
    congrArg (Channel.mk _ · _) List.map_append
  unfold publishStep
  rw [hide_set_phase _ _ _ _ shown, hide_set_channel, sent]
  rfl

theorem hide_recv (leader : CallId) (next : Nat) (shown : gone id = false) :
    (recvStep state id call leader next).map (hide gone) =
      recvStep (hide gone state) id call.unplaced leader next := by
  have received := recv_unplaced (state.channels leader) next
  change ((hide gone state).channels leader).recv next = _ at received
  unfold recvStep
  rw [received]
  cases (state.channels leader).recv next with
  | value outcome => exact congrArg some (hide_set_phase _ _ _ _ shown)
  | lagged => exact congrArg some (hide_set_phase _ _ _ _ shown)
  | closed => exact congrArg some (hide_set_phase _ _ _ _ shown)
  | pending => rfl

theorem hide_advance (shown : gone id = false) :
    (advance config state id call).map (hide gone) =
      advance config (hide gone state) id call.unplaced := by
  rcases call with ⟨query, phase, followed⟩
  cases phase with
  | looking question => exact congrArg some (hide_lookup config state id _ question shown)
  | prefetching question hit => exact congrArg some (hide_prefetch state id _ question hit shown)
  | claiming question stale => exact congrArg some (hide_claim state id _ question stale shown)
  | racing question stale deadline => exact hide_race state id _ stale shown
  | joining question => exact congrArg some (hide_join state id _ question shown)
  | unslotting question outcome =>
      exact congrArg some (hide_unslot state id _ question outcome shown)
  | publishing outcome => exact congrArg some (hide_publish state id _ outcome shown)
  | following leader next => exact hide_recv state id _ leader next shown
  | _ => rfl

theorem hide_abort (shown : gone id = false) :
    (abortStep state id call).map (hide gone) = abortStep (hide gone state) id call.unplaced := by
  rcases call with ⟨query, phase, followed⟩
  cases phase with
  | leading question =>
      change some (hide gone ((state.setChannel id _).setPhase id _ _)) = _
      rw [hide_set_phase _ _ _ _ shown, hide_set_channel]
      rfl
  | racing question stale deadline => exact congrArg some (hide_set_phase _ _ _ _ shown)
  | following leader next => exact congrArg some (hide_set_phase _ _ _ _ shown)
  | resolving status => exact congrArg some (hide_set_phase _ _ _ _ shown)
  | _ => rfl

theorem hide_start (query : Message) (shown : gone id = false) :
    hide gone (startCall config state id query) = startCall config (hide gone state) id query := by
  unfold startCall
  cases config.key query with
  | none => exact hide_set_call _ _ _ shown
  | some question => exact hide_set_call _ _ _ shown

end Steps

/-! Round trips and refreshes. -/
section RoundTrips

variable (config : Config) (state : State)

theorem hide_resolve (task : Task) (query : Message) (response : Option Message) :
    hide gone (resolveAndCache config state task query response) =
      hide gone (resolveAndCache config (hide gone state) task query response) := by
  have twice := hide_hide gone state
  apply State.ext
  · rfl
  · cases response with
    | none => exact (cache_unplaced_unplaced state.cache).symm
    | some resp =>
        unfold resolveAndCache
        cases config.key query with
        | none => exact (cache_unplaced_unplaced state.cache).symm
        | some question =>
            have stored := store_response_unplaced state.cache question resp state.now
              (state.fetched task query)
            have again := store_response_unplaced (hide gone state).cache question resp state.now
              ((hide gone state).fetched task query)
            change _ = storeResponse (unplacedCache (unplacedCache state.cache)) _ _ _ _ at again
            rw [cache_unplaced_unplaced] at again
            exact stored.trans again.symm
  · rfl
  · rfl
  · exact (congrArg State.channels twice).symm
  · exact (congrArg State.calls twice).symm
  · exact (congrArg State.refreshes twice).symm
  · cases response with
    | none => rfl
    | some resp => rfl
  · have logged : ∀ place, ([(⟨⟨task, query, place⟩, response⟩ : Reply)].filter
          (visibleReply gone)).map Reply.unplaced =
        ([(⟨⟨task, query, 0⟩, response⟩ : Reply)].filter (visibleReply gone)).map
          Reply.unplaced := by
      intro place
      cases task with
      | call id =>
          cases hidden : gone id <;>
            simp [visibleReply, hidden, Reply.unplaced, Fetch.unplaced]
      | refresh id => rfl
    have earlier := congrArg State.replies twice
    change ((state.replies ++ [_]).filter _).map _ =
      (((hide gone state).replies ++ [_]).filter _).map _
    rw [List.filter_append, List.map_append, List.filter_append, List.map_append]
    exact congrArg₂ (· ++ ·) earlier.symm ((logged _).trans (logged _).symm)

/-- The round trip of a hidden call leaves nothing but what it stored. -/
theorem hide_hidden_resolve (id : CallId) (query : Message) (response : Option Message)
    (hidden : gone id = true)
    (cache : (resolveAndCache config state (.call id) query response).cache = state.cache) :
    hide gone (resolveAndCache config state (.call id) query response) = hide gone state := by
  apply State.ext <;> try rfl
  · exact congrArg unplacedCache cache
  · cases response with
    | none => rfl
    | some resp => rfl
  · change ((state.replies ++ [_]).filter (visibleReply gone)).map Reply.unplaced = _
    rw [List.filter_append, List.filter_cons_of_neg, List.filter_nil, List.append_nil]
    · rfl
    · simp [visibleReply, State.fetched, hidden]

theorem hide_settled (id : CallId) (call : Call) (response : Option Message) (phase other : Phase)
    (same : phase.unplaced = other.unplaced) (shown : gone id = false) :
    hide gone ((resolveAndCache config state (.call id) call.query response).setPhase id call
        phase) =
      hide gone ((resolveAndCache config (hide gone state) (.call id) call.query
        response).setPhase id call.unplaced other) := by
  rw [hide_set_phase _ _ _ _ shown, hide_set_phase _ _ _ _ shown, hide_resolve, same,
    call_unplaced_unplaced]

theorem hide_reply_call (id : CallId) (call : Call) (response : Option Message)
    (shown : gone id = false) : (replyCall config state id call response).map (hide gone) =
      (replyCall config (hide gone state) id call.unplaced response).map (hide gone) := by
  rcases call with ⟨query, phase, followed⟩
  cases phase with
  | leading question =>
      exact congrArg some (hide_settled config state id _ response _ _ rfl shown)
  | resolving status =>
      exact congrArg some (hide_settled config state id _ response _ _ rfl shown)
  | _ => rfl

theorem hide_reply_refresh (id : CallId) (refresh : Refresh) (response : Option Message) :
    (Pool.replyRefresh config state id refresh response).map (hide gone) =
      (Pool.replyRefresh config (hide gone state) id refresh.unplaced response).map
        (hide gone) := by
  rcases refresh with ⟨query, question, phase⟩
  cases phase with
  | running =>
      refine congrArg some ?_
      rw [hide_set_refresh, hide_set_refresh]
      exact congrArg (State.setRefresh · id _)
        (hide_resolve config state (.refresh id) query response)
  | _ => rfl

theorem hide_finish (id : CallId) (refresh : Refresh) :
    (Pool.finishRefresh state id refresh).map (hide gone) =
      Pool.finishRefresh (hide gone state) id refresh.unplaced := by
  rcases refresh with ⟨query, question, phase⟩
  cases phase with
  | releasing outcome => exact congrArg some (hide_set_refresh _ _ _)
  | _ => rfl

theorem hide_panic (id : CallId) (refresh : Refresh) :
    (Pool.panicRefresh state id refresh).map (hide gone) =
      Pool.panicRefresh (hide gone state) id refresh.unplaced := by
  rcases refresh with ⟨query, question, phase⟩
  cases phase with
  | running => exact congrArg some (hide_set_refresh _ _ _)
  | _ => rfl

theorem hidden_twice (result : Option State) :
    (result.map (hide gone)).map (hide gone) = result.map (hide gone) := by
  rw [Option.map_map]
  exact congrArg (Option.map · result) (funext (hide_hide gone))

/-- A step of a call that is kept, or of a refresh, does the same after hiding. -/
theorem hide_step (action : Action) (shown : ∀ id, actor action = some id → gone id = false) :
    (step config action state).map (hide gone) =
      (step config action (hide gone state)).map (hide gone) := by
  have called : ∀ id, gone id = false →
      (hide gone state).calls id = (state.calls id).map Call.unplaced := by
    intro id kept
    simp [hide, kept]
  have refreshed : ∀ id, (hide gone state).refreshes id =
      (state.refreshes id).map Refresh.unplaced := fun _ => rfl
  cases action with
  | tick elapsed =>
      have twice := hide_hide gone state
      exact congrArg (fun hidden : State => some { hidden with now := state.now + elapsed })
        twice.symm
  | evict question =>
      have cache : unplacedCache (state.cache.evict question) =
          unplacedCache ((hide gone state).cache.evict question) := by
        rw [evict_unplaced, evict_unplaced]
        exact congrArg (StaleCache.evict · question) (cache_unplaced_unplaced state.cache).symm
      exact congrArg₂ (fun (hidden : State) kept => some { hidden with cache := kept })
        (hide_hide gone state).symm cache
  | call id query =>
      have kept := shown id rfl
      simp only [step, called id kept]
      cases state.calls id with
      | none =>
          dsimp only [Option.map_none]
          rw [← hide_start config state id query kept]
          exact congrArg some (hide_hide gone _).symm
      | some call => rfl
  | advance id =>
      have kept := shown id rfl
      simp only [step, called id kept]
      cases state.calls id with
      | none => rfl
      | some call =>
          dsimp only [Option.map_some, Option.bind_some]
          rw [← hide_advance config state id call kept, hidden_twice]
  | reply id response =>
      have kept := shown id rfl
      simp only [step, called id kept]
      cases state.calls id with
      | none => rfl
      | some call => exact hide_reply_call config state id call response kept
  | timer id =>
      have kept := shown id rfl
      simp only [step, called id kept]
      cases state.calls id with
      | none => rfl
      | some call =>
          dsimp only [Option.map_some, Option.bind_some]
          rw [← hide_timer state id call kept, hidden_twice]
  | abort id =>
      have kept := shown id rfl
      simp only [step, called id kept]
      cases state.calls id with
      | none => rfl
      | some call =>
          dsimp only [Option.map_some, Option.bind_some]
          rw [← hide_abort state id call kept, hidden_twice]
  | replyRefresh id response =>
      simp only [step, refreshed id]
      cases state.refreshes id with
      | none => rfl
      | some refresh => exact hide_reply_refresh config state id refresh response
  | finishRefresh id =>
      simp only [step, refreshed id]
      cases state.refreshes id with
      | none => rfl
      | some refresh =>
          dsimp only [Option.map_some, Option.bind_some]
          rw [← hide_finish state id refresh, hidden_twice]
  | panicRefresh id =>
      simp only [step, refreshed id]
      cases state.refreshes id with
      | none => rfl
      | some refresh =>
          dsimp only [Option.map_some, Option.bind_some]
          rw [← hide_panic state id refresh, hidden_twice]

end RoundTrips

end Dnsix.Pool
