import Dnsix.SlotInvariant
import Dnsix.StoreHistory

/-!
Where the answers of the pool come from. In every reachable state each cache
entry, each published value and each answer a call holds goes back to one logged
round trip, made by the call itself, by its refresh, by the leader it followed,
or by whoever filled the cache for the same question.
-/

namespace Dnsix.Provenance
open Dns LastWrite ResponseCache Broadcast Transition Pool SlotInvariant StoreHistory

/-- The outcome is the reply to a round trip of `task` for `query`. -/
structure Fetched (state : State) (task : Task) (query : Message) (outcome : Outcome) : Prop where
  logged : (⟨outcome.fetch, outcome.answer⟩ : Reply) ∈ state.replies
  task : outcome.fetch.task = task
  query : outcome.fetch.query = query

/-- The outcome was rebuilt for `question` from the entry that the reply to its
round trip, made for the same question, was stored as. -/
def FromCache (config : Config) (state : State) (question : Query) (outcome : Outcome) : Prop :=
  ∃ resp stamp ttl stored, (⟨outcome.fetch, some resp⟩ : Reply) ∈ state.replies ∧
    Storable resp ∧ config.key outcome.fetch.query = some stored ∧ stored.key = question.key ∧
    outcome.answer = some (rebuilt question ((storedEntry resp stamp).toResponse ttl))

/-- Two queries that share a cache entry and a slot. -/
def SameKey (config : Config) (query other : Message) : Prop :=
  ∃ question same, config.key query = some question ∧ config.key other = some same ∧
    question.key = same.key

def DoneSound (config : Config) (state : State) (id : CallId) (call : Call) (outcome : Outcome) :
    CacheStatus → Prop
  | .Hit => ∃ question, config.key call.query = some question ∧
      FromCache config state question outcome
  | .Stale => ∃ question, config.key call.query = some question ∧
      (FromCache config state question outcome ∨
        (Fetched state (.refresh id) call.query outcome ∧ outcome.answer ≠ none))
  | .Miss => (config.key call.query ≠ none ∧ Fetched state (.call id) call.query outcome) ∨
      ∃ leader owner, call.followed = some leader ∧ state.calls leader = some owner ∧
        SameKey config call.query owner.query ∧
        Fetched state (.call leader) owner.query outcome
  | .Uncached => config.key call.query = none ∧ Fetched state (.call id) call.query outcome

def PhaseSound (config : Config) (state : State) (id : CallId) (call : Call) : Phase → Prop
  | .looking question | .joining question | .leading question =>
      config.key call.query = some question
  | .prefetching question hit =>
      config.key call.query = some question ∧ FromCache config state question hit
  | .claiming question stale =>
      config.key call.query = some question ∧ FromCache config state question stale
  | .racing question stale _ =>
      config.key call.query = some question ∧ FromCache config state question stale ∧
        ∃ refresh, state.refreshes id = some refresh
  | .unslotting question outcome =>
      config.key call.query = some question ∧ Fetched state (.call id) call.query outcome
  | .publishing outcome =>
      config.key call.query ≠ none ∧ Fetched state (.call id) call.query outcome
  | .following leader _ => ∃ owner, state.calls leader = some owner ∧
      SameKey config call.query owner.query
  | .resolving status => (status = .Uncached ∧ config.key call.query = none) ∨
      (status = .Miss ∧ config.key call.query ≠ none)
  | .done outcome status => DoneSound config state id call outcome status
  | .aborted => True

def RefreshPhaseSound (state : State) (id : CallId) (refresh : Refresh) : RefreshPhase → Prop
  | .releasing outcome | .finished outcome => Fetched state (.refresh id) refresh.query outcome
  | _ => True

structure RefreshSound (config : Config) (state : State) (id : CallId) (refresh : Refresh) :
    Prop where
  spawner : ∃ call, state.calls id = some call ∧ call.query = refresh.query
  keyed : config.key refresh.query = some refresh.question
  phase : RefreshPhaseSound state id refresh refresh.phase

def EntrySound (config : Config) (state : State) (key : Query) (entry : CacheEntry)
    (fetch : Fetch) : Prop :=
  ∃ resp stamp question, (⟨fetch, some resp⟩ : Reply) ∈ state.replies ∧ Storable resp ∧
    entry = storedEntry resp stamp ∧ config.key fetch.query = some question ∧ question.key = key

structure Sound (config : Config) (state : State) : Prop where
  entries : ∀ key entry fetch, state.cache.cache key = some (entry, fetch) →
    EntrySound config state key entry fetch
  slots : ∀ key leader, state.singleFlight key = some leader →
    ∃ call question, state.calls leader = some call ∧
      config.key call.query = some question ∧ question.key = key
  sent : ∀ id outcome, outcome ∈ (state.channels id).sent →
    ∃ call, state.calls id = some call ∧ Fetched state (.call id) call.query outcome
  refreshes : ∀ id refresh, state.refreshes id = some refresh →
    RefreshSound config state id refresh
  calls : ∀ id call, state.calls id = some call → PhaseSound config state id call call.phase

theorem sound_new (config : Config) : Sound config (State.new config) := by
  constructor
  · intro key entry fetch held
    cases held
  · intro key leader slot
    cases slot
  · intro id outcome sent
    cases sent
  · intro id refresh present
    cases present
  · intro id call present
    cases present

/-- What never goes away: logged replies, and calls and refreshes with their
queries. -/
structure Grows (state after : State) : Prop where
  replies : ∀ reply, reply ∈ state.replies → reply ∈ after.replies
  calls : ∀ id call, state.calls id = some call →
    ∃ later, after.calls id = some later ∧ later.query = call.query
  refreshes : ∀ id refresh, state.refreshes id = some refresh →
    ∃ later, after.refreshes id = some later ∧ later.query = refresh.query

theorem grows_moved (config : Config) (action : Action) (state after : State)
    (sound : Sound config state) (moved : Moved config state action after) :
    Grows state after := by
  constructor
  · exact fun reply member => moved_reply config action state after reply moved member
  · intro id call present
    rcases moved_calls config action state after moved with
      same | ⟨other, next, _, calls, turned, _⟩
    · exact ⟨call, same ▸ present, rfl⟩
    · by_cases same : id = other
      · subst other
        exact ⟨next, by rw [calls, Function.update_self], (turned call present).2⟩
      · exact ⟨call, by rw [calls, Function.update_of_ne same]; exact present, rfl⟩
  · intro id refresh present
    rcases moved_refreshes config action state after moved with
      same | ⟨other, next, refreshes, origin⟩
    · exact ⟨refresh, same ▸ present, rfl⟩
    · by_cases same : id = other
      · subst other
        refine ⟨next, by rw [refreshes, Function.update_self], ?_⟩
        rcases origin with ⟨call, _, found, _, query, _⟩ | ⟨before, found, query, _⟩
        · rcases (sound.refreshes id refresh present).spawner with ⟨owner, same, equal⟩
          rw [found, Option.some.injEq] at same
          subst owner
          exact query.trans equal
        · rw [present, Option.some.injEq] at found
          subst before
          exact query
      · exact ⟨refresh, by rw [refreshes, Function.update_of_ne same]; exact present, rfl⟩

/-! Every part of the invariant survives growth. -/

theorem Fetched.grow {state after : State} {task : Task} {query : Message} {outcome : Outcome}
    (fetched : Fetched state task query outcome) (grows : Grows state after) :
    Fetched after task query outcome :=
  ⟨grows.replies _ fetched.logged, fetched.task, fetched.query⟩

theorem from_cache_grow (config : Config) (state after : State) (question : Query)
    (outcome : Outcome) (grows : Grows state after)
    (cached : FromCache config state question outcome) :
    FromCache config after question outcome := by
  rcases cached with ⟨resp, stamp, ttl, stored, logged, rest⟩
  exact ⟨resp, stamp, ttl, stored, grows.replies _ logged, rest⟩

theorem done_grow (config : Config) (state after : State) (id : CallId) (call : Call)
    (outcome : Outcome) (status : CacheStatus) (grows : Grows state after)
    (sound : DoneSound config state id call outcome status) :
    DoneSound config after id call outcome status := by
  cases status with
  | Uncached => exact ⟨sound.1, sound.2.grow grows⟩
  | Miss =>
      rcases sound with ⟨keyed, fetched⟩ | ⟨leader, owner, followed, found, same, fetched⟩
      · exact Or.inl ⟨keyed, fetched.grow grows⟩
      · rcases grows.calls leader owner found with ⟨later, present, query⟩
        rw [← query] at same fetched
        exact Or.inr ⟨leader, later, followed, present, same, fetched.grow grows⟩
  | Hit =>
      rcases sound with ⟨question, keyed, cached⟩
      exact ⟨question, keyed, from_cache_grow config state after question outcome grows cached⟩
  | Stale =>
      rcases sound with ⟨question, keyed, cached | ⟨fetched, answered⟩⟩
      · exact ⟨question, keyed,
          Or.inl (from_cache_grow config state after question outcome grows cached)⟩
      · exact ⟨question, keyed, Or.inr ⟨fetched.grow grows, answered⟩⟩

theorem phase_grow (config : Config) (state after : State) (id : CallId) (call : Call)
    (phase : Phase) (grows : Grows state after) (sound : PhaseSound config state id call phase) :
    PhaseSound config after id call phase := by
  cases phase with
  | prefetching question hit =>
      exact ⟨sound.1, from_cache_grow config state after question hit grows sound.2⟩
  | claiming question stale =>
      exact ⟨sound.1, from_cache_grow config state after question stale grows sound.2⟩
  | racing question stale deadline =>
      rcases sound with ⟨keyed, cached, refresh, spawned⟩
      rcases grows.refreshes id refresh spawned with ⟨later, present, _⟩
      exact ⟨keyed, from_cache_grow config state after question stale grows cached, later, present⟩
  | unslotting question outcome => exact ⟨sound.1, sound.2.grow grows⟩
  | publishing outcome => exact ⟨sound.1, sound.2.grow grows⟩
  | following leader next =>
      rcases sound with ⟨owner, found, same⟩
      rcases grows.calls leader owner found with ⟨later, present, query⟩
      rw [← query] at same
      exact ⟨later, present, same⟩
  | done outcome status => exact done_grow config state after id call outcome status grows sound
  | _ => exact sound

theorem refresh_grow (config : Config) (state after : State) (id : CallId) (refresh : Refresh)
    (grows : Grows state after) (sound : RefreshSound config state id refresh) :
    RefreshSound config after id refresh := by
  rcases sound with ⟨⟨call, present, query⟩, keyed, phase⟩
  rcases grows.calls id call present with ⟨later, found, same⟩
  refine ⟨⟨later, found, same.trans query⟩, keyed, ?_⟩
  cases located : refresh.phase <;> rw [located] at phase
  · trivial
  · exact Fetched.grow phase grows
  · exact Fetched.grow phase grows
  · trivial

/-! What a lookup finds. -/

/-- A lookup that answers found an entry, and answers from it. -/
theorem get_entry (state : State) (question : Query) (found : CacheLookup) (fetch : Fetch)
    (looked : state.cache.get question state.now = some (found, fetch)) :
    ∃ entry ttl, state.cache.cache question.key = some (entry, fetch) ∧
      state.now ≤ entry.validUntil + state.cache.staleWindow ∧
      found.response = entry.toResponse ttl := by
  rcases get_found state.cache question state.now found fetch looked with
    ⟨entry, held, ⟨within, prefetch, same⟩ | ⟨_, inside, same⟩⟩
  · subst found
    exact ⟨entry, _, held, Nat.le_trans within (Nat.le_add_right _ _), rfl⟩
  · subst found
    exact ⟨entry, _, held, inside, rfl⟩

theorem build_some (encodes : Message → Bool) (question : Query) (response : CachedResponse)
    (resp : Message) (built : buildCachedResponse encodes question response = some resp) :
    resp = rebuilt question response := by
  unfold buildCachedResponse at built
  split at built
  · cases built
  · split at built
    · cases built
      rfl
    · cases built

theorem lookup_from_cache (config : Config) (state : State) (question : Query)
    (found : CacheLookup) (fetch : Fetch) (resp : Message) (sound : Sound config state)
    (looked : state.cache.get question state.now = some (found, fetch))
    (built : buildCachedResponse config.encodes question found.response = some resp) :
    FromCache config state question ⟨some resp, fetch⟩ := by
  rcases get_entry state question found fetch looked with ⟨entry, ttl, held, _, response⟩
  rcases sound.entries question.key entry fetch held with
    ⟨reply, stamp, stored, logged, storable, same, keyed, equal⟩
  refine ⟨reply, stamp, ttl, stored, logged, storable, keyed, equal, ?_⟩
  rw [build_some config.encodes question found.response resp built, response, same]

/-! Each part of the invariant, over one step. -/

theorem fetched_now (config : Config) (state after : State) (task : Task) (query : Message)
    (response : Option Message)
    (replies : after.replies = (resolveAndCache config state task query response).replies) :
    Fetched after task query (state.outcome task query response) := by
  refine ⟨?_, rfl, rfl⟩
  rw [replies]
  exact List.mem_append_right _ List.mem_cons_self

theorem entries_step (config : Config) (action : Action) (state after : State)
    (sound : Sound config state) (moved : Moved config state action after) :
    ∀ key entry fetch, after.cache.cache key = some (entry, fetch) →
      EntrySound config after key entry fetch := by
  intro key entry fetch held
  have grows := grows_moved config action state after sound moved
  have old : state.cache.cache key = some (entry, fetch) →
      EntrySound config after key entry fetch := by
    intro before
    rcases sound.entries key entry fetch before with ⟨resp, stamp, question, logged, rest⟩
    exact ⟨resp, stamp, question, grows.replies _ logged, rest⟩
  rcases moved_cache config action state after moved with
    same | ⟨question, evicted⟩ | ⟨task, query, question, resp, keyed, logged, stored⟩
  · rw [same] at held
    exact old held
  · rw [evicted] at held
    by_cases same : key = question.key
    · subst key
      simp [StaleCache.evict] at held
    · simp only [StaleCache.evict, Function.update_of_ne same] at held
      exact old held
  · rw [stored, store_response_eq] at held
    by_cases storable : Storable resp
    · simp only [storable, if_true, StaleCache.store] at held
      rcases update_some rfl held with ⟨rfl, same⟩ | ⟨_, before⟩
      · cases same
        exact ⟨resp, state.now, question, logged, storable, rfl, keyed, rfl⟩
      · exact old before
    · simp only [storable, if_false] at held
      exact old held

theorem slots_step (config : Config) (action : Action) (state after : State)
    (sound : Sound config state) (moved : Moved config state action after) :
    ∀ key leader, after.singleFlight key = some leader →
      ∃ call question, after.calls leader = some call ∧
        config.key call.query = some question ∧ question.key = key := by
  intro key leader slot
  have grows := grows_moved config action state after sound moved
  have origin : ∃ call question, state.calls leader = some call ∧
      config.key call.query = some question ∧ question.key = key := by
    rcases moved_slot config action state after key leader moved slot with
      old | ⟨call, question, present, located, same⟩
    · exact sound.slots key leader old
    · have keyed := sound.calls leader call present
      rw [located] at keyed
      exact ⟨call, question, present, keyed, same⟩
  rcases origin with ⟨call, question, present, keyed, same⟩
  rcases grows.calls leader call present with ⟨later, found, query⟩
  exact ⟨later, question, found, by rw [query]; exact keyed, same⟩

theorem sent_step (config : Config) (action : Action) (state after : State)
    (sound : Sound config state) (moved : Moved config state action after) :
    ∀ id outcome, outcome ∈ (after.channels id).sent →
      ∃ call, after.calls id = some call ∧ Fetched after (.call id) call.query outcome := by
  intro id outcome member
  have grows := grows_moved config action state after sound moved
  have origin : ∃ call, state.calls id = some call ∧
      Fetched state (.call id) call.query outcome := by
    rcases moved_sent config action state after id outcome moved member with
      old | ⟨call, present, located⟩
    · exact sound.sent id outcome old
    · have published := sound.calls id call present
      rw [located] at published
      exact ⟨call, present, published.2⟩
  rcases origin with ⟨call, present, fetched⟩
  rcases grows.calls id call present with ⟨later, found, query⟩
  exact ⟨later, found, by rw [query]; exact fetched.grow grows⟩

theorem refreshes_step (config : Config) (action : Action) (state after : State)
    (sound : Sound config state) (moved : Moved config state action after) :
    ∀ id refresh, after.refreshes id = some refresh → RefreshSound config after id refresh := by
  intro id refresh present
  have grows := grows_moved config action state after sound moved
  have old : state.refreshes id = some refresh → RefreshSound config after id refresh := by
    intro before
    exact refresh_grow config state after id refresh grows (sound.refreshes id refresh before)
  rcases moved_refreshes config action state after moved with
    same | ⟨other, next, refreshes, origin⟩
  · rw [same] at present
    exact old present
  · by_cases same : id = other
    · subst other
      rw [refreshes, Function.update_self, Option.some.injEq] at present
      subst next
      rcases origin with ⟨call, outcome, found, located, query, running⟩ |
        ⟨before, found, query, question, turn⟩
      · -- Spawned by a call that located its question under its own key.
        have keyed : config.key call.query = some refresh.question := by
          have placed := sound.calls id call found
          rcases located with prefetching | claiming
          · rw [prefetching] at placed
            exact placed.1
          · rw [claiming] at placed
            exact placed.1
        rcases grows.calls id call found with ⟨later, current, same⟩
        refine ⟨⟨later, current, same.trans query.symm⟩, ?_, ?_⟩
        · rw [query]
          exact keyed
        · rw [running]
          trivial
      · rcases refresh_grow config state after id before grows (sound.refreshes id before found)
          with ⟨⟨call, current, spawner⟩, keyed, phase⟩
        refine ⟨⟨call, current, spawner.trans query.symm⟩, ?_, ?_⟩
        · rw [query, question]
          exact keyed
        · rcases turn with ⟨response, _, releasing, logged⟩ | ⟨outcome, releasing, finished⟩ |
            ⟨_, panicked⟩
          · rw [releasing]
            exact ⟨logged, rfl, query.symm⟩
          · rw [releasing] at phase
            rw [finished]
            exact ⟨phase.logged, phase.task, phase.query.trans query.symm⟩
          · rw [panicked]
            trivial
    · rw [refreshes, Function.update_of_ne same] at present
      exact old present

/-- The mover is sound in the new state, the others because the state grows. -/
theorem calls_updated (config : Config) (state after : State) (id : CallId) (next : Call)
    (sound : Sound config state) (grows : Grows state after)
    (calls : after.calls = Function.update state.calls id (some next))
    (turned : PhaseSound config after id next next.phase) :
    ∀ other call, after.calls other = some call →
      PhaseSound config after other call call.phase := by
  intro other call present
  rcases update_some calls present with ⟨rfl, rfl⟩ | ⟨_, before⟩
  · exact turned
  · exact phase_grow config state after other call call.phase grows
      (sound.calls other call before)

theorem recv_value_sent (ch : Channel Outcome) (next : Nat) (outcome : Outcome)
    (value : ch.recv next = .value outcome) : outcome ∈ ch.sent := by
  unfold Channel.recv at value
  split at value
  · cases value
  · split at value
    · rename_i found
      cases value
      exact List.mem_of_getElem? found
    · split at value <;> cases value

theorem calls_step (config : Config) (action : Action) (state after : State)
    (sound : Sound config state) (slots : Coalesced True state)
    (moved : Moved config state action after) :
    ∀ id call, after.calls id = some call → PhaseSound config after id call call.phase := by
  have grows := grows_moved config action state after sound moved
  have stayed : after.calls = state.calls → ∀ id call, after.calls id = some call →
      PhaseSound config after id call call.phase := by
    intro same id call present
    rw [same] at present
    exact phase_grow config state after id call call.phase grows (sound.calls id call present)
  have placed : ∀ {id call phase}, state.calls id = some call → call.phase = phase →
      PhaseSound config after id call phase := by
    intro id call phase present located
    subst phase
    exact phase_grow config state after id call call.phase grows (sound.calls id call present)
  cases moved with
  | tick elapsed => exact stayed rfl
  | evict question => exact stayed rfl
  | started fresh keyed => exact calls_updated config state _ _ _ sound grows rfl keyed
  | startedUncached fresh unkeyed =>
      exact calls_updated config state _ _ _ sound grows rfl (Or.inl ⟨rfl, unkeyed⟩)
  | @hit id call question response prefetch fetch resp phase present located found built next =>
      have keyed : config.key call.query = some question := placed present located
      have cached := from_cache_grow config state _ question _ grows
        (lookup_from_cache config state question (.fresh response prefetch) fetch resp sound
          found built)
      refine calls_updated config state _ _ _ sound grows rfl ?_
      cases prefetch
      · subst phase
        exact ⟨question, keyed, cached⟩
      · subst phase
        exact ⟨keyed, cached⟩
  | @staleHit id call question response fetch resp present located found built =>
      have keyed : config.key call.query = some question := placed present located
      have cached := from_cache_grow config state _ question _ grows
        (lookup_from_cache config state question (.stale response) fetch resp sound found built)
      exact calls_updated config state _ _ _ sound grows rfl ⟨keyed, cached⟩
  | unbuilt present located looked refused =>
      have keyed := placed present located
      exact calls_updated config state _ _ _ sound grows rfl keyed
  | miss present located nothing =>
      have keyed := placed present located
      exact calls_updated config state _ _ _ sound grows rfl keyed
  | @prefetched id call question hit present located free =>
      have cached := placed present located
      exact calls_updated config state _ _ _ sound grows rfl ⟨question, cached.1, cached.2⟩
  | @prefetchTaken id call question hit present located taken =>
      have cached := placed present located
      exact calls_updated config state _ _ _ sound grows rfl ⟨question, cached.1, cached.2⟩
  | @claimed id call question stale present located free =>
      have cached := placed present located
      exact calls_updated config state _ _ _ sound grows rfl
        ⟨cached.1, cached.2, _, Function.update_self _ _ _⟩
  | @claimTaken id call question stale present located taken =>
      have cached := placed present located
      exact calls_updated config state _ _ _ sound grows rfl
        ⟨question, cached.1, Or.inl cached.2⟩
  | @raceWon id call question stale outcome deadline refresh resp present located spawned ended
      answered =>
      have cached := placed present located
      refine calls_updated config state _ _ _ sound grows rfl ⟨question, cached.1, Or.inr ⟨?_, ?_⟩⟩
      · rcases sound.refreshes id refresh spawned with ⟨⟨owner, same, query⟩, _, phase⟩
        rw [present, Option.some.injEq] at same
        subst owner
        rw [ended] at phase
        have fetched : Fetched state (.refresh id) refresh.query outcome := phase
        rw [← query] at fetched
        exact fetched.grow grows
      · rw [answered]
        exact Option.some_ne_none resp
  | @raceLost id call question stale deadline refresh present located spawned ended =>
      have cached := placed present located
      exact calls_updated config state _ _ _ sound grows rfl
        ⟨question, cached.1, Or.inl cached.2.1⟩
  | @timedOut id call question stale deadline refresh present located spawned unfinished late =>
      have cached := placed present located
      exact calls_updated config state _ _ _ sound grows rfl
        ⟨question, cached.1, Or.inl cached.2.1⟩
  | @followed id leader call question present located slot =>
      have keyed := placed present located
      -- The leader in the slot asked under the same key.
      rcases sound.slots question.key leader slot with ⟨owner, same, found, shared, equal⟩
      rcases grows.calls leader owner found with ⟨later, current, query⟩
      refine calls_updated config state _ _ _ sound grows rfl ⟨later, current, ?_⟩
      exact ⟨question, same, keyed, by rw [query]; exact shared, equal.symm⟩
  | led present located free =>
      have keyed := placed present located
      exact calls_updated config state _ _ _ sound grows rfl keyed
  | @leaderReplied id call question response present located =>
      have keyed := placed present located
      exact calls_updated config state _ _ _ sound grows rfl
        ⟨keyed, fetched_now config state _ (.call id) call.query response rfl⟩
  | @replied id call status response present located =>
      have fetched :
          Fetched _ (.call id) call.query (state.outcome (.call id) call.query response) :=
        fetched_now config state ((resolveAndCache config state (.call id) call.query
          response).setPhase id call (.done (state.outcome (.call id) call.query response) status))
          (.call id) call.query response rfl
      refine calls_updated config state _ _ _ sound grows rfl ?_
      rcases placed present located with ⟨uncached, unkeyed⟩ | ⟨missed, keyed⟩
      · subst status
        exact ⟨unkeyed, fetched⟩
      · subst status
        exact Or.inl ⟨keyed, fetched⟩
  | @unslotted id call question outcome present located =>
      have fetched := placed present located
      refine calls_updated config state _ id { call with phase := .publishing outcome } sound grows
        rfl ⟨?_, fetched.2⟩
      exact fun unkeyed => Option.some_ne_none question (fetched.1.symm.trans unkeyed)
  | published present located =>
      have fetched := placed present located
      exact calls_updated config state _ _ _ sound grows rfl (Or.inl fetched)
  | @received id leader call next outcome present located value =>
      rcases placed present located with ⟨owner, found, same⟩
      have sent := recv_value_sent (state.channels leader) next outcome value
      rcases sound.sent leader outcome sent with ⟨sender, current, fetched⟩
      rcases grows.calls leader sender current with ⟨later, settled, query⟩
      have followed := slots.subscribed id call leader next present located
      -- The leader is the same call before and after, so its value is the one read.
      have equal : owner = later := Option.some.inj (found.symm.trans settled)
      subst owner
      refine calls_updated config state _ _ _ sound grows rfl ?_
      exact Or.inr ⟨leader, later, followed, found, same, by
        rw [query]
        exact fetched.grow grows⟩
  | @deserted id leader call next present located lost =>
      rcases placed present located with ⟨owner, found, question, same, keyed, _⟩
      refine calls_updated config state _ _ _ sound grows rfl (Or.inr ⟨rfl, ?_⟩)
      exact fun unkeyed => Option.some_ne_none question (keyed.symm.trans unkeyed)
  | leaderAborted present located =>
      exact calls_updated config state _ _ _ sound grows rfl trivial
  | aborted present located =>
      exact calls_updated config state _ _ _ sound grows rfl trivial
  | refreshReplied present located => exact stayed rfl
  | refreshFinished present located => exact stayed rfl
  | refreshPanicked present located => exact stayed rfl

theorem sound_step (config : Config) (action : Action) (state after : State)
    (sound : Sound config state) (slots : Coalesced True state)
    (taken : step config action state = some after) : Sound config after := by
  have moved := step_moved config action state after taken
  constructor
  · exact entries_step config action state after sound moved
  · exact slots_step config action state after sound moved
  · exact sent_step config action state after sound moved
  · exact refreshes_step config action state after sound moved
  · exact calls_step config action state after sound slots moved

/-- The invariants of every reachable state. -/
theorem reachable_sound (config : Config) (allowed : Action → State → Prop)
    (actions : List Action) (after : State)
    (run : Run (step config) allowed (State.new config) actions after) :
    Coalesced True after ∧ Sound config after :=
  run_invariant (motive := fun state => Coalesced True state ∧ Sound config state)
    (fun action before next kept _ taken =>
      ⟨coalesced_step config action before next kept.1 (Or.inl trivial) taken,
        sound_step config action before next kept.2 kept.1 taken⟩)
    run ⟨coalesced_new True config, sound_new config⟩

end Dnsix.Provenance
