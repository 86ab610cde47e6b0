import Dnsix.Grounding

/-!
How old an answer of the pool may be. The times are those of the run: when the upstreams
sent the reply an answer goes back to, when the call came, and when it looked. A hit is
never older than the upstream allows, a stale answer never older than the window, and what
comes from no cache was sent after someone asked.
-/

namespace Dnsix.Freshness
open Dns Grounding LastWrite Pool Provenance ResponseCache StoreHistory Transition
open SlotInvariant

/-! What a response allows. -/
section Lives

/-- The records of the response, with the time that is left. -/
def Unexpired (resp answer : Message) (age : Nat) : Prop :=
  ∀ record ∈ sections answer, record.ttl ≤ maxTtl ∧ ∃ source ∈ sections resp,
    record = { source with ttl := record.ttl } ∧ secs record.ttl + age ≤ secs source.ttl

/-- The records of the response once it has expired, each for half a minute. -/
structure Overdue (window : Nat) (resp answer : Message) (age : Nat) : Prop where
  expired : secs (life resp) < age
  inside : age ≤ secs (life resp) + window
  stamped : ∀ record ∈ sections answer, record.ttl = staleServeTtl ∧
    ∃ source ∈ sections resp, record = { source with ttl := record.ttl } ∧ life resp ≤ source.ttl

theorem fresh_unexpired (question : Query) (resp : Message) (stamp time : Nat)
    (past : stamp ≤ time) (within : time ≤ stamp + secs (life resp)) :
    Unexpired resp (rebuilt question ((storedEntry resp stamp).toResponse
      (asSecs (stamp + secs (life resp) - time)))) (time - stamp) := by
  intro record listed
  obtain ⟨left, source, inside, same, allowed⟩ := stored_source question resp stamp _ record listed
  -- Whole seconds are cut off, so the sum does not come to more than the life.
  have spent := CacheHistory.secs_as_secs (stamp + secs (life resp) - time)
  rw [← left] at spent
  have longer : secs (life resp) ≤ secs source.ttl := Nat.mul_le_mul_right _ allowed
  have short : secs record.ttl ≤ secs (life resp) := by omega
  have capped : secs record.ttl ≤ secs maxTtl :=
    Nat.le_trans short (Nat.mul_le_mul_right _ (life_le_max resp))
  exact ⟨Nat.le_of_mul_le_mul_right capped (by decide), source, inside, same, by omega⟩

theorem stale_overdue (window : Nat) (question : Query) (resp : Message) (stamp time : Nat)
    (expired : stamp + secs (life resp) < time)
    (inside : time ≤ stamp + secs (life resp) + window) :
    Overdue window resp (rebuilt question ((storedEntry resp stamp).toResponse staleServeTtl))
      (time - stamp) where
  expired := by omega
  inside := by omega
  stamped := stored_source question resp stamp staleServeTtl

end Lives

/-! The moments of a run. -/
section Moments
variable {config : Config} {actions : List Action} {id : CallId} {outcome : Outcome}

/-- At some step of a run of the pool. -/
def At (config : Config) (actions : List Action) (fact : State → Action → State → Prop) : Prop :=
  Occurred (step config) (State.new config) actions fact

/-- The upstreams send this reply. -/
def Receives (reply : Reply) (time : Nat) (before : State) (_ : Action) (after : State) : Prop :=
  before.now = time ∧ after.replies = before.replies ++ [reply]

/-- The call looks its question up. -/
def Looks (id : CallId) (question : Query) (time : Nat) (before : State) (action : Action)
    (_ : State) : Prop :=
  action = .advance id ∧ before.now = time ∧
    ∃ call, before.calls id = some call ∧ call.phase = .looking question

/-- The call comes. -/
def Comes (id : CallId) (time : Nat) (before : State) (action : Action) (_ : State) : Prop :=
  before.now = time ∧ ∃ query, action = .call id query

/-- The call that made a round trip, or that its refresh was spawned for. -/
def caller : Task → CallId
  | .call id | .refresh id => id

/-- The reply behind a cached answer was sent for the same question, and when; and when the
call looked. -/
structure Kept (config : Config) (actions : List Action) (id : CallId) (question : Query)
    (fetch : Fetch) (resp : Message) (stamp time : Nat) : Prop where
  asked : (config.key fetch.query).map Query.key = some question.key
  received : At config actions (Receives ⟨fetch, some resp⟩ stamp)
  looked : At config actions (Looks id question time)
  past : stamp ≤ time
  storable : Storable resp

def Fresh (config : Config) (actions : List Action) (id : CallId) (question : Query)
    (outcome : Outcome) : Prop :=
  ∃ resp stamp time, Kept config actions id question outcome.fetch resp stamp time ∧
    time ≤ stamp + secs (life resp) ∧ outcome.answer = some (rebuilt question
      ((storedEntry resp stamp).toResponse (asSecs (stamp + secs (life resp) - time))))

def Stale (config : Config) (actions : List Action) (id : CallId) (question : Query)
    (outcome : Outcome) : Prop :=
  ∃ resp stamp time, Kept config actions id question outcome.fetch resp stamp time ∧
    stamp + secs (life resp) < time ∧ time ≤ stamp + secs (life resp) + config.staleWindow ∧
    outcome.answer = some (rebuilt question ((storedEntry resp stamp).toResponse staleServeTtl))

/-- What a call holds of the cache. -/
def Held (config : Config) (actions : List Action) (state : State) (id : CallId) : Phase → Prop
  | .prefetching question hit => Fresh config actions id question hit
  | .claiming question stale | .racing question stale _ => Stale config actions id question stale
  | .done outcome .Hit => ∃ question, Fresh config actions id question outcome
  | .done outcome .Stale => (∃ question, Stale config actions id question outcome) ∨
      Fetched state (.refresh id) outcome.fetch.query outcome
  | _ => True

structure Timed (config : Config) (actions : List Action) (state : State) : Prop where
  callers : ∀ id call, state.calls id = some call →
    ∃ time ≤ state.now, At config actions (Comes id time)
  replies : ∀ reply ∈ state.replies, ∃ stamp time, At config actions (Receives reply stamp) ∧
    At config actions (Comes (caller reply.fetch.task) time) ∧ time ≤ stamp
  entries : ∀ key entry fetch, state.cache.cache key = some (entry, fetch) →
    ∃ resp stamp, At config actions (Receives ⟨fetch, some resp⟩ stamp) ∧ stamp ≤ state.now ∧
      Storable resp ∧ entry = storedEntry resp stamp
  calls : ∀ id call, state.calls id = some call → Held config actions state id call.phase

theorem timed_new : Timed config [] (State.new config) where
  callers _ _ present := nomatch present
  replies _ listed := nomatch listed
  entries _ _ _ held := nomatch held
  calls _ _ present := nomatch present

theorem Kept.later {question : Query} {fetch : Fetch} {resp : Message} {stamp time : Nat}
    (more : List Action) (kept : Kept config actions id question fetch resp stamp time) :
    Kept config (actions ++ more) id question fetch resp stamp time :=
  ⟨kept.asked, kept.received.later more, kept.looked.later more, kept.past, kept.storable⟩

theorem Fresh.later {question : Query} (more : List Action)
    (fresh : Fresh config actions id question outcome) :
    Fresh config (actions ++ more) id question outcome := by
  obtain ⟨resp, stamp, time, kept, rest⟩ := fresh
  exact ⟨resp, stamp, time, kept.later more, rest⟩

theorem Stale.later {question : Query} (more : List Action)
    (stale : Stale config actions id question outcome) :
    Stale config (actions ++ more) id question outcome := by
  obtain ⟨resp, stamp, time, kept, rest⟩ := stale
  exact ⟨resp, stamp, time, kept.later more, rest⟩

theorem held_later {state after : State} {phase : Phase} (more : List Action)
    (grows : Grows state after) (held : Held config actions state id phase) :
    Held config (actions ++ more) after id phase := by
  cases phase with
  | prefetching question hit => exact Fresh.later more held
  | claiming question stale | racing question stale deadline => exact Stale.later more held
  | done outcome status =>
      cases status with
      | Hit =>
          obtain ⟨question, fresh⟩ := held
          exact ⟨question, fresh.later more⟩
      | Stale =>
          obtain ⟨question, stale⟩ | fetched := held
          · exact .inl ⟨question, stale.later more⟩
          · exact .inr (fetched.grow grows)
      | _ => trivial
  | _ => trivial

end Moments

/-! One step of the pool. -/
section Steps
variable {config : Config} {front : List Action} {action : Action} {before after : State}

theorem reachable_window (begun : Run (step config) anyAction (State.new config) front before) :
    before.cache.staleWindow = config.staleWindow := by
  obtain ⟨history, same, _⟩ := reachable_replayed config anyAction front before begun
  rw [same, CacheHistory.cacheAfter, CacheHistory.replay_window]
  rfl

/-- A call that was not there has come. -/
theorem call_arrived (moved : Moved config before action after) (id : CallId) (call : Call)
    (present : after.calls id = some call) :
    (∃ old, before.calls id = some old) ∨ ∃ query, action = .call id query := by
  have turned : ∀ other found next, before.calls other = some found →
      after.calls = Function.update before.calls other (some next) →
      (∃ old, before.calls id = some old) ∨ ∃ query, action = .call id query := by
    intro other found next there calls
    obtain ⟨rfl, _⟩ | ⟨_, old⟩ := update_some calls present
    · exact .inl ⟨found, there⟩
    · exact .inl ⟨call, old⟩
  cases moved with
  | tick elapsed => exact .inl ⟨call, present⟩
  | evict question => exact .inl ⟨call, present⟩
  | started fresh keyed | startedUncached fresh unkeyed =>
      obtain ⟨rfl, _⟩ | ⟨_, old⟩ := update_some rfl present
      · exact .inr ⟨_, rfl⟩
      · exact .inl ⟨call, old⟩
  | refreshReplied there located => exact .inl ⟨call, present⟩
  | refreshFinished there located => exact .inl ⟨call, present⟩
  | refreshPanicked there located => exact .inl ⟨call, present⟩
  | _ there located => exact turned _ _ _ there rfl

/-- Whoever has its round trip logged is there. -/
theorem moved_caller (sound : Sound config before) (moved : Moved config before action after) :
    after.replies = before.replies ∨ ∃ reply, after.replies = before.replies ++ [reply] ∧
      ∃ call, before.calls (caller reply.fetch.task) = some call := by
  cases moved with
  | leaderReplied present located => exact .inr ⟨_, rfl, _, present⟩
  | replied present located => exact .inr ⟨_, rfl, _, present⟩
  | refreshReplied present located =>
      obtain ⟨⟨call, spawner, _⟩, _, _⟩ := sound.refreshes _ _ present
      exact .inr ⟨_, rfl, call, spawner⟩
  | _ => exact .inl rfl

/-- What is offered to the cache is what the upstreams just sent. -/
theorem moved_received (moved : Moved config before action after) (placed : Placed before)
    (task : Task) (query : Message) (response : Option Message)
    (logged : (⟨before.fetched task query, response⟩ : Reply) ∈ after.replies) :
    after.replies = before.replies ++ [⟨before.fetched task query, response⟩] := by
  have new : (⟨before.fetched task query, response⟩ : Reply) ∉ before.replies := by
    intro old
    exact Nat.lt_irrefl _ (placed _ old)
  obtain same | ⟨other, asked, answer, same⟩ := moved_replies config action before after moved
  · rw [same] at logged
    exact absurd logged new
  · rw [same, List.mem_append, List.mem_singleton] at logged
    rw [same, logged.resolve_left new]

theorem entries_timed (begun : Run (step config) anyAction (State.new config) front before)
    (taken : step config action before = some after) (placed : Placed before)
    (timed : Timed config front before) (key : Query) (entry : CacheEntry) (fetch : Fetch)
    (held : after.cache.cache key = some (entry, fetch)) :
    ∃ resp stamp, At config (front ++ [action]) (Receives ⟨fetch, some resp⟩ stamp) ∧
      stamp ≤ after.now ∧ Storable resp ∧ entry = storedEntry resp stamp := by
  have moved := step_moved config action before after taken
  have later := moved_now config action before after moved
  have old : before.cache.cache key = some (entry, fetch) →
      ∃ resp stamp, At config (front ++ [action]) (Receives ⟨fetch, some resp⟩ stamp) ∧
        stamp ≤ after.now ∧ Storable resp ∧ entry = storedEntry resp stamp := by
    intro inside
    obtain ⟨resp, stamp, received, past, rest⟩ := timed.entries key entry fetch inside
    exact ⟨resp, stamp, received.later _, Nat.le_trans past later, rest⟩
  obtain same | ⟨question, evicted⟩ | ⟨task, query, question, resp, _, logged, stored⟩ :=
    moved_cache config action before after moved
  · rw [same] at held
    exact old held
  · rw [evicted] at held
    by_cases same : key = question.key
    · simp only [same, StaleCache.evict, Function.update_self] at held
      cases held
    · simp only [StaleCache.evict, Function.update_of_ne same] at held
      exact old held
  · rw [stored, store_response_eq] at held
    split at held
    · rename_i storable
      obtain ⟨rfl, same⟩ | ⟨_, inside⟩ := update_some rfl held
      · cases same
        have received := moved_received moved placed task query (some resp) logged
        exact ⟨resp, before.now, occurred_now begun taken ⟨rfl, received⟩, later, storable, rfl⟩
      · exact old inside
    · exact old held

/-- What a lookup finds, with the times behind it. -/
theorem lookup_timed (begun : Run (step config) anyAction (State.new config) front before)
    (sound : Sound config before) (timed : Timed config front before) (id : CallId) (call : Call)
    (question : Query) (present : before.calls id = some call)
    (located : call.phase = .looking question)
    (taken : step config (.advance id) before = some after) (found : CacheLookup) (fetch : Fetch)
    (looked : before.cache.get question before.now = some (found, fetch)) :
    ∃ resp stamp, Kept config (front ++ [.advance id]) id question fetch resp stamp before.now ∧
      ((before.now ≤ stamp + secs (life resp) ∧ ∃ prefetch, found = .fresh
          ((storedEntry resp stamp).toResponse (asSecs (stamp + secs (life resp) - before.now)))
          prefetch) ∨
        (stamp + secs (life resp) < before.now ∧
          before.now ≤ stamp + secs (life resp) + config.staleWindow ∧
          found = .stale ((storedEntry resp stamp).toResponse staleServeTtl))) := by
  obtain ⟨entry, held, looks⟩ := get_found before.cache question before.now found fetch looked
  obtain ⟨resp, stamp, received, past, storable, rfl⟩ :=
    timed.entries question.key entry fetch held
  rw [stored_until, reachable_window begun] at looks
  obtain ⟨_, _, stored, _, _, _, keyed, equal⟩ := sound.entries question.key _ fetch held
  have looks' : At config (front ++ [.advance id]) (Looks id question before.now) :=
    occurred_now begun taken ⟨rfl, rfl, call, present, located⟩
  refine ⟨resp, stamp, ⟨?_, received.later _, looks', past, storable⟩, looks⟩
  rw [keyed, Option.map_some, equal]

theorem calls_timed (begun : Run (step config) anyAction (State.new config) front before)
    (taken : step config action before = some after) (sound : Sound config before)
    (timed : Timed config front before) :
    ∀ id call, after.calls id = some call →
      Held config (front ++ [action]) after id call.phase := by
  have moved := step_moved config action before after taken
  have grows := grows_moved config action before after sound moved
  have stayed : ∀ id call, before.calls id = some call →
      Held config (front ++ [action]) after id call.phase := fun id call present =>
    held_later [action] grows (timed.calls id call present)
  have placed : ∀ {id call phase}, before.calls id = some call → call.phase = phase →
      Held config (front ++ [action]) after id phase := by
    intro id call phase present located
    rw [← located]
    exact stayed id call present
  have turned : ∀ {id next}, after.calls = Function.update before.calls id (some next) →
      Held config (front ++ [action]) after id next.phase →
      ∀ other call, after.calls other = some call →
        Held config (front ++ [action]) after other call.phase := by
    intro id next calls held other call present
    obtain ⟨rfl, rfl⟩ | ⟨_, old⟩ := update_some calls present
    · exact held
    · exact stayed other call old
  cases moved with
  | tick elapsed => exact stayed
  | evict question => exact stayed
  | @hit id call question response prefetch fetch resp phase present located found built next =>
      refine turned rfl ?_
      obtain ⟨kept, stamp, times, ⟨within, due, same⟩ | ⟨_, _, same⟩⟩ :=
        lookup_timed begun sound timed id call question present located taken _ fetch found
      · cases same
        have fresh : Fresh config (front ++ [.advance id]) id question ⟨some resp, fetch⟩ :=
          ⟨kept, stamp, _, times, within,
            congrArg some (build_some config.encodes question _ resp built)⟩
        cases prefetch
        · rw [next]
          exact ⟨question, fresh⟩
        · rw [next]
          exact fresh
      · cases same
  | @staleHit id call question response fetch resp present located found built =>
      refine turned rfl ?_
      obtain ⟨kept, stamp, times, ⟨_, _, same⟩ | ⟨expired, inside, same⟩⟩ :=
        lookup_timed begun sound timed id call question present located taken _ fetch found
      · cases same
      · cases same
        exact ⟨kept, stamp, _, times, expired, inside,
          congrArg some (build_some config.encodes question _ resp built)⟩
  | @prefetched id call question hit present located free =>
      exact turned rfl ⟨question, placed present located⟩
  | @prefetchTaken id call question hit present located taken =>
      exact turned rfl ⟨question, placed present located⟩
  | @claimed id call question stale present located free =>
      have held := placed present located
      exact turned rfl held
  | @claimTaken id call question stale present located taken =>
      exact turned rfl (.inl ⟨question, placed present located⟩)
  | @raceWon id call question stale outcome deadline refresh resp present located spawned ended
      answered =>
      refine turned rfl (.inr ?_)
      have fetched := (sound.refreshes id refresh spawned).phase
      rw [ended] at fetched
      exact ⟨grows.replies _ fetched.logged, fetched.task, rfl⟩
  | @raceLost id call question stale deadline refresh present located spawned ended =>
      exact turned rfl (.inl ⟨question, placed present located⟩)
  | @timedOut id call question stale deadline refresh present located spawned unfinished late =>
      exact turned rfl (.inl ⟨question, placed present located⟩)
  | @replied id call status response present located =>
      -- Only a miss or a query that is not cached comes to its own round trip.
      have resolving := sound.calls id call present
      rw [located] at resolving
      obtain ⟨rfl, _⟩ | ⟨rfl, _⟩ := resolving
      · exact turned rfl trivial
      · exact turned rfl trivial
  | refreshReplied present located => exact stayed
  | refreshFinished present located => exact stayed
  | refreshPanicked present located => exact stayed
  | _ => exact turned rfl trivial

theorem timed_step (begun : Run (step config) anyAction (State.new config) front before)
    (taken : step config action before = some after) (sound : Sound config before)
    (placed : Placed before) (timed : Timed config front before) :
    Timed config (front ++ [action]) after := by
  have moved := step_moved config action before after taken
  have later := moved_now config action before after moved
  have came : ∀ id call, before.calls id = some call →
      ∃ time ≤ before.now, At config (front ++ [action]) (Comes id time) := by
    intro id call present
    obtain ⟨time, past, comes⟩ := timed.callers id call present
    exact ⟨time, past, comes.later _⟩
  refine ⟨?_, ?_, entries_timed begun taken placed timed, calls_timed begun taken sound timed⟩
  · intro id call present
    obtain ⟨old, there⟩ | ⟨query, rfl⟩ := call_arrived moved id call present
    · obtain ⟨time, past, comes⟩ := came id old there
      exact ⟨time, Nat.le_trans past later, comes⟩
    · exact ⟨before.now, later, occurred_now begun taken ⟨rfl, query, rfl⟩⟩
  · have old : ∀ reply ∈ before.replies, ∃ stamp time,
        At config (front ++ [action]) (Receives reply stamp) ∧
        At config (front ++ [action]) (Comes (caller reply.fetch.task) time) ∧ time ≤ stamp := by
      intro reply listed
      obtain ⟨stamp, time, received, comes, order⟩ := timed.replies reply listed
      exact ⟨stamp, time, received.later _, comes.later _, order⟩
    intro reply listed
    obtain same | ⟨new, same, call, present⟩ := moved_caller sound moved
    · exact old reply (same ▸ listed)
    · rw [same, List.mem_append, List.mem_singleton] at listed
      obtain inside | rfl := listed
      · exact old reply inside
      · obtain ⟨time, past, comes⟩ := came _ call present
        exact ⟨before.now, time, occurred_now begun taken ⟨rfl, same⟩, comes, past⟩

end Steps

/-! Every run of the pool. -/
section Runs
variable {config : Config}

theorem reachable_timed (actions : List Action) (after : State)
    (run : Run (step config) anyAction (State.new config) actions after) :
    Timed config actions after := by
  refine And.right (run_history (motive := fun actions (state : State) =>
    Placed state ∧ Timed config actions state) ⟨?_, timed_new⟩ ?_ run)
  · intro reply listed
    cases listed
  · intro front action before next begun known _ taken
    have moved := step_moved config action before next taken
    have sound := (reachable_sound config anyAction front before begun).2
    exact ⟨placed_step config action before next known.1 moved,
      timed_step begun taken sound known.1 known.2⟩

/-- The upstreams sent it after the call that asked them for it had come. -/
structure Direct (config : Config) (actions : List Action) (outcome : Outcome) (task : Task) :
    Prop where
  made : outcome.fetch.task = task
  sent : ∃ stamp time, At config actions (Receives ⟨outcome.fetch, outcome.answer⟩ stamp) ∧
    At config actions (Comes (caller task) time) ∧ time ≤ stamp

/-- What the status of an answer says about its age. -/
inductive Timely (config : Config) (actions : List Action) (id : CallId) (outcome : Outcome)
    (answer : Message) : CacheStatus → Prop where
  | fresh {question : Query} {resp : Message} {stamp time : Nat}
      (kept : Kept config actions id question outcome.fetch resp stamp time)
      (unexpired : Unexpired resp answer (time - stamp)) :
      Timely config actions id outcome answer .Hit
  | stale {question : Query} {resp : Message} {stamp time : Nat}
      (kept : Kept config actions id question outcome.fetch resp stamp time)
      (overdue : Overdue config.staleWindow resp answer (time - stamp)) :
      Timely config actions id outcome answer .Stale
  | refreshed (direct : Direct config actions outcome (.refresh id)) :
      Timely config actions id outcome answer .Stale
  | missed (leader : CallId) (direct : Direct config actions outcome (.call leader)) :
      Timely config actions id outcome answer .Miss
  | uncached (direct : Direct config actions outcome (.call id)) :
      Timely config actions id outcome answer .Uncached

theorem fetched_direct {state : State} {actions : List Action} {task : Task} {query : Message}
    {outcome : Outcome} (timed : Timed config actions state)
    (fetched : Fetched state task query outcome) : Direct config actions outcome task := by
  obtain ⟨stamp, time, received, comes, order⟩ := timed.replies _ fetched.logged
  exact ⟨fetched.task, stamp, time, received, fetched.task ▸ comes, order⟩

end Runs

end Dnsix.Freshness
