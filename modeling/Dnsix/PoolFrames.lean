import Dnsix.PoolMoves

/-!
What a step of the pool leaves alone, and what it can do to each part of the
state on its own: one lemma for each part, each read off the moves once.
-/

namespace Dnsix.Pool
open Dns LastWrite ResponseCache Broadcast

/-- A call that has returned or was aborted. -/
def settled : Phase → Bool
  | .done _ _ | .aborted => true
  | _ => false

/-- The call an action is a step of. -/
def actor : Action → Option CallId
  | .call id _ | .advance id | .reply id _ | .timer id | .abort id => some id
  | _ => none

/-- A step moves at most one call, one that has not settled, and never changes
its query. -/
theorem moved_calls (config : Config) (action : Action) (state after : State)
    (moved : Moved config state action after) :
    after.calls = state.calls ∨
      ∃ id next, actor action = some id ∧
        after.calls = Function.update state.calls id (some next) ∧
        (∀ call, state.calls id = some call →
          settled call.phase = false ∧ next.query = call.query) ∧
        (next.phase = .aborted → action = .abort id) := by
  -- Every move of a present call has this shape.
  have turned : ∀ id call next, state.calls id = some call → actor action = some id →
      after.calls = Function.update state.calls id (some next) → settled call.phase = false →
      next.query = call.query → (next.phase = .aborted → action = .abort id) →
      after.calls = state.calls ∨
        ∃ id next, actor action = some id ∧
          after.calls = Function.update state.calls id (some next) ∧
          (∀ call, state.calls id = some call →
            settled call.phase = false ∧ next.query = call.query) ∧
          (next.phase = .aborted → action = .abort id) := by
    intro id call next present acted calls unsettled query aborts
    refine Or.inr ⟨id, next, acted, calls, ?_, aborts⟩
    intro other same
    rw [present, Option.some.injEq] at same
    subst other
    exact ⟨unsettled, query⟩
  cases moved with
  | tick elapsed => exact Or.inl rfl
  | evict question => exact Or.inl rfl
  -- A new call replaces no older one.
  | started fresh keyed =>
      refine Or.inr ⟨_, _, rfl, rfl, ?_, Phase.noConfusion⟩
      intro call present
      rw [fresh] at present
      cases present
  | startedUncached fresh unkeyed =>
      refine Or.inr ⟨_, _, rfl, rfl, ?_, Phase.noConfusion⟩
      intro call present
      rw [fresh] at present
      cases present
  | @hit id call question response prefetch fetch resp phase present located found built next =>
      refine turned _ _ _ present rfl rfl (by rw [located]; rfl) rfl ?_
      cases prefetch <;> simp [next]
  | leaderAborted present located =>
      exact turned _ _ _ present rfl rfl (by rw [located]; rfl) rfl (fun _ => rfl)
  | aborted present located =>
      refine turned _ _ _ present rfl rfl ?_ rfl (fun _ => rfl)
      rcases located with ⟨question, stale, deadline, racing⟩ | ⟨leader, next, following⟩ |
        ⟨status, resolving⟩
      · rw [racing]
        rfl
      · rw [following]
        rfl
      · rw [resolving]
        rfl
  | refreshReplied present located => exact Or.inl rfl
  | refreshFinished present located => exact Or.inl rfl
  | refreshPanicked present located => exact Or.inl rfl
  | _ present located =>
      exact turned _ _ _ present rfl rfl (by rw [located]; rfl) rfl Phase.noConfusion

/-- A call stays as it is in the steps of others. -/
theorem moved_elsewhere (config : Config) (action : Action) (state after : State) (id : CallId)
    (moved : Moved config state action after) (other : actor action ≠ some id) :
    after.calls id = state.calls id := by
  rcases moved_calls config action state after moved with same | ⟨mover, next, acted, calls, _⟩
  · rw [same]
  · have different : id ≠ mover := by
      intro same
      subst mover
      exact other acted
    rw [calls, Function.update_of_ne different]

/-- A call that has settled stays as it is. -/
theorem settled_step (config : Config) (action : Action) (state after : State) (id : CallId)
    (call : Call) (taken : step config action state = some after)
    (present : state.calls id = some call) (settles : settled call.phase = true) :
    after.calls id = some call := by
  rcases moved_calls config action state after (step_moved config action state after taken) with
    same | ⟨other, next, _, calls, unsettled, _⟩
  · rw [same]
    exact present
  · by_cases same : id = other
    · subst other
      have contrary := (unsettled call present).1
      rw [settles] at contrary
      cases contrary
    · rw [calls, Function.update_of_ne same]
      exact present

/-- What a call has returned never changes afterwards. -/
theorem settled_run (config : Config) (allowed : Action → State → Prop) (state after : State)
    (actions : List Action) (id : CallId) (call : Call)
    (run : Transition.Run (step config) allowed state actions after)
    (present : state.calls id = some call) (settles : settled call.phase = true) :
    after.calls id = some call :=
  Transition.run_invariant (motive := fun current => current.calls id = some call)
    (fun action before next kept _ taken =>
      settled_step config action before next id call taken kept settles) run present

/-- Without aborts no call is ever aborted. -/
theorem alive_step (config : Config) (action : Action) (state after : State)
    (taken : step config action state = some after) (kept : ∀ id, action ≠ .abort id)
    (alive : ∀ id call, state.calls id = some call → call.phase ≠ .aborted) :
    ∀ id call, after.calls id = some call → call.phase ≠ .aborted := by
  intro id call present
  rcases moved_calls config action state after (step_moved config action state after taken) with
    same | ⟨other, next, _, calls, _, aborts⟩
  · rw [same] at present
    exact alive id call present
  · rcases update_some calls present with ⟨rfl, rfl⟩ | ⟨_, before⟩
    · exact fun aborted => kept id (aborts aborted)
    · exact alive id call before

/-- A slot is freed only by the call that is in it, after it has its outcome. -/
theorem slot_step (config : Config) (action : Action) (state after : State) (key : Query)
    (leader : CallId) (taken : step config action state = some after)
    (slot : state.singleFlight key = some leader) :
    after.singleFlight key = some leader ∨
      ∃ id call question outcome, action = .advance id ∧ state.calls id = some call ∧
        call.phase = .unslotting question outcome ∧ question.key = key ∧
        after.singleFlight = Function.update state.singleFlight key none := by
  cases step_moved config action state after taken with
  -- The slot it takes was free, so it is another one.
  | @led id call question present located free =>
      have different : key ≠ question.key := by
        intro same
        rw [same, free] at slot
        cases slot
      exact Or.inl ((Function.update_of_ne different _ _).trans slot)
  | @unslotted id call question outcome present located =>
      by_cases same : question.key = key
      · exact Or.inr ⟨id, call, question, outcome, rfl, present, located, same, same ▸ rfl⟩
      · exact Or.inl ((Function.update_of_ne (Ne.symm same) _ _).trans slot)
  | _ => exact Or.inl slot

/-- A slot is taken only by a call that found it free. -/
theorem moved_slot (config : Config) (action : Action) (state after : State) (key : Query)
    (leader : CallId) (moved : Moved config state action after)
    (slot : after.singleFlight key = some leader) :
    state.singleFlight key = some leader ∨
      ∃ call question, state.calls leader = some call ∧ call.phase = .joining question ∧
        question.key = key := by
  cases moved with
  | @led id call question present located free =>
      rcases update_some rfl slot with ⟨rfl, rfl⟩ | ⟨_, before⟩
      · exact Or.inr ⟨call, question, present, located, rfl⟩
      · exact Or.inl before
  | @unslotted id call question outcome present located =>
      by_cases same : key = question.key
      · subst key
        exact absurd ((Function.update_self _ _ _).symm.trans slot) (Option.some_ne_none _).symm
      · exact Or.inl ((Function.update_of_ne same _ _).symm.trans slot)
  | _ => exact Or.inl slot

/-- A value is sent on a channel only by the call that owns it, when it publishes. -/
theorem moved_sent (config : Config) (action : Action) (state after : State) (id : CallId)
    (outcome : Outcome) (moved : Moved config state action after)
    (sent : outcome ∈ (after.channels id).sent) :
    outcome ∈ (state.channels id).sent ∨
      ∃ call, state.calls id = some call ∧ call.phase = .publishing outcome := by
  -- A sender that is dropped or cloned leaves the values alone.
  have dropped : ∀ other, outcome ∈
      (Function.update state.channels other (state.channels other).dropSender id).sent →
      outcome ∈ (state.channels id).sent := by
    intro other member
    by_cases same : id = other
    · subst other
      rw [Function.update_self] at member
      exact member
    · rw [Function.update_of_ne same] at member
      exact member
  cases moved with
  | @led other call question present located free =>
      have member : outcome ∈ (Function.update state.channels other ⟨1, [], 2⟩ id).sent := sent
      by_cases same : id = other
      · rw [same, Function.update_self] at member
        cases member
      · rw [Function.update_of_ne same] at member
        exact Or.inl member
  | @unslotted other call question result present located =>
      left
      cases held : state.singleFlight question.key with
      | none =>
          simp only [unslotStep, held] at sent
          exact sent
      | some owner =>
          simp only [unslotStep, held] at sent
          exact dropped owner sent
  | @published other call result present located =>
      have member : outcome ∈ (Function.update state.channels other
          ((state.channels other).send result).dropSender id).sent := sent
      by_cases same : id = other
      · subst other
        rw [Function.update_self] at member
        rcases List.mem_append.mp member with old | new
        · exact Or.inl old
        · rw [List.mem_singleton] at new
          subst result
          exact Or.inr ⟨call, present, located⟩
      · rw [Function.update_of_ne same] at member
        exact Or.inl member
  | leaderAborted present located => exact Or.inl (dropped _ sent)
  | _ => exact Or.inl sent

/-- A step logs at most one round trip. -/
theorem moved_replies (config : Config) (action : Action) (state after : State)
    (moved : Moved config state action after) :
    after.replies = state.replies ∨ ∃ task query response,
      after.replies = state.replies ++ [⟨state.fetched task query, response⟩] := by
  cases moved with
  | leaderReplied present located => exact Or.inr ⟨_, _, _, rfl⟩
  | replied present located => exact Or.inr ⟨_, _, _, rfl⟩
  | refreshReplied present located => exact Or.inr ⟨_, _, _, rfl⟩
  | _ => exact Or.inl rfl

theorem moved_reply (config : Config) (action : Action) (state after : State) (reply : Reply)
    (moved : Moved config state action after) (member : reply ∈ state.replies) :
    reply ∈ after.replies := by
  rcases moved_replies config action state after moved with same | ⟨task, query, response, same⟩
  · rw [same]
    exact member
  · rw [same]
    exact List.mem_append_left _ member

/-- Round trips carry their place in the log. -/
def Placed (state : State) : Prop :=
  ∀ reply, reply ∈ state.replies → reply.fetch.place < state.replies.length

theorem placed_step (config : Config) (action : Action) (state after : State)
    (placed : Placed state) (moved : Moved config state action after) : Placed after := by
  intro reply member
  rcases moved_replies config action state after moved with same | ⟨task, query, response, same⟩
  · rw [same] at member ⊢
    exact placed reply member
  · have longer : after.replies.length = state.replies.length + 1 := by simp [same]
    rw [same] at member
    rcases List.mem_append.mp member with old | new
    · have bound := placed reply old
      omega
    · rw [List.mem_singleton] at new
      subst reply
      have own : (state.fetched task query).place = state.replies.length := rfl
      simp only [own]
      omega

theorem moved_now (config : Config) (action : Action) (state after : State)
    (moved : Moved config state action after) : state.now ≤ after.now := by
  cases moved with
  | tick elapsed => exact Nat.le_add_right _ _
  | _ => exact Nat.le_refl _

/-- The cache changes by an eviction or by the store block of one query. -/
theorem moved_cache (config : Config) (action : Action) (state after : State)
    (moved : Moved config state action after) :
    after.cache = state.cache ∨
      (∃ question, after.cache = state.cache.evict question) ∨
      ∃ task query question resp, config.key query = some question ∧
        (⟨state.fetched task query, some resp⟩ : Reply) ∈ after.replies ∧
        after.cache =
          storeResponse state.cache question resp state.now (state.fetched task query) := by
  have resolved : ∀ task query response,
      (resolveAndCache config state task query response).cache = state.cache ∨
      ∃ question resp, config.key query = some question ∧ response = some resp ∧
        (resolveAndCache config state task query response).cache =
          storeResponse state.cache question resp state.now (state.fetched task query) := by
    intro task query response
    cases response with
    | none => exact Or.inl rfl
    | some resp =>
        cases keyed : config.key query with
        | none => exact Or.inl (by simp only [resolveAndCache, keyed])
        | some question =>
            exact Or.inr ⟨question, resp, rfl, rfl, by simp only [resolveAndCache, keyed]⟩
  have logged : ∀ task query response,
      (⟨state.fetched task query, response⟩ : Reply) ∈
        (resolveAndCache config state task query response).replies := by
    intro task query response
    exact List.mem_append_right _ List.mem_cons_self
  have stored : ∀ task query response,
      after.cache = (resolveAndCache config state task query response).cache →
      after.replies = (resolveAndCache config state task query response).replies →
      after.cache = state.cache ∨
        (∃ question, after.cache = state.cache.evict question) ∨
        ∃ task query question resp, config.key query = some question ∧
          (⟨state.fetched task query, some resp⟩ : Reply) ∈ after.replies ∧
          after.cache =
            storeResponse state.cache question resp state.now (state.fetched task query) := by
    intro task query response cache replies
    rcases resolved task query response with kept | ⟨question, resp, keyed, same, changed⟩
    · exact Or.inl (cache.trans kept)
    · subst response
      exact Or.inr (Or.inr ⟨task, query, question, resp, keyed,
        replies ▸ logged task query (some resp), cache.trans changed⟩)
  cases moved with
  | evict question => exact Or.inr (Or.inl ⟨question, rfl⟩)
  -- The three ways a response reaches `resolve_and_cache`.
  | leaderReplied present located => exact stored _ _ _ rfl rfl
  | replied present located => exact stored _ _ _ rfl rfl
  | refreshReplied present located => exact stored _ _ _ rfl rfl
  | _ => exact Or.inl rfl

/-- A refresh is spawned for the question of a call, answered, or settles. -/
theorem moved_refreshes (config : Config) (action : Action) (state after : State)
    (moved : Moved config state action after) :
    after.refreshes = state.refreshes ∨
      ∃ id next, after.refreshes = Function.update state.refreshes id (some next) ∧
        ((∃ call outcome, state.calls id = some call ∧
            (call.phase = .prefetching next.question outcome ∨
              call.phase = .claiming next.question outcome) ∧
            next.query = call.query ∧ next.phase = .running) ∨
          ∃ refresh, state.refreshes id = some refresh ∧ next.query = refresh.query ∧
            next.question = refresh.question ∧
            ((∃ response, refresh.phase = .running ∧ next.phase =
                .releasing (state.outcome (.refresh id) refresh.query response) ∧
                (⟨state.fetched (.refresh id) refresh.query, response⟩ : Reply) ∈
                  after.replies) ∨
              (∃ outcome, refresh.phase = .releasing outcome ∧ next.phase = .finished outcome) ∨
              (refresh.phase = .running ∧ next.phase = .panicked))) := by
  cases moved with
  | prefetched present located free =>
      exact Or.inr ⟨_, _, rfl, Or.inl ⟨_, _, present, Or.inl located, rfl, rfl⟩⟩
  | claimed present located free =>
      exact Or.inr ⟨_, _, rfl, Or.inl ⟨_, _, present, Or.inr located, rfl, rfl⟩⟩
  | refreshReplied present located =>
      exact Or.inr ⟨_, _, rfl, Or.inr ⟨_, present, rfl, rfl, Or.inl ⟨_, located, rfl,
        List.mem_append_right _ List.mem_cons_self⟩⟩⟩
  | refreshFinished present located =>
      exact Or.inr ⟨_, _, rfl, Or.inr ⟨_, present, rfl, rfl, Or.inr (Or.inl ⟨_, located, rfl⟩)⟩⟩
  | refreshPanicked present located =>
      exact Or.inr ⟨_, _, rfl, Or.inr ⟨_, present, rfl, rfl, Or.inr (Or.inr ⟨located, rfl⟩)⟩⟩
  | _ => exact Or.inl rfl

/-- A finished refresh stays finished once its call has settled. -/
theorem finished_step (config : Config) (action : Action) (state after : State) (id : CallId)
    (call : Call) (refresh : Refresh) (outcome : Outcome)
    (moved : Moved config state action after) (present : state.calls id = some call)
    (settles : settled call.phase = true) (spawned : state.refreshes id = some refresh)
    (ended : refresh.phase = .finished outcome) : after.refreshes id = some refresh := by
  rcases moved_refreshes config action state after moved with
    same | ⟨other, next, refreshes, origin⟩
  · rw [same]
    exact spawned
  · by_cases same : id = other
    · subst other
      rcases origin with ⟨spawner, _, found, located, _⟩ | ⟨before, found, _, _, turn⟩
      · rw [present, Option.some.injEq] at found
        subst spawner
        rcases located with prefetching | claiming
        · rw [prefetching] at settles
          cases settles
        · rw [claiming] at settles
          cases settles
      · rw [spawned, Option.some.injEq] at found
        subst before
        rcases turn with ⟨_, running, _⟩ | ⟨_, releasing, _⟩ | ⟨running, _⟩ <;>
          simp [ended] at *
    · rw [refreshes, Function.update_of_ne same]
      exact spawned

end Dnsix.Pool
