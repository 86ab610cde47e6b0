import Dnsix.Provenance

/-!
Stale answers and newer responses. A response that leaves no entry (TTL zero, a
negative answer without a usable SOA) leaves the old one in place, where a later
lookup can still find it inside its stale window. A run is free of this exactly
as long as every such response meets no old entry that can still be served.
-/

namespace Dnsix.Superseded
open Dns ResponseCache Transition Pool StoreHistory Provenance

/-- The responses that settle a question, whatever they grant it. -/
def Superseding (resp : Message) : Prop :=
  resp.responseCode = .NoError ∨ resp.responseCode = .NXDomain

/-- No entry of the question can be served stale any more. -/
def PastStale (state : State) (question : Query) : Prop :=
  ∀ entry fetch, state.cache.cache question.key = some (entry, fetch) →
    state.cache.staleWindow = 0 ∨ entry.validUntil + state.cache.staleWindow < state.now

/-- A settling response that arrives in this step replaces the entry of its
question, or finds none that could still be served stale. -/
def Replaces (config : Config) (state : State) (query : Message) (response : Option Message) :
    Prop :=
  ∀ resp question, response = some resp → config.key query = some question →
    Superseding resp → Storable resp ∨ PastStale state question

def ReplacesStale (config : Config) : Action → State → Prop
  | .reply id response, state => ∀ call, state.calls id = some call →
      Replaces config state call.query response
  | .replyRefresh id response, state => ∀ refresh, state.refreshes id = some refresh →
      Replaces config state refresh.query response
  | _, _ => True

/-- What the lookup of a question can return stale is at least as recent as every
settling response received for it. -/
def NeverSuperseded (config : Config) (state : State) : Prop :=
  ∀ question response fetch reply asked resp,
    state.cache.get question state.now = some (.stale response, fetch) →
    reply ∈ state.replies → config.key reply.fetch.query = some asked →
    asked.key = question.key → reply.response = some resp → Superseding resp →
    reply.fetch.place ≤ fetch.place

/-- An entry is at least as recent as every settling response received for its
question, or can no longer be served stale. -/
def Recent (config : Config) (state : State) : Prop :=
  ∀ (question : Query) entry fetch reply asked resp,
    state.cache.cache question.key = some (entry, fetch) → reply ∈ state.replies →
    config.key reply.fetch.query = some asked → asked.key = question.key →
    reply.response = some resp → Superseding resp →
    reply.fetch.place ≤ fetch.place ∨ state.cache.staleWindow = 0 ∨
      entry.validUntil + state.cache.staleWindow < state.now

theorem get_stale (cache : StaleCache Fetch) (question : Query) (now : Nat)
    (response : CachedResponse) (fetch : Fetch)
    (looked : cache.get question now = some (.stale response, fetch)) :
    ∃ entry, cache.cache question.key = some (entry, fetch) ∧ entry.validUntil < now ∧
      now ≤ entry.validUntil + cache.staleWindow ∧
      response = entry.toResponse staleServeTtl := by
  rcases get_found cache question now (.stale response) fetch looked with
    ⟨entry, held, ⟨_, prefetch, same⟩ | ⟨expired, inside, same⟩⟩
  · cases same
  · cases same
    exact ⟨entry, held, expired, inside, rfl⟩

theorem recent_never_superseded (config : Config) (state : State)
    (recent : Recent config state) : NeverSuperseded config state := by
  intro question response fetch reply asked resp looked member keyed same answered settles
  rcases get_stale state.cache question state.now response fetch looked with
    ⟨entry, held, expired, inside, _⟩
  rcases recent question entry fetch reply asked resp held member keyed same answered
    settles with newer | closed | past
  · exact newer
  · omega
  · omega

/-- The steps that log nothing and store nothing. -/
theorem recent_kept (config : Config) (state after : State) (recent : Recent config state)
    (cache : ∀ question entry fetch, after.cache.cache question = some (entry, fetch) →
      state.cache.cache question = some (entry, fetch))
    (window : after.cache.staleWindow = state.cache.staleWindow)
    (replies : after.replies = state.replies) (later : state.now ≤ after.now) :
    Recent config after := by
  intro question entry fetch reply asked resp held member keyed same answered settles
  rw [replies] at member
  rcases recent question entry fetch reply asked resp
    (cache question.key entry fetch held) member keyed same answered settles with
    newer | closed | past
  · exact Or.inl newer
  · exact Or.inr (Or.inl (window.trans closed))
  · exact Or.inr (Or.inr (by omega))

/-- The block after the upstreams answered, when it replaces what it supersedes. -/
theorem recent_resolved (config : Config) (state after : State) (task : Task) (query : Message)
    (response : Option Message) (placed : Placed state) (recent : Recent config state)
    (admitted : Replaces config state query response)
    (cache : after.cache = (resolveAndCache config state task query response).cache)
    (replies : after.replies = (resolveAndCache config state task query response).replies)
    (now : after.now = state.now) : Recent config after := by
  have logged : after.replies = state.replies ++ [⟨state.fetched task query, response⟩] := replies
  intro question entry fetch reply asked resp held member keyed same answered settles
  rw [logged] at member
  -- An old entry against any reply, when the new response did not replace it.
  have unreplaced : after.cache.staleWindow = state.cache.staleWindow →
      state.cache.cache question.key = some (entry, fetch) →
      (∀ received own, response = some received → config.key query = some own →
        own.key = question.key → ¬ Storable received) →
      reply.fetch.place ≤ fetch.place ∨ after.cache.staleWindow = 0 ∨
        entry.validUntil + after.cache.staleWindow < after.now := by
    intro window before unstored
    rw [window, now]
    rcases List.mem_append.mp member with old | new
    · exact recent question entry fetch reply asked resp before old keyed same answered settles
    · rw [List.mem_singleton] at new
      subst reply
      rcases admitted resp asked answered keyed settles with storable | past
      · exact absurd storable (unstored resp asked answered keyed same)
      · rw [← same] at before
        exact Or.inr (past entry fetch before)
  have unchanged : after.cache = state.cache →
      (∀ received own, response = some received → config.key query = some own →
        own.key = question.key → ¬ Storable received) →
      reply.fetch.place ≤ fetch.place ∨ after.cache.staleWindow = 0 ∨
        entry.validUntil + after.cache.staleWindow < after.now := by
    intro kept unstored
    rw [kept] at held
    exact unreplaced (by rw [kept]) held unstored
  cases response with
  | none =>
      refine unchanged cache ?_
      intro received own arrived
      cases arrived
  | some received =>
      cases stored : config.key query with
      | none =>
          refine unchanged ?_ ?_
          · rw [cache]
            simp only [resolveAndCache, stored]
          · intro _ own _ contrary
            rw [stored] at contrary
            cases contrary
      | some own =>
          have changed : after.cache = if Storable received then
              state.cache.store own (storedEntry received state.now) (state.fetched task query)
              else state.cache := by
            rw [cache, ← store_response_eq]
            simp only [resolveAndCache, stored]
          by_cases storable : Storable received
          · rw [if_pos storable] at changed
            have replaced := held
            simp only [changed, StaleCache.store] at replaced
            by_cases mine : question.key = own.key
            · -- The new entry is the newest of all.
              rw [mine, Function.update_self, Option.some.injEq, Prod.mk.injEq] at replaced
              rw [← replaced.2]
              rcases List.mem_append.mp member with old | new
              · exact Or.inl (Nat.le_of_lt (placed reply old))
              · rw [List.mem_singleton] at new
                rw [new]
                exact Or.inl (Nat.le_refl _)
            · rw [Function.update_of_ne mine] at replaced
              refine unreplaced (by rw [changed]; rfl) replaced ?_
              intro _ other _ found equal
              rw [stored, Option.some.injEq] at found
              subst other
              exact absurd equal.symm mine
          · rw [if_neg storable] at changed
            refine unchanged changed ?_
            intro other _ arrived _ _
            cases arrived
            exact storable

theorem recent_step (config : Config) (action : Action) (state after : State)
    (placed : Placed state) (recent : Recent config state)
    (admitted : ReplacesStale config action state)
    (taken : step config action state = some after) : Recent config after := by
  have moved := step_moved config action state after taken
  cases moved with
  | evict question =>
      refine recent_kept config state _ recent ?_ rfl rfl (Nat.le_refl _)
      intro key entry fetch held
      by_cases same : key = question.key
      · subst key
        simp [StaleCache.evict] at held
      · simp only [StaleCache.evict, Function.update_of_ne same] at held
        exact held
  | tick elapsed =>
      exact recent_kept config state _ recent (fun _ _ _ held => held) rfl rfl
        (Nat.le_add_right _ _)
  | leaderReplied present located =>
      exact recent_resolved config state _ _ _ _ placed recent (admitted _ present) rfl rfl rfl
  | replied present located =>
      exact recent_resolved config state _ _ _ _ placed recent (admitted _ present) rfl rfl rfl
  | refreshReplied present located =>
      exact recent_resolved config state _ _ _ _ placed recent (admitted _ present) rfl rfl rfl
  | _ => exact recent_kept config state _ recent (fun _ _ _ held => held) rfl rfl (Nat.le_refl _)

/-- What the two directions below share about a reachable state. -/
structure Tracked (config : Config) (state : State) : Prop where
  placed : Placed state
  coalesced : SlotInvariant.Coalesced True state
  sound : Sound config state

theorem tracked_new (config : Config) : Tracked config (State.new config) :=
  ⟨fun _ member => absurd member List.not_mem_nil, SlotInvariant.coalesced_new True config,
    sound_new config⟩

theorem tracked_step (config : Config) (action : Action) (state after : State)
    (tracked : Tracked config state) (taken : step config action state = some after) :
    Tracked config after :=
  ⟨placed_step config action state after tracked.placed
      (step_moved config action state after taken),
    SlotInvariant.coalesced_step config action state after tracked.coalesced (Or.inl trivial) taken,
    sound_step config action state after tracked.sound tracked.coalesced taken⟩

def State.later (state : State) (elapsed : Nat) : State := { state with now := state.now + elapsed }

theorem recent_later (config : Config) (state : State) (elapsed : Nat)
    (recent : Recent config state) : Recent config (State.later state elapsed) :=
  recent_kept config state _ recent (fun _ _ _ held => held) rfl rfl (Nat.le_add_right _ _)

/-- A settling response that leaves a servable entry in place: after some time the
old data is served stale. -/
theorem unreplaced_served (config : Config) (state after : State) (task : Task) (query : Message)
    (response : Option Message) (tracked : Tracked config state)
    (lost : ¬ Replaces config state query response)
    (cache : after.cache = (resolveAndCache config state task query response).cache)
    (replies : after.replies = (resolveAndCache config state task query response).replies)
    (now : after.now = state.now) :
    ∃ elapsed, ¬ NeverSuperseded config (State.later after elapsed) := by
  simp only [Replaces, PastStale, not_forall, not_or, Nat.not_lt] at lost
  rcases lost with ⟨resp, question, arrived, keyed, settles, unstorable, entry, fetch, held, open',
    inside⟩
  subst response
  have unchanged : after.cache = state.cache := by
    rw [cache]
    simp only [resolveAndCache, keyed]
    rw [store_response_eq, if_neg unstorable]
  -- The first instant at which the old entry is expired.
  refine ⟨entry.validUntil + 1 - state.now, ?_⟩
  intro never
  have looked : (State.later after (entry.validUntil + 1 - state.now)).cache.get question
      (State.later after (entry.validUntil + 1 - state.now)).now =
      some (.stale (entry.toResponse staleServeTtl), fetch) := by
    have moment : (State.later after (entry.validUntil + 1 - state.now)).now =
        state.now + (entry.validUntil + 1 - state.now) := by
      rw [← now]
      rfl
    have expired : ¬ state.now + (entry.validUntil + 1 - state.now) ≤ entry.validUntil := by omega
    have within : state.now + (entry.validUntil + 1 - state.now) ≤
        entry.validUntil + state.cache.staleWindow := by omega
    rw [moment, show (State.later after _).cache = state.cache from unchanged]
    simp only [StaleCache.get, held, CacheEntry.lookup, expired, if_false, within, if_true,
      Option.map_some]
  have member : (⟨state.fetched task query, some resp⟩ : Reply) ∈ after.replies := by
    rw [replies]
    exact List.mem_append_right _ List.mem_cons_self
  have bound : state.replies.length ≤ fetch.place :=
    never question _ fetch ⟨state.fetched task query, some resp⟩ question resp looked
      member keyed rfl rfl settles
  rcases tracked.sound.entries question.key entry fetch held with ⟨reply, _, _, logged, _⟩
  -- The old entry came from a round trip before this one.
  have earlier : fetch.place < state.replies.length := tracked.placed _ logged
  omega

/-- What a reply that does not replace was asked with. -/
theorem unreplaced_call (config : Config) (state : State) (id : CallId) (call : Call)
    (response : Option Message) (present : state.calls id = some call)
    (lost : ¬ ReplacesStale config (.reply id response) state) :
    ¬ Replaces config state call.query response := by
  intro replaces
  refine lost fun other same => ?_
  rw [present, Option.some.injEq] at same
  rw [← same]
  exact replaces

theorem unreplaced_step (config : Config) (action : Action) (state after : State)
    (tracked : Tracked config state) (taken : step config action state = some after)
    (lost : ¬ ReplacesStale config action state) :
    ∃ elapsed, ¬ NeverSuperseded config (State.later after elapsed) := by
  -- Only the three moves in which the upstreams answer can fail to replace.
  cases step_moved config action state after taken with
  | @leaderReplied id call question response present located =>
      exact unreplaced_served config state _ (.call id) call.query response tracked
        (unreplaced_call config state id call response present lost) rfl rfl rfl
  | @replied id call status response present located =>
      exact unreplaced_served config state _ (.call id) call.query response tracked
        (unreplaced_call config state id call response present lost) rfl rfl rfl
  | @refreshReplied id refresh response present located =>
      refine unreplaced_served config state _ (.refresh id) refresh.query response tracked ?_ rfl
        rfl rfl
      intro replaces
      refine lost fun other same => ?_
      rw [present, Option.some.injEq] at same
      rw [← same]
      exact replaces
  | _ => exact absurd trivial lost

/-- Now, and at every later instant, in every state the actions lead through. -/
def Throughout (config : Config) : List Action → State → Prop
  | [], state => ∀ elapsed, NeverSuperseded config (State.later state elapsed)
  | action :: rest, state =>
      (∀ elapsed, NeverSuperseded config (State.later state elapsed)) ∧
        ∀ next, step config action state = some next → Throughout config rest next

theorem throughout_start (config : Config) (actions : List Action) (state : State)
    (never : Throughout config actions state) :
    ∀ elapsed, NeverSuperseded config (State.later state elapsed) := by
  cases actions with
  | nil => exact never
  | cons action rest => exact never.1

theorem throughout_of_replaces (config : Config) (actions : List Action) (state after : State)
    (tracked : Tracked config state) (recent : Recent config state)
    (run : Run (step config) (ReplacesStale config) state actions after) :
    Throughout config actions state := by
  induction run with
  | refl state =>
      exact fun elapsed =>
        recent_never_superseded config _ (recent_later config state elapsed recent)
  | @next before middle last action rest admitted taken _ ih =>
      constructor
      · exact fun elapsed =>
          recent_never_superseded config _ (recent_later config before elapsed recent)
      · intro next same
        rw [taken, Option.some.injEq] at same
        subst next
        exact ih (tracked_step config action before middle tracked taken)
          (recent_step config action before middle tracked.placed recent admitted taken)

theorem replaces_of_throughout (config : Config) (actions : List Action) (state after : State)
    (tracked : Tracked config state) (run : Run (step config) anyAction state actions after)
    (never : Throughout config actions state) :
    Run (step config) (ReplacesStale config) state actions after := by
  induction run with
  | refl state => exact Run.refl state
  | @next before middle last action rest _ taken _ ih =>
      have remaining := never.2 middle taken
      refine Run.next ?_ taken
        (ih (tracked_step config action before middle tracked taken) remaining)
      -- Otherwise the state after this step already serves superseded data.
      by_contra lost
      rcases unreplaced_step config action before middle tracked taken lost with ⟨elapsed, served⟩
      exact served (throughout_start config rest middle remaining elapsed)

/-- A run is free of superseded stale answers, in all its states and at all later
instants, exactly when each settling response it receives leaves an entry or
finds none that could still be served stale. -/
theorem never_superseded_iff (config : Config) (actions : List Action) (after : State)
    (run : Run (step config) anyAction (State.new config) actions after) :
    Throughout config actions (State.new config) ↔
      Run (step config) (ReplacesStale config) (State.new config) actions after := by
  constructor
  · exact replaces_of_throughout config actions _ after (tracked_new config) run
  · intro replacing
    refine throughout_of_replaces config actions _ after (tracked_new config) ?_ replacing
    intro question entry fetch reply asked resp held
    cases held

/-- A refresh that brings a cacheable answer keeps the run free of them. -/
theorem never_superseded_refreshed :
    ∃ after, Run (step sampleConfig) anyAction (State.new sampleConfig)
        [.call 0 sampleQuery, .advance 0, .advance 0, .reply 0 (some (sampleReply 300)),
          .tick (secs 301), .call 1 sampleQuery, .advance 1, .advance 1,
          .replyRefresh 1 (some (sampleReply 60))] after ∧
      after.replies.length = 2 ∧
      Throughout sampleConfig
        [.call 0 sampleQuery, .advance 0, .advance 0, .reply 0 (some (sampleReply 300)),
          .tick (secs 301), .call 1 sampleQuery, .advance 1, .advance 1,
          .replyRefresh 1 (some (sampleReply 60))] (State.new sampleConfig) := by
  have storable : ∀ state query ttl, 0 < ttl →
      Replaces sampleConfig state query (some (sampleReply ttl)) := by
    intro state query ttl granted resp question arrived _ _
    cases arrived
    refine Or.inl (Or.inl ⟨⟨rfl, List.cons_ne_nil _ _⟩, ?_⟩)
    show 0 < min ttl maxTtl
    exact Nat.lt_min.mpr ⟨granted, by decide⟩
  have replaced : ∃ after, Run (step sampleConfig) (ReplacesStale sampleConfig)
      (State.new sampleConfig)
      [.call 0 sampleQuery, .advance 0, .advance 0, .reply 0 (some (sampleReply 300)),
        .tick (secs 301), .call 1 sampleQuery, .advance 1, .advance 1,
        .replyRefresh 1 (some (sampleReply 60))] after ∧ after.replies.length = 2 := by
    refine ⟨_, .next trivial rfl (.next trivial rfl (.next trivial rfl (.next ?_ rfl
      (.next trivial rfl (.next trivial rfl (.next trivial rfl (.next trivial rfl
      (.next ?_ rfl (.refl _))))))))), rfl⟩
    · exact fun call _ => storable _ call.query 300 (by decide)
    · exact fun refresh _ => storable _ refresh.query 60 (by decide)
  rcases replaced with ⟨after, run, logged⟩
  have free := run_weaken (fun _ _ _ => trivial) run
  exact ⟨after, free, logged, (never_superseded_iff sampleConfig _ after free).mpr run⟩

/-- The entry expires, its refresh brings the same data with TTL zero, and a
lookup made while that refresh still holds its slot serves the old entry. -/
theorem superseded_served_stale :
    ∃ after call outcome, Run (step sampleConfig) anyAction (State.new sampleConfig)
        [.call 0 sampleQuery, .advance 0, .advance 0, .reply 0 (some (sampleReply 300)),
          .tick (secs 301), .call 1 sampleQuery, .advance 1, .advance 1,
          .replyRefresh 1 (some (sampleReply 0)), .call 2 sampleQuery, .advance 2,
          .advance 2] after ∧
      after.replies.map Reply.response = [some (sampleReply 300), some (sampleReply 0)] ∧
      after.calls 2 = some call ∧ call.phase = .done outcome .Stale ∧
      outcome.fetch.place = 0 ∧ ¬ NeverSuperseded sampleConfig after := by
  have executed : exec (step sampleConfig)
      [.call 0 sampleQuery, .advance 0, .advance 0, .reply 0 (some (sampleReply 300)),
        .tick (secs 301), .call 1 sampleQuery, .advance 1, .advance 1,
        .replyRefresh 1 (some (sampleReply 0)), .call 2 sampleQuery, .advance 2,
        .advance 2] (State.new sampleConfig) = some _ := rfl
  refine ⟨_, _, _, exec_run executed, rfl, rfl, rfl, rfl, ?_⟩
  intro never
  have bound := never sampleQuestion _ _ _ sampleQuestion (sampleReply 0) rfl
    (List.mem_cons_of_mem _ List.mem_cons_self) rfl rfl rfl (Or.inl rfl)
  cases bound

end Dnsix.Superseded
