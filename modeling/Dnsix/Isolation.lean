import Dnsix.Provenance

/-!
Which queries may share an answer. A hit, a stale answer and a coalesced miss all
share by question alone, so any other aspect of the query sent upstream is
preserved only as long as no step shares across it. Here that is stated for an
arbitrary aspect and applied to the checking-disabled bit.
-/

namespace Dnsix.Isolation
open Dns LastWrite ResponseCache Broadcast Transition Pool SlotInvariant Provenance

variable {Aspect : Type} {aspect : Message → Aspect}

/-- The entry a lookup of `question` would answer from, fresh or stale. -/
def Usable (state : State) (question : Query) (entry : CacheEntry) (fetch : Fetch) : Prop :=
  state.cache.cache question.key = some (entry, fetch) ∧
    state.now ≤ entry.validUntil + state.cache.staleWindow

/-- The step shares nothing across the aspect: a usable entry it looks up was
fetched by a query with the same aspect, and so was asked the leader it joins. -/
def SharesWithin (aspect : Message → Aspect) : Action → State → Prop
  | .advance id, state => ∀ call question, state.calls id = some call →
      (call.phase = .looking question → ∀ entry fetch, Usable state question entry fetch →
        aspect fetch.query = aspect call.query) ∧
      (call.phase = .joining question → ∀ leader owner,
        state.singleFlight question.key = some leader → state.calls leader = some owner →
        aspect owner.query = aspect call.query)
  | _, _ => True

/-- The outcome a call holds, before or after it returns it. -/
def carried : Phase → Option Outcome
  | .prefetching _ outcome | .claiming _ outcome | .racing _ outcome _
  | .unslotting _ outcome | .publishing outcome | .done outcome _ => some outcome
  | _ => none

structure Isolated (aspect : Message → Aspect) (state : State) : Prop where
  own : ∀ id call outcome, state.calls id = some call → carried call.phase = some outcome →
    aspect outcome.fetch.query = aspect call.query
  led : ∀ id call leader next owner, state.calls id = some call →
    call.phase = .following leader next → state.calls leader = some owner →
    aspect owner.query = aspect call.query

/-- One call moves and keeps its query; the others only see that query. -/
theorem isolated_updated (config : Config) (state after : State) (id : CallId) (next : Call)
    (isolated : Isolated aspect state) (sound : Sound config state)
    (calls : after.calls = Function.update state.calls id (some next))
    (query : ∀ call, state.calls id = some call → next.query = call.query)
    (own : ∀ outcome, carried next.phase = some outcome →
      aspect outcome.fetch.query = aspect next.query)
    (led : ∀ leader position owner, next.phase = .following leader position →
      state.calls leader = some owner → aspect owner.query = aspect next.query) :
    Isolated aspect after := by
  have unchanged : ∀ other owner, after.calls other = some owner →
      ∀ before, state.calls other = some before → owner.query = before.query := by
    intro other owner present before found
    by_cases same : other = id
    · subst other
      rw [calls, Function.update_self, Option.some.injEq] at present
      subst owner
      exact query before found
    · rw [calls, Function.update_of_ne same, found, Option.some.injEq] at present
      rw [present]
  constructor
  · intro other call outcome present holding
    rcases update_some calls present with ⟨rfl, rfl⟩ | ⟨_, existed⟩
    · exact own outcome holding
    · exact isolated.own other call outcome existed holding
  · intro other call leader position owner present following found
    rcases update_some calls present with ⟨rfl, rfl⟩ | ⟨_, present⟩
    · rcases update_some calls found with ⟨_, rfl⟩ | ⟨_, before⟩
      · rfl
      · exact led leader position owner following before
    · have placed := sound.calls other call present
      rw [following] at placed
      -- The leader of a follower was there before this step.
      rcases placed with ⟨before, existed, _⟩
      rw [unchanged leader owner found before existed]
      exact isolated.led other call leader position before present following existed

theorem isolated_congr (state after : State) (isolated : Isolated aspect state)
    (calls : after.calls = state.calls) : Isolated aspect after := by
  constructor
  · rw [calls]
    exact isolated.own
  · rw [calls]
    exact isolated.led

/-- The moves that start nothing new: the call goes on with what it held. -/
theorem isolated_carried (config : Config) (state after : State) (id : CallId) (call next : Call)
    (isolated : Isolated aspect state) (sound : Sound config state)
    (present : state.calls id = some call)
    (calls : after.calls = Function.update state.calls id (some next))
    (query : next.query = call.query)
    (held : ∀ outcome, carried next.phase = some outcome →
      carried call.phase = some outcome ∨ aspect outcome.fetch.query = aspect call.query)
    (free : ∀ leader position, next.phase ≠ .following leader position) :
    Isolated aspect after := by
  refine isolated_updated config state after id next isolated sound calls ?_ ?_ ?_
  · intro other same
    rw [present, Option.some.injEq] at same
    rw [← same]
    exact query
  · intro outcome holding
    rw [query]
    rcases held outcome holding with before | agreed
    · exact isolated.own id call outcome present before
    · exact agreed
  · intro leader position owner following
    exact absurd following (free leader position)

theorem lookup_agrees (state : State) (id : CallId) (call : Call) (question : Query)
    (found : CacheLookup) (fetch : Fetch)
    (admitted : SharesWithin aspect (.advance id) state)
    (present : state.calls id = some call) (located : call.phase = .looking question)
    (looked : state.cache.get question state.now = some (found, fetch)) :
    aspect fetch.query = aspect call.query := by
  rcases get_entry state question found fetch looked with ⟨entry, _, held, inside, _⟩
  exact (admitted call question present).1 located entry fetch ⟨held, inside⟩

theorem isolated_step (config : Config) (action : Action) (state after : State)
    (isolated : Isolated aspect state) (sound : Sound config state)
    (admitted : SharesWithin aspect action state)
    (taken : step config action state = some after) : Isolated aspect after := by
  cases step_moved config action state after taken with
  | tick elapsed => exact isolated_congr state _ isolated rfl
  | evict question => exact isolated_congr state _ isolated rfl
  | started fresh keyed =>
      refine isolated_updated config state _ _ _ isolated sound rfl ?_ ?_ ?_
      · intro call present
        exact absurd (fresh.symm.trans present) (Option.some_ne_none call).symm
      · intro outcome holding
        cases holding
      · intro leader position owner following
        cases following
  | startedUncached fresh unkeyed =>
      refine isolated_updated config state _ _ _ isolated sound rfl ?_ ?_ ?_
      · intro call present
        exact absurd (fresh.symm.trans present) (Option.some_ne_none call).symm
      · intro outcome holding
        cases holding
      · intro leader position owner following
        cases following
  | @hit id call question response prefetch fetch resp phase present located found built next =>
      have agreed := lookup_agrees state id call question _ fetch admitted present located found
      refine isolated_carried config state _ id call _ isolated sound present rfl rfl ?_ ?_
      · intro outcome holding
        cases prefetch
        · subst phase
          cases holding
          exact Or.inr agreed
        · subst phase
          cases holding
          exact Or.inr agreed
      · intro leader position following
        cases prefetch
        · subst phase
          cases following
        · subst phase
          cases following
  | @staleHit id call question response fetch resp present located found built =>
      have agreed := lookup_agrees state id call question _ fetch admitted present located found
      refine isolated_carried config state _ id call _ isolated sound present rfl rfl ?_
        (fun _ _ => Phase.noConfusion)
      intro outcome holding
      cases holding
      exact Or.inr agreed
  | raceWon present located spawned ended answered =>
      rename_i refresh _
      refine isolated_carried config state _ _ _ _ isolated sound present rfl rfl ?_
        (fun _ _ => Phase.noConfusion)
      intro outcome holding
      cases holding
      -- The refresh asked with the query of the call that spawned it.
      rcases sound.refreshes _ refresh spawned with ⟨⟨owner, same, query⟩, _, phase⟩
      rw [ended] at phase
      have fetched : Fetched state _ refresh.query _ := phase
      rw [present, Option.some.injEq] at same
      subst owner
      right
      rw [fetched.query, query]
  | @followed id leader call question present located slot =>
      refine isolated_updated config state _ id _ isolated sound rfl ?_ ?_ ?_
      · intro other same
        rw [present, Option.some.injEq] at same
        rw [← same]
      · intro outcome holding
        cases holding
      · intro other position owner following found
        injection following with same _
        subst other
        -- The condition at the join is about just this leader.
        exact (admitted call question present).2 located leader owner slot found
  | leaderReplied present located =>
      refine isolated_carried config state _ _ _ _ isolated sound present rfl rfl ?_
        (fun _ _ => Phase.noConfusion)
      intro outcome holding
      cases holding
      exact Or.inr rfl
  | replied present located =>
      refine isolated_carried config state _ _ _ _ isolated sound present rfl rfl ?_
        (fun _ _ => Phase.noConfusion)
      intro outcome holding
      cases holding
      exact Or.inr rfl
  | @received id leader call next outcome present located value =>
      have sent := recv_value_sent (state.channels leader) next outcome value
      rcases sound.sent leader outcome sent with ⟨owner, found, fetched⟩
      refine isolated_carried config state _ id call _ isolated sound present rfl rfl ?_
        (fun _ _ => Phase.noConfusion)
      intro result holding
      cases holding
      right
      rw [fetched.query]
      exact isolated.led id call leader next owner present located found
  | @unslotted id call question outcome present located =>
      refine isolated_carried config state _ id call { call with phase := .publishing outcome }
        isolated sound present rfl rfl ?_ (fun _ _ => Phase.noConfusion)
      intro result holding
      cases holding
      left
      rw [located]
      rfl
  | refreshReplied present located => exact isolated_congr state _ isolated rfl
  | refreshFinished present located => exact isolated_congr state _ isolated rfl
  | refreshPanicked present located => exact isolated_congr state _ isolated rfl
  | aborted present located =>
      exact isolated_carried config state _ _ _ _ isolated sound present rfl rfl
        (fun _ holding => nomatch holding) (fun _ _ => Phase.noConfusion)
  | _ present located =>
      -- The call keeps the outcome it holds, or holds none after the step.
      refine isolated_carried config state _ _ _ _ isolated sound present rfl rfl ?_
        (fun _ _ => Phase.noConfusion)
      intro outcome holding
      cases holding <;> exact Or.inl (by rw [located]; rfl)

/-- In a run that shares nothing across the aspect, every call holds an answer
fetched with its own. -/
theorem isolated_run (config : Config) (actions : List Action) (after : State)
    (run : Run (step config) (SharesWithin aspect) (State.new config) actions after) :
    Isolated aspect after := by
  have both : (Coalesced True after ∧ Sound config after) ∧ Isolated aspect after :=
    run_invariant
      (motive := fun state => (Coalesced True state ∧ Sound config state) ∧
        Isolated aspect state)
      (fun action before next kept admitted taken =>
        ⟨⟨coalesced_step config action before next kept.1.1 (Or.inl trivial) taken,
          sound_step config action before next kept.1.2 kept.1.1 taken⟩,
          isolated_step config action before next kept.2 kept.1.2 admitted taken⟩)
      run ⟨⟨coalesced_new True config, sound_new config⟩, by
        constructor
        · intro id call outcome present
          cases present
        · intro id call leader next owner present
          cases present⟩
  exact both.2

theorem shares_lookup (state : State) (id : CallId) (call : Call) (question : Query)
    (present : state.calls id = some call) (located : call.phase = .looking question)
    (agreed : ∀ entry fetch, state.cache.cache question.key = some (entry, fetch) →
      aspect fetch.query = aspect call.query) : SharesWithin aspect (.advance id) state := by
  intro other same found
  rw [present, Option.some.injEq] at found
  subst other
  constructor
  · intro looking entry fetch usable
    rw [located] at looking
    cases looking
    exact agreed entry fetch usable.1
  · intro joining
    rw [located] at joining
    cases joining

theorem shares_join (state : State) (id : CallId) (call : Call) (question : Query)
    (present : state.calls id = some call) (located : call.phase = .joining question)
    (free : state.singleFlight question.key = none) : SharesWithin aspect (.advance id) state := by
  intro other same found
  rw [present, Option.some.injEq] at found
  subst other
  constructor
  · intro looking
    rw [located] at looking
    cases looking
  · intro joining leader owner slot
    rw [located] at joining
    cases joining
    rw [free] at slot
    cases slot

theorem shares_other (state : State) (id : CallId) (call : Call)
    (present : state.calls id = some call) (holding : carried call.phase ≠ none) :
    SharesWithin aspect (.advance id) state := by
  intro other same found
  rw [present, Option.some.injEq] at found
  subst other
  constructor
  · intro looking
    exact absurd (by rw [looking]; rfl) holding
  · intro joining
    exact absurd (by rw [joining]; rfl) holding

/-! The checking-disabled bit. -/

/-- The upstream data an outcome was made of: its round trip is logged, and the
answer is the reply itself or was rebuilt from the entry the reply became. -/
def Obtained (config : Config) (state : State) (outcome : Outcome) : Prop :=
  (⟨outcome.fetch, outcome.answer⟩ : Reply) ∈ state.replies ∨
    ∃ question, FromCache config state question outcome

theorem done_obtained (config : Config) (state : State) (id : CallId) (call : Call)
    (outcome : Outcome) (status : CacheStatus)
    (sound : DoneSound config state id call outcome status) : Obtained config state outcome := by
  cases status with
  | Uncached => exact Or.inl sound.2.logged
  | Miss =>
      rcases sound with ⟨_, fetched⟩ | ⟨_, _, _, _, _, fetched⟩
      · exact Or.inl fetched.logged
      · exact Or.inl fetched.logged
  | Hit =>
      rcases sound with ⟨question, _, cached⟩
      exact Or.inr ⟨question, cached⟩
  | Stale =>
      rcases sound with ⟨question, _, cached | ⟨fetched, _⟩⟩
      · exact Or.inr ⟨question, cached⟩
      · exact Or.inl fetched.logged

/-- Every answered query without the DO bit got data that was fetched with its
own checking-disabled bit. -/
def CdIsolated (config : Config) (state : State) : Prop :=
  ∀ id call outcome status, state.calls id = some call → call.phase = .done outcome status →
    call.query.dnssecOk = false →
    Obtained config state outcome ∧
      outcome.fetch.query.checkingDisabled = call.query.checkingDisabled

theorem cd_isolated_run (config : Config) (actions : List Action) (after : State)
    (run : Run (step config) (SharesWithin Message.checkingDisabled) (State.new config)
      actions after) : CdIsolated config after := by
  intro id call outcome status present ended _
  constructor
  · have placed := (reachable_sound config _ actions after run).2.calls id call present
    rw [ended] at placed
    exact done_obtained config after id call outcome status placed
  · exact (isolated_run config actions after run).own id call outcome present
      (by rw [ended]; rfl)

/-- A second query with the same bit is answered from the entry of the first. -/
theorem cd_isolated_shared_entry :
    ∃ after outcome, Run (step sampleConfig) (SharesWithin Message.checkingDisabled)
        (State.new sampleConfig)
        [.call 0 sampleQuery, .advance 0, .advance 0, .reply 0 (some (sampleReply 300)),
          .advance 0, .advance 0, .call 1 sampleQuery, .advance 1] after ∧
      (after.calls 1).map Call.phase = some (.done outcome .Hit) ∧
      after.replies.length = 1 ∧ CdIsolated sampleConfig after := by
  have shared : ∃ after outcome, Run (step sampleConfig)
      (SharesWithin Message.checkingDisabled) (State.new sampleConfig)
      [.call 0 sampleQuery, .advance 0, .advance 0, .reply 0 (some (sampleReply 300)),
        .advance 0, .advance 0, .call 1 sampleQuery, .advance 1] after ∧
      (after.calls 1).map Call.phase = some (.done outcome .Hit) ∧ after.replies.length = 1 := by
    refine ⟨_, _, .next trivial rfl (.next (shares_lookup _ _ _ _ rfl rfl ?_) rfl
      (.next (shares_join _ _ _ _ rfl rfl rfl) rfl (.next trivial rfl
      (.next (shares_other _ _ _ rfl ?_) rfl (.next (shares_other _ _ _ rfl ?_) rfl
      (.next trivial rfl (.next (shares_lookup _ _ _ _ rfl rfl ?_) rfl (.refl _)))))))),
      rfl, rfl⟩
    · intro entry fetch held
      cases held
    · exact Option.some_ne_none _
    · exact Option.some_ne_none _
    · intro entry fetch held
      cases held
      rfl
  rcases shared with ⟨after, outcome, run, hit, single⟩
  exact ⟨after, outcome, run, hit, single, cd_isolated_run sampleConfig _ _ run⟩

def checkingQuery : Message :=
  { sampleQuery with header := { sampleQuery.header with checkingDisabled := true } }

/-- The only round trip of the run asked with checking disabled, and its data
answers a query without it. -/
theorem cd_leaks_through_hit :
    ∃ after call outcome, Run (step sampleConfig) anyAction (State.new sampleConfig)
        [.call 0 checkingQuery, .advance 0, .advance 0, .reply 0 (some (sampleReply 300)),
          .advance 0, .advance 0, .call 1 sampleQuery, .advance 1] after ∧
      after.calls 1 = some call ∧ call.phase = .done outcome .Hit ∧
      call.query.dnssecOk = false ∧ call.query.checkingDisabled = false ∧
      outcome.answer.isSome = true ∧
      after.replies.map (fun reply => reply.fetch.query.checkingDisabled) = [true] ∧
      ¬ CdIsolated sampleConfig after := by
  have executed : exec (step sampleConfig)
      [.call 0 checkingQuery, .advance 0, .advance 0, .reply 0 (some (sampleReply 300)),
        .advance 0, .advance 0, .call 1 sampleQuery, .advance 1]
      (State.new sampleConfig) = some _ := rfl
  refine ⟨_, _, _, exec_run executed, rfl, rfl, rfl, rfl, rfl, rfl, ?_⟩
  intro isolated
  have same := (isolated 1 _ _ .Hit rfl rfl rfl).2
  cases same

end Dnsix.Isolation
