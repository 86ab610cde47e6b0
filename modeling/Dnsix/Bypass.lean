import Dnsix.Hiding
import Dnsix.Provenance

/-!
Queries that bypass the cache: with the DNSSEC-OK bit, or without exactly one question.
Such a call returns its own round trip and leaves the shared state alone, so adding or
removing these calls anywhere in a run changes nothing for the others.
-/

namespace Dnsix.Bypass
open Dns ResponseCache Broadcast Transition Pool Provenance SlotInvariant

variable {config : Config} {gone : CallId → Bool}

def bypasses (query : Message) : Bool := (cacheableQuestion query).isNone

/-- The call is started with a query that bypasses the cache. -/
def bypassing (actions : List Action) (id : CallId) : Bool :=
  actions.any fun
    | .call other query => other == id && bypasses query
    | _ => false

def visible (gone : CallId → Bool) (action : Action) : Bool :=
  (actor action).all fun id => !gone id

/-- The actions of the other calls and of everything else. -/
def others (actions : List Action) : List Action := actions.filter (visible (bypassing actions))

theorem bypasses_unkeyed (query : Message) (around : bypasses query = true) :
    config.key query = none := by
  unfold Config.key
  rw [Option.isNone_iff_eq_none.mp around, ite_self]

theorem bypassing_iff (actions : List Action) (id : CallId) :
    bypassing actions id = true ↔
      ∃ query, Action.call id query ∈ actions ∧ bypasses query = true := by
  unfold bypassing
  rw [List.any_eq_true]
  constructor
  · rintro ⟨action, listed, starts⟩
    cases action with
    | call other query =>
        rw [Bool.and_eq_true, beq_iff_eq] at starts
        exact ⟨query, starts.1 ▸ listed, starts.2⟩
    | _ => cases starts
  · rintro ⟨query, listed, around⟩
    exact ⟨_, listed, by simp [around]⟩

/-! One call that has no key. -/
section Unkeyed

/-- Where such a call can stand. -/
def OwnAnswer (state : State) (id : CallId) (call : Call) : Prop :=
  call.phase = .resolving .Uncached ∨ call.phase = .aborted ∨
    ∃ outcome, call.phase = .done outcome .Uncached ∧
      Fetched state (.call id) call.query outcome

theorem same_key_keyed (query other : Message) (shared : SameKey config query other) :
    config.key query ≠ none := by
  rcases shared with ⟨question, _, keyed, _⟩
  rw [keyed]
  exact Option.some_ne_none question

theorem unkeyed_own (state : State) (sound : Sound config state) (id : CallId) (call : Call)
    (present : state.calls id = some call) (unkeyed : config.key call.query = none) :
    OwnAnswer state id call := by
  have keyless : ∀ question, config.key call.query ≠ some question := by
    intro question keyed
    rw [unkeyed] at keyed
    cases keyed
  have placed := sound.calls id call present
  unfold PhaseSound at placed
  split at placed
  · exact absurd placed (keyless _)
  · exact absurd placed (keyless _)
  · exact absurd placed (keyless _)
  · exact absurd placed.1 (keyless _)
  · exact absurd placed.1 (keyless _)
  · exact absurd placed.1 (keyless _)
  · exact absurd placed.1 (keyless _)
  · exact absurd unkeyed placed.1
  · rcases placed with ⟨owner, _, shared⟩
    exact absurd unkeyed (same_key_keyed _ _ shared)
  · rename_i status located
    rcases placed with ⟨rfl, _⟩ | ⟨_, keyed⟩
    · exact .inl located
    · exact absurd unkeyed keyed
  · rename_i outcome status located
    cases status with
    | Uncached => exact .inr (.inr ⟨outcome, located, placed.2⟩)
    | Miss =>
        rcases placed with ⟨keyed, _⟩ | ⟨_, owner, _, _, shared, _⟩
        · exact absurd unkeyed keyed
        · exact absurd unkeyed (same_key_keyed _ _ shared)
    | Hit =>
        rcases placed with ⟨question, keyed, _⟩
        exact absurd keyed (keyless question)
    | Stale =>
        rcases placed with ⟨question, keyed, _⟩
        exact absurd keyed (keyless question)
  · rename_i located
    exact .inr (.inl located)

/-- Nothing that other calls read. -/
structure Untouched (state after : State) : Prop where
  now : after.now = state.now
  cache : after.cache = state.cache
  inFlight : after.inFlight = state.inFlight
  singleFlight : after.singleFlight = state.singleFlight
  channels : after.channels = state.channels
  refreshes : after.refreshes = state.refreshes

/-- The three things such a call can do. -/
theorem unkeyed_moved (action : Action) (state after : State) (sound : Sound config state)
    (id : CallId) (acted : actor action = some id)
    (unkeyed : ∀ call, state.calls id = some call → config.key call.query = none)
    (starts : ∀ query, action = .call id query → config.key query = none)
    (moved : Moved config state action after) :
    (∃ query, action = .call id query ∧
        after = state.setCall id ⟨query, .resolving .Uncached, none⟩) ∨
      (∃ call response, action = .reply id response ∧ state.calls id = some call ∧
        after = (resolveAndCache config state (.call id) call.query response).setPhase id call
          (.done (state.outcome (.call id) call.query response) .Uncached)) ∨
      ∃ call, action = .abort id ∧ state.calls id = some call ∧
        after = state.setPhase id call .aborted := by
  have placed : ∀ call, state.calls id = some call → OwnAnswer state id call :=
    fun call present => unkeyed_own state sound id call present (unkeyed call present)
  cases moved with
  | started fresh keyed =>
      cases acted
      rw [starts _ rfl] at keyed
      cases keyed
  | startedUncached fresh _ =>
      cases acted
      exact .inl ⟨_, rfl, rfl⟩
  | @replied other call status response present located =>
      cases acted
      rcases placed call present with waiting | aborted | ⟨outcome, ended, _⟩
      · rw [located] at waiting
        cases waiting
        exact .inr (.inl ⟨call, response, rfl, present, rfl⟩)
      · rw [located] at aborted
        cases aborted
      · rw [located] at ended
        cases ended
  | aborted present located =>
      cases acted
      exact .inr (.inr ⟨_, rfl, present, rfl⟩)
  | tick elapsed => cases acted
  | evict question => cases acted
  | refreshReplied present located => cases acted
  | refreshFinished present located => cases acted
  | refreshPanicked present located => cases acted
  | _ present located =>
      cases acted
      rcases placed _ present with waiting | aborted | ⟨outcome, ended, _⟩
      · rw [located] at waiting
        cases waiting
      · rw [located] at aborted
        cases aborted
      · rw [located] at ended
        cases ended

theorem resolve_unkeyed_cache (state : State) (task : Task) (query : Message)
    (response : Option Message) (unkeyed : config.key query = none) :
    (resolveAndCache config state task query response).cache = state.cache := by
  unfold resolveAndCache
  rw [unkeyed]
  cases response <;> rfl

theorem unkeyed_step (action : Action) (state after : State) (sound : Sound config state)
    (id : CallId) (acted : actor action = some id)
    (unkeyed : ∀ call, state.calls id = some call → config.key call.query = none)
    (starts : ∀ query, action = .call id query → config.key query = none)
    (taken : step config action state = some after) :
    Untouched state after ∧ ∀ response, action = .reply id response →
      ∃ call fetch, state.calls id = some call ∧ after.calls id =
        some { call with phase := .done ⟨response, fetch⟩ .Uncached } := by
  have moved := step_moved config action state after taken
  rcases unkeyed_moved action state after sound id acted unkeyed starts moved with
    ⟨query, rfl, rfl⟩ | ⟨call, response, rfl, present, rfl⟩ | ⟨call, rfl, present, rfl⟩
  · exact ⟨⟨rfl, rfl, rfl, rfl, rfl, rfl⟩, fun _ impossible => nomatch impossible⟩
  · have cache := resolve_unkeyed_cache state (.call id) call.query response
      (unkeyed call present)
    refine ⟨⟨rfl, cache, rfl, rfl, rfl, rfl⟩, ?_⟩
    intro other same
    cases same
    exact ⟨call, _, present, Function.update_self _ _ _⟩
  · exact ⟨⟨rfl, rfl, rfl, rfl, rfl, rfl⟩, fun _ impossible => nomatch impossible⟩

/-- Nothing of such a step is left once its call is hidden. -/
theorem hide_unkeyed_step (action : Action) (state after : State) (sound : Sound config state)
    (id : CallId) (acted : actor action = some id) (hidden : gone id = true)
    (unkeyed : ∀ call, state.calls id = some call → config.key call.query = none)
    (starts : ∀ query, action = .call id query → config.key query = none)
    (taken : step config action state = some after) : hide gone after = hide gone state := by
  have moved := step_moved config action state after taken
  rcases unkeyed_moved action state after sound id acted unkeyed starts moved with
    ⟨query, rfl, rfl⟩ | ⟨call, response, rfl, present, rfl⟩ | ⟨call, rfl, present, rfl⟩
  · exact hide_hidden_call state id _ hidden
  · refine (hide_hidden_call _ id _ hidden).trans ?_
    exact hide_hidden_resolve config state id call.query response hidden
      (resolve_unkeyed_cache state (.call id) call.query response (unkeyed call present))
  · exact hide_hidden_call state id _ hidden

end Unkeyed

/-! The queries of the calls of a run. -/
section Queries

/-- A call keeps the query it was started with. -/
theorem moved_query (action : Action) (state after : State) (id : CallId) (later : Call)
    (moved : Moved config state action after) (present : after.calls id = some later) :
    (∃ call, state.calls id = some call ∧ later.query = call.query) ∨
      action = .call id later.query := by
  rcases moved_calls config action state after moved with
    same | ⟨other, next, acted, calls, turned, _⟩
  · exact .inl ⟨later, same ▸ present, rfl⟩
  · by_cases same : id = other
    · subst other
      rw [calls, Function.update_self, Option.some.injEq] at present
      subst later
      cases existed : state.calls id with
      | some call => exact .inl ⟨call, rfl, (turned call existed).2⟩
      | none =>
          right
          have whole : after.calls id = some next := by
            rw [calls, Function.update_self]
          cases moved with
          | started fresh keyed =>
              cases acted
              simp only [State.setCall, Function.update_self, Option.some.injEq] at whole
              rw [← whole]
          | startedUncached fresh keyed =>
              cases acted
              simp only [State.setCall, Function.update_self, Option.some.injEq] at whole
              rw [← whole]
          | tick elapsed => cases acted
          | evict question => cases acted
          | refreshReplied found located => cases acted
          | refreshFinished found located => cases acted
          | refreshPanicked found located => cases acted
          | _ found located =>
              cases acted
              rw [existed] at found
              cases found
    · rw [calls, Function.update_of_ne same] at present
      exact .inl ⟨later, present, rfl⟩

theorem query_kept_step (action : Action) (state after : State) (id : CallId) (call : Call)
    (taken : step config action state = some after) (present : state.calls id = some call) :
    ∃ later, after.calls id = some later ∧ later.query = call.query := by
  rcases moved_calls config action state after (step_moved config action state after taken) with
    same | ⟨other, next, _, calls, turned, _⟩
  · exact ⟨call, same ▸ present, rfl⟩
  · by_cases same : id = other
    · subst other
      exact ⟨next, by rw [calls, Function.update_self], (turned call present).2⟩
    · exact ⟨call, by rw [calls, Function.update_of_ne same]; exact present, rfl⟩

theorem query_kept_run {allowed : Action → State → Prop} (actions : List Action)
    (state after : State) (id : CallId) (call : Call)
    (run : Run (step config) allowed state actions after) (present : state.calls id = some call) :
    ∃ later, after.calls id = some later ∧ later.query = call.query := by
  refine run_invariant
    (motive := fun current => ∃ later, current.calls id = some later ∧ later.query = call.query)
    ?_ run ⟨call, present, rfl⟩
  rintro action before next ⟨middle, found, query⟩ _ taken
  rcases query_kept_step action before next id middle taken found with ⟨later, kept, same⟩
  exact ⟨later, kept, same.trans query⟩

/-- A call is started once, so a run starts it with one query. -/
theorem started_run {allowed : Action → State → Prop} (actions : List Action)
    (state after : State) (id : CallId) (query : Message)
    (run : Run (step config) allowed state actions after)
    (listed : Action.call id query ∈ actions) :
    ∃ call, after.calls id = some call ∧ call.query = query := by
  induction run with
  | refl => cases listed
  | @next before middle after action rest _ taken later ih =>
      rcases List.mem_cons.mp listed with rfl | behind
      · have moved := step_moved config _ before middle taken
        have begun : ∃ call, middle.calls id = some call ∧ call.query = query := by
          cases moved with
          | started fresh keyed => exact ⟨_, Function.update_self _ _ _, rfl⟩
          | startedUncached fresh unkeyed => exact ⟨_, Function.update_self _ _ _, rfl⟩
        rcases begun with ⟨call, found, same⟩
        rcases query_kept_run rest middle after id call later found with ⟨last, kept, query⟩
        exact ⟨last, kept, query.trans same⟩
      · exact ih behind

end Queries

/-! Erasing calls from a run. -/
section Erasing

/-- The hidden calls have no key. -/
structure Apart (config : Config) (gone : CallId → Bool) (state : State) : Prop where
  coalesced : Coalesced True state
  sound : Sound config state
  unkeyed : ∀ id call, gone id = true → state.calls id = some call →
    config.key call.query = none

def StartsApart (config : Config) (gone : CallId → Bool) (action : Action) : Prop :=
  ∀ id query, gone id = true → action = .call id query → config.key query = none

theorem apart_new (config : Config) (gone : CallId → Bool) : Apart config gone (.new config) :=
  ⟨coalesced_new True config, sound_new config, fun _ _ _ present => nomatch present⟩

theorem apart_step (action : Action) (state after : State) (apart : Apart config gone state)
    (starts : StartsApart config gone action) (taken : step config action state = some after) :
    Apart config gone after := by
  constructor
  · exact coalesced_step config action state after apart.coalesced (Or.inl trivial) taken
  · exact sound_step config action state after apart.sound apart.coalesced taken
  · intro id later hidden present
    rcases moved_query action state after id later (step_moved config action state after taken)
      present with ⟨call, found, query⟩ | started
    · rw [query]
      exact apart.unkeyed id call hidden found
    · exact starts id later.query hidden started

theorem erased_run (actions : List Action) (state after other : State)
    (run : Run (step config) (fun action _ => StartsApart config gone action) state actions after)
    (left : Apart config gone state) (right : Apart config gone other)
    (same : hide gone state = hide gone other) :
    ∃ last, Run (step config) (fun action _ => StartsApart config gone action) other
        (actions.filter (visible gone)) last ∧ hide gone after = hide gone last := by
  refine run_erased (Apart config gone) apart_step ?_ ?_ run other left right same
  · intro action before next apart starts hidden taken
    rcases acted : actor action with _ | id
    · simp [visible, acted] at hidden
    · have hiddenId : gone id = true := by simpa [visible, acted] using hidden
      exact hide_unkeyed_step action before next apart.sound id acted hiddenId
        (fun call present => apart.unkeyed id call hiddenId present)
        (fun query started => starts id query hiddenId started) taken
  · intro action before next beside _ _ starts seen agree taken
    have shown : ∀ id, actor action = some id → gone id = false := by
      intro id acted
      simpa [visible, acted] using seen
    have here := hide_step config before action shown
    have there := hide_step config beside action shown
    rw [← agree, ← here, taken] at there
    rcases Option.map_eq_some_iff.mp there with ⟨last, moved, equal⟩
    exact ⟨starts, last, moved, equal.symm⟩

end Erasing

/-! What is left of two runs that differ in such calls only. -/
section Comparison

/-- The shared state agrees, and so do the calls that are not hidden, up to the place of
a round trip in the log. -/
structure Unaffected (gone : CallId → Bool) (left right : State) : Prop where
  now : left.now = right.now
  cache : ∀ key, (left.cache.cache key).map Prod.fst = (right.cache.cache key).map Prod.fst
  inFlight : left.inFlight = right.inFlight
  singleFlight : left.singleFlight = right.singleFlight
  refreshes : ∀ id, (left.refreshes id).map Refresh.unplaced =
    (right.refreshes id).map Refresh.unplaced
  calls : ∀ id, gone id = false →
    (left.calls id).map Call.unplaced = (right.calls id).map Call.unplaced

theorem hidden_unaffected (left right : State) (same : hide gone left = hide gone right) :
    Unaffected gone left right := by
  have stored : ∀ state : State, ∀ key, (state.cache.cache key).map Prod.fst =
      ((hide gone state).cache.cache key).map Prod.fst := by
    intro state key
    change _ = ((state.cache.cache key).map fun pair => (pair.1, pair.2.unplaced)).map Prod.fst
    rw [Option.map_map]
    rfl
  have now := congrArg State.now same
  have inFlight := congrArg State.inFlight same
  have singleFlight := congrArg State.singleFlight same
  constructor
  · exact now
  · intro key
    rw [stored left, stored right, same]
  · exact inFlight
  · exact singleFlight
  · exact fun id => congrFun (congrArg State.refreshes same) id
  · intro id shown
    have agreed := congrFun (congrArg State.calls same) id
    simpa [hide, shown] using agreed

theorem unaffected_widen {wider : CallId → Bool} (left right : State)
    (more : ∀ id, wider id = false → gone id = false) (agree : Unaffected gone left right) :
    Unaffected wider left right :=
  { agree with calls := fun id shown => agree.calls id (more id shown) }

theorem unaffected_symm (left right : State) (agree : Unaffected gone left right) :
    Unaffected gone right left where
  now := agree.now.symm
  cache key := (agree.cache key).symm
  inFlight := agree.inFlight.symm
  singleFlight := agree.singleFlight.symm
  refreshes id := (agree.refreshes id).symm
  calls id shown := (agree.calls id shown).symm

theorem unaffected_trans (left middle right : State) (first : Unaffected gone left middle)
    (second : Unaffected gone middle right) : Unaffected gone left right where
  now := first.now.trans second.now
  cache key := (first.cache key).trans (second.cache key)
  inFlight := first.inFlight.trans second.inFlight
  singleFlight := first.singleFlight.trans second.singleFlight
  refreshes id := (first.refreshes id).trans (second.refreshes id)
  calls id shown := (first.calls id shown).trans (second.calls id shown)

theorem run_starts_apart (actions : List Action) (after : State)
    (run : Run (step config) anyAction (State.new config) actions after) :
    Run (step config) (fun action _ => StartsApart config (bypassing actions) action)
      (State.new config) actions after := by
  apply run_restrict _ run
  rintro action listed id query hidden rfl
  rcases (bypassing_iff actions id).mp hidden with ⟨other, begun, around⟩
  rcases started_run actions _ after id query run listed with ⟨call, present, rfl⟩
  rcases started_run actions _ after id other run begun with ⟨same, found, rfl⟩
  rw [present, Option.some.injEq] at found
  subst same
  exact bypasses_unkeyed _ around

/-- Removing every such call from a run leaves a run in which the others fare alike. -/
theorem deleted_run (actions : List Action) (after : State)
    (run : Run (step config) anyAction (State.new config) actions after) :
    ∃ without, Run (step config) anyAction (State.new config) (others actions) without ∧
      Unaffected (bypassing actions) after without := by
  have apart := apart_new config (bypassing actions)
  rcases erased_run actions _ after (State.new config) (run_starts_apart actions after run) apart
    apart rfl with ⟨without, rerun, same⟩
  exact ⟨without, run_weaken (fun _ _ _ => trivial) rerun, hidden_unaffected after without same⟩

theorem compared_runs (actions others' : List Action) (after last : State)
    (run : Run (step config) anyAction (State.new config) actions after)
    (rerun : Run (step config) anyAction (State.new config) others' last)
    (same : others actions = others others') :
    Unaffected (fun id => bypassing actions id || bypassing others' id) after last := by
  rcases deleted_run actions after run with ⟨left, first, agrees⟩
  rcases deleted_run others' last rerun with ⟨right, second, agreed⟩
  rw [same] at first
  cases run_deterministic first second
  apply unaffected_trans after left last
  · exact unaffected_widen after left (fun id shown => (Bool.or_eq_false_iff.mp shown).1) agrees
  · apply unaffected_symm
    exact unaffected_widen last left (fun id shown => (Bool.or_eq_false_iff.mp shown).2) agreed

theorem elsewhere_run {allowed : Action → State → Prop} (actions : List Action)
    (state after : State) (id : CallId) (apart : ∀ action ∈ actions, actor action ≠ some id)
    (run : Run (step config) allowed state actions after) :
    after.calls id = state.calls id := by
  induction run with
  | refl => rfl
  | next _ taken _ ih =>
      rw [List.forall_mem_cons] at apart
      rw [ih apart.2]
      exact moved_elsewhere config _ _ _ id (step_moved config _ _ _ taken) apart.1

def only (id : CallId) : CallId → Bool := fun other => other == id

theorem visible_all (actions : List Action) (id : CallId)
    (apart : ∀ action ∈ actions, actor action ≠ some id) :
    actions.filter (visible (only id)) = actions := by
  rw [List.filter_eq_self]
  intro action listed
  rcases acted : actor action with _ | other
  · simp [visible, acted]
  · have different : other ≠ id := fun same => apart action listed (same ▸ acted)
    simp [visible, acted, only, different]

/-- Such a call can be inserted anywhere, and answered at any later point. -/
theorem inserted_run (front middle back : List Action) (after : State) (id : CallId)
    (query : Message) (response : Option Message) (around : bypasses query = true)
    (fresh : ∀ action ∈ front ++ (middle ++ back), actor action ≠ some id)
    (run : Run (step config) anyAction (State.new config) (front ++ (middle ++ back)) after) :
    ∃ longer fetch, Run (step config) anyAction (State.new config)
        (front ++ .call id query :: (middle ++ .reply id response :: back)) longer ∧
      Unaffected (only id) after longer ∧
      longer.calls id = some ⟨query, .done ⟨response, fetch⟩ .Uncached, none⟩ := by
  have unkeyed : config.key query = none := bypasses_unkeyed query around
  have hidden : only id id = true := beq_self_eq_true id
  have starts : ∀ action ∈ front ++ (middle ++ back), StartsApart config (only id) action := by
    rintro action listed other _ same rfl
    exact absurd (congrArg some (beq_iff_eq.mp same : other = id)) (fresh _ listed)
  rcases run_split (run_restrict starts run) with ⟨begun, first, later⟩
  rcases run_split later with ⟨waited, second, third⟩
  simp only [List.mem_append, or_imp, forall_and] at fresh
  have absent : begun.calls id = none := elsewhere_run front _ begun id fresh.1 first
  have apart := run_invariant apart_step first (apart_new config (only id))
  -- The call starts and is carried through the middle.
  have started : step config (.call id query) begun =
      some (begun.setCall id ⟨query, .resolving .Uncached, none⟩) := by
    simp [step, absent, startCall, unkeyed]
  have admits : StartsApart config (only id) (.call id query) := by
    rintro other _ _ same
    cases same
    exact unkeyed
  have joined := apart_step _ _ _ apart admits started
  rcases erased_run middle begun waited _ second apart joined
    (hide_hidden_call begun id _ hidden).symm with ⟨carried, through, same⟩
  rw [visible_all middle id fresh.2.1] at through
  have resolving : carried.calls id = some ⟨query, .resolving .Uncached, none⟩ :=
    (elsewhere_run middle _ carried id fresh.2.1 through).trans (Function.update_self _ _ _)
  -- It is answered and carried through the rest.
  have replied : step config (.reply id response) carried = some
      ((resolveAndCache config carried (.call id) query response).setPhase id
        ⟨query, .resolving .Uncached, none⟩
        (.done (carried.outcome (.call id) query response) .Uncached)) := by
    simp [step, resolving, replyCall]
  have apartCarried := run_invariant apart_step through joined
  have passive : StartsApart config (only id) (.reply id response) := by
    intro _ _ _ impossible
    cases impossible
  have answered := apart_step _ _ _ apartCarried passive replied
  have gone := hide_unkeyed_step (.reply id response) carried _ apartCarried.sound id rfl hidden
    (fun call present => apartCarried.unkeyed id call hidden present)
    (by intro _ impossible; cases impossible) replied
  rcases erased_run back waited after _ third (run_invariant apart_step second apart) answered
    (same.trans gone.symm) with ⟨longer, onward, agreed⟩
  rw [visible_all back id fresh.2.2] at onward
  refine ⟨longer, carried.fetched (.call id) query, ?_, hidden_unaffected after longer agreed, ?_⟩
  · apply run_weaken (fun _ _ _ => trivial)
    exact run_append first (Run.next admits started (run_append through
      (Run.next passive replied onward)))
  · exact (elsewhere_run back _ longer id fresh.2.2 onward).trans (Function.update_self _ _ _)

end Comparison

/-- Everything a run owes to its calls that bypass the cache. -/
structure Isolation (config : Config) (actions : List Action) (after : State) : Prop where
  own : ∀ id call, after.calls id = some call → bypasses call.query = true →
    OwnAnswer after id call ∧ after.refreshes id = none
  leaves : ∀ action next id, step config action after = some next → actor action = some id →
    (∀ call, after.calls id = some call → bypasses call.query = true) →
    (∀ query, action = .call id query → bypasses query = true) →
    Untouched after next ∧ ∀ response, action = .reply id response →
      ∃ call fetch, after.calls id = some call ∧ next.calls id =
        some { call with phase := .done ⟨response, fetch⟩ .Uncached }
  deleted : ∃ without, Run (step config) anyAction (State.new config) (others actions) without ∧
    Unaffected (bypassing actions) after without
  inserted : ∀ front middle back id query response, actions = front ++ (middle ++ back) →
    (∀ action ∈ actions, actor action ≠ some id) → bypasses query = true →
    ∃ longer fetch, Run (step config) anyAction (State.new config)
        (front ++ .call id query :: (middle ++ .reply id response :: back)) longer ∧
      Unaffected (only id) after longer ∧
      longer.calls id = some ⟨query, .done ⟨response, fetch⟩ .Uncached, none⟩
  compared : ∀ actions' last, Run (step config) anyAction (State.new config) actions' last →
    others actions = others actions' →
    Unaffected (fun id => bypassing actions id || bypassing actions' id) after last

/-- A query that bypasses the cache is answered by its own round trip, touches nothing
shared, and may be inserted or deleted anywhere in a run. -/
theorem bypass_isolated (config : Config) (actions : List Action) (after : State)
    (run : Run (step config) anyAction (State.new config) actions after) :
    Isolation config actions after := by
  have sound := (reachable_sound config anyAction actions after run).2
  constructor
  · intro id call present around
    have unkeyed : config.key call.query = none := bypasses_unkeyed call.query around
    refine ⟨unkeyed_own after sound id call present unkeyed, ?_⟩
    cases spawned : after.refreshes id with
    | none => rfl
    | some refresh =>
        have kept := sound.refreshes id refresh spawned
        rcases kept.spawner with ⟨owner, found, query⟩
        rw [present, Option.some.injEq] at found
        subst owner
        have keyed := kept.keyed
        rw [← query, unkeyed] at keyed
        cases keyed
  · intro action next id taken acted calls starts
    exact unkeyed_step action after next sound id acted
      (fun call present => bypasses_unkeyed call.query (calls call present))
      (fun query started => bypasses_unkeyed query (starts query started)) taken
  · exact deleted_run actions after run
  · rintro front middle back id query response rfl fresh around
    exact inserted_run front middle back after id query response around fresh run
  · intro actions' last rerun same
    exact compared_runs actions actions' after last run rerun same

/-- A query with the DNSSEC-OK bit. -/
def dnssecQuery : Message := { sampleQuery with edns := some ⟨0, 1232, true⟩ }

/-- A DNSSEC query between the start and the reply of a miss. -/
def mixedActions : List Action :=
  [.call 0 sampleQuery, .advance 0, .call 1 dnssecQuery, .advance 0, .reply 1 none,
    .reply 0 (some (sampleReply 300)), .advance 0, .advance 0]

theorem bypass_isolated_dnssec :
    ∃ after, exec (step sampleConfig) mixedActions (State.new sampleConfig) = some after ∧
      bypassing mixedActions 1 = true ∧ Isolation sampleConfig mixedActions after := by
  have executed : exec (step sampleConfig) mixedActions (State.new sampleConfig) = some _ := rfl
  exact ⟨_, executed, by decide, bypass_isolated sampleConfig _ _ (exec_run executed)⟩

end Dnsix.Bypass
