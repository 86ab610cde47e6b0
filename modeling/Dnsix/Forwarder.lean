import Dnsix.Provenance
import Dnsix.RequestRuns

/-!
The whole server: any number of requests over one pool. A request begins the lookups of
the place it stands in as calls of the pool, and goes on once all of them have returned.
A lookup is known by its place among all lookups begun, which is the id of its call. An
abort of a call stands for the request being dropped: it never goes on from there.
-/

namespace Dnsix.Forwarder
open Dns Handler Panics Synth SynthChain Transition
open Pool (CacheStatus CallId Config)
open RequestRuns (Event Handling Place)

variable {text : NameText}

/-! The lookups a request makes. -/
section Lookups

/-- The plan `appended` runs behind a provider's records. -/
def fallbackPlan (chain : Chain text) (ctx : SynthContext text) (id : String) : Option Plan :=
  if id ≠ "nat64" then chain.nat64Fallback.bind fun nat64 => nat64.plan ctx else none

def references (plan : Option Plan) : List Message :=
  plan.elim [] fun plan => plan.resolve.map referenceQuery

/-- The plan the next synthesizer makes, if it makes one. -/
def detected (synth : Synthesizer text) (ctx : SynthContext text) : Option Plan :=
  match synth.detect ctx with
  | .ok plan => plan
  | .error _ => none

/-- What a request asks the pool where it stands, first to last. -/
def wants (handler : Dns64Handler text) (h : Handling text) : List Message :=
  match h.place with
  | .joining query =>
      [upstreamQuery h.request query,
        upstreamQuery h.request { name := query.name, queryType := .A, queryClass := .IN }]
  | .observing query => [upstreamQuery h.request query]
  | .trying _ _ _ ctx (synth :: _) => references (detected synth ctx)
  | .won _ _ ctx id _ => references (fallbackPlan handler.chain ctx id)
  | _ => []

/-- The two lookups of `handle_dns64` are joined; all others are awaited in turn. -/
def joins : Place text → Bool
  | .joining _ => true
  | _ => false

/-- The pool as the loop of `run_plan` sees it, once its lookups have returned. -/
def replay : Resolver (List (Option Message)) := fun _ answers => (answers.head?.join, answers.tail)

/-- What the answers of all its lookups are to a request. -/
def eventFor (place : Place text) (answers : List (Option Message × CacheStatus)) :
    Option (Event (List (Option Message))) :=
  match place, answers with
  | .joining _, [(aaaa, cache), (a, _)] => some (.joined aaaa cache a)
  | .observing _, [(resp, cache)] => some (.observed resp cache)
  | .trying _ _ _ _ (_ :: _), answers => some (.tried replay (answers.map Prod.fst))
  | .won _ _ _ _ _, answers => some (.appended replay (answers.map Prod.fst))
  | _, [] => some .proceed
  | _, _ => none

/-- What a call of the pool has returned. -/
def returned (pool : Pool.State) (id : CallId) : Option (Option Message × CacheStatus) :=
  match (pool.calls id).map Pool.Call.phase with
  | some (.done outcome status) => some (outcome.answer, status)
  | _ => none

end Lookups

/-! The server. -/
section System

structure Lookup where
  request : Nat
  query : Message
  deriving DecidableEq

variable (text) in
/-- `waiting` holds the lookups a request has begun where it stands, first to last. -/
structure State where
  pool : Pool.State
  requests : RequestRuns.State text
  lookups : List Lookup
  waiting : Nat → List CallId

variable (text) in
def State.new (config : Config) (metrics : Counters.Metrics) : State text :=
  { pool := .new config, requests := .new text metrics, lookups := [], waiting := fun _ => [] }

inductive Action where
  -- The pool, its upstreams and its clock.
  | pool (action : Pool.Action)
  | arrive (request : Request)
  | ask (id : Nat)
  | advance (id : Nat)

variable (config : Config) (handler : Dns64Handler text)

/-- A request begins its next lookup. -/
def askStep (state : State text) (id : Nat) : Option (State text) := do
  let h ← state.requests.handlings[id]?
  let query ← (wants handler h)[(state.waiting id).length]?
  if joins h.place || (state.waiting id).all fun call => (returned state.pool call).isSome then
    let call := state.lookups.length
    let pool ← Pool.step config (.call call query) state.pool
    some
      { state with
        pool
        lookups := state.lookups ++ [⟨id, query⟩]
        waiting := Function.update state.waiting id (state.waiting id ++ [call]) }
  else none

/-- All lookups of a request have returned, and it goes on. -/
def advanceStep (state : State text) (id : Nat) : Option (State text) := do
  let h ← state.requests.handlings[id]?
  if (state.waiting id).length = (wants handler h).length then
    let answers ← (state.waiting id).mapM (returned state.pool)
    let event ← eventFor h.place answers
    let requests ← RequestRuns.step handler (.advance id event) state.requests
    some { state with requests, waiting := Function.update state.waiting id [] }
  else none

def step : Action → State text → Option (State text)
  -- Calls are begun by requests alone.
  | .pool (.call _ _), _ => none
  | .pool action, state =>
      (Pool.step config action state.pool).map fun pool => { state with pool }
  | .arrive request, state =>
      (RequestRuns.step handler (.arrive request : RequestRuns.Action (List (Option Message)))
        state.requests).map fun requests => { state with requests }
  | .ask id, state => askStep config handler state id
  | .advance id, state => advanceStep handler state id

/-- What one step can do. -/
inductive Moved (state : State text) : Action → State text → Prop where
  | pooled {action : Pool.Action} {pool : Pool.State}
      (inside : ∀ id query, action ≠ .call id query)
      (moved : Pool.step config action state.pool = some pool) :
      Moved state (.pool action) { state with pool }
  | arrived (request : Request) : Moved state (.arrive request)
      { state with
        requests :=
          { state.requests with
            handlings := state.requests.handlings ++ [Handling.new text request] } }
  | asked {id : Nat} {h : Handling text} {query : Message} {pool : Pool.State}
      (present : state.requests.handlings[id]? = some h)
      (wanted : (wants handler h)[(state.waiting id).length]? = some query)
      (turn : joins h.place = true ∨
        ∀ call ∈ state.waiting id, (returned state.pool call).isSome = true)
      (called : Pool.step config (.call state.lookups.length query) state.pool = some pool) :
      Moved state (.ask id)
        { state with
          pool
          lookups := state.lookups ++ [⟨id, query⟩]
          waiting := Function.update state.waiting id
            (state.waiting id ++ [state.lookups.length]) }
  | advanced {id : Nat} {h : Handling text} {answers : List (Option Message × CacheStatus)}
      {event : Event (List (Option Message))} {progress : RequestRuns.Progress text}
      (present : state.requests.handlings[id]? = some h)
      (complete : (state.waiting id).length = (wants handler h).length)
      (answered : (state.waiting id).mapM (returned state.pool) = some answers)
      (heard : eventFor h.place answers = some event)
      (next : h.next handler event = some progress) :
      Moved state (.advance id)
        { state with
          requests := state.requests.progressed id progress
          waiting := Function.update state.waiting id [] }

variable {config handler}

theorem step_moved (action : Action) (state after : State text)
    (taken : step config handler action state = some after) :
    Moved config handler state action after := by
  cases action with
  | pool inner =>
      have inside : ∀ id query, inner ≠ .call id query := by
        rintro id query rfl
        cases taken
      have mapped : (Pool.step config inner state.pool).map
          (fun pool => ({ state with pool } : State text)) = some after := by
        cases inner with
        | call id query => exact absurd rfl (inside id query)
        | _ => exact taken
      rcases Option.map_eq_some_iff.mp mapped with ⟨pool, moved, rfl⟩
      exact .pooled inside moved
  | arrive request =>
      cases taken
      exact .arrived request
  | ask id =>
      simp only [step, askStep, Option.bind_eq_bind, Option.bind_eq_some_iff] at taken
      rcases taken with ⟨h, present, query, wanted, taken⟩
      split at taken
      · rename_i turn
        simp only [Option.bind_eq_some_iff] at taken
        rcases taken with ⟨pool, called, same⟩
        cases same
        rw [Bool.or_eq_true, List.all_eq_true] at turn
        exact .asked present wanted turn called
      · cases taken
  | advance id =>
      simp only [step, advanceStep, Option.bind_eq_bind, Option.bind_eq_some_iff] at taken
      rcases taken with ⟨h, present, taken⟩
      split at taken
      · rename_i complete
        simp only [Option.bind_eq_some_iff] at taken
        rcases taken with ⟨answers, answered, event, heard, requests, moved, same⟩
        cases same
        rcases Option.bind_eq_some_iff.mp moved with ⟨other, located, rest⟩
        rcases Option.bind_eq_some_iff.mp rest with ⟨progress, next, ended⟩
        rw [present, Option.some.injEq] at located
        subst other
        cases ended
        exact .advanced present complete answered heard next
      · cases taken

end System

/-! The requests after an arrival and after a step. -/
section Places
variable {Item : Type} {items : List Item} {item next : Item} {place id : Nat}

theorem joined_cases (present : (items ++ [next])[place]? = some item) :
    items[place]? = some item ∨ (place = items.length ∧ item = next) := by
  rcases Nat.lt_trichotomy place items.length with old | rfl | beyond
  · exact Or.inl (List.getElem?_append_left old ▸ present)
  · rw [List.getElem?_concat_length, Option.some.injEq] at present
    exact Or.inr ⟨rfl, present.symm⟩
  · rw [List.getElem?_eq_none (by rw [List.length_append]; exact beyond)] at present
    cases present

theorem replaced_cases (inside : id < items.length)
    (present : (items.set id next)[place]? = some item) :
    (place = id ∧ item = next) ∨ (place ≠ id ∧ items[place]? = some item) := by
  by_cases own : place = id
  · subst place
    rw [List.getElem?_set_self inside, Option.some.injEq] at present
    exact Or.inl ⟨rfl, present.symm⟩
  · rw [List.getElem?_set_ne (Ne.symm own)] at present
    exact Or.inr ⟨own, present⟩

end Places

/-! Calls and lookups. -/
section Links
variable {config : Config} {handler : Dns64Handler text}

/-- Calls begin nowhere but with an action of their own. -/
theorem inside_queries (action : Pool.Action) (pool after : Pool.State) (id : CallId)
    (inside : ∀ id query, action ≠ .call id query)
    (taken : Pool.step config action pool = some after) :
    (after.calls id).map Pool.Call.query = (pool.calls id).map Pool.Call.query := by
  have moved := Pool.step_moved config action pool after taken
  rcases Pool.moved_calls config action pool after moved with
    same | ⟨mover, next, acted, calls, turned, _⟩
  · rw [same]
  · by_cases own : id = mover
    · subst mover
      -- The action finds the call it moves.
      have found : ∃ call, pool.calls id = some call := by
        cases action with
        | call other query => exact absurd rfl (inside other query)
        | advance other =>
            cases acted
            exact (Option.bind_eq_some_iff.mp taken).imp fun _ found => found.1
        | reply other response =>
            cases acted
            exact (Option.bind_eq_some_iff.mp taken).imp fun _ found => found.1
        | timer other =>
            cases acted
            exact (Option.bind_eq_some_iff.mp taken).imp fun _ found => found.1
        | abort other =>
            cases acted
            exact (Option.bind_eq_some_iff.mp taken).imp fun _ found => found.1
        | _ => cases acted
      rcases found with ⟨call, present⟩
      rw [calls, Function.update_self, present, Option.map_some, Option.map_some,
        (turned call present).2]
    · rw [calls, Function.update_of_ne own]

/-- A call that begins is new, and nothing has been answered for it. -/
theorem called_pool (pool after : Pool.State) (id : CallId) (query : Message)
    (taken : Pool.step config (.call id query) pool = some after) :
    pool.calls id = none ∧ ∃ call, after.calls = Function.update pool.calls id (some call) ∧
      call.query = query ∧ Pool.settled call.phase = false := by
  cases Pool.step_moved config (.call id query) pool after taken with
  | started fresh keyed => exact ⟨fresh, _, rfl, rfl, rfl⟩
  | startedUncached fresh unkeyed => exact ⟨fresh, _, rfl, rfl, rfl⟩

/-- The calls of the pool are the lookups of the requests, in their order. -/
def Linked (state : State text) : Prop :=
  ∀ id, (state.pool.calls id).map Pool.Call.query = state.lookups[id]?.map Lookup.query

theorem linked_step (action : Action) (state after : State text) (linked : Linked state)
    (taken : step config handler action state = some after) : Linked after := by
  intro id
  cases step_moved action state after taken with
  | pooled inside moved =>
      exact (inside_queries _ state.pool _ id inside moved).trans (linked id)
  | arrived request => exact linked id
  | asked present wanted turn called =>
      rcases called_pool state.pool _ _ _ called with ⟨_, call, calls, query, _⟩
      by_cases own : id = state.lookups.length
      · subst id
        simp only [calls, Function.update_self, Option.map_some, query,
          List.getElem?_concat_length]
      · rw [calls, Function.update_of_ne own, linked id]
        congr 1
        rcases Nat.lt_or_gt_of_ne own with before | beyond
        · exact (List.getElem?_append_left before).symm
        · rw [List.getElem?_eq_none (Nat.le_of_lt beyond), List.getElem?_eq_none]
          rw [List.length_append]
          exact beyond
  | advanced present complete answered heard next => exact linked id

/-- A returned answer stays. -/
theorem returned_step (action : Pool.Action) (pool after : Pool.State) (id : CallId)
    (answer : Option Message × CacheStatus) (taken : Pool.step config action pool = some after)
    (before : returned pool id = some answer) : returned after id = some answer := by
  unfold returned at before
  split at before
  · rename_i outcome status ended
    rcases Option.map_eq_some_iff.mp ended with ⟨call, present, phase⟩
    have settles : Pool.settled call.phase = true := by
      rw [phase]
      rfl
    have stays := Pool.settled_step config action pool after id call taken present settles
    simp only [returned, stays, Option.map_some, phase]
    exact before
  · cases before

/-- All of them have returned, each with its answer. -/
theorem all_returned (pool : Pool.State) (ids : List CallId)
    (answers : List (Option Message × CacheStatus)) :
    ids.mapM (returned pool) = some answers ↔
      List.Forall₂ (fun id answer => returned pool id = some answer) ids answers := by
  induction ids generalizing answers with
  | nil =>
      rw [List.forall₂_nil_left_iff, List.mapM_nil]
      exact ⟨fun same => (Option.some.inj same).symm, fun same => same ▸ rfl⟩
  | cons id rest ih =>
      rw [List.forall₂_cons_left_iff, List.mapM_cons]
      simp only [Option.bind_eq_bind, Option.bind_eq_some_iff, Option.pure_def,
        Option.some.injEq]
      constructor
      · rintro ⟨first, found, others, all, rfl⟩
        exact ⟨first, others, found, (ih others).mp all, rfl⟩
      · rintro ⟨first, others, found, all, rfl⟩
        exact ⟨first, found, others, (ih others).mpr all, rfl⟩

end Links

end Dnsix.Forwarder
