import Dnsix.PoolFrames

/-!
What the store block of `resolve_and_cache` does to the cache, and with it the
link from the pool to the histories of its cache: the cache of every reachable
pool is the replay of some history of stores and evictions up to the present.
-/

namespace Dnsix.StoreHistory
open Dns ResponseCache CacheHistory Transition Pool

variable {Tag : Type}

def positive (resp : Message) : Prop := resp.responseCode = .NoError ∧ resp.answers ≠ []

def negative (resp : Message) : Prop :=
  resp.responseCode = .NXDomain ∨ (resp.responseCode = .NoError ∧ resp.answers = [])

instance (resp : Message) : Decidable (positive resp) := inferInstanceAs (Decidable (_ ∧ _))

instance (resp : Message) : Decidable (negative resp) := inferInstanceAs (Decidable (_ ∨ _))

/-- The responses that leave an entry: a lifetime is granted and is not zero. -/
def Storable (resp : Message) : Prop :=
  (positive resp ∧ 0 < positiveTtl resp.answers) ∨
    (negative resp ∧ negativeSoa resp ≠ [] ∧ 0 < negativeTtl (negativeSoa resp))

instance (resp : Message) : Decidable (Storable resp) := inferInstanceAs (Decidable (_ ∨ _))

def storedEntry (resp : Message) (now : Nat) : CacheEntry :=
  if positive resp then
    { answers := resp.answers, authority := [], responseCode := .NoError, fetchedAt := now,
      validUntil := now + secs (positiveTtl resp.answers) }
  else
    { answers := [], authority := negativeSoa resp, responseCode := resp.responseCode,
      fetchedAt := now, validUntil := now + secs (negativeTtl (negativeSoa resp)) }

/-- How long a response may be kept, in seconds. -/
def life (resp : Message) : Nat :=
  if positive resp then positiveTtl resp.answers else negativeTtl (negativeSoa resp)

theorem stored_until (resp : Message) (stamp : Nat) :
    (storedEntry resp stamp).validUntil = stamp + secs (life resp) := by
  unfold storedEntry life
  split <;> rfl

theorem life_le_max (resp : Message) : life resp ≤ maxTtl := by
  unfold life
  split
  · exact Nat.min_le_right _ _
  · exact Nat.le_trans (Nat.min_le_right _ _) (by decide)

theorem positive_not_negative (resp : Message) (kind : positive resp) : ¬ negative resp := by
  rintro (refused | ⟨_, empty⟩)
  · rw [kind.1] at refused
    cases refused
  · exact kind.2 empty

/-- The store block as one decision: replace the entry of the question, or leave
the cache alone. -/
theorem store_response_eq (cache : StaleCache Tag) (question : Query) (resp : Message)
    (now : Nat) (tag : Tag) :
    storeResponse cache question resp now tag =
      if Storable resp then cache.store question (storedEntry resp now) tag else cache := by
  -- By the kind of the response; a lifetime of zero leaves the cache alone in both.
  by_cases kind : positive resp
  · have opposite := positive_not_negative resp kind
    have shape : storeResponse cache question resp now tag =
        cache.insert question resp.answers now tag := if_pos kind
    by_cases zero : positiveTtl resp.answers = 0
    · simp [shape, StaleCache.insert, zero, Storable, opposite]
    · have granted : 0 < positiveTtl resp.answers := Nat.pos_of_ne_zero zero
      simp [shape, StaleCache.insert, zero, Storable, opposite, kind, granted, storedEntry]
  · by_cases refused : negative resp
    · have shape : storeResponse cache question resp now tag =
          if negativeSoa resp ≠ [] then
            cache.insertNegative question resp.responseCode (negativeSoa resp) now tag
          else cache := by
        exact (if_neg kind).trans (if_pos refused)
      by_cases proofless : negativeSoa resp = []
      · simp [shape, proofless, Storable, kind]
      · by_cases zero : negativeTtl (negativeSoa resp) = 0
        · simp [shape, proofless, StaleCache.insertNegative, zero, Storable, kind]
        · have granted : 0 < negativeTtl (negativeSoa resp) := Nat.pos_of_ne_zero zero
          simp [shape, proofless, StaleCache.insertNegative, zero, Storable, kind, refused,
            granted, storedEntry]
    · have shape : storeResponse cache question resp now tag = cache :=
        (if_neg kind).trans (if_neg refused)
      simp [shape, Storable, kind, refused]

/-- The cache operation behind the store block, if there is one. -/
def storeOp (question : Query) (resp : Message) (tag : Tag) : Option (Op Tag) :=
  if positive resp then some (.insert question resp.answers tag)
  else if negative resp ∧ negativeSoa resp ≠ [] then
    some (.insertNegative question resp.responseCode (negativeSoa resp) tag)
  else none

theorem store_response_op (cache : StaleCache Tag) (question : Query) (resp : Message)
    (now : Nat) (tag : Tag) :
    storeResponse cache question resp now tag =
      (storeOp question resp tag).elim cache fun op => op.apply now cache := by
  by_cases kind : positive resp
  · simp only [storeOp, kind, if_true]
    exact if_pos kind
  · by_cases refused : negative resp
    · by_cases proofless : negativeSoa resp = []
      · simp only [storeOp, kind, if_false, refused, proofless, ne_eq, not_true, and_false]
        refine (if_neg kind).trans ((if_pos refused).trans ?_)
        simp [proofless]
      · simp only [storeOp, kind, if_false, refused, ne_eq, proofless, not_false_eq_true,
          and_true, if_true]
        refine (if_neg kind).trans ((if_pos refused).trans ?_)
        simp [proofless, Op.apply]
    · simp only [storeOp, kind, if_false, refused, false_and]
      exact (if_neg kind).trans (if_neg refused)

/-- The store block keeps what the cache expects of its callers. -/
theorem store_op_promised (question : Query) (resp : Message) (tag : Tag) (op : Op Tag)
    (made : storeOp question resp tag = some op) : op.Promised := by
  unfold storeOp at made
  split at made
  · cases made
    trivial
  · split at made
    · rename_i refused
      cases made
      constructor
      · rcases refused.1 with absent | ⟨empty, _⟩
        · exact Or.inr absent
        · exact Or.inl empty
      · intro record member
        exact (List.mem_filter.mp member).2
    · cases made

/-- The cache of a pool is a replay of promised calls, none of them later than
the present. -/
def Replayed (config : Config) (state : State) : Prop :=
  ∃ history : List (CacheHistory.Call Fetch),
    state.cache = cacheAfter config.staleWindow history ∧
    ∀ call ∈ history, call.op.Promised ∧ call.now ≤ state.now

theorem cache_after_append (window : Nat) (history : List (CacheHistory.Call Tag))
    (call : CacheHistory.Call Tag) :
    cacheAfter window (history ++ [call]) = call.op.apply call.now (cacheAfter window history) := by
  simp [cacheAfter, replay]

theorem replayed_extend (config : Config) (state after : State) (op : Op Fetch)
    (replayed : Replayed config state) (promised : op.Promised) (later : state.now ≤ after.now)
    (cache : after.cache = op.apply state.now state.cache) : Replayed config after := by
  rcases replayed with ⟨history, same, past⟩
  refine ⟨history ++ [⟨state.now, op⟩], ?_, ?_⟩
  · rw [cache_after_append, cache, same]
  · intro call member
    rcases List.mem_append.mp member with old | new
    · exact ⟨(past call old).1, Nat.le_trans (past call old).2 later⟩
    · rw [List.mem_singleton] at new
      subst call
      exact ⟨promised, later⟩

theorem replayed_step (config : Config) (action : Action) (state after : State)
    (replayed : Replayed config state) (taken : step config action state = some after) :
    Replayed config after := by
  have moved := step_moved config action state after taken
  have later := moved_now config action state after moved
  have kept : after.cache = state.cache → Replayed config after := by
    intro cache
    rcases replayed with ⟨history, same, past⟩
    exact ⟨history, cache.trans same, fun call member =>
      ⟨(past call member).1, Nat.le_trans (past call member).2 later⟩⟩
  rcases moved_cache config action state after moved with
    same | ⟨question, evicted⟩ | ⟨task, query, question, resp, _, _, stored⟩
  · exact kept same
  · exact replayed_extend config state after (.evict question) replayed trivial later evicted
  · rw [store_response_op] at stored
    cases made : storeOp question resp (state.fetched task query) with
    | none =>
        rw [made] at stored
        exact kept stored
    | some op =>
        rw [made] at stored
        exact replayed_extend config state after op replayed
          (store_op_promised question resp _ op made) later stored

/-- Every lookup the pool can make is a lookup after a promised history. -/
theorem reachable_replayed (config : Config) (allowed : Action → State → Prop)
    (actions : List Action) (state : State)
    (run : Run (step config) allowed (State.new config) actions state) :
    Replayed config state :=
  run_invariant (motive := Replayed config)
    (fun action before next kept _ taken => replayed_step config action before next kept taken)
    run ⟨[], rfl, fun _ member => absurd member List.not_mem_nil⟩

end Dnsix.StoreHistory
