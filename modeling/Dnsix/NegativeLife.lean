import Dnsix.Transparency

/-!
How long an answer without data stays fresh. The authority section bounds the life
of every such answer, but the store block looks at the length of the answer section
only: an alias that ends in no data is stored under the alias's own TTL, with or
without an SOA.
-/

namespace Dnsix.NegativeLife
open Dns Handler Pool ResponseCache StoreHistory Transparency

/-- The response is a success without a record of the type asked for. Questions
that ask for an alias or for any type have no other type to miss. -/
structure Nodata (question : Query) (resp : Message) : Prop where
  fine : resp.responseCode = .NoError
  missing : ∀ record ∈ resp.answers, record.recordType ≠ question.queryType
  typed : question.queryType ≠ .CNAME ∧ question.queryType ≠ .ANY

/-- For the AAAA question this is what the handler treats as no data. -/
theorem nodata_branch (question : Query) (resp : Message) (asked : question.queryType = .AAAA) :
    Nodata question resp ↔ branch resp = .nodata := by
  have native : hasNativeAaaa resp = false ↔
      ∀ record ∈ resp.answers, record.recordType ≠ question.queryType := by
    simp [hasNativeAaaa, asked]
  constructor
  · intro nodata
    exact (branch_nodata resp nodata.fine).mpr (native.mpr nodata.missing)
  · intro pending
    have fine : resp.responseCode = .NoError := by
      unfold branch at pending
      split at pending
      · cases pending
      split at pending
      · cases pending
      split at pending
      · cases pending
      · rename_i code
        exact not_not.mp code
    refine ⟨fine, native.mp ((branch_nodata resp fine).mp pending), ?_⟩
    simp [asked]

/-- No lookup finds the entry fresh after `last`. -/
def FreshUntil (entry : CacheEntry) (last : Nat) : Prop :=
  ∀ window now response prefetch,
    entry.lookup window now = some (.fresh response prefetch) → now ≤ last

theorem fresh_until_iff (entry : CacheEntry) (last : Nat) :
    FreshUntil entry last ↔ entry.validUntil ≤ last := by
  constructor
  · intro fresh
    have last : ∃ response due,
        entry.lookup 0 entry.validUntil = some (.fresh response due) :=
      ⟨_, _, if_pos (Nat.le_refl _)⟩
    rcases last with ⟨response, due, looked⟩
    exact fresh 0 entry.validUntil response due looked
  · intro within window now response prefetch looked
    unfold CacheEntry.lookup at looked
    split at looked
    · rename_i early
      exact early.trans within
    · split at looked <;> cases looked

/-- Whoever the response reaches, its store block writes nothing, or an entry that
the authority section vouches for and bounds. -/
def CachedNegatively (config : Config) (query : Message) (question : Query) (resp : Message) :
    Prop :=
  ∀ (state : State) (task : Task),
    (resolveAndCache config state task query (some resp)).cache = state.cache ∨
      ∃ entry, (resolveAndCache config state task query (some resp)).cache =
          state.cache.store question entry (state.fetched task query) ∧
        negativeSoa resp ≠ [] ∧
        FreshUntil entry (state.now + secs (negativeTtl (negativeSoa resp)))

theorem resolve_and_cache_store (config : Config) (state : State) (task : Task) (query : Message)
    (question : Query) (resp : Message) (keyed : config.key query = some question) :
    (resolveAndCache config state task query (some resp)).cache =
      if Storable resp then
        state.cache.store question (storedEntry resp state.now) (state.fetched task query)
      else state.cache := by
  simp only [resolveAndCache, keyed, store_response_eq]

/-- An empty answer section takes the negative path. -/
theorem empty_cached_negatively (config : Config) (query : Message) (question : Query)
    (resp : Message) (keyed : config.key query = some question) (empty : resp.answers = []) :
    CachedNegatively config query question resp := by
  intro state task
  have bare : ¬positive resp := fun kind => kind.2 empty
  rw [resolve_and_cache_store config state task query question resp keyed]
  by_cases stores : Storable resp
  · have proof : negativeSoa resp ≠ [] := by
      rcases stores with ⟨kind, _⟩ | ⟨_, proof, _⟩
      · exact absurd kind bare
      · exact proof
    refine .inr ⟨_, if_pos stores, proof, ?_⟩
    simp [fresh_until_iff, storedEntry, bare]
  · exact .inl (if_neg stores)

theorem store_overwrites (cache : StaleCache Fetch) (question : Query) (left right : CacheEntry)
    (tag : Fetch) (same : cache.store question left tag = cache.store question right tag) :
    left = right := by
  have held := congrArg (fun stored => stored.cache question.key) same
  simp only [StaleCache.store, Function.update_self] at held
  cases held
  rfl

/-- A non-empty one is kept for its smallest TTL, whatever the authority says. -/
theorem answered_cached_negatively_iff (config : Config) (query : Message) (question : Query)
    (resp : Message) (keyed : config.key query = some question) (kind : positive resp) :
    CachedNegatively config query question resp ↔
      positiveTtl resp.answers = 0 ∨
        (negativeSoa resp ≠ [] ∧ positiveTtl resp.answers ≤ negativeTtl (negativeSoa resp)) := by
  have opposite := positive_not_negative resp kind
  have storable : Storable resp ↔ 0 < positiveTtl resp.answers := by
    simp [Storable, kind, opposite]
  have life : ∀ now, (storedEntry resp now).validUntil = now + secs (positiveTtl resp.answers) := by
    intro now
    simp [storedEntry, kind]
  constructor
  · intro cached
    by_cases zero : positiveTtl resp.answers = 0
    · exact .inl zero
    · have stores := storable.mpr (Nat.pos_of_ne_zero zero)
      -- In the pool that has cached nothing yet, a store cannot go unnoticed.
      have written := cached (State.new config) (.call 0)
      rw [resolve_and_cache_store config _ _ query question resp keyed, if_pos stores] at written
      rcases written with same | ⟨entry, same, proof, fresh⟩
      · have held := congrArg (fun stored => stored.cache question.key) same
        simp [StaleCache.store, State.new, StaleCache.new] at held
      · have equal := store_overwrites _ question _ entry _ same
        subst entry
        rw [fresh_until_iff, life] at fresh
        unfold secs at fresh
        exact .inr ⟨proof, by omega⟩
  · intro short state task
    rw [resolve_and_cache_store config state task query question resp keyed]
    rcases short with zero | ⟨proof, within⟩
    · exact .inl (if_neg (by rw [storable, zero]; exact Nat.lt_irrefl 0))
    · by_cases stores : Storable resp
      · refine .inr ⟨_, if_pos stores, proof, ?_⟩
        rw [fresh_until_iff, life]
        unfold secs
        omega
      · exact .inl (if_neg stores)

/-- For every response without data to a cacheable query: it is cached as a negative
answer exactly when nothing was answered, or the answers' smallest TTL is zero, or
an SOA came along whose bound that TTL does not exceed. -/
theorem nodata_cached_negatively_iff (config : Config) (query : Message) (question : Query)
    (resp : Message) (keyed : config.key query = some question) (nodata : Nodata question resp) :
    CachedNegatively config query question resp ↔
      resp.answers = [] ∨ positiveTtl resp.answers = 0 ∨
        (negativeSoa resp ≠ [] ∧ positiveTtl resp.answers ≤ negativeTtl (negativeSoa resp)) := by
  by_cases empty : resp.answers = []
  · simp only [empty, true_or, iff_true]
    exact empty_cached_negatively config query question resp keyed empty
  · rw [answered_cached_negatively_iff config query question resp keyed ⟨nodata.fine, empty⟩]
    simp only [empty, false_or]

theorem nodata_cached_negatively_empty :
    CachedNegatively sampleConfig sampleQuery sampleQuestion sampleNodata := by
  refine (nodata_cached_negatively_iff sampleConfig sampleQuery sampleQuestion
    sampleNodata (by decide) ⟨rfl, ?_, by decide⟩).mpr (.inl rfl)
  intro record listed
  cases listed

/-- An alias kept for a day, while the zone vouches for no data for a minute. -/
def dayAlias : Message :=
  { sampleNodata with
    answers := [.fromRdata sampleName 86400 (.CNAME ⟨[[98, 99]], true⟩)]
    nameServers := [sampleSoa fastlyAdmin] }

theorem alias_nodata_fresh_all_day :
    sampleConfig.key sampleQuery = some sampleQuestion ∧
      Nodata sampleQuestion dayAlias ∧
      ((resolveAndCache sampleConfig (State.new sampleConfig) (.call 0) sampleQuery
        (some dayAlias)).cache.get sampleQuestion (secs 80000)).map
          (fun found => found.1.response.negative) = some false ∧
      ¬CachedNegatively sampleConfig sampleQuery sampleQuestion dayAlias := by
  have keyed : sampleConfig.key sampleQuery = some sampleQuestion := by decide
  refine ⟨keyed, ⟨rfl, ?_, by decide⟩, by decide, ?_⟩
  · intro record listed
    rw [List.mem_singleton.mp listed]
    decide
  · rw [answered_cached_negatively_iff _ _ _ _ keyed (by decide)]
    decide

end Dnsix.NegativeLife
