import Dnsix.ChainContract
import Dnsix.Handler
import Dnsix.Provenance

/-!
Whether the DNS64 decision sees a cached response as it saw the response itself.
A positive entry keeps the answers and drops the authority section, a negative one
keeps the RCODE and the SOA records and drops the answers; the decision notices
where it reads what was dropped.
-/

namespace Dnsix.Transparency
open ChainContract Dns Handler Pool Provenance ResponseCache StoreHistory Synth SynthChain
open Transition (Run)

variable {Tag : Type} {text : NameText} {World : Type}

inductive Branch where
  | native | nxdomain | error | nodata
  deriving DecidableEq

/-- The branch `handle_dns64` takes on an AAAA response. -/
def branch (aaaa : Message) : Branch :=
  if hasNativeAaaa aaaa then .native
  else if aaaa.responseCode = .NXDomain then .nxdomain
  else if aaaa.responseCode ≠ .NoError then .error
  else .nodata

/-- The branch is the one the handler reports. -/
theorem branch_observed (handler : Dns64Handler text) (lookups : Lookups World)
    (request : Request) (query : Query) (aaaa : Message) (cache : CacheStatus)
    (aRes : Option Message) (env after : Env World) (response : Message) (obs : Observation)
    (decided : handler.decideDns64 lookups request query (some aaaa) cache aRes env =
      .ok ((response, obs), after)) :
    match branch aaaa with
    | .native => obs.outcome = .NativeAaaa
    | .nxdomain => obs.outcome = .Nxdomain
    | .error => obs.outcome = .Passthrough
    | .nodata => obs.outcome = .EmptyNodata ∨ ∃ id, obs.outcome = .Synthesized id := by
  unfold Dns64Handler.decideDns64 at decided
  unfold branch
  by_cases native : hasNativeAaaa aaaa = true
  · simp only [native, if_true] at decided ⊢
    cases decided
    rfl
  by_cases missing : aaaa.responseCode = .NXDomain
  · simp only [native, missing, if_true] at decided ⊢
    cases decided
    rfl
  by_cases fine : aaaa.responseCode = .NoError
  swap
  · simp only [native, missing, fine, ne_eq, not_false_eq_true, if_true, Bool.false_eq_true,
      if_false] at decided ⊢
    cases decided
    rfl
  · simp only [native, fine, reduceCtorEq, ne_eq, not_true_eq_false, if_false] at decided ⊢
    cases chained : handler.chain.synthesize lookups.resolve (synthContext text query aaaa aRes)
        (env.count Counters.Metrics.incNodata) with
    | error panic =>
        rw [chained] at decided
        cases decided
    | ok pair =>
        rcases pair with ⟨answer, last⟩
        rw [chained] at decided
        cases answer with
        | none =>
            cases decided
            exact .inl rfl
        | some found =>
            cases decided
            exact .inr ⟨_, rfl⟩

/-- The decision cannot tell the cached response from the response itself. -/
structure Transparent (resp cached : Message) : Prop where
  branch : branch cached = branch resp
  targets : Transparency.branch resp = .nodata → cnameTargets cached = cnameTargets resp
  authority : Transparency.branch resp = .nodata → extractAuthority cached = extractAuthority resp

/-- An answer without AAAA data, such as an alias alone, that came with an SOA. -/
def LosesAuthority (resp : Message) : Prop :=
  resp.responseCode = .NoError ∧ resp.answers ≠ [] ∧ hasNativeAaaa resp = false ∧
    negativeSoa resp ≠ []

/-- A name error that nevertheless answers with an AAAA record. -/
def LosesAnswers (resp : Message) : Prop :=
  resp.responseCode = .NXDomain ∧ hasNativeAaaa resp = true

/-! The TTL is the only thing stamping changes. -/
section Stamped

theorem stamped_native (resp : Message) (ttl : Nat) (message : Message)
    (answers : message.answers = stampTtl resp.answers ttl) :
    hasNativeAaaa message = hasNativeAaaa resp := by
  rw [hasNativeAaaa, answers, stampTtl, List.any_map]
  rfl

theorem stamped_targets (resp : Message) (ttl : Nat) (message : Message)
    (answers : message.answers = stampTtl resp.answers ttl) :
    cnameTargets message = cnameTargets resp := by
  rw [cnameTargets, answers, stampTtl, List.filterMap_map]
  rfl

/-- Only the SOA records of the authority section are read. -/
theorem authority_of_soa (records : List Record) :
    (records.filter Record.isSoa).findSome? soaAuthority = records.findSome? soaAuthority := by
  induction records with
  | nil => rfl
  | cons record rest ih =>
      cases data : record.data with
      -- The filter keeps the SOA and drops what the search would pass over.
      | SOA soa => simp [Record.isSoa, soaAuthority, data]
      | A addr => simpa [Record.isSoa, soaAuthority, data] using ih
      | AAAA addr => simpa [Record.isSoa, soaAuthority, data] using ih
      | CNAME target => simpa [Record.isSoa, soaAuthority, data] using ih
      | other type bytes => simpa [Record.isSoa, soaAuthority, data] using ih

theorem stamped_authority (resp : Message) (ttl : Nat) (message : Message)
    (nameServers : message.nameServers = stampTtl (negativeSoa resp) ttl) :
    extractAuthority message = extractAuthority resp := by
  have kept : message.nameServers.findSome? soaAuthority =
      (negativeSoa resp).findSome? soaAuthority := by
    rw [nameServers, stampTtl, List.findSome?_map]
    rfl
  rw [extractAuthority, kept, negativeSoa, authority_of_soa, extractAuthority]

/-- Without an SOA there is no authority to lose. -/
theorem authority_default_iff (resp : Message) :
    extractAuthority resp = .default ↔ negativeSoa resp = [] := by
  constructor
  · intro none
    refine List.filter_eq_nil_iff.mpr fun record listed soa => ?_
    cases found : resp.nameServers.findSome? soaAuthority with
    | none =>
        have missing := List.findSome?_eq_none_iff.mp found record listed
        unfold Record.isSoa at soa
        split at soa
        · rename_i fields data
          rw [soaAuthority, data] at missing
          cases missing
        · cases soa
    | some authority =>
        rcases List.exists_of_findSome?_eq_some found with ⟨holder, _, read⟩
        rw [extractAuthority, found] at none
        unfold soaAuthority at read
        split at read
        · cases read
          cases none
        · cases read
  · intro empty
    rw [extractAuthority, ← authority_of_soa]
    rw [negativeSoa] at empty
    rw [empty]
    rfl

end Stamped

/-! The two kinds of entries. -/
section Entries

theorem branch_congr (left right : Message) (native : hasNativeAaaa left = hasNativeAaaa right)
    (code : left.responseCode = right.responseCode) : branch left = branch right := by
  rw [branch, branch, native, code]

theorem branch_nodata (resp : Message) (fine : resp.responseCode = .NoError) :
    branch resp = .nodata ↔ hasNativeAaaa resp = false := by
  cases native : hasNativeAaaa resp with
  | true => simp [branch, native]
  | false => simp [branch, native, fine]

/-- A response rebuilt from a positive entry. -/
theorem positive_transparent_iff (question : Query) (resp : Message) (stamp ttl : Nat)
    (kind : positive resp) :
    Transparent resp (rebuilt question ((storedEntry resp stamp).toResponse ttl)) ↔
      ¬(hasNativeAaaa resp = false ∧ negativeSoa resp ≠ []) := by
  have entry : storedEntry resp stamp =
      { answers := resp.answers, authority := [], responseCode := .NoError, fetchedAt := stamp,
        validUntil := stamp + secs (positiveTtl resp.answers) } := if_pos kind
  have native := stamped_native resp ttl
    (rebuilt question ((storedEntry resp stamp).toResponse ttl)) (by rw [entry]; rfl)
  have targets := stamped_targets resp ttl
    (rebuilt question ((storedEntry resp stamp).toResponse ttl)) (by rw [entry]; rfl)
  -- The positive entry keeps no authority section.
  have blank : extractAuthority (rebuilt question ((storedEntry resp stamp).toResponse ttl)) =
      .default := by
    rw [entry]
    rfl
  have code : (rebuilt question ((storedEntry resp stamp).toResponse ttl)).responseCode =
      resp.responseCode := by
    rw [entry, kind.1]
    rfl
  constructor
  · rintro transparent ⟨free, soa⟩
    have same := transparent.authority ((branch_nodata resp kind.1).mpr free)
    rw [blank] at same
    exact soa ((authority_default_iff resp).mp same.symm)
  · intro lossless
    refine ⟨branch_congr _ _ native code, fun _ => targets, fun pending => ?_⟩
    have free := (branch_nodata resp kind.1).mp pending
    have empty : negativeSoa resp = [] := not_not.mp fun soa => lossless ⟨free, soa⟩
    rw [blank, (authority_default_iff resp).mpr empty]

/-- A response rebuilt from a negative entry. -/
theorem negative_transparent_iff (question : Query) (resp : Message) (stamp ttl : Nat)
    (kind : negative resp) :
    Transparent resp (rebuilt question ((storedEntry resp stamp).toResponse ttl)) ↔
      ¬(resp.responseCode = .NXDomain ∧ hasNativeAaaa resp = true) := by
  have entry : storedEntry resp stamp =
      { answers := [], authority := negativeSoa resp, responseCode := resp.responseCode,
        fetchedAt := stamp, validUntil := stamp + secs (negativeTtl (negativeSoa resp)) } :=
    if_neg fun other => positive_not_negative resp other kind
  have authority := stamped_authority resp ttl
    (rebuilt question ((storedEntry resp stamp).toResponse ttl)) (by rw [entry]; rfl)
  -- The negative entry keeps no answers.
  have bare : hasNativeAaaa (rebuilt question ((storedEntry resp stamp).toResponse ttl)) =
      false := by
    rw [entry]
    rfl
  have untargeted : cnameTargets (rebuilt question ((storedEntry resp stamp).toResponse ttl)) =
      [] := by
    rw [entry]
    rfl
  have code : (rebuilt question ((storedEntry resp stamp).toResponse ttl)).responseCode =
      resp.responseCode := by
    rw [entry]
    rfl
  rcases kind with refused | ⟨fine, empty⟩
  · have hidden : branch (rebuilt question ((storedEntry resp stamp).toResponse ttl)) =
        .nxdomain := by
      simp [branch, bare, code, refused]
    constructor
    · rintro transparent ⟨_, native⟩
      have same := transparent.branch
      rw [hidden, branch, if_pos native] at same
      cases same
    · intro lossless
      have free : hasNativeAaaa resp = false := by
        rw [← Bool.not_eq_true]
        exact fun native => lossless ⟨refused, native⟩
      have error : branch resp = .nxdomain := by simp [branch, free, refused]
      refine ⟨hidden.trans error.symm, fun pending => ?_, fun pending => ?_⟩
      · rw [error] at pending
        cases pending
      · rw [error] at pending
        cases pending
  · have free : hasNativeAaaa resp = false := by
      rw [hasNativeAaaa, empty]
      rfl
    have none : cnameTargets resp = [] := by
      rw [cnameTargets, empty]
      rfl
    constructor
    · rintro _ ⟨refused, _⟩
      rw [fine] at refused
      cases refused
    · intro _
      refine ⟨branch_congr _ _ (bare.trans free.symm) code, fun _ => ?_, fun _ => authority⟩
      rw [untargeted, none]

/-- Exactly what the rebuilt response keeps from the decision. -/
theorem rebuilt_transparent_iff (question : Query) (resp : Message) (stamp ttl : Nat)
    (stores : Storable resp) :
    Transparent resp (rebuilt question ((storedEntry resp stamp).toResponse ttl)) ↔
      ¬LosesAuthority resp ∧ ¬LosesAnswers resp := by
  rcases stores with ⟨kind, _⟩ | ⟨kind, _, _⟩
  · rw [positive_transparent_iff question resp stamp ttl kind]
    constructor
    · intro lossless
      refine ⟨fun lost => lossless ⟨lost.2.2.1, lost.2.2.2⟩, fun lost => ?_⟩
      have refused := lost.1
      rw [kind.1] at refused
      cases refused
    · rintro ⟨lossless, _⟩ ⟨free, soa⟩
      exact lossless ⟨kind.1, kind.2, free, soa⟩
  · rw [negative_transparent_iff question resp stamp ttl kind]
    constructor
    · intro lossless
      refine ⟨fun lost => ?_, lossless⟩
      exact positive_not_negative resp ⟨lost.1, lost.2.1⟩ kind
    · rintro ⟨_, lossless⟩
      exact lossless

end Entries

/-- A transparent response gives the chain the same context, so the same synthesizer
wins with the same records. -/
theorem transparent_synthesizes (resp cached : Message) (transparent : Transparent resp cached)
    (nodata : branch resp = .nodata) (query : Query) (aRes : Option Message) :
    synthContext text query cached aRes = synthContext text query resp aRes := by
  rw [synthContext, synthContext, transparent.targets nodata, transparent.authority nodata]

/-- A fresh lookup after a store of the question finds that store's entry. -/
theorem fresh_stored (cache : StaleCache Tag) (question asked : Query) (resp : Message)
    (stamp now : Nat) (tag other : Tag) (response : CachedResponse) (prefetch : Bool)
    (stores : Storable resp) (same : asked.key = question.key)
    (looked : (storeResponse cache question resp stamp tag).get asked now =
      some (.fresh response prefetch, other)) :
    ∃ ttl, response = (storedEntry resp stamp).toResponse ttl := by
  rw [store_response_eq, if_pos stores] at looked
  rcases get_found _ asked now _ other looked with
    ⟨entry, held, ⟨_, due, found⟩ | ⟨_, _, found⟩⟩
  · rw [same] at held
    simp only [StaleCache.store, Function.update_self] at held
    cases held
    cases found
    exact ⟨_, rfl⟩
  · cases found

/-- For every response the pool stores and every fresh lookup of its question: the
rebuilt message takes the decision to the same branch with the same context exactly
when it is neither of the two lossy kinds, and then the chain answers the same. -/
theorem cache_transparent_iff (encodes : Message → Bool) (cache : StaleCache Tag)
    (question asked : Query) (resp cached : Message) (stamp now : Nat) (tag other : Tag)
    (response : CachedResponse) (prefetch : Bool) (stores : Storable resp)
    (same : asked.key = question.key)
    (looked : (storeResponse cache question resp stamp tag).get asked now =
      some (.fresh response prefetch, other))
    (built : buildCachedResponse encodes asked response = some cached) :
    (Transparent resp cached ↔ ¬LosesAuthority resp ∧ ¬LosesAnswers resp) ∧
      (Transparent resp cached → branch resp = .nodata →
        ∀ (text : NameText) (World : Type) (chain : Chain text) (resolve : Resolver World)
          (query : Query) (aRes : Option Message) (env : Env World),
          chain.synthesize resolve (synthContext text query cached aRes) env =
            chain.synthesize resolve (synthContext text query resp aRes) env) := by
  rcases fresh_stored cache question asked resp stamp now tag other response prefetch stores same
    looked with ⟨ttl, rfl⟩
  have remade := build_some encodes asked _ cached built
  subst remade
  refine ⟨rebuilt_transparent_iff asked resp stamp ttl stores, ?_⟩
  intro transparent nodata text World chain resolve query aRes env
  rw [transparent_synthesizes resp _ transparent nodata query aRes]

/-- The same for the hits of a running pool: a hit is transparent with respect to
the response that filled the cache. -/
theorem hit_transparent_run (config : Config) (allowed : Action → State → Prop)
    (actions : List Action) (after : State)
    (run : Run (step config) allowed (State.new config) actions after) (id : CallId) (call : Call)
    (outcome : Pool.Outcome) (present : after.calls id = some call)
    (finished : call.phase = .done outcome .Hit) :
    ∃ resp cached, (⟨outcome.fetch, some resp⟩ : Reply) ∈ after.replies ∧
      outcome.answer = some cached ∧
      (Transparent resp cached ↔ ¬LosesAuthority resp ∧ ¬LosesAnswers resp) := by
  have sound := (reachable_sound config allowed actions after run).2.calls id call present
  rw [finished] at sound
  rcases sound with ⟨question, _, resp, stamp, ttl, stored, logged, stores, _, _, answer⟩
  exact ⟨resp, _, logged, answer, rebuilt_transparent_iff question resp stamp ttl stores⟩

/-! Concrete responses. -/
def sampleSoa (rname : Name) : Record :=
  .fromRdata ⟨[[98, 99]], true⟩ 60
    (.SOA { mname := ⟨[[98, 99]], true⟩, rname, serial := 1, refresh := 1, retry := 1, expire := 1,
            minimum := 60 })

theorem cache_transparent_native :
    ∃ cached, buildCachedResponse (fun _ => true) sampleQuestion
        ((storedEntry (sampleReply 60) 0).toResponse 60) = some cached ∧
      Transparent (sampleReply 60) cached := by
  have stores : Storable (sampleReply 60) := by decide
  have looked : (storeResponse (StaleCache.new 0) sampleQuestion (sampleReply 60) 0 ()).get
      sampleQuestion 0 = some (.fresh ((storedEntry (sampleReply 60) 0).toResponse 60) false,
        ()) := by decide
  have built : buildCachedResponse (fun _ => true) sampleQuestion
      ((storedEntry (sampleReply 60) 0).toResponse 60) =
        some (rebuilt sampleQuestion ((storedEntry (sampleReply 60) 0).toResponse 60)) := rfl
  refine ⟨_, built, ?_⟩
  refine (cache_transparent_iff _ _ _ _ _ _ _ _ _ _ _ _ stores rfl looked built).1.mpr ⟨?_, ?_⟩
  · rintro ⟨_, _, free, _⟩
    exact absurd free (by decide)
  · rintro ⟨refused, _⟩
    exact absurd refused (by decide)

/-- `hostmaster.fastly.com` -/
def fastlyAdmin : Name :=
  ⟨[[104, 111, 115, 116, 109, 97, 115, 116, 101, 114], [102, 97, 115, 116, 108, 121],
    [99, 111, 109]], true⟩

/-- An alias that ends without data, in a zone of Fastly's. -/
def aliasNodata : Message :=
  { sampleNodata with
    answers := [.fromRdata sampleName 60 (.CNAME ⟨[[98, 99]], true⟩)]
    nameServers := [sampleSoa fastlyAdmin] }

def twoChain : Chain plainText :=
  { synths := [⟨"fastly", Cdn.fastlyDetect⟩, (Nat64.mk sampleSettings.nat64Prefix).synthesizer]
    ttlCap := none
    nat64Fallback := none }

def twoEnv : Env Unit := ⟨(), .new ["fastly", "nat64"]⟩

/-- On the miss the provider is recognised by the SOA mailbox and wins; on the hit
the SOA is gone and the translator wins. -/
theorem alias_nodata_changes_winner :
    Storable aliasNodata ∧
      (storeResponse (StaleCache.new 0) sampleQuestion aliasNodata 0 ()).get sampleQuestion 0 =
        some (.fresh ((storedEntry aliasNodata 0).toResponse 60) false, ()) ∧
      ∃ cached, buildCachedResponse (fun _ => true) sampleQuestion
          ((storedEntry aliasNodata 0).toResponse 60) = some cached ∧
        branch aliasNodata = .nodata ∧
        extractAuthority cached ≠ extractAuthority aliasNodata ∧
        (∃ records after, twoChain.synthesize referencePool
          (synthContext plainText sampleQuestion aliasNodata
            (some (sampleAddress 300 (Address.v4 93 184 216 34)))) twoEnv =
          .ok (some (records, "fastly"), after)) ∧
        ∃ records after, twoChain.synthesize referencePool
          (synthContext plainText sampleQuestion cached
            (some (sampleAddress 300 (Address.v4 93 184 216 34)))) twoEnv =
          .ok (some (records, "nat64"), after) := by
  refine ⟨by decide, by decide, _, rfl, by decide, by decide, ?_, ?_⟩
  · exact ⟨_, _, rfl⟩
  · exact ⟨_, _, rfl⟩

end Dnsix.Transparency
