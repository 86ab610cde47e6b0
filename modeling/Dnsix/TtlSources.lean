import Dnsix.ChainContract
import Dnsix.Handler
import Dnsix.PlanRules

/-!
How long a synthesized record may live. A plan that resolved references takes
their smallest TTL, any other plan the smallest TTL of the A records, and so does
the appended NAT64 record. Which records an address is derived from depends on
the plan: a borrowed address is a reference's own, except that Fastly's also
carries bits of an A address.
-/

namespace Dnsix.TtlSources
open Address Ascii Cdn ChainContract Counters Dns Handler Panics PlanRules Rewrites Synth SynthChain

variable {text : NameText} {World : Type}

/-- The plan resolves nothing, or hands on the addresses it resolved. -/
def Borrows (plan : Plan) : Prop :=
  plan.resolve = [] ∨ ∀ resolved v4, resolved ≠ [] → plan.combine resolved v4 = resolved

/-- The A records the answer is derived from: those of a NoError A response. -/
def AddressSource (aRes : Option Message) (source : Record) : Prop :=
  ∃ a addr, aRes = some a ∧ a.responseCode = .NoError ∧ source ∈ a.answers ∧
    source.data = .A addr

/-! The plans of the providers. -/
section Plans

theorem borrow_or_borrows (names : List Name) (fallback : Option Ipv6Addr) :
    Borrows ⟨names, borrowOr fallback⟩ := by
  refine .inr fun resolved v4 present => ?_
  cases resolved with
  | nil => exact absurd rfl present
  | cons first rest => rfl

theorem pure_borrows (combine : Combine) : Borrows (.pure combine) := .inl rfl

/-- Fastly's host id aside, an address is a resolved one or made without lookups. -/
theorem make_synthesizer_borrows (id : String) (nat64Prefix : Ipv6Addr)
    (synth : Synthesizer text) (made : makeSynthesizer text id nat64Prefix = some synth)
    (other : id ≠ "fastly") (ctx : SynthContext text) (plan : Plan)
    (detected : synth.detect ctx = .ok (some plan)) : Borrows plan := by
  rcases make_synthesizer_planned id synth made detected with ⟨rule, names, follows, rfl⟩
  cases rule with
  | constant addr => exact pure_borrows _
  | borrowed fallback => exact borrow_or_borrows names fallback
  | fused hostid =>
      cases follows
      exact absurd rfl other
  | edge base spo => exact pure_borrows _
  | embedded covers v4to6 => exact pure_borrows _

/-- Once a reference resolved, every passing address is a reference's. -/
theorem passing_resolved (plan : Plan) (borrows : Borrows plan) (resolve : Resolver World)
    (ctx : SynthContext text) (world : World)
    (resolved : (resolveAll resolve plan.resolve world).1 ≠ []) :
    ∀ ip ∈ passing plan (resolveAll resolve plan.resolve world).1 ctx,
      ∃ reference ∈ (resolveAll resolve plan.resolve world).1, ip = reference.1 := by
  intro ip listed
  rcases borrows with alone | handed
  -- A plan without lookups has resolved nothing.
  · rw [alone] at resolved
    exact absurd rfl resolved
  · have kept := (List.mem_filter.mp listed).1
    rw [handed _ _ fun empty => resolved (List.map_eq_nil_iff.mp empty)] at kept
    rcases List.mem_map.mp kept with ⟨reference, present, same⟩
    exact ⟨reference, present, same.symm⟩

end Plans

/-! The base TTL. -/
section Base

theorem base_le_reference (ctx : SynthContext text) (found : List (Ipv6Addr × Nat))
    (reference : Ipv6Addr × Nat) (listed : reference ∈ found) :
    baseTtl ctx found ≤ reference.2 :=
  CacheHistory.min_get_le _ _ _ (List.mem_map_of_mem listed)

theorem base_le_address (ctx : SynthContext text) (record : Ipv4Addr × Nat)
    (listed : record ∈ ctx.aRecords) : baseTtl ctx [] ≤ record.2 := by
  have unresolved : baseTtl ctx [] =
      (ctx.aRecords.map Prod.snd).min?.getD defaultSynthTtl := rfl
  rw [unresolved]
  exact CacheHistory.min_get_le _ _ _ (List.mem_map_of_mem listed)

theorem source_listed (aRes : Option Message) (source : Record)
    (used : AddressSource aRes source) : ∃ addr, (addr, source.ttl) ∈ aRecords aRes := by
  rcases used with ⟨a, addr, rfl, fine, present, data⟩
  refine ⟨addr, ?_⟩
  rw [aRecords]
  simp only [fine, if_true]
  refine List.mem_filterMap.mpr ⟨source, present, ?_⟩
  rw [data]

theorem base_le_source (query : Query) (aaaa : Message) (aRes : Option Message)
    (source : Record) (used : AddressSource aRes source) :
    baseTtl (synthContext text query aaaa aRes) [] ≤ source.ttl := by
  rcases source_listed aRes source used with ⟨addr, listed⟩
  exact base_le_address _ (addr, source.ttl) listed

end Base

/-- Own records are bounded by the references their plan resolved, or by the A
records when none resolved; the appended one by the A records; all by the cap. With
references resolved, the address itself is a reference's, unless it is Fastly's. -/
structure WithinSources (settings : Settings) (aRes : Option Message) (id : String)
    (found : List (Ipv6Addr × Nat)) (own extra : List Record) : Prop where
  references : ∀ record ∈ own, ∀ reference ∈ found, record.ttl ≤ reference.2
  borrowed : ∀ record ∈ own, found ≠ [] → id ≠ "fastly" →
    ∃ reference ∈ found, record.data = .AAAA reference.1
  addresses : ∀ record ∈ own, found = [] → ∀ source, AddressSource aRes source →
    record.ttl ≤ source.ttl
  appended : ∀ record ∈ extra, ∀ source, AddressSource aRes source → record.ttl ≤ source.ttl
  capped : ∀ record ∈ own ++ extra, ∀ cap, settings.ttlCap = some cap → record.ttl ≤ cap

theorem ttl_within_sources (settings : Settings) (chain : Chain text)
    (accepted : settings.build = .ok chain) (resolve : Resolver World) (query : Query)
    (aaaa : Message) (aRes : Option Message) (env after : Env World) (records : List Record)
    (id : String)
    (answered : chain.synthesize resolve (synthContext text query aaaa aRes) env =
      .ok (some (records, id), after)) :
    ∃ winner plan world own extra, winner ∈ chain.synths ∧ winner.id = id ∧
      winner.detect (synthContext text query aaaa aRes) = .ok (some plan) ∧
      records = own ++ extra ∧
      own.map Record.data = (passing plan (resolveAll resolve plan.resolve world).1
        (synthContext text query aaaa aRes)).map RData.AAAA ∧
      WithinSources settings aRes id (resolveAll resolve plan.resolve world).1 own extra := by
  have built := build_built _ _ _ _ chain accepted
  rcases synthesize_won chain resolve _ env after records id answered with
    ⟨before, winner, rest, world, plan, split, _, named, detected, _, made, _⟩
  have listed : winner ∈ chain.synths := by
    rw [split]
    exact List.mem_append_right _ List.mem_cons_self
  refine ⟨winner, plan, world, _, _, listed, named, detected, made, ?_, ?_, ?_, ?_, ?_, ?_⟩
  · rw [List.map_map]
    rfl
  · intro record own reference present
    rcases List.mem_map.mp own with ⟨ip, _, rfl⟩
    exact (capped_le_ttl _ _).trans (base_le_reference _ _ reference present)
  · intro record own resolved other
    rcases List.mem_map.mp own with ⟨ip, passed, rfl⟩
    have borrows := make_synthesizer_borrows _ _ winner (built.made winner listed)
      (named ▸ other) _ plan detected
    rcases passing_resolved plan borrows resolve _ world resolved ip passed with
      ⟨reference, present, same⟩
    exact ⟨reference, present, congrArg RData.AAAA same⟩
  · intro record own unresolved source used
    rcases List.mem_map.mp own with ⟨ip, _, rfl⟩
    refine (capped_le_ttl _ _).trans ?_
    -- With no reference resolved the base is that of the A records.
    rw [unresolved]
    exact base_le_source query aaaa aRes source used
  · intro record extra source used
    rw [built_appended settings chain resolve _ id world built] at extra
    split_ifs at extra
    · rcases Option.map_eq_some_iff.mp (Option.mem_toList.mp extra) with ⟨ip, _, rfl⟩
      exact (capped_le_ttl _ _).trans (base_le_source query aaaa aRes source used)
    · cases extra
  · intro record present cap set
    rcases List.mem_append.mp present with own | extra
    · rcases List.mem_map.mp own with ⟨ip, _, rfl⟩
      exact capped_le _ _ cap (built.cap.trans set)
    · rw [built_appended settings chain resolve _ id world built] at extra
      split_ifs at extra
      · rcases Option.map_eq_some_iff.mp (Option.mem_toList.mp extra) with ⟨ip, _, rfl⟩
        exact capped_le _ _ cap set
      · cases extra

/-! Concrete runs. -/
theorem ttl_within_sources_shopify :
    ∃ records after, sampleChain.synthesize silentPool
        (synthContext plainText Pool.sampleQuestion sampleNodata
          (some (sampleAddress 60 (v4 23 227 38 10)))) sampleEnv =
        .ok (some (records, "shopify"), after) ∧
      ∃ found own extra, records = own ++ extra ∧
        WithinSources sampleSettings (some (sampleAddress 60 (v4 23 227 38 10))) "shopify" found
          own extra := by
  have computed : sampleChain.synthesize silentPool
      (synthContext plainText Pool.sampleQuestion sampleNodata
        (some (sampleAddress 60 (v4 23 227 38 10)))) sampleEnv =
      .ok (some ([aaaaRecord Pool.sampleName 60 (v6 0x2620 0x127 0xf00f 0 0 0 0 0),
        aaaaRecord Pool.sampleName 60 (v6 0x64 0xff9b 0 0 0 0 0x17e3 0x260a)], "shopify"),
        ⟨(), sampleEnv.metrics.synthHit "shopify"⟩) := rfl
  rcases ttl_within_sources sampleSettings sampleChain rfl silentPool Pool.sampleQuestion
    sampleNodata _ sampleEnv _ _ "shopify" computed with
    ⟨_, _, _, own, extra, _, _, _, made, _, within⟩
  exact ⟨_, _, computed, _, own, extra, made, within⟩

def fastlyChain : Chain plainText :=
  { synths := [⟨"fastly", fastlyDetect⟩], ttlCap := none, nat64Fallback := none }

def translatorChain : Chain plainText :=
  { synths := [(Nat64.mk sampleSettings.nat64Prefix).synthesizer], ttlCap := none
    nat64Fallback := none }

/-- An A answer behind an alias: the alias lives 5 seconds, the address 300. -/
def aliasedAddress : Message :=
  { sampleNodata with
    answers := [.fromRdata Pool.sampleName 5 (.CNAME ⟨[[100]], true⟩),
      .fromRdata ⟨[[100]], true⟩ 300 (.A (v4 93 184 216 34))] }

/-- The fused address carries the digits of 151.101.1.140, whose record lives 10
seconds, and is handed out for 300; a translated address outlives the alias that
was flattened away. -/
theorem synthesized_outlives_sources :
    (∃ record after, fastlyChain.synthesize referencePool
        (synthContext plainText Pool.sampleQuestion sampleNodata
          (some (sampleAddress 10 (v4 151 101 1 140)))) ⟨(), .new ["fastly"]⟩ =
        .ok (some ([record], "fastly"), after) ∧
      record.data = .AAAA (v6 0x2a04 0x4e42 0 0 0 0 0 0x396) ∧ ¬record.ttl ≤ 10) ∧
    ∃ record after, translatorChain.synthesize silentPool
        (synthContext plainText Pool.sampleQuestion sampleNodata (some aliasedAddress))
        ⟨(), .new ["nat64"]⟩ = .ok (some ([record], "nat64"), after) ∧
      ∃ name, .fromRdata Pool.sampleName 5 (.CNAME name) ∈ aliasedAddress.answers ∧
        ¬record.ttl ≤ 5 := by
  constructor
  · have computed : fastlyChain.synthesize referencePool
        (synthContext plainText Pool.sampleQuestion sampleNodata
          (some (sampleAddress 10 (v4 151 101 1 140)))) ⟨(), .new ["fastly"]⟩ =
        .ok (some ([aaaaRecord Pool.sampleName 300 (v6 0x2a04 0x4e42 0 0 0 0 0 0x396)], "fastly"),
          ⟨(), (Metrics.new ["fastly"]).synthHit "fastly"⟩) := rfl
    exact ⟨_, _, computed, rfl, by decide⟩
  · have computed : translatorChain.synthesize silentPool
        (synthContext plainText Pool.sampleQuestion sampleNodata (some aliasedAddress))
        ⟨(), .new ["nat64"]⟩ =
        .ok (some ([aaaaRecord Pool.sampleName 300
          (v6 0x64 0xff9b 0 0 0 0 0x5db8 0xd822)], "nat64"),
          ⟨(), (Metrics.new ["nat64"]).synthHit "nat64"⟩) := rfl
    exact ⟨_, _, computed, _, List.mem_cons_self, by decide⟩

end Dnsix.TtlSources
