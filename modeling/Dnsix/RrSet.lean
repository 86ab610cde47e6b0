import Dnsix.ChainContract
import Dnsix.Handler
import Dnsix.PlanRules

/-!
When the records of an answer form a valid set: one owner, one TTL, no address
twice. The owner is always the queried name. The records of one plan share a TTL,
and the appended one has the TTL of the A records. Nothing is compared once the
addresses are made, so they repeat exactly as what they are made from repeats.
-/

namespace Dnsix.RrSet
open Address Ascii Cdn ChainContract Counters Dns Panics PlanRules Synth SynthChain

variable {text : NameText} {World : Type}

structure ValidSet (records : List Record) : Prop where
  owner : ∀ left ∈ records, ∀ right ∈ records, left.name = right.name
  ttl : ∀ left ∈ records, ∀ right ∈ records, left.ttl = right.ttl
  distinct : (records.map Record.data).Nodup

/-- The last octet an Edge address carries. -/
def edgeOctet (spo : Bool) (ip : Ipv4Addr) : Nat :=
  if spo && octet ip 3 == 9 then 8 else octet ip 3

/-- What a rule makes its passing addresses from does not repeat: the references for
a borrowed address, their upper 112 bits for a fused one, the last octets for an Edge
address, the covered A addresses for an embedded one. -/
def Distinct (references : List Ipv6Addr) (v4 : List Ipv4Addr) : Rule → Prop
  | .constant _ => True
  | .borrowed _ => (references.filter isGlobalUnicastV6).Nodup
  | .fused hostid =>
      ((references.filter fun p => (fastlyFuse p hostid).any isGlobalUnicastV6).map
        (BitVec.extractLsb' 16 112)).Nodup
  | .edge _ spo => (v4.map (edgeOctet spo)).Nodup
  | .embedded covers v4to6 =>
      (v4.filter fun ip => covers ip && isGlobalUnicastV6 (v4to6 ip)).Nodup

/-- The address that goes behind a provider's, where one does. -/
def translated (settings : Settings) (ctx : SynthContext text) (id : String) : Option Ipv6Addr :=
  if settings.nat64Fallback = true ∧ "nat64" ∈ settings.ids ∧ id ≠ "nat64" then
    (firstEmbedded ⟨settings.nat64Prefix⟩ ctx).map (embed settings.nat64Prefix)
  else none

/-! What makes two addresses of one rule equal. -/
section Collisions

theorem nodup_map_filter {Source Image : Type} (make : Source → Image) (passes : Image → Bool)
    (sources : List Source)
    (separates : ∀ left ∈ sources, ∀ right ∈ sources, make left = make right → left = right) :
    ((sources.map make).filter passes).Nodup ↔ (sources.filter (passes ∘ make)).Nodup := by
  rw [List.filter_map]
  constructor
  · exact List.Nodup.of_map make
  · apply List.Nodup.map_on
    intro left leftKept right rightKept
    exact separates left (List.mem_filter.mp leftKept).1 right (List.mem_filter.mp rightKept).1

theorem embed_injective (base : Ipv6Addr) : Function.Injective (setLastOctets base) := by
  intro left right same
  rw [← set_last_octets_low base left, same, set_last_octets_low]

theorem segment_digits (left right : Nat) (leftSmall : left < 10000) (rightSmall : right < 10000)
    (same : BitVec.ofNat 16 (decimalAsHex left) = BitVec.ofNat 16 (decimalAsHex right)) :
    left = right := by
  have numbers := congrArg BitVec.toNat same
  rw [BitVec.toNat_ofNat, BitVec.toNat_ofNat, Nat.mod_eq_of_lt (decimal_as_hex_lt left leftSmall),
    Nat.mod_eq_of_lt (decimal_as_hex_lt right rightSmall)] at numbers
  exact decimal_as_hex_injective numbers

/-- Inside its /24 an address is its last octet. -/
theorem cachefly_separates (left right : Ipv4Addr) (leftIn : inCidr left cacheflyRange = true)
    (rightIn : inCidr right cacheflyRange = true)
    (same : cacheflyV4to6 left = cacheflyV4to6 right) : left = right := by
  have low := congrArg (BitVec.extractLsb' 0 16) same
  unfold cacheflyV4to6 v6 at low
  rw [BitVec.extractLsb'_append_eq_right, BitVec.extractLsb'_append_eq_right] at low
  have last := segment_digits _ _ ((octet_lt left 3).trans (by decide))
    ((octet_lt right 3).trans (by decide)) low
  rw [octet_eq, octet_eq] at last
  have net := ((in_cidr_iff left cacheflyRange).mp leftIn).trans
    ((in_cidr_iff right cacheflyRange).mp rightIn).symm
  simp only [cacheflyRange, cidr] at net last
  apply BitVec.eq_of_toNat_eq
  omega

theorem edge_digits (base : Ipv6Addr) (spo : Bool) (ip : Ipv4Addr) :
    msedgeV4to6 base spo ip =
      setLastSegment base (BitVec.ofNat 16 (decimalAsHex (edgeOctet spo ip))) := rfl

theorem edge_octet_lt (spo : Bool) (ip : Ipv4Addr) : edgeOctet spo ip < 10000 := by
  have small := octet_lt ip 3
  unfold edgeOctet
  split <;> omega

theorem edge_same_iff (base : Ipv6Addr) (spo : Bool) (left right : Ipv4Addr) :
    msedgeV4to6 base spo left = msedgeV4to6 base spo right ↔
      edgeOctet spo left = edgeOctet spo right := by
  rw [edge_digits, edge_digits]
  constructor
  · intro same
    have low := congrArg (BitVec.extractLsb' 0 16) same
    rw [set_last_segment_low, set_last_segment_low] at low
    exact segment_digits _ _ (edge_octet_lt spo left) (edge_octet_lt spo right) low
  · intro same
    rw [same]

/-- Every Edge address may be served. -/
theorem edge_passes (letter : Text) (base : Ipv6Addr) (spo : Bool) (ip : Ipv4Addr)
    (known : msedgePrefix letter = some (base, spo)) :
    isGlobalUnicastV6 (msedgeV4to6 base spo ip) = true := by
  have served : base.extractLsb' 32 96 ≠ 0 ∧ isGlobalUnicastV6 base = true := by
    unfold msedgePrefix at known
    repeat' split at known
    all_goals first | (cases known; decide) | cases known
  have high := set_last_segment_upper base (BitVec.ofNat 16 (decimalAsHex (edgeOctet spo ip)))
  rw [edge_digits, global_of_high _ base high (high ▸ served.1)]
  exact served.2

theorem host_id_lt (ip : Ipv4Addr) (github : Bool) : fastlyV6hex ip github < 10000 := by
  have low := octet_lt ip 3
  unfold fastlyV6hex
  split <;> omega

theorem fused_some (ip : Ipv4Addr) (github : Bool) (base : Ipv6Addr) :
    fastlyFuse base (fastlyV6hex ip github) =
      some (setLastSegment base (BitVec.ofNat 16 (decimalAsHex (fastlyV6hex ip github)))) :=
  if_pos (decimal_as_hex_lt _ (host_id_lt ip github))

end Collisions

/-! Each rule in turn. -/
section Rules

theorem embedded_distinct (covers : Ipv4Addr → Bool) (v4to6 : Ipv4Addr → Ipv6Addr)
    (references : List Ipv6Addr) (v4 : List Ipv4Addr)
    (separates : ∀ left right, covers left = true → covers right = true →
      v4to6 left = v4to6 right → left = right) :
    (((v4.filter covers).map v4to6).filter isGlobalUnicastV6).Nodup ↔
      Distinct references v4 (.embedded covers v4to6) := by
  rw [nodup_map_filter, List.filter_filter]
  · simp only [Distinct, Bool.and_comm, Function.comp_apply]
  · intro left leftKept right rightKept
    exact separates left right (List.mem_filter.mp leftKept).2 (List.mem_filter.mp rightKept).2

theorem edge_distinct (letter : Text) (base : Ipv6Addr) (spo : Bool)
    (known : msedgePrefix letter = some (base, spo)) (references : List Ipv6Addr)
    (v4 : List Ipv4Addr) :
    ((v4.map (msedgeV4to6 base spo)).filter isGlobalUnicastV6).Nodup ↔
      Distinct references v4 (.edge base spo) := by
  have all : (v4.map (msedgeV4to6 base spo)).filter isGlobalUnicastV6 =
      v4.map (msedgeV4to6 base spo) := by
    rw [List.filter_eq_self]
    intro ip listed
    rcases List.mem_map.mp listed with ⟨source, _, rfl⟩
    exact edge_passes letter base spo source known
  have factored : v4.map (msedgeV4to6 base spo) = (v4.map (edgeOctet spo)).map fun digits =>
      setLastSegment base (BitVec.ofNat 16 (decimalAsHex digits)) := by
    rw [List.map_map]
    rfl
  rw [all, factored]
  constructor
  · exact List.Nodup.of_map _
  · apply List.Nodup.map_on
    intro left leftListed right rightListed same
    rcases List.mem_map.mp leftListed with ⟨first, _, rfl⟩
    rcases List.mem_map.mp rightListed with ⟨second, _, rfl⟩
    exact (edge_same_iff base spo first second).mp same

theorem fused_distinct (ip : Ipv4Addr) (github : Bool) (references : List Ipv6Addr)
    (v4 : List Ipv4Addr) :
    ((fuseAll (fastlyV6hex ip github) references v4).filter isGlobalUnicastV6).Nodup ↔
      Distinct references v4 (.fused (fastlyV6hex ip github)) := by
  have fused : fuseAll (fastlyV6hex ip github) references v4 = references.map fun base =>
      setLastSegment base (BitVec.ofNat 16 (decimalAsHex (fastlyV6hex ip github))) := by
    unfold fuseAll
    rw [← List.filterMap_eq_map]
    exact List.filterMap_congr fun base _ => fused_some ip github base
  rw [fused, List.filter_map, Distinct]
  simp only [fused_some, Option.any_some]
  -- The last segment is one for all, so only the bits above it tell two apart.
  have appended : Function.Injective fun high : BitVec 112 =>
      high ++ BitVec.ofNat 16 (decimalAsHex (fastlyV6hex ip github)) := by
    intro left right same
    have high := congrArg (BitVec.extractLsb' 16 112) same
    dsimp only at high
    rwa [BitVec.extractLsb'_append_eq_left, BitVec.extractLsb'_append_eq_left] at high
  rw [← List.nodup_map_iff appended, List.map_map]
  rfl

theorem borrowed_distinct (fallback : Option Ipv6Addr) (references : List Ipv6Addr)
    (v4 : List Ipv4Addr) :
    ((borrowOr fallback references v4).filter isGlobalUnicastV6).Nodup ↔
      Distinct references v4 (.borrowed fallback) := by
  cases references with
  | nil =>
      constructor
      · intro _
        exact List.nodup_nil
      · intro _
        cases fallback with
        | none => exact List.nodup_nil
        | some addr => exact (List.nodup_singleton addr).filter _
  | cons first rest => exact Iff.rfl

theorem distinct_iff (nat64Prefix : Ipv6Addr) (ctx : SynthContext text) (id : String)
    (rule : Rule) (follows : Follows nat64Prefix ctx id rule) (references : List Ipv6Addr)
    (v4 : List Ipv4Addr) :
    ((rule.addresses references v4).filter isGlobalUnicastV6).Nodup ↔
      Distinct references v4 rule := by
  cases follows with
  | nat64 =>
      exact embedded_distinct _ _ _ _ fun left right _ _ same => embed_injective nat64Prefix same
  | cloudflare =>
      exact embedded_distinct _ _ _ _ fun left right _ _ same => embed_injective _ same
  | wpvip => exact embedded_distinct _ _ _ _ fun left right _ _ same => embed_injective _ same
  | cachefly => exact embedded_distinct _ _ _ _ cachefly_separates
  | msedge letter base spo known => exact edge_distinct letter base spo known references v4
  | fastly ip github => exact fused_distinct ip github references v4
  | constant =>
      constructor
      · intro _
        trivial
      · intro _
        exact (List.nodup_singleton _).filter _
  | borrowed => exact borrowed_distinct _ references v4

end Rules

/-- The records of an answer, and when they form a valid set. -/
structure Assembled (settings : Settings) (ctx : SynthContext text) (id : String)
    (found : List (Ipv6Addr × Nat)) (rule : Rule) (records : List Record) : Prop where
  made : records =
    ((rule.addresses (found.map Prod.fst) ctx.aAddrs).filter isGlobalUnicastV6).map
      (aaaaRecord ctx.name (cappedTtl (baseTtl ctx found) settings.ttlCap)) ++
    (translated settings ctx id).toList.map
      (aaaaRecord ctx.name (cappedTtl (baseTtl ctx []) settings.ttlCap))
  owner : ∀ record ∈ records, record.name = ctx.name
  ttl : (∀ left ∈ records, ∀ right ∈ records, left.ttl = right.ttl) ↔
    translated settings ctx id = none ∨ cappedTtl (baseTtl ctx found) settings.ttlCap =
      cappedTtl (baseTtl ctx []) settings.ttlCap
  distinct : (records.map Record.data).Nodup ↔
    Distinct (found.map Prod.fst) ctx.aAddrs rule ∧
      ∀ ip, translated settings ctx id = some ip →
        ip ∉ rule.addresses (found.map Prod.fst) ctx.aAddrs

theorem valid_iff (settings : Settings) (ctx : SynthContext text) (id : String)
    (found : List (Ipv6Addr × Nat)) (rule : Rule) (records : List Record)
    (assembled : Assembled settings ctx id found rule records) :
    ValidSet records ↔
      (translated settings ctx id = none ∨ cappedTtl (baseTtl ctx found) settings.ttlCap =
        cappedTtl (baseTtl ctx []) settings.ttlCap) ∧
      Distinct (found.map Prod.fst) ctx.aAddrs rule ∧
      ∀ ip, translated settings ctx id = some ip →
        ip ∉ rule.addresses (found.map Prod.fst) ctx.aAddrs := by
  constructor
  · intro valid
    exact ⟨assembled.ttl.mp valid.ttl, assembled.distinct.mp valid.distinct⟩
  · rintro ⟨ttl, apart⟩
    constructor
    · intro left leftListed right rightListed
      exact (assembled.owner left leftListed).trans (assembled.owner right rightListed).symm
    · exact assembled.ttl.mpr ttl
    · exact assembled.distinct.mpr apart

theorem translated_passes (settings : Settings) (ctx : SynthContext text) (id : String)
    (ip : Ipv6Addr) (present : translated settings ctx id = some ip) :
    isGlobalUnicastV6 ip = true := by
  unfold translated at present
  split at present
  · rcases Option.map_eq_some_iff.mp present with ⟨source, first, rfl⟩
    have passed := List.find?_some first
    exact passed
  · cases present

theorem assembled_ttl (name : Name) (own extra : Nat) (addrs : List Ipv6Addr)
    (last : Option Ipv6Addr) (present : addrs ≠ []) :
    (∀ left ∈ addrs.map (aaaaRecord name own) ++ last.toList.map (aaaaRecord name extra),
      ∀ right ∈ addrs.map (aaaaRecord name own) ++ last.toList.map (aaaaRecord name extra),
        left.ttl = right.ttl) ↔ last = none ∨ own = extra := by
  constructor
  · intro uniform
    cases last with
    | none => exact .inl rfl
    | some ip =>
        rcases List.exists_mem_of_ne_nil addrs present with ⟨addr, listed⟩
        exact .inr (uniform (aaaaRecord name own addr)
          (List.mem_append_left _ (List.mem_map_of_mem listed)) (aaaaRecord name extra ip)
          (List.mem_append_right _ List.mem_cons_self))
  · intro agreed
    have each : ∀ record ∈ addrs.map (aaaaRecord name own) ++
        last.toList.map (aaaaRecord name extra), record.ttl = own := by
      intro record listed
      rcases List.mem_append.mp listed with mine | appended
      · rcases List.mem_map.mp mine with ⟨_, _, rfl⟩
        rfl
      · rcases List.mem_map.mp appended with ⟨ip, inLast, rfl⟩
        rcases agreed with gone | same
        · rw [gone] at inLast
          cases inLast
        · exact same.symm
    intro left leftListed right rightListed
    rw [each left leftListed, each right rightListed]

theorem assembled_distinct (name : Name) (own extra : Nat) (candidates : List Ipv6Addr)
    (last : Option Ipv6Addr) (passes : ∀ ip, last = some ip → isGlobalUnicastV6 ip = true) :
    (((candidates.filter isGlobalUnicastV6).map (aaaaRecord name own) ++
      last.toList.map (aaaaRecord name extra)).map Record.data).Nodup ↔
      (candidates.filter isGlobalUnicastV6).Nodup ∧ ∀ ip, last = some ip → ip ∉ candidates := by
  have datas : ((candidates.filter isGlobalUnicastV6).map (aaaaRecord name own) ++
      last.toList.map (aaaaRecord name extra)).map Record.data =
      (candidates.filter isGlobalUnicastV6 ++ last.toList).map RData.AAAA := by
    rw [List.map_append, List.map_append, List.map_map, List.map_map]
    rfl
  have apart : Function.Injective RData.AAAA := fun _ _ same => RData.AAAA.inj same
  rw [datas, List.nodup_map_iff apart]
  cases last with
  | none => simp
  | some ip =>
      have served : ip ∈ candidates.filter isGlobalUnicastV6 ↔ ip ∈ candidates :=
        List.mem_filter.trans (and_iff_left (passes ip rfl))
      rw [Option.toList_some, ← List.concat_eq_append, List.nodup_concat, served]
      simp [and_comm]

/-- The records of every answer: the passing addresses of the winner's rule, then the
translated one. They are a valid set unless the two TTLs differ or an address repeats. -/
theorem synthesized_set (settings : Settings) (chain : Chain text)
    (accepted : settings.build = .ok chain) (resolve : Resolver World) (ctx : SynthContext text)
    (env after : Env World) (records : List Record) (id : String)
    (answered : chain.synthesize resolve ctx env = .ok (some (records, id), after)) :
    ∃ winner plan world rule, winner ∈ chain.synths ∧ winner.id = id ∧
      winner.detect ctx = .ok (some plan) ∧ Follows settings.nat64Prefix ctx id rule ∧
      Assembled settings ctx id (resolveAll resolve plan.resolve world).1 rule records ∧
      (ValidSet records ↔
        (translated settings ctx id = none ∨
          cappedTtl (baseTtl ctx (resolveAll resolve plan.resolve world).1) settings.ttlCap =
            cappedTtl (baseTtl ctx []) settings.ttlCap) ∧
        Distinct ((resolveAll resolve plan.resolve world).1.map Prod.fst) ctx.aAddrs rule ∧
        ∀ ip, translated settings ctx id = some ip → ip ∉
          rule.addresses ((resolveAll resolve plan.resolve world).1.map Prod.fst) ctx.aAddrs) := by
  have built := build_built _ _ _ _ chain accepted
  rcases synthesize_won chain resolve ctx env after records id answered with
    ⟨before, winner, rest, world, plan, split, _, rfl, detected, fruitful, made, _⟩
  have listed : winner ∈ chain.synths := by
    rw [split]
    exact List.mem_append_right _ List.mem_cons_self
  rcases make_synthesizer_planned winner.id winner (built.made winner listed) detected with
    ⟨rule, names, follows, planned⟩
  generalize found : (resolveAll resolve plan.resolve world).1 = references at *
  have combined : passing plan references ctx =
      (rule.addresses (references.map Prod.fst) ctx.aAddrs).filter isGlobalUnicastV6 := by
    rw [passing, planned, plan_combine]
  have extra : (chain.appended resolve ctx winner.id world).1 =
      (translated settings ctx winner.id).toList.map
        (aaaaRecord ctx.name (cappedTtl (baseTtl ctx []) settings.ttlCap)) := by
    rw [built_appended settings chain resolve ctx winner.id world built, translated]
    split_ifs
    · cases firstEmbedded ⟨settings.nat64Prefix⟩ ctx <;> rfl
    · rfl
  rw [planTtl, found, built.cap, extra, combined] at made
  rw [combined] at fruitful
  have assembled : Assembled settings ctx winner.id references rule records := by
    constructor
    · exact made
    · intro record present
      rw [made] at present
      rcases List.mem_append.mp present with mine | appended
      · rcases List.mem_map.mp mine with ⟨_, _, rfl⟩
        rfl
      · rcases List.mem_map.mp appended with ⟨_, _, rfl⟩
        rfl
    · rw [made]
      exact assembled_ttl ctx.name _ _ _ _ fruitful
    · rw [made, assembled_distinct ctx.name _ _ _ _ (translated_passes settings ctx winner.id),
        distinct_iff settings.nat64Prefix ctx winner.id rule follows]
  exact ⟨winner, plan, world, rule, listed, rfl, detected, follows, found ▸ assembled,
    found ▸ valid_iff settings ctx winner.id references rule records assembled⟩

/-! Concrete runs. -/
theorem synthesized_set_shopify :
    ∃ records after rule, sampleChain.synthesize silentPool sampleContext sampleEnv =
        .ok (some (records, "shopify"), after) ∧
      Follows sampleSettings.nat64Prefix sampleContext "shopify" rule ∧
      Assembled sampleSettings sampleContext "shopify" [] rule records ∧ ValidSet records := by
  have computed : sampleChain.synthesize silentPool sampleContext sampleEnv =
      .ok (some ([aaaaRecord sampleContext.name 300 (v6 0x2620 0x127 0xf00f 0 0 0 0 0),
        aaaaRecord sampleContext.name 300 (v6 0x64 0xff9b 0 0 0 0 0x17e3 0x260a)], "shopify"),
        ⟨(), sampleEnv.metrics.synthHit "shopify"⟩) := rfl
  rcases synthesized_set sampleSettings sampleChain rfl silentPool sampleContext sampleEnv _ _ _
    computed with ⟨_, plan, world, rule, _, _, _, follows, assembled, valid⟩
  have silent : ∀ names, (resolveAll silentPool names world).1 = [] := by
    intro names
    induction names with
    | nil => rfl
    | cons name rest ih => exact ih
  rw [silent] at assembled valid
  refine ⟨_, _, rule, computed, follows, assembled, valid.mpr ⟨.inr rfl, ?_⟩⟩
  exact assembled.distinct.mp (by decide)

/-- A Fastly address of 151.101.0.0/16, and two Edge addresses with one last octet. -/
def fastlyContext : SynthContext plainText :=
  .new plainText Pool.sampleName [] [(v4 151 101 1 140, 60)] .default

def edgeContext : SynthContext plainText :=
  .new plainText ⟨[[97]], true⟩ [] [(v4 13 107 4 50, 60), (v4 204 79 197 50, 60)]
    ⟨none, some ⟨[[109, 115, 101, 100, 103, 101], [110, 101, 116]], true⟩⟩

def fastlySettings : Settings := { sampleSettings with ids := ["fastly", "msedge", "nat64"] }

def fastlyChain : Chain plainText :=
  { synths := [⟨"fastly", fastlyDetect⟩, ⟨"msedge", fun ctx => .ok (msedgeDetect ctx)⟩,
      (Nat64.mk sampleSettings.nat64Prefix).synthesizer]
    ttlCap := none
    nat64Fallback := some ⟨sampleSettings.nat64Prefix⟩ }

/-- The reference's TTL stands beside the A record's; and one address stands twice. -/
theorem synthesized_sets_invalid :
    fastlySettings.build = .ok fastlyChain ∧
      (∃ records after, fastlyChain.synthesize Handler.referencePool fastlyContext sampleEnv =
          .ok (some (records, "fastly"), after) ∧ records.map Record.ttl = [300, 60] ∧
        ¬ ValidSet records) ∧
      ∃ records after, fastlyChain.synthesize silentPool edgeContext sampleEnv =
          .ok (some (records, "msedge"), after) ∧
        ¬ (records.map Record.data).Nodup ∧ ¬ ValidSet records := by
  refine ⟨rfl, ⟨_, _, rfl, rfl, ?_⟩, ⟨_, _, rfl, ?_, ?_⟩⟩
  · intro valid
    exact absurd (valid.ttl _ List.mem_cons_self _ (List.mem_cons_of_mem _ List.mem_cons_self))
      (by decide)
  · decide
  · intro valid
    exact absurd valid.distinct (by decide)

end Dnsix.RrSet
