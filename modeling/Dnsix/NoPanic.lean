import Dnsix.ChainContract
import Dnsix.PlanRules

/-!
Every partial operation on the way of a client's name through the synthesizers: the
slice of the label match, the vector edits of the rewrites, and the array accesses of
the closures that combine a plan's addresses. None of them is out of range.
-/

namespace Dnsix.NoPanic
open Address Ascii Cdn Dns Panics PlanRules Rewrites Synth SynthChain

variable {text : NameText}

/-! The label match. -/
section Labels

/-- The slice `items[start..]`. -/
def sliceFrom (items : List Text) (start : Nat) : Checked (List Text) :=
  if start ≤ items.length then .ok (items.drop start) else .error .slice

/-- The slice is taken only where the labels are long enough. -/
def labelsEndWithChecked (labels suffix : List Text) : Checked Bool :=
  andAlso (.ok (decide (suffix.length ≤ labels.length)))
    ((sliceFrom labels (labels.length - suffix.length)).map fun back => back == suffix)

theorem labels_end_with_checked (labels suffix : List Text) :
    labelsEndWithChecked labels suffix = .ok (labelsEndWith labels suffix) := by
  unfold labelsEndWithChecked labelsEndWith
  cases decide (suffix.length ≤ labels.length) with
  | false => rfl
  | true =>
      rw [sliceFrom, if_pos (Nat.sub_le _ _)]
      rfl

end Labels

/-! The arrays of an address. -/
section Arrays

def octets (ip : Ipv4Addr) : List (BitVec 8) :=
  (List.range 4).map fun place => ip.extractLsb' (24 - 8 * place) 8

def segments (ip : Ipv6Addr) : List (BitVec 16) := (List.range 8).map (segment ip)

def octetsV6 (ip : Ipv6Addr) : List (BitVec 8) :=
  (List.range 16).map fun place => ip.extractLsb' (120 - 8 * place) 8

def ofSegments : List (BitVec 16) → Ipv6Addr
  | [a, b, c, d, e, f, g, h] => v6 a b c d e f g h
  | _ => 0

def ofOctetsV6 : List (BitVec 8) → Ipv6Addr
  | [a, b, c, d, e, f, g, h, i, j, k, l, m, n, o, p] =>
      (a ++ b ++ c ++ d ++ e ++ f ++ g ++ h ++ i ++ j ++ k ++ l) ++ v4 m n o p
  | _ => 0

/-- `items[start..stop].copy_from_slice(source)`, which wants the lengths to agree. -/
def copyFromSlice (items : List (BitVec 8)) (start stop : Nat) (source : List (BitVec 8)) :
    Checked (List (BitVec 8)) :=
  if start ≤ stop ∧ stop ≤ items.length ∧ source.length = stop - start then
    .ok (items.take start ++ source ++ items.drop stop)
  else .error .slice

theorem v4_octets (ip : Ipv4Addr) :
    v4 (ip.extractLsb' 24 8) (ip.extractLsb' 16 8) (ip.extractLsb' 8 8) (ip.extractLsb' 0 8) =
      ip := by
  rw [v4]
  repeat rw [BitVec.extractLsb'_append_extractLsb'_eq_extractLsb' (by rfl)]
  exact BitVec.extractLsb'_eq_self

theorem segments_replaced (base : Ipv6Addr) (value : BitVec 16) :
    ofSegments ((segments base).set 7 value) = setLastSegment base value := by
  have high : base.extractLsb' 112 16 ++ base.extractLsb' 96 16 ++ base.extractLsb' 80 16 ++
      base.extractLsb' 64 16 ++ base.extractLsb' 48 16 ++ base.extractLsb' 32 16 ++
      base.extractLsb' 16 16 = base.extractLsb' 16 112 := by
    repeat rw [BitVec.extractLsb'_append_extractLsb'_eq_extractLsb' (by rfl)]
  exact congrArg (fun (left : BitVec 112) => left ++ value) high

theorem octets_replaced (base : Ipv6Addr) (ip : Ipv4Addr) :
    ofOctetsV6 ((octetsV6 base).take 12 ++ octets ip ++ (octetsV6 base).drop 16) =
      setLastOctets base ip := by
  have high : base.extractLsb' 120 8 ++ base.extractLsb' 112 8 ++ base.extractLsb' 104 8 ++
      base.extractLsb' 96 8 ++ base.extractLsb' 88 8 ++ base.extractLsb' 80 8 ++
      base.extractLsb' 72 8 ++ base.extractLsb' 64 8 ++ base.extractLsb' 56 8 ++
      base.extractLsb' 48 8 ++ base.extractLsb' 40 8 ++ base.extractLsb' 32 8 =
      base.extractLsb' 32 96 := by
    repeat rw [BitVec.extractLsb'_append_extractLsb'_eq_extractLsb' (by rfl)]
  have low := v4_octets ip
  exact congr (congrArg (fun (left : BitVec 96) (right : BitVec 32) => left ++ right) high) low

end Arrays

/-! The closures that combine a plan's addresses. -/
section Closures

/-- A closure of the source with what it captures. -/
inductive Closure where
  | constant (addr : Ipv6Addr)
  | borrowed (fallback : Option Ipv6Addr)
  | fused (hostid : Nat)
  | edge (base : Ipv6Addr) (spo : Bool)
  | nat64 (base : Ipv6Addr) (name : Name)
  | cloudflare
  | wpvip
  | cachefly

/-- The test runs on every item, and one that panics ends the filter. -/
def filterChecked {Item : Type} (test : Item → Checked Bool) : List Item → Checked (List Item)
  | [] => .ok []
  | item :: rest => do
      let holds ← test item
      let kept ← filterChecked test rest
      .ok (if holds then item :: kept else kept)

def fuseChecked (hostid : Nat) (base : Ipv6Addr) : Checked (Option Ipv6Addr) :=
  if decimalAsHex hostid < 65536 then do
    let segs ← Vec.assign (segments base) 7 (BitVec.ofNat 16 (decimalAsHex hostid))
    .ok (some (ofSegments segs))
  else .ok none

def edgeChecked (base : Ipv6Addr) (spo : Bool) (ip : Ipv4Addr) : Checked Ipv6Addr := do
  let o3 ← Vec.index (octets ip) 3
  let o3 := if spo && o3.toNat == 9 then 8 else o3.toNat
  .ok (setLastSegment base (BitVec.ofNat 16 (decimalAsHex o3)))

/-- The four octets written behind a base, as Cloudflare and WordPress VIP do. -/
def quadChecked (base : Ipv6Addr) (ip : Ipv4Addr) : Checked Ipv6Addr := do
  let o0 ← Vec.index (octets ip) 0
  let o1 ← Vec.index (octets ip) 1
  let o2 ← Vec.index (octets ip) 2
  let o3 ← Vec.index (octets ip) 3
  .ok (setLastOctets base (v4 o0 o1 o2 o3))

def cacheflyChecked (ip : Ipv4Addr) : Checked Ipv6Addr := do
  let o2 ← Vec.index (octets ip) 2
  let o3 ← Vec.index (octets ip) 3
  .ok (v6 0x2605 0x4c40 0 0 0 0 (BitVec.ofNat 16 (decimalAsHex o2.toNat))
    (BitVec.ofNat 16 (decimalAsHex o3.toNat)))

def routableChecked (ip : Ipv4Addr) : Checked Bool := do
  let o0 ← Vec.index (octets ip) 0
  let o1 ← Vec.index (octets ip) 1
  let o2 ← Vec.index (octets ip) 2
  .ok !(o0.toNat == 0 ||
    isPrivate ip ||
    (o0.toNat == 100 && o1.toNat &&& 0xc0 == 64) ||
    isLoopback ip ||
    isLinkLocal ip ||
    (o0.toNat == 192 && o1.toNat == 0 && o2.toNat == 0) ||
    isDocumentation ip ||
    (o0.toNat == 198 && o1.toNat &&& 0xfe == 18) ||
    isMulticast ip ||
    decide (240 ≤ o0.toNat))

def embedChecked (base : Ipv6Addr) (ip : Ipv4Addr) : Checked Ipv6Addr := do
  let octets ← copyFromSlice (octetsV6 base) 12 16 (octets ip)
  .ok (ofOctetsV6 octets)

variable (text) in
/-- The closure with its array accesses checked. -/
def Closure.run : Closure → List Ipv6Addr → List Ipv4Addr → Checked (List Ipv6Addr)
  | .constant addr, _, _ => .ok [addr]
  | .borrowed fallback, resolved, _ =>
      .ok (if resolved.isEmpty then fallback.toList else resolved)
  | .fused hostid, resolved, _ => do
      let fused ← resolved.mapM (fuseChecked hostid)
      .ok (fused.filterMap id)
  | .edge base spo, _, v4 => v4.mapM (edgeChecked base spo)
  | .nat64 base name, _, v4 => do
      let eligible ← (if isIpv4onlyArpa text name then .ok v4 else filterChecked routableChecked v4)
      eligible.mapM (embedChecked base)
  | .cloudflare, _, v4 =>
      (v4.filter (inCidr · cloudflareRange)).mapM (quadChecked (v6 0x2606 0x4700 0 0 0 0 0 0))
  | .wpvip, _, v4 =>
      (v4.filter (inCidr · wpvipRange)).mapM (quadChecked (v6 0x2a04 0xfa87 0xfffd 0 0 0 0 0))
  | .cachefly, _, v4 => (v4.filter (inCidr · cacheflyRange)).mapM cacheflyChecked

variable (text) in
/-- What the plans compute. -/
def Closure.value : Closure → Combine
  | .constant addr => fun _ _ => [addr]
  | .borrowed fallback => borrowOr fallback
  | .fused hostid => fuseAll hostid
  | .edge base spo => fun _ v4 => v4.map (msedgeV4to6 base spo)
  | .nat64 base name => fun _ v4 => (eligibleAddresses text name v4).map (embed base)
  | .cloudflare => fun _ v4 => (v4.filter (inCidr · cloudflareRange)).map cloudflareV4to6
  | .wpvip => fun _ v4 => (v4.filter (inCidr · wpvipRange)).map wpvipV4to6
  | .cachefly => fun _ v4 => (v4.filter (inCidr · cacheflyRange)).map cacheflyV4to6

theorem map_checked {Item Other : Type} (f : Item → Checked Other) (g : Item → Other)
    (fine : ∀ item, f item = .ok (g item)) (items : List Item) :
    items.mapM f = .ok (items.map g) := by
  induction items with
  | nil => rfl
  | cons item rest ih =>
      rw [List.mapM_cons, fine, ih]
      rfl

theorem filter_checked {Item : Type} (test : Item → Checked Bool) (keep : Item → Bool)
    (fine : ∀ item, test item = .ok (keep item)) (items : List Item) :
    filterChecked test items = .ok (items.filter keep) := by
  induction items with
  | nil => rfl
  | cons item rest ih =>
      rw [filterChecked, fine, ih, List.filter_cons]
      rfl

theorem fuse_checked (hostid : Nat) (base : Ipv6Addr) :
    fuseChecked hostid base = .ok (fastlyFuse base hostid) := by
  unfold fuseChecked fastlyFuse
  split
  · have assigned : Vec.assign (segments base) 7 (BitVec.ofNat 16 (decimalAsHex hostid)) =
        .ok ((segments base).set 7 (BitVec.ofNat 16 (decimalAsHex hostid))) := rfl
    rw [assigned]
    exact congrArg (fun ip => Except.ok (some ip)) (segments_replaced base _)
  · rfl

theorem quad_checked (base : Ipv6Addr) (ip : Ipv4Addr) :
    quadChecked base ip = .ok (setLastOctets base ip) :=
  congrArg (fun ip => Except.ok (setLastOctets base ip)) (v4_octets ip)

theorem embed_checked (base : Ipv6Addr) (ip : Ipv4Addr) :
    embedChecked base ip = .ok (embed base ip) :=
  congrArg Except.ok (octets_replaced base ip)

/-- No array access of a closure is out of range. -/
theorem closure_runs (closure : Closure) (resolved : List Ipv6Addr) (v4 : List Ipv4Addr) :
    closure.run text resolved v4 = .ok (closure.value text resolved v4) := by
  cases closure with
  | constant addr => rfl
  | borrowed fallback => rfl
  | fused hostid =>
      have fused := map_checked (fuseChecked hostid) (fastlyFuse · hostid) (fuse_checked hostid)
        resolved
      simp only [Closure.run, fused, bind, Except.bind, Closure.value, fuseAll, List.filterMap_map]
      rfl
  | edge base spo => exact map_checked _ (msedgeV4to6 base spo) (fun _ => rfl) v4
  | nat64 base name =>
      have eligible : (if isIpv4onlyArpa text name then .ok v4
          else filterChecked routableChecked v4) = .ok (eligibleAddresses text name v4) := by
        unfold eligibleAddresses
        split
        · rfl
        · exact filter_checked _ isGloballyRoutable (fun _ => rfl) v4
      have embedded := map_checked _ (embed base) (embed_checked base)
        (eligibleAddresses text name v4)
      simp only [Closure.run, eligible, bind, Except.bind, embedded]
      rfl
  | cloudflare => exact map_checked _ _ (quad_checked _) _
  | wpvip => exact map_checked _ _ (quad_checked _) _
  | cachefly => exact map_checked _ cacheflyV4to6 (fun _ => rfl) _

/-- Every rule a plan may follow is what one of the closures computes. -/
theorem follows_closure (nat64Prefix : Ipv6Addr) (ctx : SynthContext text) (id : String)
    (rule : Rule) (follows : Follows nat64Prefix ctx id rule) :
    ∃ closure : Closure, closure.value text = rule.addresses := by
  cases follows with
  | nat64 =>
      refine ⟨.nat64 nat64Prefix ctx.name, ?_⟩
      funext resolved v4
      cases discovery : isIpv4onlyArpa text ctx.name with
      | false => simp [Closure.value, eligibleAddresses, Rule.addresses, discovery]
      | true => simp [Closure.value, eligibleAddresses, Rule.addresses, discovery]
  | cloudflare => exact ⟨.cloudflare, rfl⟩
  | wpvip => exact ⟨.wpvip, rfl⟩
  | cachefly => exact ⟨.cachefly, rfl⟩
  | msedge letter base spo known => exact ⟨.edge base spo, rfl⟩
  | fastly ip github => exact ⟨.fused (fastlyV6hex ip github), rfl⟩
  | constant id addr other => exact ⟨.constant addr, rfl⟩
  | borrowed id fallback other => exact ⟨.borrowed fallback, rfl⟩

end Closures

/-! The synthesizers. -/
section Synthesizers

theorem known_made (id : String) (known : id ∈ knownIds) (nat64Prefix : Ipv6Addr) :
    ∃ synth, makeSynthesizer text id nat64Prefix = some synth := by
  simp only [knownIds, List.mem_cons, List.not_mem_nil, or_false] at known
  rcases known with rfl | rfl | rfl | rfl | rfl | rfl | rfl | rfl | rfl | rfl | rfl | rfl | rfl |
    rfl | rfl | rfl | rfl | rfl | rfl | rfl | rfl | rfl | rfl | rfl
  all_goals exact ⟨_, rfl⟩

theorem synthesizer_blames (id : String) (nat64Prefix : Ipv6Addr) (synth : Synthesizer text)
    (made : makeSynthesizer text id nat64Prefix = some synth) (ctx : SynthContext text) :
    Blames text (synth.detect ctx) := by
  unfold makeSynthesizer at made
  split at made
  · cases made
    exact blames_completes (completes_ok _)
  · exact make_blames _ synth made ctx

variable (text) in
/-- Whatever the context, detection panics over nothing but a refused constant domain, and
the closure of the plan runs through. -/
def RunsThrough (synth : Synthesizer text) : Prop :=
  ∀ ctx : SynthContext text, Blames text (synth.detect ctx) ∧
    ∀ plan, synth.detect ctx = .ok (some plan) →
      ∃ closure : Closure, ∀ resolved v4,
        closure.run text resolved v4 = .ok (plan.combine resolved v4)

/-- Every synthesizer runs through on every context, every rewrite returns on every name,
and so do the splice helpers and the label match on all arguments. -/
theorem synthesizers_never_panic :
    (∀ (nat64Prefix : Ipv6Addr) (id : String), id ∈ knownIds →
      ∃ synth, makeSynthesizer text id nat64Prefix = some synth ∧ synth.id = id ∧
        RunsThrough text synth) ∧
      (∀ name, Completes (akamaiRewrite text name) ∧ Completes (awsglbRewrite text name) ∧
        Completes (azureRewrite text name) ∧ Completes (cacheflyRewrite text name) ∧
        Completes (s3Rewrite text name) ∧ Completes (ossRewrite text name) ∧
        Completes (oracleRewrite text name)) ∧
      (∀ v i val, Completes (spliceInsert v i val) ∧ Completes (spliceRemove v i) ∧
        Completes (spliceReplace v i val) ∧ Completes (setExt v i val)) ∧
      ∀ labels suffix, labelsEndWithChecked labels suffix = .ok (labelsEndWith labels suffix) := by
  refine ⟨?_, ?_, ?_, labels_end_with_checked⟩
  · intro nat64Prefix id known
    rcases known_made id known nat64Prefix with ⟨synth, made⟩
    refine ⟨synth, made, ChainContract.make_synthesizer_id id nat64Prefix synth made, ?_⟩
    intro ctx
    refine ⟨synthesizer_blames id nat64Prefix synth made ctx, ?_⟩
    intro plan detected
    rcases make_synthesizer_planned id synth made detected with ⟨rule, names, follows, rfl⟩
    rcases follows_closure nat64Prefix ctx id rule follows with ⟨closure, same⟩
    refine ⟨closure, fun resolved v4 => ?_⟩
    rw [closure_runs, same, plan_combine]
  · intro name
    exact ⟨akamai_completes name, awsglb_completes name, azure_completes name,
      cachefly_completes name, s3_completes name, oss_completes name, oracle_completes name⟩
  · intro v i val
    exact ⟨completes_weaken (ensures_splice_insert v i val),
      completes_weaken (ensures_splice_remove v i),
      completes_weaken (ensures_splice_replace v i val), completes_set_ext v i val⟩

theorem synthesizers_never_panic_oss :
    ∃ synth, makeSynthesizer plainText "oss" 0 = some synth ∧ synth.id = "oss" ∧
      RunsThrough plainText synth :=
  synthesizers_never_panic.1 0 "oss" (by decide)

end Synthesizers

end Dnsix.NoPanic
