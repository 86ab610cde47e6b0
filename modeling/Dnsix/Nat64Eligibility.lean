import Dnsix.ListFetch
import Dnsix.PlanRules
import Dnsix.Presentation

/-!
Which IPv4 addresses are embedded into the NAT64 prefix, for the synthesizer and for
the list fetch alike: those outside fourteen reserved networks, and every one for the
prefix-discovery name.
-/

namespace Dnsix.Nat64Eligibility
open Address Ascii Blocking Dns Http ListFetch PlanRules Presentation Synth SynthChain
open Handler (IpAddr SocketAddr)

variable {text : NameText} {escape : Bool → UInt8 → Text} {World : Type}

def reserved : List Cidr :=
  [cidr 0 0 0 0 8, cidr 10 0 0 0 8, cidr 100 64 0 0 10, cidr 127 0 0 0 8, cidr 169 254 0 0 16,
   cidr 172 16 0 0 12, cidr 192 0 0 0 24, cidr 192 0 2 0 24, cidr 192 168 0 0 16,
   cidr 198 18 0 0 15, cidr 198 51 100 0 24, cidr 203 0 113 0 24, cidr 224 0 0 0 4,
   cidr 240 0 0 0 4]

/-- The address agrees with the network on its leading bits. -/
def Within (ip : Ipv4Addr) (network : Cidr) : Prop :=
  ∀ place < network.prefixLen, ip.getMsbD place = network.net.getMsbD place

instance (ip : Ipv4Addr) (network : Cidr) : Decidable (Within ip network) :=
  inferInstanceAs (Decidable (∀ place < network.prefixLen, _))

/-- The name `ipv4only.arpa.`, in any case. -/
def Discovery (name : Name) : Prop :=
  name.isFqdn = true ∧ name.labels.map spell = ["ipv4only", "arpa"]

instance (name : Name) : Decidable (Discovery name) := inferInstanceAs (Decidable (_ ∧ _))

def Eligible (name : Name) (ip : Ipv4Addr) : Prop :=
  (∀ network ∈ reserved, ¬ Within ip network) ∨ Discovery name

instance (name : Name) (ip : Ipv4Addr) : Decidable (Eligible name ip) :=
  inferInstanceAs (Decidable (_ ∨ _))

/-! The octet tests and the networks. -/
section Networks

/-- Agreeing on the leading bits is agreeing after a shift. -/
theorem leading_bits_iff {width : Nat} (left right : BitVec width) (len : Nat)
    (fits : len ≤ width) :
    (∀ place < len, left.getMsbD place = right.getMsbD place) ↔
      left.toNat / 2 ^ (width - len) = right.toNat / 2 ^ (width - len) := by
  rw [← Nat.shiftRight_eq_div_pow, ← Nat.shiftRight_eq_div_pow, ← BitVec.toNat_ushiftRight,
    ← BitVec.toNat_ushiftRight, BitVec.toNat_inj]
  constructor
  · intro agree
    apply BitVec.eq_of_getLsbD_eq
    intro place bound
    rw [BitVec.getLsbD_ushiftRight, BitVec.getLsbD_ushiftRight]
    by_cases low : place < len
    · have bit := agree (len - 1 - place) (by omega)
      rw [BitVec.getMsbD, BitVec.getMsbD] at bit
      have inside : len - 1 - place < width := by omega
      have same : width - 1 - (len - 1 - place) = width - len + place := by omega
      simpa [inside, same] using bit
    · rw [BitVec.getLsbD_of_ge left _ (by omega), BitVec.getLsbD_of_ge right _ (by omega)]
  · intro shifted place bound
    have bit := congrArg (fun value => value.getLsbD (len - 1 - place)) shifted
    simp only [BitVec.getLsbD_ushiftRight] at bit
    have same : width - len + (len - 1 - place) = width - 1 - place := by omega
    rw [same] at bit
    rw [BitVec.getMsbD, BitVec.getMsbD, bit]

theorem within_iff (ip : Ipv4Addr) (network : Cidr) (fits : network.prefixLen ≤ 32) :
    Within ip network ↔ ip.toNat / 2 ^ (32 - network.prefixLen) =
      network.net.toNat / 2 ^ (32 - network.prefixLen) :=
  leading_bits_iff ip network.net network.prefixLen fits

/-- The upper bits of an address are those of its first octets. -/
theorem upper_bits (ip : Ipv4Addr) (width len : Nat) (fits : len ≤ width) (short : width ≤ 32) :
    ip.toNat / 2 ^ (32 - len) = ip.toNat / 2 ^ (32 - width) / 2 ^ (width - len) := by
  have bits : 32 - len = (32 - width) + (width - len) := by omega
  rw [bits, Nat.pow_add, Nat.div_div_eq_div_mul]

theorem first_octet (ip : Ipv4Addr) : ip.toNat / 2 ^ 24 = octet ip 0 := by
  have bound := ip.isLt
  rw [octet_eq]
  omega

theorem two_octets (ip : Ipv4Addr) : ip.toNat / 2 ^ 16 = octet ip 1 + 256 * octet ip 0 := by
  have bound := ip.isLt
  rw [octet_eq, octet_eq]
  omega

/-- Numbers agree on their upper digits when they agree on the high one and the upper part
of the low one. -/
theorem digits_agree (high low high' low' unit count : Nat) (positive : 0 < unit)
    (small : low < unit * count) (small' : low' < unit * count) :
    (low + unit * count * high) / unit = (low' + unit * count * high') / unit ↔
      high = high' ∧ low / unit = low' / unit := by
  have within := Nat.div_lt_of_lt_mul small
  have within' := Nat.div_lt_of_lt_mul small'
  rw [Nat.mul_assoc, Nat.mul_assoc, Nat.add_mul_div_left _ _ positive,
    Nat.add_mul_div_left _ _ positive]
  constructor
  · intro same
    have part : ∀ rest, rest < count → ∀ more, (rest + count * more) / count = more := by
      intro rest below more
      rw [Nat.add_mul_div_left _ _ (Nat.zero_lt_of_lt below), Nat.div_eq_of_lt below, Nat.zero_add]
    have equal := congrArg (· / count) same
    rw [part _ within, part _ within'] at equal
    rw [equal] at same
    exact ⟨equal, Nat.add_right_cancel same⟩
  · rintro ⟨rfl, same⟩
    rw [same]

/-- A prefix ending in the first octet. -/
theorem within_first (ip : Ipv4Addr) (network : Cidr) (short : network.prefixLen ≤ 8) :
    Within ip network ↔
      octet ip 0 / 2 ^ (8 - network.prefixLen) =
        octet network.net 0 / 2 ^ (8 - network.prefixLen) := by
  rw [within_iff ip network (Nat.le_trans short (by decide)), upper_bits ip 8 _ short (by decide),
    upper_bits network.net 8 _ short (by decide), first_octet, first_octet]

/-- A prefix ending in the second octet. -/
theorem within_second (ip : Ipv4Addr) (network : Cidr) (long : 8 ≤ network.prefixLen)
    (short : network.prefixLen ≤ 16) : Within ip network ↔
      octet ip 0 = octet network.net 0 ∧
        octet ip 1 / 2 ^ (16 - network.prefixLen) =
          octet network.net 1 / 2 ^ (16 - network.prefixLen) := by
  have whole : 256 = 2 ^ (16 - network.prefixLen) * 2 ^ (network.prefixLen - 8) := by
    rw [← Nat.pow_add, show 16 - network.prefixLen + (network.prefixLen - 8) = 8 by omega]
  have small := octet_lt ip 1
  have netSmall := octet_lt network.net 1
  rw [within_iff ip network (Nat.le_trans short (by decide)), upper_bits ip 16 _ short (by decide),
    upper_bits network.net 16 _ short (by decide), two_octets, two_octets]
  rw [whole] at small netSmall ⊢
  exact digits_agree _ _ _ _ _ _ (Nat.two_pow_pos _) small netSmall

/-- A prefix of three octets. -/
theorem within_third (ip : Ipv4Addr) (network : Cidr) (sized : network.prefixLen = 24) :
    Within ip network ↔ octet ip 0 = octet network.net 0 ∧
      octet ip 1 = octet network.net 1 ∧ octet ip 2 = octet network.net 2 := by
  rw [within_iff ip network (by omega), sized]
  simp only [octet_eq]
  have ipBound := ip.isLt
  have netBound := network.net.isLt
  omega

theorem private_iff (ip : Ipv4Addr) :
    isPrivate ip = true ↔ Within ip (cidr 10 0 0 0 8) ∨ Within ip (cidr 172 16 0 0 12) ∨
      Within ip (cidr 192 168 0 0 16) := by
  have large : Within ip (cidr 10 0 0 0 8) ↔ octet ip 0 / 1 = 10 / 1 :=
    within_first ip _ (by decide)
  have middle : Within ip (cidr 172 16 0 0 12) ↔ octet ip 0 = 172 ∧ octet ip 1 / 16 = 16 / 16 :=
    within_second ip _ (by decide) (by decide)
  have small : Within ip (cidr 192 168 0 0 16) ↔ octet ip 0 = 192 ∧ octet ip 1 / 1 = 168 / 1 :=
    within_second ip _ (by decide) (by decide)
  rw [large, middle, small]
  simp only [isPrivate, Bool.or_eq_true, Bool.and_eq_true, beq_iff_eq, decide_eq_true_iff]
  omega

theorem documentation_iff (ip : Ipv4Addr) :
    isDocumentation ip = true ↔ Within ip (cidr 192 0 2 0 24) ∨
      Within ip (cidr 198 51 100 0 24) ∨ Within ip (cidr 203 0 113 0 24) := by
  have first : Within ip (cidr 192 0 2 0 24) ↔
      octet ip 0 = 192 ∧ octet ip 1 = 0 ∧ octet ip 2 = 2 := within_third ip _ rfl
  have second : Within ip (cidr 198 51 100 0 24) ↔
      octet ip 0 = 198 ∧ octet ip 1 = 51 ∧ octet ip 2 = 100 := within_third ip _ rfl
  have third : Within ip (cidr 203 0 113 0 24) ↔
      octet ip 0 = 203 ∧ octet ip 1 = 0 ∧ octet ip 2 = 113 := within_third ip _ rfl
  rw [first, second, third]
  simp only [isDocumentation, Bool.or_eq_true, Bool.and_eq_true, beq_iff_eq]
  omega

theorem loopback_iff (ip : Ipv4Addr) :
    isLoopback ip = true ↔ Within ip (cidr 127 0 0 0 8) := by
  have network : Within ip (cidr 127 0 0 0 8) ↔ octet ip 0 / 1 = 127 / 1 :=
    within_first ip _ (by decide)
  rw [network, isLoopback, beq_iff_eq]
  omega

theorem link_local_iff (ip : Ipv4Addr) :
    isLinkLocal ip = true ↔ Within ip (cidr 169 254 0 0 16) := by
  have network : Within ip (cidr 169 254 0 0 16) ↔
      octet ip 0 = 169 ∧ octet ip 1 / 1 = 254 / 1 := within_second ip _ (by decide) (by decide)
  rw [network, isLinkLocal, Bool.and_eq_true, beq_iff_eq, beq_iff_eq]
  omega

theorem multicast_iff (ip : Ipv4Addr) :
    isMulticast ip = true ↔ Within ip (cidr 224 0 0 0 4) := by
  have network : Within ip (cidr 224 0 0 0 4) ↔ octet ip 0 / 16 = 224 / 16 :=
    within_first ip _ (by decide)
  rw [network, isMulticast, Bool.and_eq_true, decide_eq_true_iff, decide_eq_true_iff]
  omega

theorem this_network_iff (ip : Ipv4Addr) :
    (octet ip 0 == 0) = true ↔ Within ip (cidr 0 0 0 0 8) := by
  have network : Within ip (cidr 0 0 0 0 8) ↔ octet ip 0 / 1 = 0 / 1 :=
    within_first ip _ (by decide)
  rw [network, beq_iff_eq]
  omega

theorem assignments_iff (ip : Ipv4Addr) :
    (octet ip 0 == 192 && octet ip 1 == 0 && octet ip 2 == 0) = true ↔
      Within ip (cidr 192 0 0 0 24) := by
  have network : Within ip (cidr 192 0 0 0 24) ↔
      octet ip 0 = 192 ∧ octet ip 1 = 0 ∧ octet ip 2 = 0 := within_third ip _ rfl
  rw [network]
  simp only [Bool.and_eq_true, beq_iff_eq, and_assoc]

theorem future_iff (ip : Ipv4Addr) :
    decide (240 ≤ octet ip 0) = true ↔ Within ip (cidr 240 0 0 0 4) := by
  have network : Within ip (cidr 240 0 0 0 4) ↔ octet ip 0 / 16 = 240 / 16 :=
    within_first ip _ (by decide)
  have small := octet_lt ip 0
  rw [network, decide_eq_true_iff]
  omega

/-- A mask that keeps the upper bits of an octet compares a quotient. -/
theorem masked_octet (value : Nat) (small : value < 256) :
    (value &&& 0xc0 = 64 ↔ value / 64 = 1) ∧ (value &&& 0xfe = 18 ↔ value / 2 = 9) := by
  have all : ((List.range 256).all fun value => decide ((value &&& 0xc0 = 64 ↔ value / 64 = 1) ∧
      (value &&& 0xfe = 18 ↔ value / 2 = 9))) = true := by decide +kernel
  exact of_decide_eq_true (List.all_eq_true.mp all value (List.mem_range.mpr small))

theorem shared_iff (ip : Ipv4Addr) :
    (octet ip 0 == 100 && octet ip 1 &&& 0xc0 == 64) = true ↔
      Within ip (cidr 100 64 0 0 10) := by
  have network : Within ip (cidr 100 64 0 0 10) ↔
      octet ip 0 = 100 ∧ octet ip 1 / 64 = 64 / 64 := within_second ip _ (by decide) (by decide)
  rw [network, Bool.and_eq_true, beq_iff_eq, beq_iff_eq, (masked_octet _ (octet_lt ip 1)).1]

theorem benchmark_iff (ip : Ipv4Addr) :
    (octet ip 0 == 198 && octet ip 1 &&& 0xfe == 18) = true ↔
      Within ip (cidr 198 18 0 0 15) := by
  have network : Within ip (cidr 198 18 0 0 15) ↔
      octet ip 0 = 198 ∧ octet ip 1 / 2 = 18 / 2 := within_second ip _ (by decide) (by decide)
  rw [network, Bool.and_eq_true, beq_iff_eq, beq_iff_eq, (masked_octet _ (octet_lt ip 1)).2]

/-- The tests on octets are the fourteen networks. -/
theorem globally_routable_iff (ip : Ipv4Addr) :
    isGloballyRoutable ip = true ↔ ∀ network ∈ reserved, ¬ Within ip network := by
  rw [isGloballyRoutable, Bool.not_eq_true', ← Bool.not_eq_true]
  simp only [Bool.or_eq_true _ _, this_network_iff, private_iff, shared_iff, loopback_iff,
    link_local_iff, assignments_iff, documentation_iff, benchmark_iff, multicast_iff, future_iff,
    reserved, List.forall_mem_cons]
  have none : ∀ network ∈ ([] : List Cidr), ¬ Within ip network :=
    fun _ listed => absurd listed List.not_mem_nil
  tauto

end Networks

/-! The discovery name. -/
section Discovery

def discoveryLabels : List Text := ["ipv4only".toList, "arpa".toList]

theorem body_discovery_iff (presents : Presents text escape) (name : Name) :
    toAsciiLowercase (body escape name) = "ipv4only.arpa".toList ↔
      name.labels.map spell = discoveryLabels := by
  have host : ∀ piece ∈ discoveryLabels, Host piece := by
    have all : discoveryLabels.all (fun piece => piece.all hostChar) = true := rfl
    intro piece member
    exact List.all_eq_true.mp (List.all_eq_true.mp all piece member)
  have unhyphened : Unhyphened discoveryLabels := by
    unfold Unhyphened
    decide
  have cut : split '.' "ipv4only.arpa".toList = discoveryLabels := by decide
  by_cases present : name.labels = []
  · rw [body, present]
    constructor
    · intro impossible
      cases impossible
    · intro impossible
      cases impossible
  · rw [← (split_injective '.').eq_iff, body_pieces name present, cut,
      whole_iff presents name.labels discoveryLabels host]
    exact and_iff_left unhyphened

/-- The text comparison meets the discovery name only: a relative name prints no dot at
its end, and an escaped dot has a backslash before it. -/
theorem discovery_iff (presents : Presents text escape) (name : Name)
    (proper : ∀ label ∈ name.labels, label ≠ []) :
    isIpv4onlyArpa text name = true ↔ Discovery name := by
  have lowered : toAsciiLowercase "ipv4only.arpa.".toList = "ipv4only.arpa".toList ++ ['.'] := by
    decide
  have dot : toAsciiLowercase ['.'] = ['.'] := rfl
  have appended : ∀ front back : Text, toAsciiLowercase (front ++ back) =
      toAsciiLowercase front ++ toAsciiLowercase back := fun _ _ => List.map_append
  rw [isIpv4onlyArpa, eqIgnoreAsciiCase, beq_iff_eq, lowered, presents.joined name, Discovery,
    appended]
  change toAsciiLowercase (body escape name) ++ _ = _ ↔ _
  cases absolute : name.isFqdn with
  | true =>
      rw [Bool.true_or, if_pos rfl, dot, List.append_left_inj, body_discovery_iff presents name]
      exact (and_iff_right rfl).symm
  | false =>
      constructor
      · intro printed
        exfalso
        by_cases bare : name.labels = []
        · rw [body, bare] at printed
          cases printed
        rw [List.isEmpty_eq_false_iff.mpr bare, Bool.or_self, if_neg Bool.false_ne_true] at printed
        have printed : toAsciiLowercase (body escape name) = "ipv4only.arpa".toList ++ ['.'] :=
          (List.append_nil _).symm.trans printed
        have last : (toAsciiLowercase (body escape name)).getLast? = some '.' := by
          rw [printed]
          rfl
        rw [toAsciiLowercase, List.getLast?_map, Option.map_eq_some_iff] at last
        rcases last with ⟨mark, ended, same⟩
        rw [(to_lower_eq_iff mark '.' rfl).mp same] at ended
        rcases body_last_dot presents name proper ended with ⟨front, shape⟩
        rw [shape, appended] at printed
        have ends : toAsciiLowercase front ++ ['\\', '.'] = "ipv4only.arp".toList ++ ['a', '.'] :=
          printed
        cases (List.append_inj' ends rfl).2
      · rintro ⟨impossible, _⟩
        cases impossible

end Discovery

/-! The addresses built. -/
section Embedding

/-- The high 96 bits are the prefix's and the low 32 the address. -/
structure Embeds (nat64Prefix : Ipv6Addr) (addr : Ipv6Addr) (ip : Ipv4Addr) : Prop where
  high : addr.extractLsb' 32 96 = nat64Prefix.extractLsb' 32 96
  low : addr.extractLsb' 0 32 = ip

theorem embed_embeds (nat64Prefix : Ipv6Addr) (ip : Ipv4Addr) :
    Embeds nat64Prefix (embed nat64Prefix ip) ip :=
  ⟨set_last_octets_high nat64Prefix ip, set_last_octets_low nat64Prefix ip⟩

theorem eligible_iff (presents : Presents text escape) (name : Name)
    (proper : ∀ label ∈ name.labels, label ≠ []) (ip : Ipv4Addr) :
    (isIpv4onlyArpa text name || isGloballyRoutable ip) = true ↔ Eligible name ip := by
  rw [Bool.or_eq_true, discovery_iff presents name proper, globally_routable_iff, Eligible]
  exact or_comm

theorem eligible_addresses_eq (presents : Presents text escape) (name : Name)
    (proper : ∀ label ∈ name.labels, label ≠ []) (aRecords : List Ipv4Addr) :
    eligibleAddresses text name aRecords =
      aRecords.filter fun ip => decide (Eligible name ip) := by
  have same : eligibleAddresses text name aRecords =
      aRecords.filter fun ip => isIpv4onlyArpa text name || isGloballyRoutable ip := by
    unfold eligibleAddresses
    split
    · rename_i discovery
      simp [discovery]
    · rename_i other
      simp [other]
  rw [same]
  apply List.filter_congr
  intro ip _
  rw [Bool.eq_iff_iff, decide_eq_true_iff]
  exact eligible_iff presents name proper ip

theorem embedded_each (nat64Prefix : Ipv6Addr) (sources : List Ipv4Addr) :
    List.Forall₂ (Embeds nat64Prefix) (sources.map (embed nat64Prefix)) sources := by
  induction sources with
  | nil => exact .nil
  | cons ip rest ih => exact .cons (embed_embeds nat64Prefix ip) ih

theorem nat64_plan_embeds (presents : Presents text escape) (nat64Prefix : Ipv6Addr)
    (ctx : SynthContext text) (proper : ∀ label ∈ ctx.name.labels, label ≠ []) (plan : Plan)
    (planned : (Nat64.mk nat64Prefix).plan ctx = some plan) (resolved : List Ipv6Addr)
    (v4 : List Ipv4Addr) :
    List.Forall₂ (Embeds nat64Prefix) (plan.combine resolved v4)
      (v4.filter fun ip => decide (Eligible ctx.name ip)) := by
  rw [← eligible_addresses_eq presents ctx.name proper v4]
  unfold Nat64.plan at planned
  split at planned
  · cases planned
  · cases planned
    exact embedded_each nat64Prefix _

end Embedding

/-! The connections of a fetch. -/
section Connections

/-- What is assumed of the library's `from_ascii`: no label it reads is empty. -/
def ReadsLabels (text : NameText) : Prop :=
  ∀ source name, text.fromAscii source = some name → ∀ label ∈ name.labels, label ≠ []

/-- A connection goes to an eligible address of its hop's host. -/
structure Connected (text : NameText) (outside : Outside World) (nat64Prefix : Ipv6Addr)
    (hop : Hop) : Prop where
  host : ∃ path, splitHttpsUrl hop.url = .ok (hop.host, path)
  named : hostName text hop.host = some hop.name
  answered : ∃ before after, outside.resolve (addressQuery hop.name) before =
    (some hop.answer, after)
  embedded : ∃ record ∈ hop.answer.answers, ∃ ip addr, record.data = .A ip ∧
    Eligible hop.name ip ∧ Embeds nat64Prefix addr ip ∧ hop.addr = ⟨.V6 addr, 443⟩

theorem extract_a_mem (resp : Message) (ip : Ipv4Addr) (listed : ip ∈ extractA resp) :
    ∃ record ∈ resp.answers, record.data = .A ip := by
  rcases List.mem_filterMap.mp listed with ⟨record, present, kept⟩
  refine ⟨record, present, ?_⟩
  split at kept
  · rename_i addr shape
    rw [shape, Option.some.inj kept]
  · cases kept

variable {outside : Outside World} {nat64Prefix : Ipv6Addr}

theorem resolve_nat64_embeds (presents : Presents text escape)
    (reads : ReadsLabels text) (host : Text) (world after : World) (name : Name)
    (answer : Message) (addr : SocketAddr)
    (resolved : resolveNat64 text outside nat64Prefix host world = (.ok (name, answer, addr), after)) :
    hostName text host = some name ∧
      outside.resolve (addressQuery name) world = (some answer, after) ∧
      ∃ record ∈ answer.answers, ∃ ip embedded, record.data = .A ip ∧ Eligible name ip ∧
        Embeds nat64Prefix embedded ip ∧ addr = ⟨.V6 embedded, 443⟩ := by
  unfold resolveNat64 at resolved
  split at resolved
  · cases resolved
  rename_i read named
  split at resolved
  · cases resolved
  rename_i resp later answered
  split at resolved
  · cases resolved
  rename_i ip first
  cases resolved
  have proper := reads _ name named
  have listed := List.mem_of_mem_head? first
  rw [eligible_addresses_eq presents name proper, List.mem_filter, decide_eq_true_iff] at listed
  rcases extract_a_mem answer ip listed.1 with ⟨record, present, shape⟩
  exact ⟨named, answered, record, present, ip, embed nat64Prefix ip, shape, listed.2,
    embed_embeds nat64Prefix ip, rfl⟩

/-- One pass of the redirect loop adds proper connections only. -/
theorem fetch_hop_connected (presents : Presents text escape)
    (reads : ReadsLabels text) (current : Text) (journal : Journal World)
    (connected : ∀ hop ∈ journal.hops, Connected text outside nat64Prefix hop) :
    ∀ hop ∈ (fetchHop text outside nat64Prefix current journal).2.hops,
      Connected text outside nat64Prefix hop := by
  unfold fetchHop
  split
  · exact connected
  rename_i host path parsed
  split
  · exact connected
  rename_i name answer addr world resolved
  split
  · exact connected
  · rcases resolve_nat64_embeds presents reads host _ _ name answer addr resolved with
      ⟨named, answered, embedded⟩
    intro hop listed
    rcases List.mem_append.mp listed with earlier | new
    · exact connected hop earlier
    · cases List.mem_singleton.mp new
      exact ⟨⟨path, parsed⟩, named, ⟨_, _, answered⟩, embedded⟩

theorem fetch_loop_connected (presents : Presents text escape)
    (reads : ReadsLabels text) (url : Text) (left : Nat) (current : Text)
    (journal : Journal World)
    (connected : ∀ hop ∈ journal.hops, Connected text outside nat64Prefix hop) :
    ∀ hop ∈ (fetchLoop text outside nat64Prefix url left current journal).2.hops,
      Connected text outside nat64Prefix hop := by
  induction left generalizing current journal with
  | zero => exact connected
  | succ left ih =>
      have once := fetch_hop_connected presents reads current journal connected
      unfold fetchLoop
      split
      · rename_i error after ran
        rw [ran] at once
        exact once
      · rename_i host bytes after ran
        rw [ran] at once
        exact once
      · rename_i host location after ran
        rw [ran] at once
        exact ih (absolutize host location) after once

theorem escaped_reads : ReadsLabels escapedText := by
  intro source name read label listed
  have parsed : plainText.fromAscii source = some name := read
  unfold plainText at parsed
  dsimp only at parsed
  split at parsed
  · rename_i all
    cases parsed
    rcases List.mem_map.mp listed with ⟨part, inParts, rfl⟩
    have checked := List.all_eq_true.mp all part inParts
    intro empty
    rw [List.map_eq_nil_iff.mp empty] at checked
    cases checked
  · cases parsed

def listHost : Name := ⟨[[108], [97]], true⟩

/-- Every host has a private and a public address, and no connection is accepted. -/
def publicPool : Outside Unit where
  resolve query world := (some { query with answers :=
    [.fromRdata listHost 60 (.A (v4 10 0 0 1)), .fromRdata listHost 60 (.A (v4 8 8 8 8))] }, world)
  validServerName _ := true
  exchange _ _ _ world := (⟨false, false, false, []⟩, world)

def publicContext : SynthContext escapedText :=
  .new escapedText listHost [] [(v4 8 8 8 8, 60)] .default

def publicPrefix : Ipv6Addr := v6 0x64 0xff9b 0 0 0 0 0 0

def listHop : Hop :=
  { url := "https://l.a/list", host := "l.a", name := listHost
    answer := { addressQuery listHost with answers :=
      [.fromRdata listHost 60 (.A (v4 10 0 0 1)), .fromRdata listHost 60 (.A (v4 8 8 8 8))] }
    addr := ⟨.V6 (v6 0x64 0xff9b 0 0 0 0 0x808 0x808), 443⟩ }

end Connections

end Dnsix.Nat64Eligibility
