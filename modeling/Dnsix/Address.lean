import Mathlib.Algebra.Group.Nat.Defs
import Dnsix.Dns

/-!
IPv4 and IPv6 addresses as bit vectors: octets, segments, the classifications of
the standard library the code relies on, CIDR membership, and the filter on
synthesized addresses.
-/

namespace Dnsix.Address
open Dns

def octet (ip : Ipv4Addr) (place : Nat) : Nat := (ip.extractLsb' (24 - 8 * place) 8).toNat

def segment (ip : Ipv6Addr) (place : Nat) : BitVec 16 := ip.extractLsb' (112 - 16 * place) 16

def v4 (a b c d : BitVec 8) : Ipv4Addr := a ++ b ++ c ++ d

def v6 (a b c d e f g h : BitVec 16) : Ipv6Addr := a ++ b ++ c ++ d ++ e ++ f ++ g ++ h

/-- The segments of `base` with the last one replaced. -/
def setLastSegment (base : Ipv6Addr) (value : BitVec 16) : Ipv6Addr :=
  base.extractLsb' 16 112 ++ value

/-- The octets of `base` with the last four replaced by those of `ip`. -/
def setLastOctets (base : Ipv6Addr) (ip : Ipv4Addr) : Ipv6Addr := base.extractLsb' 32 96 ++ ip

def isPrivate (ip : Ipv4Addr) : Bool :=
  octet ip 0 == 10 ||
  (octet ip 0 == 172 && decide (16 ≤ octet ip 1) && decide (octet ip 1 ≤ 31)) ||
  (octet ip 0 == 192 && octet ip 1 == 168)

def isLoopback (ip : Ipv4Addr) : Bool := octet ip 0 == 127

def isLinkLocal (ip : Ipv4Addr) : Bool := octet ip 0 == 169 && octet ip 1 == 254

def isDocumentation (ip : Ipv4Addr) : Bool :=
  (octet ip 0 == 192 && octet ip 1 == 0 && octet ip 2 == 2) ||
  (octet ip 0 == 198 && octet ip 1 == 51 && octet ip 2 == 100) ||
  (octet ip 0 == 203 && octet ip 1 == 0 && octet ip 2 == 113)

def isMulticast (ip : Ipv4Addr) : Bool := decide (224 ≤ octet ip 0) && decide (octet ip 0 ≤ 239)

def isUnspecifiedV6 (ip : Ipv6Addr) : Bool := ip == 0

def isLoopbackV6 (ip : Ipv6Addr) : Bool := ip == 1

def isMulticastV6 (ip : Ipv6Addr) : Bool := segment ip 0 &&& 0xff00 == 0xff00

def isGlobalUnicastV6 (ip : Ipv6Addr) : Bool :=
  if isUnspecifiedV6 ip || isLoopbackV6 ip || isMulticastV6 ip then false
  else
    let first := segment ip 0
    let linkLocal := first &&& 0xffc0 == 0xfe80
    let uniqueLocal := first &&& 0xfe00 == 0xfc00
    !(linkLocal || uniqueLocal)

/-- A network written as a constant of the source, such as `151.101.0.0/16`. -/
structure Cidr where
  net : Ipv4Addr
  prefixLen : Nat
  deriving DecidableEq

def cidr (a b c d : BitVec 8) (prefixLen : Nat) : Cidr := ⟨v4 a b c d, prefixLen⟩

def inCidr (ip : Ipv4Addr) (network : Cidr) : Bool :=
  if network.prefixLen = 0 then true
  else
    let mask : BitVec 32 := BitVec.allOnes 32 <<< (32 - network.prefixLen)
    ip &&& mask == network.net &&& mask

def inAny (ip : Ipv4Addr) (cidrs : List Cidr) : Bool := cidrs.any (inCidr ip)

/-! Addresses as numbers, and their leading bits. -/
section LeadingBits

theorem octet_eq (ip : Ipv4Addr) (place : Nat) :
    octet ip place = ip.toNat / 2 ^ (24 - 8 * place) % 256 := by
  rw [octet, BitVec.extractLsb'_toNat, Nat.shiftRight_eq_div_pow]

theorem octet_lt (ip : Ipv4Addr) (place : Nat) : octet ip place < 256 :=
  (ip.extractLsb' (24 - 8 * place) 8).isLt

theorem masked_to_nat (value : Ipv4Addr) (low : Nat) :
    (value &&& BitVec.allOnes 32 <<< low).toNat = value.toNat / 2 ^ low * 2 ^ low := by
  rw [← BitVec.shiftLeft_ushiftRight, BitVec.toNat_shiftLeft, BitVec.toNat_ushiftRight,
    Nat.shiftRight_eq_div_pow, Nat.shiftLeft_eq]
  exact Nat.mod_eq_of_lt (Nat.lt_of_le_of_lt (Nat.div_mul_le_self _ _) value.isLt)

theorem masked_eq_iff (left right : Ipv4Addr) (low : Nat) :
    left &&& BitVec.allOnes 32 <<< low = right &&& BitVec.allOnes 32 <<< low ↔
      left.toNat / 2 ^ low = right.toNat / 2 ^ low := by
  rw [← BitVec.toNat_inj, masked_to_nat, masked_to_nat]
  exact Nat.mul_left_inj (Nat.ne_of_gt (Nat.two_pow_pos low))

/-- A network holds the addresses that agree with it on the leading bits. -/
theorem in_cidr_iff (ip : Ipv4Addr) (network : Cidr) :
    inCidr ip network = true ↔ ip.toNat / 2 ^ (32 - network.prefixLen) =
      network.net.toNat / 2 ^ (32 - network.prefixLen) := by
  unfold inCidr
  split
  · rename_i all
    rw [all, Nat.div_eq_of_lt ip.isLt, Nat.div_eq_of_lt network.net.isLt]
    exact ⟨fun _ => rfl, fun _ => rfl⟩
  · rw [beq_iff_eq]
    exact masked_eq_iff ip network.net _

theorem set_last_octets_low (base : Ipv6Addr) (ip : Ipv4Addr) :
    (setLastOctets base ip).extractLsb' 0 32 = ip := BitVec.extractLsb'_append_eq_right

theorem set_last_octets_high (base : Ipv6Addr) (ip : Ipv4Addr) :
    (setLastOctets base ip).extractLsb' 32 96 = base.extractLsb' 32 96 :=
  BitVec.extractLsb'_append_eq_left

theorem set_last_segment_low (base : Ipv6Addr) (value : BitVec 16) :
    (setLastSegment base value).extractLsb' 0 16 = value := BitVec.extractLsb'_append_eq_right

theorem set_last_segment_upper (base : Ipv6Addr) (value : BitVec 16) :
    (setLastSegment base value).extractLsb' 32 96 = base.extractLsb' 32 96 := by
  have above : (setLastSegment base value).extractLsb' 32 96 =
      (base.extractLsb' 16 112).extractLsb' 16 96 :=
    BitVec.extractLsb'_append_eq_of_le (by decide)
  rw [above]
  ext place bound
  have inside : 16 + place < 112 := by omega
  have shifted : 16 + (16 + place) = 32 + place := by omega
  simp [inside, shifted]

theorem segment_of_high (left right : Ipv6Addr)
    (same : left.extractLsb' 32 96 = right.extractLsb' 32 96) :
    segment left 0 = segment right 0 := by
  have inner : ∀ ip : Ipv6Addr, segment ip 0 = (ip.extractLsb' 32 96).extractLsb' 80 16 := by
    intro ip
    ext place bound
    have inside : 80 + place < 96 := by omega
    have shifted : 112 + place = 32 + (80 + place) := by omega
    simp [segment, inside, shifted]
  rw [inner, inner, same]

/-- Above a nonzero high part the low 32 bits do not decide whether an address is
served. -/
theorem global_of_high (left right : Ipv6Addr)
    (same : left.extractLsb' 32 96 = right.extractLsb' 32 96)
    (nonzero : left.extractLsb' 32 96 ≠ 0) :
    isGlobalUnicastV6 left = isGlobalUnicastV6 right := by
  have apart : ∀ ip : Ipv6Addr, ip.extractLsb' 32 96 ≠ 0 →
      isUnspecifiedV6 ip = false ∧ isLoopbackV6 ip = false := by
    intro ip high
    constructor
    · apply beq_false_of_ne
      rintro rfl
      exact high (by decide)
    · apply beq_false_of_ne
      rintro rfl
      exact high (by decide)
  rcases apart left nonzero with ⟨leftSet, leftFar⟩
  rcases apart right (same ▸ nonzero) with ⟨rightSet, rightFar⟩
  simp only [isGlobalUnicastV6, isMulticastV6, leftSet, leftFar, rightSet, rightFar,
    segment_of_high left right same]

end LeadingBits

example : inCidr (v4 151 101 1 140) (cidr 151 101 0 0 16) = true := by decide

example : isGlobalUnicastV6 (v6 0x64 0xff9b 0 0 0 0 0xc000 0x221) = true := by decide

end Dnsix.Address
