import Dnsix.Acl

/-!
What the client access list means. An entry denotes an address and a length, a list is
accepted when every entry denotes one, and a client is let in when its first bits are those
of an entry, whatever host bits the entry had.
-/

namespace Dnsix.AclMatching
open Acl Ascii Dns IpText
open Handler (IpAddr)

/-! The masks, bit by bit from the front. -/
section Masks

/-- The first bits of two addresses are the same. -/
def Agree (prefixLen : Nat) (left right : Ipv6Addr) : Prop :=
  ∀ place < prefixLen, left.getMsbD place = right.getMsbD place

/-- The mask with its arithmetic checked: no negative shift, and none by the whole width. -/
def maskChecked (prefixLen : Nat) : Option Ipv6Addr :=
  if prefixLen = 0 then some 0
  else if prefixLen ≤ 128 ∧ 128 - prefixLen < 128 then
    some (BitVec.allOnes 128 <<< (128 - prefixLen))
  else none

theorem mask_checked (prefixLen : Nat) (bounded : prefixLen ≤ 128) :
    maskChecked prefixLen = some (mask prefixLen) := by
  unfold maskChecked mask
  by_cases empty : prefixLen = 0
  · rw [if_pos empty, if_pos empty]
  · rw [if_neg empty, if_neg empty, if_pos ⟨bounded, by omega⟩]

theorem mask_bit (prefixLen place : Nat) (bounded : prefixLen ≤ 128) :
    (mask prefixLen).getMsbD place = decide (place < prefixLen) := by
  unfold mask
  by_cases empty : prefixLen = 0
  · simp [empty]
  · rw [if_neg empty, BitVec.getMsbD_shiftLeft, BitVec.getMsbD_allOnes]
    exact decide_eq_decide.mpr (by omega)

theorem masked_iff (prefixLen : Nat) (bounded : prefixLen ≤ 128) (left right : Ipv6Addr) :
    left &&& mask prefixLen = right &&& mask prefixLen ↔ Agree prefixLen left right := by
  constructor
  · intro same place inside
    have bits := congrArg (fun bits => bits.getMsbD place) same
    simpa [BitVec.getMsbD_and, mask_bit prefixLen place bounded, inside] using bits
  · intro agree
    apply BitVec.eq_of_getMsbD_eq
    intro place _
    rw [BitVec.getMsbD_and, BitVec.getMsbD_and, mask_bit prefixLen place bounded]
    by_cases inside : place < prefixLen
    · rw [agree place inside]
    · simp [inside]

end Masks

/-! What an entry denotes. -/
section Entries

/-- An address alone, or an address and a length of at most 128 behind a slash. -/
def Denotes (entry : Text) (addr : Ipv6Addr) (prefixLen : Nat) : Prop :=
  (parseIpv6 entry = some addr ∧ prefixLen = 128) ∨
    ∃ address digits, entry = address ++ '/' :: digits ∧ parseIpv6 address = some addr ∧
      parseUnsigned 10 (2 ^ 32) digits = some prefixLen ∧ prefixLen ≤ 128

theorem slashless (text : Text) (addr : Ipv6Addr) (read : parseIpv6 text = some addr) :
    '/' ∉ text := by
  intro inside
  have chars := (parse_ipv6_chars text (by rw [read]; rfl)).1
  rcases chars '/' inside with digit | colon | dot
  · exact absurd digit (by decide)
  · cases colon
  · cases dot

theorem prefix_len_iff (entry address : Text) (prefixLen : Nat) :
    parsePrefixLen entry = .ok (address, prefixLen) ↔
      ('/' ∉ entry ∧ entry = address ∧ 128 = prefixLen) ∨
        ∃ digits, splitOnce '/' entry = some (address, digits) ∧
          parseUnsigned 10 (2 ^ 32) digits = some prefixLen := by
  unfold parsePrefixLen
  cases cut : splitOnce '/' entry with
  | none => simp [(split_once_none '/' entry).mp cut]
  | some parts =>
      have present : '/' ∈ entry := by
        by_contra absent
        rw [(split_once_none '/' entry).mpr absent] at cut
        cases cut
      obtain ⟨front, digits⟩ := parts
      dsimp only
      cases read : parseUnsigned 10 (2 ^ 32) digits with
      | none =>
          simp only [present, not_true_eq_false, false_and, false_or, reduceCtorEq, false_iff]
          rintro ⟨_, same, known⟩
          cases same
          rw [read] at known
          cases known
      | some length =>
          simp only [present, not_true_eq_false, false_and, false_or, Except.ok.injEq,
            Prod.mk.injEq]
          constructor
          · rintro ⟨rfl, rfl⟩
            exact ⟨digits, rfl, read⟩
          · rintro ⟨_, same, known⟩
            cases same
            rw [read] at known
            exact ⟨rfl, Option.some.inj known⟩

theorem denotes_iff (entry : Text) (addr : Ipv6Addr) (prefixLen : Nat) :
    Denotes entry addr prefixLen ↔ ∃ address, parsePrefixLen entry = .ok (address, prefixLen) ∧
      prefixLen ≤ 128 ∧ parseIpv6 address = some addr := by
  constructor
  · rintro (⟨read, rfl⟩ | ⟨address, digits, rfl, read, length, bounded⟩)
    · exact ⟨entry, (prefix_len_iff _ _ _).mpr (.inl ⟨slashless entry addr read, rfl, rfl⟩),
        Nat.le_refl 128, read⟩
    · have cut := split_once_append '/' address digits (slashless address addr read)
      exact ⟨address, (prefix_len_iff _ _ _).mpr (.inr ⟨digits, cut, length⟩), bounded, read⟩
  · rintro ⟨address, parted, bounded, read⟩
    rcases (prefix_len_iff _ _ _).mp parted with ⟨_, rfl, rfl⟩ | ⟨digits, cut, length⟩
    · exact .inl ⟨read, rfl⟩
    · exact .inr ⟨address, digits, split_once_some '/' entry address digits cut, read, length,
        bounded⟩

/-- What an accepted entry becomes. -/
theorem parse_net_iff (entry : Text) (net : Net6) :
    parseNet6 entry = .ok net ↔
      ∃ addr, Denotes entry addr net.prefixLen ∧ net.base = addr &&& mask net.prefixLen := by
  simp only [denotes_iff]
  unfold parseNet6
  cases parted : parsePrefixLen entry with
  | error error => simp [bind, Except.bind]
  | ok parts =>
      obtain ⟨address, prefixLen⟩ := parts
      by_cases bounded : prefixLen ≤ 128
      · cases read : parseIpv6 address with
        | none =>
            simp only [bind, Except.bind, bounded, dif_pos, read, reduceCtorEq, false_iff]
            rintro ⟨addr, ⟨found, same, _, known⟩, _⟩
            cases same
            rw [read] at known
            cases known
        | some addr =>
            simp only [bind, Except.bind, bounded, dif_pos, read, Except.ok.injEq]
            constructor
            · rintro rfl
              exact ⟨addr, ⟨address, rfl, bounded, read⟩, rfl⟩
            · rintro ⟨other, ⟨found, same, _, known⟩, base⟩
              obtain ⟨netBase, netLen, _, _⟩ := net
              dsimp only at same base
              cases same
              rw [read] at known
              cases known
              subst base
              rfl
      · simp only [bind, Except.bind, bounded, dif_neg, not_false_eq_true, reduceCtorEq, false_iff]
        rintro ⟨addr, ⟨found, same, fits, _⟩, _⟩
        cases same
        exact bounded fits

end Entries

/-! Whole lists. -/
section Lists

/-- An entry the client matches. -/
def Covers (entry : Text) (client : Ipv6Addr) : Prop :=
  ∃ addr prefixLen, Denotes entry addr prefixLen ∧ Agree prefixLen client addr

theorem parsed_iff (entries : List Text) (nets : List Net6) :
    entries.mapM parseNet6 = .ok nets ↔
      List.Forall₂ (fun entry net => parseNet6 entry = .ok net) entries nets := by
  induction entries generalizing nets with
  | nil =>
      cases nets with
      | nil => simp [pure, Except.pure]
      | cons net rest => simp [pure, Except.pure]
  | cons entry rest ih =>
      rw [List.mapM_cons]
      cases read : parseNet6 entry with
      | error error =>
          simp only [bind, Except.bind, reduceCtorEq, false_iff]
          intro matched
          cases matched with
          | cons first _ =>
              rw [read] at first
              cases first
      | ok net =>
          simp only [bind, Except.bind]
          cases others : rest.mapM parseNet6 with
          | error error =>
              simp only [reduceCtorEq, false_iff]
              intro matched
              cases matched with
              | cons _ later =>
                  rw [(ih _).mpr later] at others
                  cases others
          | ok more =>
              simp only [pure, Except.pure, Except.ok.injEq]
              constructor
              · rintro rfl
                exact .cons read ((ih more).mp others)
              · intro matched
                cases matched with
                | cons first later =>
                    rw [read] at first
                    cases first
                    rw [(ih _).mpr later] at others
                    cases others
                    rfl

theorem parse_ok_iff (entries : List Text) (acl : ClientAcl) :
    ClientAcl.parse entries = .ok acl ↔
      List.Forall₂ (fun entry net => parseNet6 entry = .ok net) entries acl.nets := by
  rw [← parsed_iff, ClientAcl.parse]
  obtain ⟨nets⟩ := acl
  cases entries.mapM parseNet6 with
  | error error => simp [Except.map]
  | ok found => simp [Except.map]

/-- A list is accepted when every entry is. -/
theorem accepted_iff (entries : List Text) :
    (∃ acl, ClientAcl.parse entries = .ok acl) ↔
      ∀ entry ∈ entries, ∃ addr prefixLen, Denotes entry addr prefixLen := by
  have each : ∀ entry, (∃ net, parseNet6 entry = .ok net) ↔
      ∃ addr prefixLen, Denotes entry addr prefixLen := by
    intro entry
    constructor
    · rintro ⟨net, read⟩
      obtain ⟨addr, denotes, _⟩ := (parse_net_iff entry net).mp read
      exact ⟨addr, _, denotes⟩
    · rintro ⟨addr, prefixLen, denotes⟩
      obtain ⟨_, _, bounded, _⟩ := (denotes_iff entry addr prefixLen).mp denotes
      let net : Net6 :=
        { base := addr &&& mask prefixLen, prefixLen, bounded
          masked := by rw [BitVec.and_assoc, BitVec.and_self] }
      exact ⟨net, (parse_net_iff entry net).mpr ⟨addr, denotes, rfl⟩⟩
  simp only [parse_ok_iff]
  induction entries with
  | nil => simp only [List.not_mem_nil, false_implies, implies_true, iff_true]; exact ⟨⟨[]⟩, .nil⟩
  | cons entry rest ih =>
      rw [List.forall_mem_cons, ← each, ← show _ ↔ _ from ih]
      constructor
      · rintro ⟨⟨_⟩, matched⟩
        cases matched with
        | cons first later => exact ⟨⟨_, first⟩, ⟨⟨_⟩, later⟩⟩
      · rintro ⟨⟨net, first⟩, ⟨⟨nets⟩, later⟩⟩
        exact ⟨⟨net :: nets⟩, .cons first later⟩

theorem contains_iff (entry : Text) (net : Net6) (read : parseNet6 entry = .ok net)
    (client : Ipv6Addr) : net.contains client = true ↔ Covers entry client := by
  obtain ⟨addr, denotes, base⟩ := (parse_net_iff entry net).mp read
  rw [Net6.contains, beq_iff_eq, base, masked_iff net.prefixLen net.bounded]
  constructor
  · exact fun agree => ⟨addr, _, denotes, agree⟩
  · rintro ⟨other, prefixLen, also, agree⟩
    -- An entry denotes one network only.
    obtain ⟨_, parted, _, one⟩ := (denotes_iff entry addr _).mp denotes
    obtain ⟨_, again, _, two⟩ := (denotes_iff entry other _).mp also
    rw [parted] at again
    cases again
    rw [one] at two
    cases two
    exact agree

theorem any_contains_iff (entries : List Text) (nets : List Net6)
    (matched : List.Forall₂ (fun entry net => parseNet6 entry = .ok net) entries nets)
    (client : Ipv6Addr) :
    (∃ net ∈ nets, net.contains client = true) ↔ ∃ entry ∈ entries, Covers entry client := by
  induction matched with
  | nil => simp
  | cons first _ ih =>
      rw [List.exists_mem_cons_iff, List.exists_mem_cons_iff, ih, contains_iff _ _ first client]

/-- A list is accepted exactly when every entry denotes a network. It then lets a client in
exactly when it is empty or the client's first bits are those of an entry, and no mask it
holds shifts by too much. -/
theorem client_acl_exact (entries : List Text) :
    ((∃ acl, ClientAcl.parse entries = .ok acl) ↔
      ∀ entry ∈ entries, ∃ addr prefixLen, Denotes entry addr prefixLen) ∧
    ∀ acl, ClientAcl.parse entries = .ok acl →
      (∀ client, acl.allows client = true ↔
        entries = [] ∨ ∃ v6, client = .V6 v6 ∧ ∃ entry ∈ entries, Covers entry v6) ∧
      ∀ net ∈ acl.nets, maskChecked net.prefixLen = some (mask net.prefixLen) := by
  refine ⟨accepted_iff entries, fun acl read => ⟨fun client => ?_, fun net _ => ?_⟩⟩
  · have matched := (parse_ok_iff entries acl).mp read
    have length := matched.length_eq
    by_cases empty : entries = []
    · have none : acl.nets = [] := by
        apply List.length_eq_zero_iff.mp
        rw [← length, empty, List.length_nil]
      simp [ClientAcl.allows, none, empty]
    · have some : acl.nets.isEmpty = false := by
        cases shape : acl.nets with
        | nil =>
            rw [shape] at length
            exact absurd (List.length_eq_zero_iff.mp length) empty
        | cons net rest => rfl
      unfold ClientAcl.allows
      rw [some, if_neg Bool.false_ne_true]
      cases client with
      | V4 v4 => simp [empty]
      | V6 v6 =>
          rw [List.any_eq_true, any_contains_iff entries acl.nets matched v6]
          simp [empty]
  · exact mask_checked net.prefixLen net.bounded

end Lists

end Dnsix.AclMatching
