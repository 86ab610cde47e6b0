import Dnsix.Address
import Dnsix.Ascii

/-!
The textual forms of IP addresses, as the standard library reads them. A reader
takes a value off the front of a text and leaves the rest; one that fails leaves
the text untouched.
-/

namespace Dnsix.IpText
open Address Ascii Dns

abbrev Reader (Value : Type) := Text → Option (Value × Text)

/-- The digits up to the first other character, at most `maxDigits` of them: their
value and their count. -/
def readDigits (radix maxDigits : Nat) : Text → Nat → Nat → Option (Nat × Nat × Text)
  | [], result, count => some (result, count, [])
  | char :: rest, result, count =>
      match toDigit radix char with
      | some digit =>
          if count + 1 > maxDigits then none
          else readDigits radix maxDigits rest (result * radix + digit) (count + 1)
      | none => some (result, count, char :: rest)

def readNumber (radix maxDigits : Nat) (allowZeroPrefix : Bool) (limit : Nat) : Reader Nat :=
  fun input => do
    let hasLeadingZero := input.head? == some '0'
    let (result, digitCount, rest) ← readDigits radix maxDigits input 0 0
    if digitCount = 0 then none
    else if !allowZeroPrefix && hasLeadingZero && decide (digitCount > 1) then none
    else if result < limit then some (result, rest)
    else none

def readGivenChar (target : Char) : Reader Unit
  | [] => none
  | char :: rest => if char = target then some ((), rest) else none

/-- The separator stands before every value but the first. -/
def readSeparator {Value : Type} (sep : Char) (index : Nat) (inner : Reader Value) :
    Reader Value :=
  fun input => do
    if index > 0 then
      let (_, rest) ← readGivenChar sep input
      inner rest
    else inner input

/-- A leading zero would mean an octal number, so it is refused. -/
def readOctet (index : Nat) : Reader Nat :=
  readSeparator '.' index (readNumber 10 3 false 256)

def readIpv4Addr : Reader Ipv4Addr := fun input => do
  let (a, input) ← readOctet 0 input
  let (b, input) ← readOctet 1 input
  let (c, input) ← readOctet 2 input
  let (d, input) ← readOctet 3 input
  some (v4 (BitVec.ofNat 8 a) (BitVec.ofNat 8 b) (BitVec.ofNat 8 c) (BitVec.ofNat 8 d), input)

/-- Groups from position `index` on, at most `left` of them, and whether they end with
an embedded IPv4 address, which takes the place of two. -/
def readGroups : Nat → Nat → Text → List (BitVec 16) × Bool × Text
  | 0, _, input => ([], false, input)
  | left + 1, index, input =>
      match if 0 < left then readSeparator ':' index readIpv4Addr input else none with
      | some (ip, rest) => ([ip.extractLsb' 16 16, ip.extractLsb' 0 16], true, rest)
      | none =>
          match readSeparator ':' index (readNumber 16 4 true 65536) input with
          | some (group, rest) =>
              let (groups, ipv4, rest) := readGroups left (index + 1) rest
              (BitVec.ofNat 16 group :: groups, ipv4, rest)
          | none => ([], false, input)

def ofSegments (segments : List (BitVec 16)) : Ipv6Addr :=
  segments.foldl (fun ip segment => (ip <<< 16) ||| segment.zeroExtend 128) 0

def readIpv6Addr : Reader Ipv6Addr := fun input => do
  let (head, headIpv4, input) := readGroups 8 0 input
  if head.length = 8 then some (ofSegments head, input)
  else if headIpv4 then none
  else
    let (_, input) ← readGivenChar ':' input
    let (_, input) ← readGivenChar ':' input
    -- The two colons stand for one group at least.
    let (tail, _, input) := readGroups (8 - (head.length + 1)) 0 input
    let zeros := List.replicate (8 - head.length - tail.length) 0
    some (ofSegments (head ++ zeros ++ tail), input)

/-- A text is an address only if the reader takes all of it. -/
def parseWith {Value : Type} (reader : Reader Value) (text : Text) : Option Value :=
  match reader text with
  | some (value, []) => some value
  | _ => none

def parseIpv4 (text : Text) : Option Ipv4Addr :=
  if text.length > 15 then none else parseWith readIpv4Addr text

def parseIpv6 (text : Text) : Option Ipv6Addr := parseWith readIpv6Addr text

/-- Either kind: IPv4 first, then IPv6. -/
def readIpAddr : Reader (Ipv4Addr ⊕ Ipv6Addr) := fun input =>
  ((readIpv4Addr input).map fun (ip, rest) => (.inl ip, rest)).or
    ((readIpv6Addr input).map fun (ip, rest) => (.inr ip, rest))

def parseIpAddr (text : Text) : Option (Ipv4Addr ⊕ Ipv6Addr) := parseWith readIpAddr text

def isIpAddr (text : Text) : Bool := (parseIpAddr text).isSome

example : parseIpv4 "192.0.2.33" = some (v4 192 0 2 33) := by decide

example : parseIpv6 "64:ff9b::192.0.2.33" = some (v6 0x64 0xff9b 0 0 0 0 0xc000 0x221) := by
  decide

/-! What an address starts with. -/
section Starts

theorem read_number_none (radix maxDigits : Nat) (allowZeroPrefix : Bool) (limit : Nat)
    (first : Char) (rest : Text) (none : toDigit radix first = none) :
    readNumber radix maxDigits allowZeroPrefix limit (first :: rest) = Option.none := by
  simp [readNumber, readDigits, none]

theorem read_ipv4_none (first : Char) (rest : Text) (none : toDigit 10 first = none) :
    readIpv4Addr (first :: rest) = Option.none := by
  have octet : readOctet 0 (first :: rest) = Option.none :=
    read_number_none 10 3 false 256 first rest none
  simp [readIpv4Addr, octet]

/-- A text that starts with no digit and no colon is no address. -/
theorem foreign_not_address (first : Char) (rest : Text) (decimal : toDigit 10 first = none)
    (hexadecimal : toDigit 16 first = none) (colon : first ≠ ':') :
    isIpAddr (first :: rest) = false := by
  have number := read_number_none 16 4 true 65536 first rest hexadecimal
  have groups : readGroups 8 0 (first :: rest) = ([], false, first :: rest) := by
    simp [readGroups, readSeparator, read_ipv4_none first rest decimal, number]
  have v6 : readIpv6Addr (first :: rest) = none := by
    simp [readIpv6Addr, groups, readGivenChar, colon]
  simp [isIpAddr, parseIpAddr, parseWith, readIpAddr, read_ipv4_none first rest decimal, v6]

end Starts

/-! What a reader takes off its input. -/
section Taken

/-- A value is only read off a text of this form. -/
def Takes {Value : Type} (reader : Reader Value) (form : Text → Prop) : Prop :=
  ∀ input value rest, reader input = some (value, rest) → ∃ used, input = used ++ rest ∧ form used

def Digits (radix : Nat) (used : Text) : Prop :=
  used ≠ [] ∧ ∀ char ∈ used, (toDigit radix char).isSome

/-- Four decimal numbers of at most three digits, with dots between them. -/
def Dotted (used : Text) : Prop :=
  ∃ a b c d, used = a ++ '.' :: (b ++ '.' :: (c ++ '.' :: d)) ∧
    ∀ octet ∈ [a, b, c, d], Digits 10 octet ∧ octet.length ≤ 3

/-- The characters of an address. -/
def AddressChar (char : Char) : Prop :=
  (toDigit 16 char).isSome ∨ char = ':' ∨ char = '.'

theorem read_digits_taken (radix maxDigits : Nat) (input : Text) (result count : Nat)
    (value total : Nat) (rest : Text)
    (read : readDigits radix maxDigits input result count = some (value, total, rest)) :
    ∃ used, input = used ++ rest ∧ total = count + used.length ∧
      (used = [] ∨ total ≤ maxDigits) ∧ ∀ char ∈ used, (toDigit radix char).isSome := by
  induction input generalizing result count with
  | nil =>
      cases read
      exact ⟨[], rfl, rfl, .inl rfl, fun _ impossible => nomatch impossible⟩
  | cons char more ih =>
      rw [readDigits] at read
      split at read
      · rename_i digit known
        split at read
        · cases read
        · rename_i fits
          obtain ⟨used, shape, length, bound, digits⟩ := ih _ _ read
          refine ⟨char :: used, by rw [shape]; rfl, ?_, .inr ?_, ?_⟩
          · rw [length, List.length_cons]
            omega
          · rcases bound with rfl | bound
            · rw [List.length_nil] at length
              omega
            · exact bound
          · intro other inside
            rcases List.mem_cons.mp inside with rfl | later
            · rw [known]
              rfl
            · exact digits other later
      · cases read
        exact ⟨[], rfl, rfl, .inl rfl, fun _ impossible => nomatch impossible⟩

theorem number_takes (radix maxDigits : Nat) (allowZeroPrefix : Bool) (limit : Nat) :
    Takes (readNumber radix maxDigits allowZeroPrefix limit)
      fun used => Digits radix used ∧ used.length ≤ maxDigits := by
  intro input value rest read
  simp only [readNumber, Option.bind_eq_bind, Option.bind_eq_some_iff] at read
  obtain ⟨⟨result, count, left⟩, digits, read⟩ := read
  obtain ⟨used, shape, length, bound, all⟩ :=
    read_digits_taken radix maxDigits input 0 0 result count left digits
  dsimp only at read
  split at read
  · cases read
  split at read
  · cases read
  split at read
  · rename_i counted _ _
    cases read
    have present : used ≠ [] := by
      rintro rfl
      exact counted length
    refine ⟨used, shape, ⟨present, all⟩, ?_⟩
    rcases bound with empty | bound
    · exact absurd empty present
    · omega
  · cases read

theorem separator_takes {Value : Type} (sep : Char) (index : Nat) (inner : Reader Value)
    (form : Text → Prop) (takes : Takes inner form) :
    Takes (readSeparator sep index inner) fun used =>
      ∃ behind, form behind ∧ used = if index > 0 then sep :: behind else behind := by
  intro input value rest read
  unfold readSeparator at read
  split at read
  · rename_i later
    cases input with
    | nil => cases read
    | cons char more =>
        simp only [readGivenChar, Option.bind_eq_bind] at read
        split at read
        · rename_i same
          obtain ⟨behind, shape, fits⟩ := takes more value rest read
          refine ⟨sep :: behind, by rw [same, shape]; rfl, behind, fits, ?_⟩
          rw [if_pos later]
        · cases read
  · rename_i first
    obtain ⟨behind, shape, fits⟩ := takes input value rest read
    exact ⟨behind, shape, behind, fits, by rw [if_neg first]⟩

theorem octet_takes (index : Nat) :
    Takes (readOctet index) fun used => ∃ octet, (Digits 10 octet ∧ octet.length ≤ 3) ∧
      used = if index > 0 then '.' :: octet else octet :=
  separator_takes '.' index _ _ (number_takes 10 3 false 256)

theorem ipv4_takes : Takes readIpv4Addr Dotted := by
  intro input ip rest read
  simp only [readIpv4Addr, Option.bind_eq_bind, Option.bind_eq_some_iff] at read
  obtain ⟨⟨a, afterA⟩, readA, ⟨b, afterB⟩, readB, ⟨c, afterC⟩, readC, ⟨d, afterD⟩, readD, same⟩ :=
    read
  cases same
  obtain ⟨_, shapeA, octetA, fitsA, sameA⟩ := octet_takes 0 _ _ _ readA
  obtain ⟨_, shapeB, octetB, fitsB, sameB⟩ := octet_takes 1 _ _ _ readB
  obtain ⟨_, shapeC, octetC, fitsC, sameC⟩ := octet_takes 2 _ _ _ readC
  obtain ⟨_, shapeD, octetD, fitsD, sameD⟩ := octet_takes 3 _ _ _ readD
  dsimp only at shapeA shapeB shapeC shapeD
  refine ⟨_, ?_, octetA, octetB, octetC, octetD, rfl, ?_⟩
  · simp [shapeA, shapeB, shapeC, shapeD, sameA, sameB, sameC, sameD]
  · simpa using ⟨fitsA, fitsB, fitsC, fitsD⟩

theorem dotted_chars (used : Text) (dotted : Dotted used) :
    ∀ char ∈ used, (toDigit 10 char).isSome ∨ char = '.' := by
  obtain ⟨a, b, c, d, rfl, octets⟩ := dotted
  simp only [List.forall_mem_cons] at octets
  obtain ⟨⟨⟨_, fitsA⟩, _⟩, ⟨⟨_, fitsB⟩, _⟩, ⟨⟨_, fitsC⟩, _⟩, ⟨⟨_, fitsD⟩, _⟩, _⟩ := octets
  simp only [List.mem_append, List.mem_cons]
  rintro char (inA | rfl | inB | rfl | inC | rfl | inD)
  · exact .inl (fitsA char inA)
  · exact .inr rfl
  · exact .inl (fitsB char inB)
  · exact .inr rfl
  · exact .inl (fitsC char inC)
  · exact .inr rfl
  · exact .inl (fitsD char inD)

theorem dotted_short (used : Text) (dotted : Dotted used) : used.length ≤ 15 := by
  obtain ⟨a, b, c, d, rfl, octets⟩ := dotted
  simp only [List.forall_mem_cons] at octets
  simp only [List.length_append, List.length_cons]
  omega

/-- An IPv4 address ends with a digit. -/
theorem dotted_last (used : Text) (dotted : Dotted used) (char : Char)
    (last : used.getLast? = some char) : (toDigit 10 char).isSome := by
  obtain ⟨a, b, c, d, rfl, octets⟩ := dotted
  have digits : Digits 10 d := (octets d (by simp)).1
  have whole : a ++ '.' :: (b ++ '.' :: (c ++ '.' :: d)) =
      (a ++ '.' :: (b ++ '.' :: (c ++ ['.']))) ++ d := by simp
  rw [whole, List.getLast?_append_of_ne_nil _ digits.1] at last
  exact digits.2 char (List.mem_of_getLast? last)

theorem dotted_char (used : Text) (dotted : Dotted used) : ∀ char ∈ used, AddressChar char := by
  intro char inside
  rcases dotted_chars used dotted char inside with digit | rfl
  · exact .inl (decimal_hexadecimal char digit)
  · exact .inr (.inr rfl)

/-- The forms of one group, or of an embedded IPv4 address, with what separates it. -/
theorem separated_chars (index : Nat) (behind : Text) (fits : ∀ char ∈ behind, AddressChar char) :
    ∀ char ∈ if index > 0 then ':' :: behind else behind, AddressChar char := by
  intro char inside
  split at inside
  · rcases List.mem_cons.mp inside with rfl | later
    · exact .inr (.inl rfl)
    · exact fits char later
  · exact fits char inside

theorem groups_taken (left index : Nat) (input : Text) :
    ∃ used, input = used ++ (readGroups left index input).2.2 ∧
      ∀ char ∈ used, AddressChar char := by
  induction left generalizing index input with
  | zero => exact ⟨[], rfl, fun _ impossible => nomatch impossible⟩
  | succ left ih =>
      rw [readGroups]
      split
      · rename_i ip rest embedded
        split at embedded
        · obtain ⟨_, shape, behind, dotted, rfl⟩ :=
            separator_takes ':' index _ _ ipv4_takes input ip rest embedded
          exact ⟨_, shape, separated_chars index behind (dotted_char behind dotted)⟩
        · cases embedded
      · split
        · rename_i group rest read
          obtain ⟨_, shape, behind, digits, rfl⟩ :=
            separator_takes ':' index _ _ (number_takes 16 4 true 65536) input group rest read
          obtain ⟨later, follows, chars⟩ := ih (index + 1) rest
          refine ⟨_ ++ later, by rw [List.append_assoc, ← follows]; exact shape, ?_⟩
          intro char inside
          rcases List.mem_append.mp inside with here | there
          · exact separated_chars index behind
              (fun char inside => .inl (digits.1.2 char inside)) char here
          · exact chars char there
        · exact ⟨[], rfl, fun _ impossible => nomatch impossible⟩

theorem given_char_taken (target : Char) (input rest : Text) (given : Unit)
    (read : readGivenChar target input = some (given, rest)) : input = target :: rest := by
  cases input with
  | nil => cases read
  | cons char more =>
      rw [readGivenChar] at read
      split at read
      · rename_i same
        cases read
        rw [same]
      · cases read

/-- Past the first group a colon stands before every other. -/
theorem groups_colon (left index : Nat) (input : Text) (later : 0 < index)
    (present : (readGroups left index input).1 ≠ []) : ':' ∈ input := by
  cases left with
  | zero => exact absurd rfl present
  | succ left =>
      have separated : ∀ {Value : Type} (inner : Reader Value) value rest,
          readSeparator ':' index inner input = some (value, rest) → ':' ∈ input := by
        intro Value inner value rest read
        rw [readSeparator, if_pos later] at read
        simp only [Option.bind_eq_bind, Option.bind_eq_some_iff] at read
        obtain ⟨⟨_, behind⟩, colon, _⟩ := read
        rw [given_char_taken ':' input behind _ colon]
        exact List.mem_cons_self
      rw [readGroups] at present
      split at present
      · rename_i ip rest embedded
        split at embedded
        · exact separated _ ip rest embedded
        · cases embedded
      · split at present
        · rename_i group rest read
          exact separated _ group rest read
        · exact absurd rfl present

/-- What an IPv6 reading is made of. -/
theorem ipv6_cases (input rest : Text) (ip : Ipv6Addr)
    (read : readIpv6Addr input = some (ip, rest)) :
    ((readGroups 8 0 input).1.length = 8 ∧ rest = (readGroups 8 0 input).2.2) ∨
      ((readGroups 8 0 input).2.1 = false ∧ ∃ behind left,
        (readGroups 8 0 input).2.2 = ':' :: ':' :: behind ∧
          rest = (readGroups left 0 behind).2.2) := by
  unfold readIpv6Addr at read
  dsimp only at read
  split at read
  · rename_i full
    cases read
    exact .inl ⟨full, rfl⟩
  · split at read
    · cases read
    · rename_i plain
      simp only [Option.bind_eq_bind, Option.bind_eq_some_iff] at read
      obtain ⟨⟨_, first⟩, colon, ⟨_, second⟩, again, same⟩ := read
      cases same
      dsimp only at again
      refine .inr ⟨by simpa using plain, second, _, ?_, rfl⟩
      rw [given_char_taken ':' _ _ _ colon, given_char_taken ':' _ _ _ again]

theorem ipv6_takes : Takes readIpv6Addr fun used => ∀ char ∈ used, AddressChar char := by
  intro input ip rest read
  obtain ⟨used, shape, chars⟩ := groups_taken 8 0 input
  rcases ipv6_cases input rest ip read with ⟨_, rfl⟩ | ⟨_, behind, left, colons, rfl⟩
  · exact ⟨used, shape, chars⟩
  · obtain ⟨tail, follows, more⟩ := groups_taken left 0 behind
    refine ⟨used ++ (':' :: ':' :: tail), ?_, ?_⟩
    · rw [colons, follows] at shape
      rw [shape]
      simp
    · simp only [List.mem_append, List.mem_cons]
      rintro char (inside | rfl | rfl | inside)
      · exact chars char inside
      · exact .inr (.inl rfl)
      · exact .inr (.inl rfl)
      · exact more char inside

/-- Three groups past the first are behind two colons. -/
theorem groups_colons (left index : Nat) (input : Text) (later : 0 < index)
    (long : 2 < (readGroups left index input).1.length) : 2 ≤ input.count ':' := by
  cases left with
  | zero => simp [readGroups] at long
  | succ left =>
      rw [readGroups] at long
      split at long
      · simp at long
      · split at long
        · rename_i group rest read
          obtain ⟨_, shape, behind, _, used⟩ :=
            separator_takes ':' index _ _ (number_takes 16 4 true 65536) input group rest read
          rw [if_pos later] at used
          have present : (readGroups left (index + 1) rest).1 ≠ [] := by
            intro empty
            simp [empty] at long
          have again : 0 < rest.count ':' :=
            List.count_pos_iff.mpr (groups_colon left (index + 1) rest (Nat.succ_pos index) present)
          rw [shape, used, List.cons_append, List.count_cons_self, List.count_append]
          omega
        · simp at long

/-- An IPv6 address holds two colons at least. -/
theorem ipv6_colons (input rest : Text) (ip : Ipv6Addr)
    (read : readIpv6Addr input = some (ip, rest)) : 2 ≤ input.count ':' := by
  obtain ⟨used, shape, _⟩ := groups_taken 8 0 input
  rcases ipv6_cases input rest ip read with ⟨full, _⟩ | ⟨_, behind, left, colons, _⟩
  · rw [readGroups] at full
    split at full
    · cases full
    · split at full
      · rename_i group left read
        have whole : (readGroups 7 1 left).1.length + 1 = 8 := full
        have long : 2 < (readGroups 7 1 left).1.length := by omega
        obtain ⟨_, follows, _⟩ :=
          separator_takes ':' 0 _ _ (number_takes 16 4 true 65536) input group left read
        rw [follows, List.count_append]
        have two := groups_colons 7 1 left (by decide) long
        omega
      · cases full
  · rw [shape, colons, List.count_append, List.count_cons_self, List.count_cons_self]
    omega

/-- A text that starts as an IPv4 address is no IPv6 address. -/
theorem ipv4_not_ipv6 (input : Text) (read : (readIpv4Addr input).isSome) :
    readIpv6Addr input = none := by
  obtain ⟨⟨ip, rest⟩, read⟩ := Option.isSome_iff_exists.mp read
  have groups : readGroups 8 0 input =
      ([ip.extractLsb' 16 16, ip.extractLsb' 0 16], true, rest) := by
    have first : readSeparator ':' 0 readIpv4Addr input = some (ip, rest) := read
    rw [readGroups, if_pos (by decide), first]
  simp [readIpv6Addr, groups]

/-- The length limit of the IPv4 reader never bites. -/
theorem parse_ipv4_eq (text : Text) : parseIpv4 text = parseWith readIpv4Addr text := by
  unfold parseIpv4
  split
  · rename_i long
    unfold parseWith
    split
    · rename_i ip read
      obtain ⟨used, shape, dotted⟩ := ipv4_takes text ip [] read
      rw [List.append_nil] at shape
      have short := dotted_short used dotted
      rw [← shape] at short
      omega
    · rfl
  · rfl

theorem address_iff (text : Text) :
    isIpAddr text = true ↔ (parseIpv4 text).isSome ∨ (parseIpv6 text).isSome := by
  rw [parse_ipv4_eq]
  unfold isIpAddr parseIpAddr parseIpv6 parseWith readIpAddr
  cases read : readIpv4Addr text with
  | none =>
      rw [Option.map_none, Option.none_or]
      cases other : readIpv6Addr text with
      | none => simp
      | some taken =>
          obtain ⟨ip, rest⟩ := taken
          cases rest <;> simp
  | some taken =>
      obtain ⟨ip, rest⟩ := taken
      rw [ipv4_not_ipv6 text (by rw [read]; rfl)]
      cases rest <;> simp

theorem parse_ipv4_dotted (text : Text) (address : (parseIpv4 text).isSome) : Dotted text := by
  rw [parse_ipv4_eq, parseWith] at address
  split at address
  · rename_i ip read
    obtain ⟨used, shape, dotted⟩ := ipv4_takes text ip [] read
    rw [List.append_nil] at shape
    rwa [shape]
  · cases address

theorem parse_ipv6_chars (text : Text) (address : (parseIpv6 text).isSome) :
    (∀ char ∈ text, AddressChar char) ∧ 2 ≤ text.count ':' := by
  rw [parseIpv6, parseWith] at address
  split at address
  · rename_i ip read
    obtain ⟨used, shape, chars⟩ := ipv6_takes text ip [] read
    rw [List.append_nil] at shape
    exact ⟨shape ▸ chars, ipv6_colons text [] ip read⟩
  · cases address

theorem address_chars (text : Text) (address : isIpAddr text = true) :
    ∀ char ∈ text, AddressChar char := by
  rcases (address_iff text).mp address with v4 | v6
  · exact dotted_char text (parse_ipv4_dotted text v4)
  · exact (parse_ipv6_chars text v6).1

/-- Without a colon only an IPv4 address is left. -/
theorem colonless_address (text : Text) (colonless : ':' ∉ text) (address : isIpAddr text = true) :
    Dotted text := by
  rcases (address_iff text).mp address with v4 | v6
  · exact parse_ipv4_dotted text v4
  · have two := (parse_ipv6_chars text v6).2
    rw [List.count_eq_zero.mpr colonless] at two
    omega

theorem lower_not_digit (char : Char) (lower : char.isLower = true) : ¬char.isDigit = true := by
  rw [digit_range]
  rintro ⟨_, last⟩
  have first : 'a'.toNat ≤ char.toNat := ((lower_range char).mp lower).1
  have small : char.toNat ≤ '9'.toNat := last
  exact absurd (first.trans small) (by decide)

/-- Case does not make a text without a colon an address. -/
theorem lowercase_address (text : Text) (colonless : ':' ∉ text) :
    isIpAddr (toAsciiLowercase text) = true → isIpAddr text = true := by
  intro address
  have unraised : ':' ∉ toAsciiLowercase text := by
    intro listed
    obtain ⟨char, inside, lowered⟩ := List.mem_map.mp listed
    rw [(to_lower_eq_iff char ':' rfl).mp lowered] at inside
    exact colonless inside
  have dotted := dotted_chars _ (colonless_address _ unraised address)
  have same : toAsciiLowercase text = text := by
    conv_rhs => rw [← List.map_id text]
    apply List.map_congr_left
    intro char inside
    rcases to_lower_cases char with ⟨_, kept⟩ | ⟨_, lower⟩
    · exact kept
    · rcases dotted char.toLower (List.mem_map_of_mem inside) with digit | dot
      · rw [decimal_iff] at digit
        exact absurd digit (lower_not_digit _ lower)
      · rw [dot] at lower
        cases lower
  rwa [same] at address

end Taken

end Dnsix.IpText
