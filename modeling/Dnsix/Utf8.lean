import Dnsix.Http

/-!
Texts as bytes. The bytes of a character are read back as this character, whatever stands
behind them, so no text is lost on its way through a socket.
-/

namespace Dnsix.Utf8
open Ascii Http

/-- The bits of a code point from `place` on that a continuation byte carries. -/
def continued (code place : Nat) : UInt8 := UInt8.ofNat (0x80 + code / place % 64)

def encodeChar (char : Char) : Bytes :=
  let code := char.toNat
  if code < 0x80 then [UInt8.ofNat code]
  else if code < 0x800 then [UInt8.ofNat (0xc0 + code / 0x40), continued code 1]
  else if code < 0x10000 then
    [UInt8.ofNat (0xe0 + code / 0x1000), continued code 0x40, continued code 1]
  else
    [UInt8.ofNat (0xf0 + code / 0x40000), continued code 0x1000, continued code 0x40,
      continued code 1]

def encode (text : Text) : Bytes := text.flatMap encodeChar

theorem code_valid (char : Char) :
    char.toNat < 0xd800 ∨ (0xdfff < char.toNat ∧ char.toNat < 0x110000) := char.valid

theorem continued_nat (code place : Nat) :
    (continued code place).toNat = 0x80 + code / place % 64 := by
  rw [continued, UInt8.toNat_ofNat']
  omega

theorem continued_continuation (code place : Nat) : continuation (continued code place) = true := by
  rw [continuation, Bool.and_eq_true, decide_eq_true_iff, decide_eq_true_iff, UInt8.le_iff_toNat_le,
    UInt8.le_iff_toNat_le, continued_nat]
  have small : code / place % 64 < 64 := Nat.mod_lt _ (by decide)
  constructor
  · change 128 ≤ _
    omega
  · change _ ≤ 191
    omega

/-- The scalar of the parts is the character they are parts of. -/
theorem scalar_char (char : Char) (lead : Nat) (rest : Bytes)
    (whole : rest.foldl (fun code byte => code * 64 + byte.toNat % 64) lead = char.toNat) :
    scalar lead rest = char := by
  rw [scalar, whole, Char.ofNat_toNat]

theorem byte_nat (number : Nat) (small : number < 256) : (UInt8.ofNat number).toNat = number := by
  rw [UInt8.toNat_ofNat']
  omega

theorem byte_lt (left right : UInt8) : left < right ↔ left.toNat < right.toNat :=
  UInt8.lt_iff_toNat_lt

theorem byte_le (left right : UInt8) : left ≤ right ↔ left.toNat ≤ right.toNat :=
  UInt8.le_iff_toNat_le

theorem decode_single (code : Nat) (rest : Bytes) (small : code < 0x80) :
    decodeUtf8 (UInt8.ofNat code :: rest) = some (Char.ofNat code) :: decodeUtf8 rest := by
  have own := byte_nat code (by omega)
  have ascii : UInt8.ofNat code < 0x80 := by
    rw [byte_lt, own]
    exact small
  rw [decodeUtf8.eq_def]
  dsimp only
  rw [if_pos ascii, own]

/-- Two bytes. -/
theorem decode_double (char : Char) (rest : Bytes) (large : 0x80 ≤ char.toNat)
    (small : char.toNat < 0x800) :
    decodeUtf8 (UInt8.ofNat (0xc0 + char.toNat / 0x40) :: continued char.toNat 1 :: rest) =
      some char :: decodeUtf8 rest := by
  have own := byte_nat (0xc0 + char.toNat / 0x40) (by omega)
  have lead : ¬UInt8.ofNat (0xc0 + char.toNat / 0x40) < 0x80 := by
    rw [byte_lt, own]
    change ¬_ < 128
    omega
  have two : 0xc2 ≤ UInt8.ofNat (0xc0 + char.toNat / 0x40) ∧
      UInt8.ofNat (0xc0 + char.toNat / 0x40) ≤ 0xdf := by
    rw [byte_le, byte_le, own]
    change 194 ≤ _ ∧ _ ≤ 223
    omega
  have whole : scalar ((UInt8.ofNat (0xc0 + char.toNat / 0x40)).toNat % 32)
      [continued char.toNat 1] = char := by
    apply scalar_char
    simp only [List.foldl_cons, List.foldl_nil, own, continued_nat]
    omega
  rw [decodeUtf8, if_neg lead, if_pos two]
  simp only [continued_continuation, if_true, whole]

/-- Three bytes: the second one rules out what is too short and what is a surrogate. -/
theorem decode_triple (char : Char) (rest : Bytes) (large : 0x800 ≤ char.toNat)
    (small : char.toNat < 0x10000) :
    decodeUtf8 (UInt8.ofNat (0xe0 + char.toNat / 0x1000) :: continued char.toNat 0x40 ::
      continued char.toNat 1 :: rest) = some char :: decodeUtf8 rest := by
  have valid := code_valid char
  have own := byte_nat (0xe0 + char.toNat / 0x1000) (by omega)
  generalize found : UInt8.ofNat (0xe0 + char.toNat / 0x1000) = lead at own ⊢
  have above : ¬lead < 0x80 := by
    rw [byte_lt, own]
    change ¬_ < 128
    omega
  have long : ¬(0xc2 ≤ lead ∧ lead ≤ 0xdf) := by
    rw [byte_le, byte_le, own]
    change ¬(_ ∧ _ ≤ 223)
    omega
  have three : 0xe0 ≤ lead ∧ lead ≤ 0xf4 := by
    rw [byte_le, byte_le, own]
    change 224 ≤ _ ∧ _ ≤ 244
    omega
  have short : lead < 0xf0 := by
    rw [byte_lt, own]
    change _ < 240
    omega
  have second : secondByte lead (continued char.toNat 0x40) = true := by
    have middle := continued_nat char.toNat 0x40
    unfold secondByte
    split_ifs with first fourth last end_
    · rw [Bool.and_eq_true, decide_eq_true_iff, decide_eq_true_iff, byte_le, byte_le, middle]
      have same : lead.toNat = 224 := by rw [first]; rfl
      change 160 ≤ _ ∧ _ ≤ 191
      omega
    · rw [Bool.and_eq_true, decide_eq_true_iff, decide_eq_true_iff, byte_le, byte_le, middle]
      have same : lead.toNat = 237 := by rw [fourth]; rfl
      change 128 ≤ _ ∧ _ ≤ 159
      omega
    · rw [last] at short
      exact absurd short (by decide)
    · rw [end_] at short
      exact absurd short (by decide)
    · exact continued_continuation _ _
  have whole : scalar (lead.toNat % 16) [continued char.toNat 0x40, continued char.toNat 1] =
      char := by
    apply scalar_char
    simp only [List.foldl_cons, List.foldl_nil, own, continued_nat]
    omega
  rw [decodeUtf8, if_neg above, if_neg long, if_pos three]
  simp only [second, continued_continuation, Bool.not_true, Bool.false_eq_true, if_false, short,
    if_true, whole]

/-- Four bytes: the second one also keeps below the last code point. -/
theorem decode_quadruple (char : Char) (rest : Bytes) (large : 0x10000 ≤ char.toNat) :
    decodeUtf8 (UInt8.ofNat (0xf0 + char.toNat / 0x40000) :: continued char.toNat 0x1000 ::
      continued char.toNat 0x40 :: continued char.toNat 1 :: rest) =
      some char :: decodeUtf8 rest := by
  have valid := code_valid char
  have own := byte_nat (0xf0 + char.toNat / 0x40000) (by omega)
  generalize found : UInt8.ofNat (0xf0 + char.toNat / 0x40000) = lead at own ⊢
  have above : ¬lead < 0x80 := by
    rw [byte_lt, own]
    change ¬_ < 128
    omega
  have long : ¬(0xc2 ≤ lead ∧ lead ≤ 0xdf) := by
    rw [byte_le, byte_le, own]
    change ¬(_ ∧ _ ≤ 223)
    omega
  have four : 0xe0 ≤ lead ∧ lead ≤ 0xf4 := by
    rw [byte_le, byte_le, own]
    change 224 ≤ _ ∧ _ ≤ 244
    omega
  have longest : ¬lead < 0xf0 := by
    rw [byte_lt, own]
    change ¬_ < 240
    omega
  have second : secondByte lead (continued char.toNat 0x1000) = true := by
    have middle := continued_nat char.toNat 0x1000
    unfold secondByte
    split_ifs with first fourth last end_
    · rw [first] at longest
      exact absurd (by decide) longest
    · rw [fourth] at longest
      exact absurd (by decide) longest
    · rw [Bool.and_eq_true, decide_eq_true_iff, decide_eq_true_iff, byte_le, byte_le, middle]
      have same : lead.toNat = 240 := by rw [last]; rfl
      change 144 ≤ _ ∧ _ ≤ 191
      omega
    · rw [Bool.and_eq_true, decide_eq_true_iff, decide_eq_true_iff, byte_le, byte_le, middle]
      have same : lead.toNat = 244 := by rw [end_]; rfl
      change 128 ≤ _ ∧ _ ≤ 143
      omega
    · exact continued_continuation _ _
  have whole : scalar (lead.toNat % 8) [continued char.toNat 0x1000, continued char.toNat 0x40,
      continued char.toNat 1] = char := by
    apply scalar_char
    simp only [List.foldl_cons, List.foldl_nil, own, continued_nat]
    omega
  rw [decodeUtf8, if_neg above, if_neg long, if_pos four]
  simp only [second, continued_continuation, Bool.not_true, Bool.false_eq_true, if_false, longest,
    if_true, whole]

theorem decode_encode_char (char : Char) (rest : Bytes) :
    decodeUtf8 (encodeChar char ++ rest) = some char :: decodeUtf8 rest := by
  unfold encodeChar
  dsimp only
  split_ifs with one two three
  · rw [List.singleton_append, decode_single char.toNat rest one, Char.ofNat_toNat]
  · exact decode_double char rest (by omega) two
  · exact decode_triple char rest (by omega) three
  · exact decode_quadruple char rest (by omega)

theorem decode_encode_append (text : Text) (rest : Bytes) :
    decodeUtf8 (encode text ++ rest) = text.map some ++ decodeUtf8 rest := by
  induction text with
  | nil => rfl
  | cons char more ih =>
      rw [encode, List.flatMap_cons, List.append_assoc, decode_encode_char, List.map_cons]
      exact congrArg (some char :: ·) ih

theorem decode_encode (text : Text) : decodeUtf8 (encode text) = text.map some := by
  have whole := decode_encode_append text []
  rw [List.append_nil] at whole
  exact whole.trans (List.append_nil _)

/-- A text is read as it was written, be it with `from_utf8` or `from_utf8_lossy`. -/
theorem from_utf8_encode (text : Text) : fromUtf8 (encode text) = some text := by
  rw [fromUtf8, decode_encode]
  induction text with
  | nil => rfl
  | cons char rest ih => simp [ih]

theorem from_utf8_lossy_append (text : Text) (rest : Bytes) :
    fromUtf8Lossy (encode text ++ rest) = text ++ fromUtf8Lossy rest := by
  rw [fromUtf8Lossy, decode_encode_append, List.map_append, List.map_map]
  exact congrArg (· ++ fromUtf8Lossy rest) (List.map_id text)

theorem from_utf8_lossy_encode (text : Text) : fromUtf8Lossy (encode text) = text := by
  have whole := from_utf8_lossy_append text []
  rw [List.append_nil] at whole
  exact whole.trans (List.append_nil _)

theorem encode_append (front back : Text) : encode (front ++ back) = encode front ++ encode back :=
  List.flatMap_append

end Dnsix.Utf8
