import Dnsix.Http

/-!
Chunked bodies. What an encoder writes is read back, whatever the spelling of the sizes, the
extensions and the trailer, and a body cut off before the line of the last chunk ends is an
error at every place it can be cut.
-/

namespace Dnsix.Chunked
open Ascii Http

/-! The first place of a mark. -/
section Cuts

theorem cut_at_none_iff (needle data : Bytes) (present : needle ≠ []) :
    cutAt needle data = none ↔ ¬needle <:+: data := by
  induction data with
  | nil => simp [cutAt, present]
  | cons byte rest ih =>
      rw [cutAt, List.infix_cons_iff, ← List.isPrefixOf_iff_prefix]
      cases starts : needle.isPrefixOf (byte :: rest) with
      | true => simp
      | false => simp [ih]

/-- The bytes in front of a mark that does not begin any earlier. -/
theorem cut_at_first (needle front back : Bytes) (present : needle ≠ [])
    (first : ¬needle <:+: front ++ needle.dropLast) :
    cutAt needle (front ++ (needle ++ back)) = some (front, back) := by
  induction front with
  | nil =>
      cases shape : needle with
      | nil => exact absurd shape present
      | cons byte rest =>
          have starts : (byte :: rest).isPrefixOf (byte :: rest ++ back) = true :=
            List.isPrefixOf_iff_prefix.mpr (List.prefix_append _ back)
          rw [List.nil_append, List.cons_append, cutAt, ← List.cons_append, if_pos starts]
          simp
  | cons byte rest ih =>
      rw [List.cons_append, List.infix_cons_iff, not_or] at first
      have later : needle.isPrefixOf (byte :: (rest ++ (needle ++ back))) = false := by
        by_contra starts
        rw [Bool.not_eq_false, List.isPrefixOf_iff_prefix] at starts
        have long : byte :: (rest ++ needle.dropLast) <+: byte :: (rest ++ (needle ++ back)) := by
          rw [List.prefix_cons_inj, List.prefix_append_right_inj]
          exact (List.dropLast_prefix needle).trans (List.prefix_append needle back)
        refine first.1 (List.prefix_of_prefix_length_le starts long ?_)
        have size : 0 < needle.length := List.length_pos_of_ne_nil present
        simp only [List.length_cons, List.length_append, List.length_dropLast]
        omega
      rw [List.cons_append, cutAt, later, if_neg Bool.false_ne_true, ih first.2]
      rfl

/-- A line end cannot begin at the end of a line without one. -/
theorem crlf_behind (line : Bytes) (whole : ¬crlf <:+: line) :
    ¬crlf <:+: line ++ crlf.dropLast := by
  rintro ⟨front, back, shape⟩
  cases back using List.reverseRecOn with
  | nil =>
      have last := congrArg List.getLast? shape
      simp [crlf] at last
  | append_singleton others byte =>
      apply whole
      rw [← List.append_assoc] at shape
      exact ⟨front, others, (List.append_inj' shape rfl).1⟩

theorem line_cut (line back : Bytes) (whole : ¬crlf <:+: line) :
    cutAt crlf (line ++ (crlf ++ back)) = some (line, back) :=
  cut_at_first crlf line back (by decide) (crlf_behind line whole)

/-- A line that is not finished has no end. -/
theorem line_unfinished (line cut : Bytes) (whole : ¬crlf <:+: line) (start : cut <+: line ++ crlf)
    (short : cut ≠ line ++ crlf) : cutAt crlf cut = none := by
  rw [cut_at_none_iff crlf cut (by decide)]
  intro inside
  have within : cut <+: line ++ crlf.dropLast := by
    have bound : cut.length < (line ++ crlf).length :=
      Nat.lt_of_le_of_ne start.length_le fun same => short (start.eq_of_length same)
    have one : line ++ crlf.dropLast <+: line ++ crlf :=
      (List.prefix_append_right_inj line).mpr (List.dropLast_prefix crlf)
    apply List.prefix_of_prefix_length_le start one
    rw [List.length_append] at bound ⊢
    exact Nat.le_of_lt_succ bound
  exact crlf_behind line whole (inside.trans within.isInfix)

end Cuts

/-! Size lines. -/
section Sizes

def asciiText (bytes : Bytes) : Text := bytes.map fun byte => Char.ofNat byte.toNat

def hexDigit (byte : UInt8) : Option Nat := toDigit 16 (Char.ofNat byte.toNat)

/-- Hexadecimal digits of either case, with any zeros in front. -/
structure Spells (size : Bytes) (number : Nat) : Prop where
  present : size ≠ []
  digits : ∀ byte ∈ size, (hexDigit byte).isSome
  value : size.foldl (fun number byte => number * 16 + (hexDigit byte).getD 0) 0 = number

/-- Nothing, or a semicolon and any ASCII bytes without a line end. -/
structure Extension (ext : Bytes) : Prop where
  marked : ∀ byte ∈ ext.head?, byte = 59
  ascii : ∀ byte ∈ ext, byte < 0x80
  whole : ¬crlf <:+: ext

theorem hex_digit_ascii (byte : UInt8) (digit : (hexDigit byte).isSome) : byte < 0x80 := by
  have small : byte.toNat < 256 := byte.toNat_lt
  have valid : byte.toNat.isValidChar := .inl (by omega)
  have code : (Char.ofNat byte.toNat).toNat = byte.toNat := by
    rw [Char.ofNat, dif_pos valid]
    rfl
  have range := alphanum_range _ (digit_alphanum 16 _ digit)
  rw [code] at range
  rw [UInt8.lt_iff_toNat_lt]
  have bound : (0x80 : UInt8).toNat = 128 := rfl
  omega

theorem decode_ascii (bytes : Bytes) (ascii : ∀ byte ∈ bytes, byte < 0x80) :
    fromUtf8 bytes = some (asciiText bytes) := by
  have decoded : decodeUtf8 bytes = (asciiText bytes).map some := by
    induction bytes with
    | nil => rfl
    | cons byte rest ih =>
        rw [List.forall_mem_cons] at ascii
        rw [decodeUtf8.eq_def]
        simp only [ascii.1, if_true, ih ascii.2]
        rfl
  have kept : ∀ text : Text, (text.map some).mapM id = some text := by
    intro text
    induction text with
    | nil => rfl
    | cons char rest ih =>
        rw [List.map_cons, List.mapM_cons, ih]
        rfl
  rw [fromUtf8, decoded, kept]

theorem spelled_parsed (size : Bytes) (number : Nat) (spells : Spells size number)
    (small : number < 2 ^ 64) : parseUnsigned 16 (2 ^ 64) (asciiText size) = some number := by
  have values : (asciiText size).mapM (toDigit 16) =
      some (size.map fun byte => (hexDigit byte).getD 0) := by
    have digits := spells.digits
    clear spells
    induction size with
    | nil => rfl
    | cons byte rest ih =>
        rw [List.forall_mem_cons] at digits
        obtain ⟨digit, known⟩ := Option.isSome_iff_exists.mp digits.1
        have here : toDigit 16 (Char.ofNat byte.toNat) = some digit := known
        have later := ih digits.2
        rw [asciiText] at later ⊢
        rw [List.map_cons, List.mapM_cons, here, later, List.map_cons, known]
        rfl
  cases shape : size with
  | nil => exact absurd shape spells.present
  | cons byte rest =>
      have plus : Char.ofNat byte.toNat ≠ '+' := by
        intro same
        have digit := spells.digits byte (by rw [shape]; exact List.mem_cons_self)
        rw [hexDigit, same] at digit
        exact absurd digit (by decide)
      have unsigned : (stripPrefix (asciiText size) "+").getD (asciiText size) =
          asciiText size := by
        rw [shape]
        simp [stripPrefix, startsWith, asciiText, List.isPrefixOf, Ne.symm plus]
      have filled : (asciiText size).isEmpty = false := by
        rw [shape]
        rfl
      rw [← shape]
      unfold parseUnsigned
      simp only [unsigned, filled, Bool.false_eq_true, if_false, values, Option.bind_eq_bind,
        Option.bind_some, List.foldl_map, spells.value, small, if_true]

theorem size_line (size ext : Bytes) (number : Nat) (spells : Spells size number)
    (extension : Extension ext) (small : number < 2 ^ 64) :
    chunkSize (size ++ ext) = .ok number := by
  have ascii : ∀ byte ∈ size ++ ext, byte < 0x80 := by
    intro byte inside
    rcases List.mem_append.mp inside with digit | other
    · exact hex_digit_ascii byte (spells.digits byte digit)
    · exact extension.ascii byte other
  have dark : ∀ char ∈ asciiText size, isWhitespace char = false ∧ char ≠ ';' := by
    intro char inside
    obtain ⟨byte, listed, rfl⟩ := List.mem_map.mp inside
    have digit := spells.digits byte listed
    refine ⟨alphanum_dark _ (digit_alphanum 16 _ digit), ?_⟩
    intro same
    rw [hexDigit, same] at digit
    exact absurd digit (by decide)
  have unmarked : ';' ∉ asciiText size := fun inside => (dark ';' inside).2 rfl
  have first : (split ';' (asciiText (size ++ ext))).headD [] = asciiText size := by
    rw [asciiText, List.map_append]
    cases shape : ext with
    | nil =>
        rw [List.map_nil, List.append_nil]
        exact congrArg (fun parts => parts.headD []) (split_whole ';' _ unmarked)
    | cons mark more =>
        have known := extension.marked mark (by rw [shape]; rfl)
        have behind : split ';' (asciiText size ++ ';' :: asciiText more) =
            asciiText size :: split ';' (asciiText more) := by
          rw [split_append, split_whole ';' _ unmarked]
          rfl
        rw [known]
        exact congrArg (fun parts => parts.headD []) behind
  have present : asciiText size ≠ [] := fun empty => spells.present (List.map_eq_nil_iff.mp empty)
  have trimmed := trim_trimmed (asciiText size)
    (dark_trimmed _ present fun char inside => (dark char inside).1)
  rw [chunkSize, decode_ascii _ ascii]
  dsimp only
  rw [first, trimmed, spelled_parsed size number spells small]

end Sizes

/-! What an encoder writes. -/
section Encoding

/-- A size and its extensions, and what separates them from the rest. -/
structure SizeLine (number : Nat) where
  size : Bytes
  ext : Bytes
  spells : Spells size number
  extension : Extension ext

/-- A chunk is not empty, and shorter than the machine can address. -/
structure Chunk where
  data : Bytes
  line : SizeLine data.length
  present : data ≠ []
  short : data.length < 2 ^ 64

variable {number : Nat}

def SizeLine.bytes (line : SizeLine number) : Bytes := line.size ++ line.ext

def Chunk.encode (chunk : Chunk) : Bytes := chunk.line.bytes ++ (crlf ++ (chunk.data ++ crlf))

/-- The chunks and the line of the last chunk, which is empty. -/
def framed (chunks : List Chunk) (last : SizeLine 0) : Bytes :=
  chunks.flatMap Chunk.encode ++ (last.bytes ++ crlf)

def encode (chunks : List Chunk) (last : SizeLine 0) (trailer : Bytes) : Bytes :=
  framed chunks last ++ trailer

theorem size_line_whole (line : SizeLine number) : ¬crlf <:+: line.bytes := by
  have past : ∀ front : Bytes, (∀ byte ∈ front, (hexDigit byte).isSome) →
      ¬crlf <:+: front ++ line.ext := by
    intro front digits
    induction front with
    | nil => exact line.extension.whole
    | cons byte rest ih =>
        rw [List.forall_mem_cons] at digits
        rw [List.cons_append, List.infix_cons_iff, not_or]
        refine ⟨?_, ih digits.2⟩
        intro starts
        rw [crlf, List.cons_prefix_cons] at starts
        rw [← starts.1] at digits
        exact absurd digits.1 (by decide)
  exact past line.size line.spells.digits

theorem framed_cons (chunk : Chunk) (rest : List Chunk) (last : SizeLine 0) :
    framed (chunk :: rest) last =
      chunk.line.bytes ++ (crlf ++ (chunk.data ++ (crlf ++ framed rest last))) := by
  simp [framed, Chunk.encode]

/-! One round of the loop. -/

theorem round_unfinished (data out : Bytes) (unfinished : cutAt crlf data = none) :
    dechunkLoop data out = .error .malformedChunkHeader := by
  rw [dechunkLoop]
  split
  · rfl
  · rename_i found
    rw [unfinished] at found
    cases found

theorem round_found (data out sizeLine behind : Bytes)
    (cut : cutAt crlf data = some (sizeLine, behind)) :
    dechunkLoop data out =
      match chunkSize sizeLine with
      | .error error => .error error
      | .ok size =>
          if size = 0 then .ok out
          else if behind.length < size then .error .truncatedChunk
          else if crlf.isPrefixOf (behind.drop size) then
            dechunkLoop ((behind.drop size).drop crlf.length) (out ++ behind.take size)
          else .error .missingCrlf := by
  rw [dechunkLoop]
  split
  · rename_i found
    rw [cut] at found
    cases found
  · rename_i found
    rw [cut] at found
    cases found
    rfl

theorem round_last (last : SizeLine 0) (trailer out : Bytes) :
    dechunkLoop (last.bytes ++ (crlf ++ trailer)) out = .ok out := by
  have size : chunkSize last.bytes = .ok 0 :=
    size_line last.size last.ext 0 last.spells last.extension (by decide)
  rw [round_found _ out _ _ (line_cut last.bytes trailer (size_line_whole last)), size]
  rfl

/-- A size line alone takes the loop to the data behind it. -/
theorem round_sized (chunk : Chunk) (behind out : Bytes) :
    dechunkLoop (chunk.line.bytes ++ (crlf ++ behind)) out =
      if behind.length < chunk.data.length then .error .truncatedChunk
      else if crlf.isPrefixOf (behind.drop chunk.data.length) then
        dechunkLoop ((behind.drop chunk.data.length).drop crlf.length)
          (out ++ behind.take chunk.data.length)
      else .error .missingCrlf := by
  have size : chunkSize chunk.line.bytes = .ok chunk.data.length :=
    size_line chunk.line.size chunk.line.ext _ chunk.line.spells chunk.line.extension chunk.short
  have filled : chunk.data.length ≠ 0 := fun empty =>
    chunk.present (List.length_eq_zero_iff.mp empty)
  rw [round_found _ out _ _ (line_cut _ behind (size_line_whole chunk.line)), size]
  dsimp only
  rw [if_neg filled]

theorem round_chunk (chunk : Chunk) (rest out : Bytes) :
    dechunkLoop (chunk.line.bytes ++ (crlf ++ (chunk.data ++ (crlf ++ rest)))) out =
      dechunkLoop rest (out ++ chunk.data) := by
  have starts : crlf.isPrefixOf (crlf ++ rest) = true :=
    List.isPrefixOf_iff_prefix.mpr (List.prefix_append crlf rest)
  rw [round_sized, if_neg (by simp), List.drop_left, if_pos starts, List.drop_left, List.take_left]

theorem loop_inverts (chunks : List Chunk) (last : SizeLine 0) (trailer out : Bytes) :
    dechunkLoop (encode chunks last trailer) out = .ok (out ++ chunks.flatMap Chunk.data) := by
  induction chunks generalizing out with
  | nil =>
      have shape : encode [] last trailer = last.bytes ++ (crlf ++ trailer) := by
        simp [encode, framed]
      rw [shape, round_last, List.flatMap_nil, List.append_nil]
  | cons chunk rest ih =>
      have shape : encode (chunk :: rest) last trailer =
          chunk.line.bytes ++ (crlf ++ (chunk.data ++ (crlf ++ encode rest last trailer))) := by
        simp [encode, framed_cons]
      rw [shape, round_chunk, ih, List.append_assoc, List.flatMap_cons]

/-- A prefix of two parts ends in the first, or behind it. -/
theorem prefix_parts (start front back : Bytes) (begins : start <+: front ++ back)
    (other : start ≠ front ++ back) :
    (start <+: front ∧ start ≠ front) ∨
      ∃ rest, start = front ++ rest ∧ rest <+: back ∧ rest ≠ back := by
  have parts : start <+: front ∨ ∃ rest, start = front ++ rest ∧ rest <+: back := by
    rcases Nat.le_total start.length front.length with short | long
    · exact .inl (List.prefix_of_prefix_length_le begins (List.prefix_append front back) short)
    · obtain ⟨rest, rfl⟩ :=
        List.prefix_of_prefix_length_le (List.prefix_append front back) begins long
      exact .inr ⟨rest, rfl, (List.prefix_append_right_inj front).mp begins⟩
  rcases parts with inside | ⟨rest, rfl, behind⟩
  · by_cases whole : start = front
    · right
      refine ⟨[], by rw [whole, List.append_nil], List.nil_prefix, ?_⟩
      rintro rfl
      exact other (by rw [whole, List.append_nil])
    · exact .inl ⟨inside, whole⟩
  · exact .inr ⟨rest, rfl, behind, fun same => other (by rw [same])⟩

theorem loop_detects (chunks : List Chunk) (last : SizeLine 0) (start out : Bytes)
    (begins : start <+: framed chunks last) (cut : start ≠ framed chunks last) :
    ∃ error, dechunkLoop start out = .error error := by
  induction chunks generalizing start out with
  | nil =>
      have none := line_unfinished last.bytes start (size_line_whole last) begins cut
      exact ⟨_, round_unfinished start out none⟩
  | cons chunk rest ih =>
      rw [framed_cons, ← List.append_assoc] at begins cut
      -- The prefix ends in the size line, in the data, in the line end behind it, or later.
      rcases prefix_parts start _ _ begins cut with ⟨inLine, short⟩ | ⟨behind, rfl, begins, cut⟩
      · have none := line_unfinished _ start (size_line_whole chunk.line) inLine short
        exact ⟨_, round_unfinished start out none⟩
      rw [List.append_assoc, round_sized]
      rcases prefix_parts behind _ _ begins cut with ⟨inData, short⟩ | ⟨after, rfl, begins, cut⟩
      · have fewer : behind.length < chunk.data.length :=
          Nat.lt_of_le_of_ne inData.length_le fun same => short (inData.eq_of_length same)
        exact ⟨.truncatedChunk, by rw [if_pos fewer]⟩
      rw [if_neg (by simp), List.drop_left, List.take_left]
      rcases prefix_parts after _ _ begins cut with ⟨inEnd, short⟩ | ⟨later, rfl, begins, cut⟩
      · have unmet : crlf.isPrefixOf after = false := by
          by_contra starts
          rw [Bool.not_eq_false, List.isPrefixOf_iff_prefix] at starts
          exact short (inEnd.eq_of_length (Nat.le_antisymm inEnd.length_le starts.length_le))
        exact ⟨.missingCrlf, by rw [unmet, if_neg Bool.false_ne_true]⟩
      · have starts : crlf.isPrefixOf (crlf ++ later) = true :=
          List.isPrefixOf_iff_prefix.mpr (List.prefix_append crlf later)
        rw [if_pos starts, List.drop_left]
        exact ih later _ begins cut

end Encoding

/-! Termination. -/
section Termination

/-- The loop with at most `fuel` rounds. -/
def dechunkFuel : Nat → Bytes → Bytes → Option (Except HttpError Bytes)
  | 0, _, _ => none
  | fuel + 1, data, out =>
      match cutAt crlf data with
      | none => some (.error .malformedChunkHeader)
      | some (sizeLine, behind) =>
          match chunkSize sizeLine with
          | .error error => some (.error error)
          | .ok size =>
              if size = 0 then some (.ok out)
              else if behind.length < size then some (.error .truncatedChunk)
              else if crlf.isPrefixOf (behind.drop size) then
                dechunkFuel fuel ((behind.drop size).drop crlf.length) (out ++ behind.take size)
              else some (.error .missingCrlf)

/-- Every round takes its size line off, so one round for each byte is enough. -/
theorem fuel_enough (fuel : Nat) (data out : Bytes) (enough : data.length < fuel) :
    dechunkFuel fuel data out = some (dechunkLoop data out) := by
  induction fuel generalizing data out with
  | zero => exact absurd enough (Nat.not_lt_zero _)
  | succ fuel ih =>
      rw [dechunkFuel]
      cases cut : cutAt crlf data with
      | none => rw [round_unfinished data out cut]
      | some parts =>
          obtain ⟨sizeLine, behind⟩ := parts
          rw [round_found data out sizeLine behind cut]
          have shorter := cut_at_length crlf data sizeLine behind (by decide) cut
          dsimp only
          cases chunkSize sizeLine with
          | error error => rfl
          | ok size =>
              have fewer : ((behind.drop size).drop crlf.length).length < fuel := by
                rw [List.length_drop, List.length_drop]
                omega
              dsimp only
              rw [ih _ (out ++ behind.take size) fewer]
              split
              · rfl
              · split
                · rfl
                · split <;> rfl

/-- An encoded body is decoded, one that is cut off is an error, and the loop ends on every
input. -/
theorem chunked_exact :
    (∀ (body : Bytes) (chunks : List Chunk) (last : SizeLine 0) (trailer : Bytes),
      chunks.flatMap Chunk.data = body → dechunk (encode chunks last trailer) = .ok body) ∧
    (∀ (chunks : List Chunk) (last : SizeLine 0) (start : Bytes), start <+: framed chunks last →
      start ≠ framed chunks last → ∃ error, dechunk start = .error error) ∧
    ∀ data : Bytes, dechunkFuel (data.length + 1) data [] = some (dechunk data) := by
  refine ⟨?_, ?_, ?_⟩
  · rintro body chunks last trailer rfl
    exact loop_inverts chunks last trailer []
  · exact fun chunks last start begins cut => loop_detects chunks last start [] begins cut
  · exact fun data => fuel_enough _ data [] (Nat.lt_succ_self _)

end Termination

end Dnsix.Chunked
