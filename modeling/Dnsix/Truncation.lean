import Dnsix.Chunked
import Dnsix.HostText
import Dnsix.ListFetch

/-!
Responses that are cut off. The reader takes a close without notice for the end, so what is
left to tell a cut body from a whole one is its framing. The chunks tell, and the length the
head declares is never asked.
-/

namespace Dnsix.Truncation
open Ascii Blocking Chunked Http ListFetch

/-! The head. -/
section Heads

def headerLines (head : Text) : List Text := (splitCrlf head).tail

/-- A line of the head, by its name in lower case and its value. -/
def HeaderLine (line name value : Text) : Prop :=
  ∃ k v, splitOnce ':' line = some (k, v) ∧ toAsciiLowercase (trim k) = name ∧ trim v = value

def Field (head name value : Text) : Prop := ∃ line ∈ headerLines head, HeaderLine line name value

/-- The one spelling of a transfer coding that is looked for. -/
def SeenChunked (head : Text) : Prop :=
  ∃ value, Field head "transfer-encoding" value ∧ eqIgnoreAsciiCase value "chunked" = true

theorem read_line_chunked (fields : Head) (line : Text) :
    (fields.readLine line).chunked = true ↔ fields.chunked = true ∨
      ∃ value, HeaderLine line "transfer-encoding" value ∧
        eqIgnoreAsciiCase value "chunked" = true := by
  unfold Head.readLine HeaderLine
  cases cut : splitOnce ':' line with
  | none => simp
  | some parts =>
      obtain ⟨k, v⟩ := parts
      have same : (∃ value, (∃ k' v', some (k, v) = some (k', v') ∧
          toAsciiLowercase (trim k') = "transfer-encoding".toList ∧ trim v' = value) ∧
            eqIgnoreAsciiCase value "chunked" = true) ↔
          toAsciiLowercase (trim k) = "transfer-encoding".toList ∧
            eqIgnoreAsciiCase (trim v) "chunked" = true := by
        constructor
        · rintro ⟨_, ⟨_, _, parted, name, rfl⟩, chunked⟩
          cases parted
          exact ⟨name, chunked⟩
        · rintro ⟨name, chunked⟩
          exact ⟨_, ⟨k, v, rfl, name, rfl⟩, chunked⟩
      rw [same]
      dsimp only
      split
      · rename_i location
        have other : "location".toList ≠ "transfer-encoding".toList := by decide
        rw [location]
        simp [-String.reduceToList, other]
      · split
        · rename_i coded
          simp [-String.reduceToList, coded]
        · rename_i uncoded
          simp [-String.reduceToList, uncoded]

theorem fold_chunked (lines : List Text) (fields : Head) :
    (lines.foldl Head.readLine fields).chunked = true ↔ fields.chunked = true ∨
      ∃ value, (∃ line ∈ lines, HeaderLine line "transfer-encoding" value) ∧
        eqIgnoreAsciiCase value "chunked" = true := by
  induction lines generalizing fields with
  | nil => simp
  | cons line rest ih =>
      rw [List.foldl_cons, ih, read_line_chunked]
      simp only [List.exists_mem_cons_iff, or_and_right, exists_or, or_assoc]

/-- A head of an accepted response. -/
def Answers (head : Text) : Prop :=
  ∃ reason, (splitCrlf head).headD [] = "HTTP/1.1 200".toList ++ reason ∧
    ∀ char ∈ reason.head?, char = ' '

theorem answers_code (head : Text) (answers : Answers head) :
    statusCode ((splitCrlf head).headD []) = some 200 := by
  obtain ⟨reason, line, spaced⟩ := answers
  rw [line]
  cases reason with
  | nil => decide
  | cons char more =>
      have space : char = ' ' := spaced char rfl
      have words : splitWhitespace ("HTTP/1.1 200".toList ++ ' ' :: more) =
          ["HTTP/1.1".toList, "200".toList] ++ splitWhitespace more := by
        rw [words_append _ more ' ' rfl]
        exact congrArg (· ++ splitWhitespace more) (by decide)
      have number : parseUnsigned 10 (2 ^ 16) "200" = some 200 := by decide
      rw [space, statusCode, words]
      exact number

theorem parse_answer (raw head body : Bytes) (text : Text)
    (cut : cutAt headEnd raw = some (head, body)) (decoded : fromUtf8 head = some text)
    (answers : Answers text) :
    parseHttp raw = if ((headerLines text).foldl Head.readLine ⟨none, false⟩).chunked then
        (dechunk body).map .Body else .ok (.Body body) := by
  unfold parseHttp
  rw [cut]
  dsimp only
  rw [decoded]
  dsimp only
  rw [answers_code text answers]
  dsimp only
  rw [if_neg (by decide), if_neg (by decide)]
  rfl

end Heads

/-! Whole responses and their prefixes. -/
section Responses

/-- The last transfer coding of a list of codings. -/
def lastCoding (value : Text) : Text := trim ((split ',' value).getLastD [])

/-- A body as the head declares it, on the wire, and the part of it without which it is not
whole: all of it behind a length, and what precedes the trailer in chunks. -/
inductive Declared (head : Text) : Bytes → Bytes → Prop
  | length (payload : Bytes) (value : Text) (field : Field head "content-length" value)
      (number : parseUnsigned 10 (2 ^ 64) value = some payload.length)
      (uncoded : ∀ value, ¬Field head "transfer-encoding" value) : Declared head payload payload
  | chunked (chunks : List Chunk) (last : SizeLine 0) (trailer : Bytes) (value : Text)
      (field : Field head "transfer-encoding" value)
      (coded : eqIgnoreAsciiCase (lastCoding value) "chunked" = true) :
      Declared head (encode chunks last trailer) (framed chunks last)

/-- A response of code 200 that declares its body. A head that is no text is refused before
anything is looked for in it. -/
structure Response where
  head : Bytes
  wire : Bytes
  needed : Bytes
  ended : ¬headEnd <:+: head ++ headEnd.dropLast
  answers : ∀ text, fromUtf8 head = some text → Answers text ∧ Declared text wire needed

def Response.bytes (response : Response) : Bytes := response.head ++ (headEnd ++ response.wire)

/-- The start of a response that lacks a part of the body. -/
structure CutOff (response : Response) (start : Bytes) : Prop where
  begins : start <+: response.bytes
  missing : start.length < response.head.length + headEnd.length + response.needed.length

/-- What tells the reader that something is missing: the head is cut off too or cannot be
read, or the chunks are looked for. -/
def Noticed (response : Response) (start : Bytes) : Prop :=
  start.length < response.head.length + headEnd.length ∨ fromUtf8 response.head = none ∨
    ∃ text, fromUtf8 response.head = some text ∧ SeenChunked text

variable {response : Response} {start : Bytes}

/-- A start with the whole head in it. -/
theorem past_head (cutOff : CutOff response start)
    (long : response.head.length + headEnd.length ≤ start.length) :
    ∃ rest, start = response.head ++ (headEnd ++ rest) ∧ rest <+: response.wire ∧
      rest.length < response.needed.length := by
  have size : (response.head ++ headEnd).length ≤ start.length := by
    rw [List.length_append]
    exact long
  have begins := cutOff.begins
  rw [Response.bytes, ← List.append_assoc] at begins
  obtain ⟨rest, rfl⟩ := List.prefix_of_prefix_length_le (List.prefix_append _ _) begins size
  refine ⟨rest, List.append_assoc _ _ _, (List.prefix_append_right_inj _).mp begins, ?_⟩
  have missing := cutOff.missing
  rw [List.length_append, List.length_append] at missing
  omega

theorem head_cut_off (cutOff : CutOff response start)
    (short : start.length < response.head.length + headEnd.length) :
    parseHttp start = .error .noHeaderTerminator := by
  have none : cutAt headEnd start = none := by
    rw [cut_at_none_iff headEnd start (by decide)]
    intro inside
    have within : start <+: response.head ++ headEnd.dropLast := by
      apply List.prefix_of_prefix_length_le cutOff.begins
      · rw [Response.bytes, List.prefix_append_right_inj]
        exact (List.dropLast_prefix headEnd).trans (List.prefix_append headEnd _)
      · rw [List.length_append]
        exact Nat.le_of_lt_succ short
    exact response.ended (inside.trans within.isInfix)
  rw [parseHttp, none]

/-- Once the head is there, its chunks alone make a difference. -/
theorem head_whole (text : Text) (decoded : fromUtf8 response.head = some text) (rest : Bytes) :
    parseHttp (response.head ++ (headEnd ++ rest)) =
      if ((headerLines text).foldl Head.readLine ⟨none, false⟩).chunked then
        (dechunk rest).map .Body else .ok (.Body rest) := by
  have cut := cut_at_first headEnd response.head rest (by decide) response.ended
  exact parse_answer _ response.head rest text cut decoded (response.answers text decoded).1

theorem seen_iff (text : Text) :
    ((headerLines text).foldl Head.readLine ⟨none, false⟩).chunked = true ↔ SeenChunked text := by
  rw [fold_chunked]
  simp [-String.reduceToList, SeenChunked, Field]

theorem chunks_cut_off (text : Text) (seen : SeenChunked text) (wire needed : Bytes)
    (declared : Declared text wire needed) (rest : Bytes) (begins : rest <+: wire)
    (missing : rest.length < needed.length) : ∃ error, dechunk rest = .error error := by
  cases declared with
  | length payload value field number uncoded =>
      obtain ⟨coding, coded, _⟩ := seen
      exact absurd coded (uncoded coding)
  | chunked chunks last trailer value field coded =>
      have within : rest <+: framed chunks last :=
        List.prefix_of_prefix_length_le begins (List.prefix_append _ trailer) (Nat.le_of_lt missing)
      have other : rest ≠ framed chunks last := by
        rintro rfl
        exact Nat.lt_irrefl _ missing
      exact loop_detects chunks last rest [] within other

theorem parse_cut_off (cutOff : CutOff response start) :
    (∃ error, parseHttp start = .error error) ↔ Noticed response start := by
  by_cases short : start.length < response.head.length + headEnd.length
  · exact iff_of_true ⟨_, head_cut_off cutOff short⟩ (.inl short)
  · obtain ⟨rest, rfl, begins, missing⟩ := past_head cutOff (Nat.le_of_not_lt short)
    cases decoded : fromUtf8 response.head with
    | none =>
        have cut := cut_at_first headEnd response.head rest (by decide) response.ended
        have refused : parseHttp (response.head ++ (headEnd ++ rest)) = .error .nonUtf8Headers := by
          rw [parseHttp, cut]
          dsimp only
          rw [decoded]
        exact iff_of_true ⟨_, refused⟩ (.inr (.inl decoded))
    | some text =>
        rw [head_whole text decoded rest]
        by_cases seen : SeenChunked text
        · obtain ⟨error, failed⟩ := chunks_cut_off text seen _ _ (response.answers text decoded).2
            rest begins missing
          rw [if_pos ((seen_iff text).mpr seen), failed]
          exact iff_of_true ⟨error, rfl⟩ (.inr (.inr ⟨text, decoded, seen⟩))
        · rw [if_neg fun chunked => seen ((seen_iff text).mp chunked)]
          apply iff_of_false
          · rintro ⟨_, impossible⟩
            cases impossible
          · rintro (less | unread | ⟨other, also, chunked⟩)
            · exact short less
            · rw [decoded] at unread
              cases unread
            · rw [decoded] at also
              cases also
              exact seen chunked

end Responses

/-! What the read loop makes of an early close. -/
section Closes

variable {response : Response} {start : Bytes}

/-- The peer takes the request, sends these bytes in pieces and closes, with or without
notice. -/
structure Closes (peer : Peer) (sent : Bytes) : Prop where
  connects : peer.connects = true
  handshakes : peer.handshakes = true
  accepts : peer.accepts = true
  reads : ∃ (pieces : List Bytes) (closing : Except ReadError Bytes)
    (after : List (Except ReadError Bytes)), peer.reads = pieces.map .ok ++ closing :: after ∧
      (closing = .ok [] ∨ closing = .error .UnexpectedEof) ∧ (∀ piece ∈ pieces, piece ≠ []) ∧
        pieces.flatten = sent

/-- What was sent is read, up to the limit. -/
theorem read_closed (host current : Text) (pieces : List Bytes)
    (closing : Except ReadError Bytes) (after : List (Except ReadError Bytes)) (raw : Bytes)
    (closes : closing = .ok [] ∨ closing = .error .UnexpectedEof)
    (present : ∀ piece ∈ pieces, piece ≠ []) (within : raw.length ≤ maxBody) :
    readAll host current (pieces.map .ok ++ closing :: after) raw =
      if maxBody < (raw ++ pieces.flatten).length then .error (.exceedsMaxBody host)
      else .ok (raw ++ pieces.flatten) := by
  induction pieces generalizing raw with
  | nil =>
      have fits : ¬maxBody < (raw ++ List.flatten []).length := by
        simpa using within
      rw [if_neg fits, List.flatten_nil, List.append_nil]
      rcases closes with rfl | rfl
      · rfl
      · rfl
  | cons piece rest ih =>
      rw [List.forall_mem_cons] at present
      cases shape : piece with
      | nil => exact absurd shape present.1
      | cons byte more =>
          have whole : raw ++ (piece :: rest).flatten = raw ++ piece ++ rest.flatten := by simp
          rw [← shape, whole, List.map_cons, List.cons_append]
          have step : readAll host current (.ok piece :: (rest.map .ok ++ closing :: after)) raw =
              if (raw ++ piece).length > maxBody then .error (.exceedsMaxBody host)
              else readAll host current (rest.map .ok ++ closing :: after) (raw ++ piece) := by
            rw [shape]
            rfl
          rw [step]
          by_cases long : maxBody < (raw ++ piece).length
          · have longer : maxBody < (raw ++ piece ++ rest.flatten).length := by
              rw [List.length_append]
              exact Nat.lt_add_right _ long
            rw [if_pos long, if_pos longer]
          · rw [if_neg long, ih (raw ++ piece) present.2 (Nat.le_of_not_lt long)]

theorem talk_closed (host current : Text) (addr : Handler.SocketAddr) (peer : Peer)
    (closes : Closes peer start) :
    talk host current addr peer =
      if maxBody < start.length then .error (.exceedsMaxBody host)
      else (parseHttp start).mapError .http := by
  obtain ⟨pieces, closing, after, reads, closed, present, rfl⟩ := closes.reads
  have read := read_closed host current pieces closing after [] closed present (Nat.zero_le _)
  rw [List.nil_append] at read
  unfold talk
  rw [closes.connects, closes.handshakes, closes.accepts, reads, read]
  by_cases long : maxBody < pieces.flatten.length
  · rw [if_pos long, if_pos long]
    rfl
  · rw [if_neg long, if_neg long]
    rfl

/-- A response that lacks a part of its body is refused exactly when the lack is noticed, or
when what came is more than a list may be. -/
theorem truncation_noticed (cutOff : CutOff response start) :
    ((∃ error, parseHttp start = .error error) ↔ Noticed response start) ∧
    ∀ host current addr peer, Closes peer start →
      ((∃ error, talk host current addr peer = .error error) ↔
        Noticed response start ∨ maxBody < start.length) := by
  refine ⟨parse_cut_off cutOff, fun host current addr peer closes => ?_⟩
  rw [talk_closed host current addr peer closes, ← parse_cut_off cutOff]
  by_cases long : maxBody < start.length
  · simp [long]
  · rw [if_neg long]
    cases parseHttp start with
    | error error => simp [Except.mapError]
    | ok result => simp [Except.mapError, long]

/-! A list of one domain, whose length the head declares. -/

def sampleHead : Text := "HTTP/1.1 200 OK\r\nContent-Length: 15"

def sampleList : Text := "ads.example.com"

theorem sample_decoded : fromUtf8 (sampleHead.map HostText.byteOf) = some sampleHead := by
  have ascii : (sampleHead.map HostText.byteOf).all (fun byte => decide (byte < 0x80)) = true := rfl
  rw [decode_ascii _ fun byte inside => of_decide_eq_true (List.all_eq_true.mp ascii byte inside)]
  decide

theorem sample_lines : headerLines sampleHead = ["Content-Length: 15".toList] := by decide

theorem sample_parts : splitOnce ':' "Content-Length: 15" =
    some ("Content-Length".toList, " 15".toList) := by decide

theorem sample_uncoded (value : Text) : ¬Field sampleHead "transfer-encoding" value := by
  rw [Field, sample_lines]
  rintro ⟨line, listed, k, v, cut, name, _⟩
  rw [List.mem_singleton.mp listed, sample_parts] at cut
  cases cut
  exact absurd name (by decide)

theorem sample_declared : Declared sampleHead (sampleList.map HostText.byteOf)
    (sampleList.map HostText.byteOf) := by
  refine .length _ "15" ?_ (by decide) sample_uncoded
  rw [Field, sample_lines]
  exact ⟨_, List.mem_cons_self, _, _, sample_parts, by decide, by decide⟩

def sampleResponse : Response where
  head := sampleHead.map HostText.byteOf
  wire := sampleList.map HostText.byteOf
  needed := sampleList.map HostText.byteOf
  ended := (cut_at_none_iff headEnd _ (by decide)).mp (by decide)
  answers := by
    intro text read
    rw [sample_decoded] at read
    cases read
    exact ⟨⟨" OK", by decide, fun char head => (Option.some.inj head).symm⟩, sample_declared⟩

/-- The response without its last byte. -/
def sampleStart : Bytes :=
  sampleHead.map HostText.byteOf ++ (headEnd ++ "ads.example.co".toList.map HostText.byteOf)

theorem sample_cut_off : CutOff sampleResponse sampleStart := by
  constructor
  · have last : sampleResponse.bytes = sampleStart ++ "m".toList.map HostText.byteOf := by decide
    rw [last]
    exact List.prefix_append _ _
  · decide

theorem sample_unchunked : ¬SeenChunked sampleHead := by
  rintro ⟨value, field, _⟩
  exact sample_uncoded value field

theorem truncation_noticed_sample :
    ¬ ∃ error, parseHttp sampleStart = .error error := by
  rw [(truncation_noticed sample_cut_off).1]
  rintro (short | unread | ⟨text, read, seen⟩)
  · exact absurd short (by decide)
  · rw [sampleResponse, sample_decoded] at unread
    cases unread
  · rw [sampleResponse, sample_decoded] at read
    cases read
    exact sample_unchunked seen

/-- Another domain is read off the cut list, and the source counts as fetched. -/
theorem truncation_accepted :
    CutOff sampleResponse sampleStart ∧
      parseHttp sampleStart = .ok (.Body ("ads.example.co".toList.map HostText.byteOf)) ∧
      parseLine "ads.example.co" = .Block ["ads.example.co"] := by
  refine ⟨sample_cut_off, ?_, by decide⟩
  have decoded : fromUtf8 sampleResponse.head = some sampleHead := sample_decoded
  have body := head_whole sampleHead decoded
    ("ads.example.co".toList.map HostText.byteOf)
  rw [if_neg fun chunked => sample_unchunked ((seen_iff sampleHead).mp chunked)] at body
  exact body

end Closes

end Dnsix.Truncation
