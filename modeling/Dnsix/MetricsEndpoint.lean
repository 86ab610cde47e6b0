import Dnsix.Prometheus
import Dnsix.Truncation
import Dnsix.Utf8

/-!
The metrics endpoint on the wire. One read of a connection is answered once: with the
exposition for `GET /metrics`, with a 404 for every other request line. What it sends is
read back here with the resolver's own reader of HTTP responses.
-/

namespace Dnsix.MetricsEndpoint
open Ascii Http Truncation Utf8 Prometheus

/-! The connection. -/
section Connection

/-- The size of the buffer of the one read. -/
def bufferSize : Nat := 1024

structure Reply where
  status : Text
  ctype : Text
  body : Text
  deriving DecidableEq

def ok (m : Shared) : Reply :=
  { status := "200 OK", ctype := "text/plain; version=0.0.4; charset=utf-8",
    body := m.renderPrometheus }

def notFound : Reply :=
  { status := "404 Not Found", ctype := "text/plain; charset=utf-8", body := "not found\n" }

def Reply.text (reply : Reply) : Text :=
  "HTTP/1.1 ".toList ++ reply.status ++ "\r\nContent-Type: ".toList ++ reply.ctype ++
    "\r\nContent-Length: ".toList ++ Nat.toDigits 10 (encode reply.body).length ++
    "\r\nConnection: close\r\n\r\n".toList ++ reply.body

/-- What the request line asks for. -/
def replyFor (m : Shared) (requestLine : Text) : Reply :=
  let parts := splitWhitespace requestLine
  let method := parts.headD []
  let path := (split '?' (parts.tail.headD [])).headD []
  if method = "GET" ∧ path = "/metrics" then ok m else notFound

/-- `arrived` is what the peer has sent when the read returns. -/
def handleConn (m : Shared) (arrived : Bytes) : Bytes :=
  let head := fromUtf8Lossy (arrived.take bufferSize)
  encode (replyFor m ((lines head).headD [])).text

end Connection

/-! A response head, line by line. -/
section Heads

def crlfText : Text := ['\r', '\n']

/-- No carriage return stands in the line. -/
def Unbroken (line : Text) : Prop := '\r' ∉ line

theorem encode_absent (char : Char) (text : Text) (ascii : char.toNat < 0x80)
    (absent : char ∉ text) : UInt8.ofNat char.toNat ∉ encode text := by
  intro inside
  rcases List.mem_flatMap.mp inside with ⟨other, listed, within⟩
  have own := byte_nat char.toNat (by omega)
  have continuing : ∀ place, UInt8.ofNat char.toNat ≠ continued other.toNat place := by
    intro place same
    have number := congrArg UInt8.toNat same
    rw [own, continued_nat] at number
    omega
  have valid := code_valid other
  have leading : ∀ number, 0x80 ≤ number → number < 256 →
      UInt8.ofNat char.toNat ≠ UInt8.ofNat number := by
    intro number large small same
    have equal := congrArg UInt8.toNat same
    rw [own, byte_nat number small] at equal
    omega
  unfold encodeChar at within
  dsimp only at within
  split_ifs at within with one two three
  · have equal := congrArg UInt8.toNat (List.mem_singleton.mp within)
    rw [own, byte_nat other.toNat (by omega)] at equal
    rw [← Char.ofNat_toNat char, equal, Char.ofNat_toNat] at absent
    exact absent listed
  all_goals
    simp only [List.mem_cons, List.not_mem_nil, or_false, continuing] at within
    exact absurd within (leading _ (by omega) (by omega))

theorem split_crlf_line (line rest : Text) (unbroken : Unbroken line) :
    splitCrlf (line ++ (crlfText ++ rest)) = line :: splitCrlf rest := by
  induction line with
  | nil => rfl
  | cons char more ih =>
      rw [Unbroken, List.mem_cons, not_or] at unbroken
      rw [List.cons_append, splitCrlf, ih unbroken.2]
      · rfl
      · rintro _ rfl
        exact absurd rfl unbroken.1

theorem split_crlf_single (line : Text) (unbroken : Unbroken line) : splitCrlf line = [line] := by
  induction line with
  | nil => rfl
  | cons char more ih =>
      rw [Unbroken, List.mem_cons, not_or] at unbroken
      rw [splitCrlf, ih unbroken.2]
      · rfl
      · rintro _ rfl
        exact absurd rfl unbroken.1

theorem join_cons (first second : Text) (rest : List Text) :
    join crlfText (first :: second :: rest) =
      first ++ (crlfText ++ join crlfText (second :: rest)) := by
  simp [join, List.intercalate_cons_cons]

theorem split_crlf_join (first : Text) (rest : List Text)
    (unbroken : ∀ line ∈ first :: rest, Unbroken line) :
    splitCrlf (join crlfText (first :: rest)) = first :: rest := by
  induction rest generalizing first with
  | nil => simpa [join] using split_crlf_single first (unbroken first (List.mem_singleton_self _))
  | cons second more ih =>
      rw [List.forall_mem_cons] at unbroken
      rw [join_cons, split_crlf_line first _ unbroken.1, ih second unbroken.2]

theorem cut_skip (front rest : Bytes) (absent : 13 ∉ front) :
    cutAt headEnd (front ++ rest) =
      (cutAt headEnd rest).map fun (before, behind) => (front ++ before, behind) := by
  induction front with
  | nil => simp
  | cons byte more ih =>
      rw [List.mem_cons, not_or] at absent
      have other : headEnd.isPrefixOf (byte :: (more ++ rest)) = false := by
        simp [headEnd, List.isPrefixOf, absent.1]
      rw [List.cons_append, cutAt, other, ih absent.2]
      simp [Option.map_map, Function.comp_def]

theorem cut_line_end (byte : UInt8) (rest : Bytes) (other : byte ≠ 13) :
    cutAt headEnd (crlf ++ byte :: rest) =
      (cutAt headEnd (byte :: rest)).map fun (before, behind) => (crlf ++ before, behind) := by
  have first : headEnd.isPrefixOf (13 :: 10 :: byte :: rest) = false := by
    simp [headEnd, List.isPrefixOf, Ne.symm other]
  have second : headEnd.isPrefixOf (10 :: byte :: rest) = false := by
    simp [headEnd, List.isPrefixOf]
  rw [crlf, List.cons_append, List.cons_append, List.nil_append, cutAt, first, cutAt, second]
  simp [Option.map_map, Function.comp_def]

theorem encode_crlf : encode crlfText = crlf := by decide

theorem encode_present (line : Text) (present : line ≠ []) (unbroken : Unbroken line) :
    ∃ byte rest, encode line = byte :: rest ∧ byte ≠ 13 := by
  have absent : 13 ∉ encode line := encode_absent '\r' line (by decide) unbroken
  cases shape : encode line with
  | nil =>
      have back := from_utf8_lossy_encode line
      rw [shape] at back
      exact absurd back.symm present
  | cons byte rest =>
      rw [shape, List.mem_cons, not_or] at absent
      exact ⟨byte, rest, rfl, Ne.symm absent.1⟩

/-- The head ends where the first empty line stands. -/
theorem head_cut (first : Text) (rest : List Text) (body : Bytes)
    (unbroken : ∀ line ∈ first :: rest, Unbroken line) (present : ∀ line ∈ rest, line ≠ []) :
    cutAt headEnd (encode (join crlfText (first :: rest)) ++ (headEnd ++ body)) =
      some (encode (join crlfText (first :: rest)), body) := by
  induction rest generalizing first with
  | nil =>
      have absent :=
        encode_absent '\r' first (by decide) (unbroken first (List.mem_singleton_self _))
      have single : join crlfText [first] = first := by simp [join]
      have ended : cutAt headEnd (headEnd ++ body) = some ([], body) := by
        simp [headEnd, cutAt, List.isPrefixOf]
      rw [single, cut_skip _ _ absent, ended]
      simp
  | cons second more ih =>
      rw [List.forall_mem_cons] at unbroken present
      have absent := encode_absent '\r' first (by decide) unbroken.1
      rcases encode_present second present.1 (unbroken.2 second (List.mem_cons_self ..)) with
        ⟨byte, others, shape, other⟩
      have later := ih second unbroken.2 present.2
      have starts : ∃ tail, encode (join crlfText (second :: more)) = byte :: tail := by
        cases more with
        | nil => exact ⟨others, by simpa [join] using shape⟩
        | cons third last =>
            rw [join_cons, encode_append, shape]
            exact ⟨_, rfl⟩
      rcases starts with ⟨tail, whole⟩
      rw [join_cons, encode_append, encode_append, encode_crlf, List.append_assoc,
        List.append_assoc, cut_skip _ _ absent]
      rw [whole] at later ⊢
      rw [List.cons_append, cut_line_end byte _ other, ← List.cons_append, later]
      simp

/-- `parse_http` on a head written line by line. -/
theorem head_parsed (first : Text) (rest : List Text) (body : Bytes)
    (unbroken : ∀ line ∈ first :: rest, Unbroken line) (present : ∀ line ∈ rest, line ≠ [])
    (code : Nat) (status : statusCode first = some code) (final : code < 300 ∨ 400 ≤ code)
    (plain : rest.foldl Head.readLine ⟨none, false⟩ = ⟨none, false⟩) :
    parseHttp (encode (join crlfText (first :: rest)) ++ (headEnd ++ body)) =
      if code = 200 then .ok (.Body body) else .error (.unexpectedStatus code) := by
  have other : ¬(300 ≤ code ∧ code < 400) := by omega
  unfold parseHttp
  simp only [head_cut first rest body unbroken present, from_utf8_encode,
    split_crlf_join first rest unbroken, List.headD_cons, List.tail_cons, status, plain, other,
    if_false, Bool.false_eq_true]
  by_cases accepted : code = 200 <;> simp [accepted]

/-- A field that `parse_http` does not look for. -/
theorem read_other (head : Head) (name value : Text) (bare : ':' ∉ name)
    (location : toAsciiLowercase (trim name) ≠ "location")
    (coding : toAsciiLowercase (trim name) ≠ "transfer-encoding") :
    head.readLine (name ++ ':' :: value) = head := by
  rw [Head.readLine, split_once_append ':' name value bare]
  dsimp only
  rw [if_neg location, if_neg fun both => coding both.1]

end Heads

/-! What is sent. -/
section Replies

def Reply.statusLine (reply : Reply) : Text := "HTTP/1.1 ".toList ++ reply.status

def Reply.fields (reply : Reply) : List Text :=
  ["Content-Type".toList ++ ':' :: ' ' :: reply.ctype,
   "Content-Length".toList ++ ':' :: ' ' :: Nat.toDigits 10 (encode reply.body).length,
   "Connection".toList ++ ':' :: ' ' :: "close".toList]

def Reply.head (reply : Reply) : Text := join crlfText (reply.statusLine :: reply.fields)

theorem reply_bytes (reply : Reply) :
    encode reply.text = encode reply.head ++ (headEnd ++ encode reply.body) := by
  have ended : headEnd = encode (crlfText ++ crlfText) := by decide
  have type_ :
      "\r\nContent-Type: ".toList = crlfText ++ ("Content-Type".toList ++ [':', ' ']) := rfl
  have length_ : "\r\nContent-Length: ".toList =
      crlfText ++ ("Content-Length".toList ++ [':', ' ']) := rfl
  have close_ : "\r\nConnection: close\r\n\r\n".toList = crlfText ++ ("Connection".toList ++
      ':' :: ' ' :: "close".toList) ++ (crlfText ++ crlfText) := rfl
  have single : ∀ line, join crlfText [line] = line := fun line => List.append_nil line
  rw [ended, ← encode_append, ← encode_append]
  unfold Reply.text Reply.head Reply.statusLine Reply.fields
  rw [type_, length_, close_, join_cons, join_cons, join_cons, single]
  generalize "HTTP/1.1 ".toList = first
  generalize "Content-Type".toList = second
  generalize "Content-Length".toList = third
  generalize "Connection".toList = last
  generalize "close".toList = close
  simp only [List.append_assoc, List.cons_append, List.nil_append]

theorem digits_unbroken (number : Nat) : Unbroken (Nat.toDigits 10 number) := by
  intro inside
  exact absurd (Nat.isDigit_of_mem_toDigits (by decide) (by decide) inside) (by decide)

theorem reply_unbroken (reply : Reply) (status : Unbroken reply.status)
    (ctype : Unbroken reply.ctype) :
    ∀ line ∈ reply.statusLine :: reply.fields, Unbroken line := by
  -- A name with nothing special in it, and a value.
  have field : ∀ name value : Text, '\r' ∉ name → Unbroken value →
      Unbroken (name ++ ':' :: ' ' :: value) := by
    intro name value plain unbroken
    unfold Unbroken at unbroken ⊢
    simp [plain, unbroken]
  have first : Unbroken reply.statusLine := by
    unfold Reply.statusLine Unbroken
    rw [List.mem_append, not_or]
    exact ⟨by decide, status⟩
  unfold Reply.fields
  rw [List.forall_mem_cons, List.forall_mem_cons, List.forall_mem_cons, List.forall_mem_cons]
  have close : Unbroken "close".toList := by
    unfold Unbroken
    decide
  exact ⟨first, field _ _ (by decide) ctype, field _ _ (by decide) (digits_unbroken _),
    field _ _ (by decide) close, nofun⟩

theorem reply_parsed (reply : Reply) (status : Unbroken reply.status)
    (ctype : Unbroken reply.ctype) (code : Nat)
    (number : statusCode reply.statusLine = some code) (final : code < 300 ∨ 400 ≤ code) :
    parseHttp (encode reply.text) =
      if code = 200 then .ok (.Body (encode reply.body)) else .error (.unexpectedStatus code) := by
  rw [reply_bytes]
  refine head_parsed reply.statusLine reply.fields _ (reply_unbroken reply status ctype) ?_ code
    number final ?_
  · simp [Reply.fields]
  · simp only [Reply.fields, List.foldl_cons, List.foldl_nil]
    rw [read_other _ "Content-Type".toList _ (by decide) (by decide) (by decide),
      read_other _ "Content-Length".toList _ (by decide) (by decide) (by decide),
      read_other _ "Connection".toList _ (by decide) (by decide) (by decide)]

theorem digits_trimmed (number : Nat) : Trimmed (Nat.toDigits 10 number) := by
  have dark : ∀ char ∈ Nat.toDigits 10 number, isWhitespace char = false := fun char inside =>
    alphanum_dark char (digit_alphanum 10 char ((decimal_iff char).mpr
      (Nat.isDigit_of_mem_toDigits (by decide) (by decide) inside)))
  constructor
  · cases shape : Nat.toDigits 10 number with
    | nil => exact absurd shape Nat.toDigits_ne_nil
    | cons char rest =>
        rw [shape, List.forall_mem_cons] at dark
        exact ⟨char, rest, rfl, dark.1⟩
  · exact fun char last => dark char (List.mem_of_getLast? last)

/-- The length in the head is the length of what follows it. -/
def DeclaresLength (response : Bytes) : Prop :=
  ∃ head body, cutAt headEnd response = some (encode head, body) ∧
    Field head "content-length" (Nat.toDigits 10 body.length)

theorem reply_declares (reply : Reply) (status : Unbroken reply.status)
    (ctype : Unbroken reply.ctype) : DeclaresLength (encode reply.text) := by
  have unbroken := reply_unbroken reply status ctype
  refine ⟨reply.head, encode reply.body, ?_, ?_⟩
  · rw [reply_bytes]
    exact head_cut reply.statusLine reply.fields _ unbroken (by simp [Reply.fields])
  · refine ⟨"Content-Length".toList ++ ':' :: ' ' ::
      Nat.toDigits 10 (encode reply.body).length, ?_, "Content-Length".toList,
      ' ' :: Nat.toDigits 10 (encode reply.body).length, ?_, ?_, ?_⟩
    · rw [headerLines, Reply.head, split_crlf_join _ _ unbroken]
      simp [Reply.fields]
    · exact split_once_append ':' _ _ (by decide)
    · decide
    · have blank : Blank [' '] := by
        intro char inside
        rw [List.mem_singleton.mp inside]
        decide
      have padded := trim_padded [' '] _ [] blank nofun (digits_trimmed (encode reply.body).length)
      rwa [List.append_nil] at padded

end Replies

/-! What is asked. -/
section Requests

/-- A request line: a method, a target and whatever else stands on the line. -/
structure RequestLine where
  method : Text
  target : Text
  more : Text
  methodPresent : method ≠ []
  methodDark : ∀ char ∈ method, isWhitespace char = false
  targetPresent : target ≠ []
  targetDark : ∀ char ∈ target, isWhitespace char = false
  single : '\n' ∉ more

def RequestLine.text (line : RequestLine) : Text :=
  line.method ++ ' ' :: (line.target ++ ' ' :: line.more)

/-- `GET` of the path `/metrics`, with or without a query. -/
def RequestLine.Scrapes (line : RequestLine) : Prop :=
  line.method = "GET" ∧
    (line.target = "/metrics" ∨ ∃ query, line.target = "/metrics" ++ '?' :: query)

theorem line_single (line : RequestLine) : '\n' ∉ line.text := by
  have dark : ∀ word : Text, (∀ char ∈ word, isWhitespace char = false) → '\n' ∉ word := by
    intro word dark inside
    exact absurd (dark '\n' inside) (by decide)
  have method := dark line.method line.methodDark
  have target := dark line.target line.targetDark
  simp [RequestLine.text, method, target, line.single]

/-- The first line, its carriage return gone. -/
theorem lines_first (front rest : Text) (single : '\n' ∉ front) :
    (lines (front ++ '\n' :: rest)).headD [] = stripCarriageReturn front := by
  rw [lines, split_append, split_whole '\n' front single, List.singleton_append]
  cases parts : split '\n' rest with
  | nil => exact absurd parts (split_ne_nil '\n' rest)
  | cons second others => rfl

/-- Without its carriage return the line has the words it has with it. -/
theorem words_strip (line : Text) :
    splitWhitespace (stripCarriageReturn line) = splitWhitespace line := by
  unfold stripCarriageReturn
  split
  · rename_i ended
    have last : line.getLast? = some '\r' := by simpa using ended
    have whole := List.dropLast_append_getLast? '\r' last
    conv => rhs; rw [← whole]
    rw [words_blank_end _ '\r' (by decide)]
  · rfl

theorem line_words (line : RequestLine) :
    splitWhitespace line.text = line.method :: line.target :: splitWhitespace line.more := by
  rw [RequestLine.text, words_append _ _ ' ' (by decide), words_append _ _ ' ' (by decide),
    words_single line.method line.methodPresent line.methodDark,
    words_single line.target line.targetPresent line.targetDark]
  rfl

/-- What stands before the first question mark. -/
theorem path_iff (target path : Text) (bare : '?' ∉ path) :
    (split '?' target).headD [] = path ↔
      target = path ∨ ∃ query, target = path ++ '?' :: query := by
  constructor
  · intro same
    cases cut : splitOnce '?' target with
    | none =>
        rw [split_whole '?' target ((split_once_none '?' target).mp cut)] at same
        exact Or.inl same
    | some parts =>
        have shape := split_once_some '?' target parts.1 parts.2 cut
        have free := split_once_front '?' target parts.1 parts.2 cut
        rw [shape, split_append, split_whole '?' parts.1 free] at same
        exact Or.inr ⟨parts.2, same ▸ shape⟩
  · rintro (rfl | ⟨query, rfl⟩)
    · rw [split_whole '?' target bare]
      rfl
    · rw [split_append, split_whole '?' path bare]
      rfl

theorem reply_for_iff (m : Shared) (line : RequestLine) :
    (line.Scrapes → replyFor m (stripCarriageReturn line.text) = ok m) ∧
      (¬line.Scrapes → replyFor m (stripCarriageReturn line.text) = notFound) := by
  have asked : line.Scrapes ↔ line.method = "GET" ∧
      (split '?' line.target).headD [] = "/metrics" :=
    and_congr_right' (path_iff line.target "/metrics" (by decide)).symm
  rw [asked, replyFor, words_strip, line_words]
  exact ⟨fun scrapes => if_pos scrapes, fun other => if_neg other⟩

/-- The request line alone decides, when it fits into the buffer. -/
theorem conn_reply (m : Shared) (line : RequestLine) (rest : Bytes)
    (fits : (encode (line.text ++ ['\n'])).length ≤ bufferSize) :
    handleConn m (encode (line.text ++ ['\n']) ++ rest) =
      encode (replyFor m (stripCarriageReturn line.text)).text := by
  unfold handleConn
  dsimp only
  rw [List.take_append, List.take_of_length_le fits, from_utf8_lossy_append, List.append_assoc,
    List.singleton_append, lines_first line.text _ (line_single line)]

theorem enabled_known (ids : List String) (history : List Increment) :
    ∀ id ∈ (Shared.after ids history).handler.synthIds, Synth.knownIds.contains id := by
  intro id listed
  rw [after_ids] at listed
  exact (List.mem_filter.mp listed).2

end Requests

/-- What a client is told on its request line. -/
structure Scraped (m : Shared) (line : RequestLine) (response : Bytes) : Prop where
  declared : DeclaresLength response
  metrics : line.Scrapes → ∃ text, parseHttp response = .ok (.Body (encode text)) ∧
    Exposition.read text = some m.snapshot.families
  other : ¬line.Scrapes → parseHttp response = .error (.unexpectedStatus 404)

/-- Whatever has been counted and whatever else is sent with it: the request line is
answered with the counters as they stand, or with a 404 that tells nothing of them. -/
theorem scrape_round_trip (ids : List String) (history : List Increment) (line : RequestLine)
    (rest : Bytes) (fits : (encode (line.text ++ ['\n'])).length ≤ bufferSize) :
    Scraped (Shared.after ids history) line
        (handleConn (Shared.after ids history) (encode (line.text ++ ['\n']) ++ rest)) ∧
      (¬line.Scrapes → ∀ other,
        handleConn other (encode (line.text ++ ['\n']) ++ rest) = encode notFound.text) := by
  have silent : ∀ m, ¬line.Scrapes →
      handleConn m (encode (line.text ++ ['\n']) ++ rest) = encode notFound.text := by
    intro m other
    rw [conn_reply m line rest fits, (reply_for_iff m line).2 other]
  have typed : Unbroken notFound.ctype := by
    unfold Unbroken
    decide
  have labelled : Unbroken notFound.status := by
    unfold Unbroken
    decide
  refine ⟨?_, fun other m => silent m other⟩
  by_cases scrapes : line.Scrapes
  · rw [conn_reply _ line rest fits, (reply_for_iff _ line).1 scrapes]
    have status : Unbroken (ok (Shared.after ids history)).status := by
      change '\r' ∉ "200 OK".toList
      decide
    have ctype : Unbroken (ok (Shared.after ids history)).ctype := by
      change '\r' ∉ "text/plain; version=0.0.4; charset=utf-8".toList
      decide
    have number : statusCode (ok (Shared.after ids history)).statusLine = some 200 := by
      change statusCode ("HTTP/1.1 ".toList ++ "200 OK".toList) = some 200
      decide
    refine ⟨reply_declares _ status ctype, fun _ => ?_, fun other => absurd scrapes other⟩
    refine ⟨(Shared.after ids history).renderPrometheus, ?_, ?_⟩
    · rw [reply_parsed _ status ctype 200 number (by decide)]
      rfl
    · exact rendering_read _ (enabled_known ids history)
  · rw [silent _ scrapes]
    have number : statusCode notFound.statusLine = some 404 := by decide
    refine ⟨reply_declares _ labelled typed, fun other => absurd other scrapes, fun _ => ?_⟩
    rw [reply_parsed _ labelled typed 404 number (by decide)]
    rfl

theorem all_dark (text : Text) (checked : (text.all fun char => !isWhitespace char) = true) :
    ∀ char ∈ text, isWhitespace char = false := by
  intro char inside
  simpa using List.all_eq_true.mp checked char inside

def sampleLine : RequestLine where
  method := "GET"
  target := "/metrics?name=hits"
  more := "HTTP/1.1\r"
  methodPresent := by decide
  methodDark := all_dark _ rfl
  targetPresent := by decide
  targetDark := all_dark _ rfl
  single := by decide

theorem scrape_round_trip_sample :
    Scraped (Shared.after ["fastly", "nat64"] sampleHistory) sampleLine
        (handleConn (Shared.after ["fastly", "nat64"] sampleHistory)
          (encode (sampleLine.text ++ ['\n']) ++ [0x48, 0x6f, 0xff])) ∧
      (¬sampleLine.Scrapes → ∀ other,
        handleConn other (encode (sampleLine.text ++ ['\n']) ++ [0x48, 0x6f, 0xff]) =
          encode notFound.text) :=
  scrape_round_trip ["fastly", "nat64"] sampleHistory sampleLine _ (by decide)

end Dnsix.MetricsEndpoint
