import Dnsix.Ascii

/-!
The HTTP side of a list fetch, on bytes: UTF-8, chunked bodies, the response head,
URLs and redirects.
-/

namespace Dnsix.Http
open Ascii

abbrev Bytes := List UInt8

/-! UTF-8. -/
section Utf8

def continuation (byte : UInt8) : Bool := decide (0x80 ≤ byte) && decide (byte ≤ 0xbf)

/-- The second bytes a lead byte of three or four allows: no overlong forms, no
surrogates, nothing above the last code point. -/
def secondByte (lead byte : UInt8) : Bool :=
  if lead = 0xe0 then decide (0xa0 ≤ byte) && decide (byte ≤ 0xbf)
  else if lead = 0xed then decide (0x80 ≤ byte) && decide (byte ≤ 0x9f)
  else if lead = 0xf0 then decide (0x90 ≤ byte) && decide (byte ≤ 0xbf)
  else if lead = 0xf4 then decide (0x80 ≤ byte) && decide (byte ≤ 0x8f)
  else continuation byte

/-- The code point of a lead byte's payload and the continuation bytes behind it. -/
def scalar (lead : Nat) (rest : Bytes) : Char :=
  Char.ofNat (rest.foldl (fun code byte => code * 64 + byte.toNat % 64) lead)

/-- The characters of a text, and `none` for every maximal part that is none. -/
def decodeUtf8 : Bytes → List (Option Char)
  | [] => []
  | a :: rest =>
      if a < 0x80 then some (Char.ofNat a.toNat) :: decodeUtf8 rest
      else if 0xc2 ≤ a ∧ a ≤ 0xdf then
        match rest with
        | b :: more =>
            if continuation b then some (scalar (a.toNat % 32) [b]) :: decodeUtf8 more
            else none :: decodeUtf8 (b :: more)
        | [] => [none]
      else if 0xe0 ≤ a ∧ a ≤ 0xf4 then
        match rest with
        | b :: c :: more =>
            if !secondByte a b then none :: decodeUtf8 (b :: c :: more)
            else if !continuation c then none :: decodeUtf8 (c :: more)
            else if a < 0xf0 then some (scalar (a.toNat % 16) [b, c]) :: decodeUtf8 more
            else
              match more with
              | d :: last =>
                  if continuation d then some (scalar (a.toNat % 8) [b, c, d]) :: decodeUtf8 last
                  else none :: decodeUtf8 (d :: last)
              | [] => [none]
        | [b] => if secondByte a b then [none] else none :: decodeUtf8 [b]
        | [] => [none]
      else none :: decodeUtf8 rest

def fromUtf8 (bytes : Bytes) : Option Text := (decodeUtf8 bytes).mapM id

/-- Every part that is no text becomes one replacement character. -/
def fromUtf8Lossy (bytes : Bytes) : Text :=
  (decodeUtf8 bytes).map fun char => char.getD (Char.ofNat 0xfffd)

end Utf8

/-! Responses. -/
section Responses

inductive HttpError where
  | noHeaderTerminator | nonUtf8Headers | malformedStatusLine
  | redirectWithoutLocation (code : Nat)
  | unexpectedStatus (code : Nat)
  | malformedChunkHeader | nonUtf8ChunkSize | badChunkSize | truncatedChunk | missingCrlf
  deriving DecidableEq

inductive HttpResult where
  | Body (bytes : Bytes)
  | Redirect (location : Text)
  deriving DecidableEq

/-- The bytes before the first `needle`, and those behind it. -/
def cutAt (needle : Bytes) : Bytes → Option (Bytes × Bytes)
  | [] => if needle.isEmpty then some ([], []) else none
  | byte :: rest =>
      if needle.isPrefixOf (byte :: rest) then some ([], (byte :: rest).drop needle.length)
      else (cutAt needle rest).map fun (before, behind) => (byte :: before, behind)

theorem cut_at_length (needle data before behind : Bytes) (present : needle ≠ [])
    (found : cutAt needle data = some (before, behind)) : behind.length < data.length := by
  induction data generalizing before with
  | nil =>
      rw [cutAt, if_neg (by simpa using present)] at found
      cases found
  | cons byte rest ih =>
      rw [cutAt] at found
      split at found
      · cases found
        have long : 0 < needle.length := List.length_pos_of_ne_nil present
        rw [List.length_drop, List.length_cons]
        omega
      · rcases Option.map_eq_some_iff.mp found with ⟨⟨front, back⟩, inner, shape⟩
        cases shape
        exact Nat.lt_succ_of_lt (ih front inner)

def crlf : Bytes := [13, 10]

def headEnd : Bytes := [13, 10, 13, 10]

/-- The size of a chunk, its extensions dropped. -/
def chunkSize (sizeLine : Bytes) : Except HttpError Nat :=
  match fromUtf8 sizeLine with
  | none => .error .nonUtf8ChunkSize
  | some line =>
      match parseUnsigned 16 (2 ^ 64) (trim ((split ';' line).headD [])) with
      | some size => .ok size
      | none => .error .badChunkSize

/-- The loop of `dechunk`; `out` is what was decoded so far. -/
def dechunkLoop (data out : Bytes) : Except HttpError Bytes :=
  match _found : cutAt crlf data with
  | none => .error .malformedChunkHeader
  | some (sizeLine, behind) =>
      match chunkSize sizeLine with
      | .error error => .error error
      | .ok size =>
          if size = 0 then .ok out
          else if behind.length < size then .error .truncatedChunk
          else
            let next := behind.drop size
            if crlf.isPrefixOf next then
              dechunkLoop (next.drop crlf.length) (out ++ behind.take size)
            else .error .missingCrlf
termination_by data.length
decreasing_by
  have shorter := cut_at_length crlf data sizeLine behind (by decide) _found
  rw [List.length_drop, List.length_drop]
  omega

def dechunk (data : Bytes) : Except HttpError Bytes := dechunkLoop data []

/-- What the header lines say, the last one of a kind winning. -/
structure Head where
  location : Option Text
  chunked : Bool
  deriving DecidableEq

def Head.readLine (head : Head) (line : Text) : Head :=
  match splitOnce ':' line with
  | none => head
  | some (k, v) =>
      let key := toAsciiLowercase (trim k)
      let value := trim v
      if key = "location" then { head with location := some value }
      else if key = "transfer-encoding" ∧ eqIgnoreAsciiCase value "chunked" = true then
        { head with chunked := true }
      else head

/-- The pieces of a text between two-character line ends. -/
def splitCrlf : Text → List Text
  | [] => [[]]
  | '\r' :: '\n' :: rest => [] :: splitCrlf rest
  | char :: rest => (splitCrlf rest).modifyHead (char :: ·)

def statusCode (statusLine : Text) : Option Nat :=
  match (splitWhitespace statusLine)[1]? with
  | some code => parseUnsigned 10 (2 ^ 16) code
  | none => none

def parseHttp (raw : Bytes) : Except HttpError HttpResult :=
  match cutAt headEnd raw with
  | none => .error .noHeaderTerminator
  | some (headBytes, body) =>
      match fromUtf8 headBytes with
      | none => .error .nonUtf8Headers
      | some head =>
          let parts := splitCrlf head
          match statusCode (parts.headD []) with
          | none => .error .malformedStatusLine
          | some code =>
              let fields := parts.tail.foldl Head.readLine ⟨none, false⟩
              if 300 ≤ code ∧ code < 400 then
                match fields.location with
                | some location => .ok (.Redirect location)
                | none => .error (.redirectWithoutLocation code)
              else if code ≠ 200 then .error (.unexpectedStatus code)
              else if fields.chunked then (dechunk body).map .Body
              else .ok (.Body body)

end Responses

/-! URLs. -/
section Urls

inductive UrlError where
  | notHttps (url : Text)
  | emptyHost (url : Text)
  deriving DecidableEq

/-- The port is dropped: the connection always goes to 443. -/
def splitHttpsUrl (url : Text) : Except UrlError (Text × Text) :=
  match stripPrefix url "https://" with
  | none => .error (.notHttps url)
  | some rest =>
      let hostPort := rest.takeWhile (· != '/')
      let path := if '/' ∈ rest then rest.dropWhile (· != '/') else "/"
      let host := (split ':' hostPort).headD hostPort
      if host.isEmpty then .error (.emptyHost url) else .ok (host, path)

def absolutize (host location : Text) : Text :=
  if startsWith location "https://" || startsWith location "http://" then location
  else if startsWith location "/" then "https://".toList ++ host ++ location
  else "https://".toList ++ host ++ ['/'] ++ location

end Urls

end Dnsix.Http
