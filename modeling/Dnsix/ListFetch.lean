import Dnsix.Blocking
import Dnsix.Handler
import Dnsix.Http

/-!
Fetching a list: each hop resolves the host's A records through the pool, embeds the
first eligible address into the NAT64 prefix, and connects there over TLS. What the
network does in one exchange is a parameter. A ghost log keeps every connection made,
with the answer its address came from.
-/

namespace Dnsix.ListFetch
open Address Ascii Blocking Dns Http Synth SynthChain
open Handler (IpAddr SocketAddr)

variable {text : NameText} {World : Type}

def maxBody : Nat := 64 * 1024 * 1024

def maxRedirects : Nat := 3

inductive FetchError where
  | url (error : UrlError)
  | invalidHostName (host : Text)
  | lookupFailed (host : Text)
  | notRoutable (host : Text)
  | invalidServerName (host : Text)
  | connecting (addr : SocketAddr) (host : Text)
  | handshake (host : Text)
  | sending
  | exceedsMaxBody (host : Text)
  | reading
  | timedOut (current : Text)
  | http (error : HttpError)
  | tooManyRedirects (url : Text)
  deriving DecidableEq

inductive ReadError where
  | UnexpectedEof
  | other
  deriving DecidableEq

/-- The other side of one exchange: how far it lets the request come, and what the reads
return, one after the other. Where they end the connection hangs. -/
structure Peer where
  connects : Bool
  handshakes : Bool
  accepts : Bool
  reads : List (Except ReadError Bytes)

/-- One connection made: the hop it belongs to, and the lookup its address came from. -/
structure Hop where
  url : Text
  host : Text
  name : Name
  answer : Message
  addr : SocketAddr
  deriving DecidableEq

structure Journal (World : Type) where
  world : World
  hops : List Hop

/-- The parts outside: the pool, the names TLS accepts, and the network. -/
structure Outside (World : Type) where
  resolve : Resolver World
  validServerName : Text → Bool
  exchange : SocketAddr → Text → Text → World → Peer × World

/-! One exchange. -/
section Exchange

def requestText (host path : Text) : Text :=
  "GET ".toList ++ path ++ " HTTP/1.1\r\nHost: ".toList ++ host ++
    "\r\nUser-Agent: dnsix/0.1.0\r\nAccept: text/plain, */*\r\nAccept-Encoding: identity\r\n".toList ++
    "Connection: close\r\n\r\n".toList

/-- The read loop: a close without notice counts as the end. -/
def readAll (host current : Text) : List (Except ReadError Bytes) → Bytes →
    Except FetchError Bytes
  | [], _ => .error (.timedOut current)
  | .ok [] :: _, raw => .ok raw
  | .ok (byte :: chunk) :: rest, raw =>
      let raw := raw ++ byte :: chunk
      if raw.length > maxBody then .error (.exceedsMaxBody host) else readAll host current rest raw
  | .error .UnexpectedEof :: _, raw => .ok raw
  | .error .other :: _, _ => .error .reading

/-- `https_get` from the connection on. -/
def talk (host current : Text) (addr : SocketAddr) (peer : Peer) : Except FetchError HttpResult :=
  if !peer.connects then .error (.connecting addr host)
  else if !peer.handshakes then .error (.handshake host)
  else if !peer.accepts then .error .sending
  else
    match readAll host current peer.reads [] with
    | .error error => .error error
    | .ok raw => (parseHttp raw).mapError .http

end Exchange

/-! One hop. -/
section Hops

/-- No EDNS, so the DO bit is clear. -/
def addressQuery (name : Name) : Message :=
  { Message.new with
    header := { Header.new with messageType := .Query, opCode := .Query, recursionDesired := true }
    queries := [⟨name, .A, .IN⟩] }

def extractA (resp : Message) : List Ipv4Addr :=
  resp.answers.filterMap fun r =>
    match r.data with
    | .A addr => some addr
    | _ => none

variable (text) in
def hostName (host : Text) : Option Name := text.fromAscii (trimEndMatches '.' host ++ ['.'])

variable (text) in
/-- The address to connect to, with the name and the answer it was taken from. -/
def resolveNat64 (outside : Outside World) (nat64Prefix : Ipv6Addr) (host : Text)
    (world : World) : Except FetchError (Name × Message × SocketAddr) × World :=
  match hostName text host with
  | none => (.error (.invalidHostName host), world)
  | some name =>
      match outside.resolve (addressQuery name) world with
      | (none, after) => (.error (.lookupFailed host), after)
      | (some resp, after) =>
          match (eligibleAddresses text name (extractA resp)).head? with
          | none => (.error (.notRoutable host), after)
          | some ip => (.ok (name, resp, ⟨.V6 (embed nat64Prefix ip), 443⟩), after)

variable (text) in
/-- The body of the redirect loop. -/
def fetchHop (outside : Outside World) (nat64Prefix : Ipv6Addr) (current : Text)
    (journal : Journal World) : Except FetchError (Text × HttpResult) × Journal World :=
  match splitHttpsUrl current with
  | .error error => (.error (.url error), journal)
  | .ok (host, path) =>
      match resolveNat64 text outside nat64Prefix host journal.world with
      | (.error error, world) => (.error error, { journal with world })
      | (.ok (name, answer, addr), world) =>
          -- The server name is checked before the connection is opened.
          if !outside.validServerName host then
            (.error (.invalidServerName host), { journal with world })
          else
            let (peer, after) := outside.exchange addr host (requestText host path) world
            ((talk host current addr peer).map fun result => (host, result),
              ⟨after, journal.hops ++ [⟨current, host, name, answer, addr⟩]⟩)

variable (text) in
/-- The loop of `fetch_text`, with the hops still allowed. -/
def fetchLoop (outside : Outside World) (nat64Prefix : Ipv6Addr) (url : Text) :
    Nat → Text → Journal World → Except FetchError Text × Journal World
  | 0, _, journal => (.error (.tooManyRedirects url), journal)
  | left + 1, current, journal =>
      match fetchHop text outside nat64Prefix current journal with
      | (.error error, after) => (.error error, after)
      | (.ok (_, .Body bytes), after) => (.ok (fromUtf8Lossy bytes), after)
      | (.ok (host, .Redirect location), after) =>
          fetchLoop outside nat64Prefix url left (absolutize host location) after

variable (text) in
def fetchText (outside : Outside World) (nat64Prefix : Ipv6Addr) (url : Text)
    (journal : Journal World) : Except FetchError Text × Journal World :=
  fetchLoop text outside nat64Prefix url (maxRedirects + 1) url journal

variable (text) in
/-- Every configured list, one after the other. -/
def load (outside : Outside World) (nat64Prefix : Ipv6Addr) (urls : List Text)
    (journal : Journal World) : Blocklist FetchError × Journal World :=
  loadWith (fetchText text outside nat64Prefix) urls journal

end Hops

end Dnsix.ListFetch
