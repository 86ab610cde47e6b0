import Dnsix.IpText
import Dnsix.Synth

/-!
The local blocklist: how a line of a list is read, how the sources are merged into
one block set and one allow set, and the walk over a queried name.
-/

namespace Dnsix.Blocking
open Ascii Dns IpText Synth

/-! Reading a line. -/
section Lines

inductive Line where
  | Block (domains : List Text)
  | Allow (domain : Text)
  | Ignore
  | Skip
  deriving DecidableEq

def hostNoise : List Text :=
  ["localhost", "localhost.localdomain", "local", "ip6-localhost", "ip6-loopback",
   "ip6-localnet", "ip6-mcastprefix", "ip6-allnodes", "ip6-allrouters", "broadcasthost"]

def isHostNoise (h : Text) : Bool :=
  let h := trimEndMatches '.' h
  hostNoise.any (eqIgnoreAsciiCase h) || isIpAddr h

def domainChar (char : Char) : Bool :=
  char.isAlphanum || char == '.' || char == '-' || char == '_'

def normalizeDomain (s : Text) : Option Text :=
  let s := trimEndMatches '.' (trim s)
  if s.isEmpty || isIpAddr s then none
  else if '.' ∉ s then none
  else if !s.all domainChar then none
  else some (toAsciiLowercase s)

def ruleEnd (char : Char) : Bool := char == '^' || char == '$' || char == '/' || char == '|'

def adblockDomain (s : Text) : Option Text :=
  let s := (stripPrefix s "||").getD s
  let domain := s.takeWhile fun char => !ruleEnd char
  let rest := s.dropWhile fun char => !ruleEnd char
  if rest.isEmpty || rest == ['^'] then normalizeDomain domain else none

def blockRule (domain : Option Text) : Line :=
  match domain with
  | some d => .Block [d]
  | none => .Skip

def allowRule (domain : Option Text) : Line :=
  match domain with
  | some d => .Allow d
  | none => .Skip

/-- The hosts behind an address, without the noise. -/
def hostsLine (tokens : List Text) : Line :=
  let domains := (tokens.filter fun h => !isHostNoise h).filterMap normalizeDomain
  if domains.isEmpty then .Ignore else .Block domains

def bareLine (line : Text) : Line :=
  match normalizeDomain line with
  | some d => if !isHostNoise line then .Block [d] else .Ignore
  | none => .Ignore

def parseLine (raw : Text) : Line :=
  let line := trim raw
  match line with
  | [] => .Ignore
  | first :: _ =>
      if first = '#' ∨ first = '!' ∨ first = '[' then .Ignore
      else
        match stripPrefix line "@@" with
        | some rest => allowRule (adblockDomain rest)
        | none =>
            if startsWith line "||" then blockRule (adblockDomain line)
            else if first = '|' ∨ first = '/' ∨ first = '@' ∨ '*' ∈ line then .Skip
            else
              let tokens := splitWhitespace line
              if isIpAddr (tokens.headD []) then hostsLine tokens.tail
              else bareLine line

end Lines

/-! Merging the sources. -/
section Merge

variable {Error : Type}

inductive SourceStatus (Error : Type) where
  | Ok
  | Failed (error : Error)
  deriving DecidableEq

/-- What the dashboard shows of one source. -/
structure SourceStat (Error : Type) where
  url : Text
  status : SourceStatus Error
  blocks : Nat
  allows : Nat
  skipped : Nat
  deriving DecidableEq

/-- The sets are lists without repetition, asked for membership only. -/
structure Blocklist (Error : Type) where
  block : List Text
  allow : List Text
  sources : List (SourceStat Error)
  deriving DecidableEq

def Blocklist.empty : Blocklist Error := ⟨[], [], []⟩

def Blocklist.blockCount (bl : Blocklist Error) : Nat := bl.block.length

def Blocklist.allowCount (bl : Blocklist Error) : Nat := bl.allow.length

/-- The two sets under construction, with the counts of the source being read. -/
structure Tally where
  block : List Text
  allow : List Text
  blocks : Nat
  allows : Nat
  skipped : Nat
  deriving DecidableEq

def Tally.add (tally : Tally) : Line → Tally
  | .Block domains =>
      { tally with
        block := domains.foldl (fun set d => set.insert d) tally.block
        blocks := tally.blocks + domains.length }
  | .Allow domain =>
      { tally with allow := tally.allow.insert domain, allows := tally.allows + 1 }
  | .Skip => { tally with skipped := tally.skipped + 1 }
  | .Ignore => tally

def Tally.read (tally : Tally) (content : Text) : Tally :=
  (lines content).foldl (fun tally raw => tally.add (parseLine raw)) tally

/-- One round of the loop of `load`: a source that failed leaves the sets alone. -/
def Blocklist.addSource (bl : Blocklist Error) (url : Text) (outcome : Except Error Text) :
    Blocklist Error :=
  match outcome with
  | .ok content =>
      let tally := Tally.read ⟨bl.block, bl.allow, 0, 0, 0⟩ content
      { block := tally.block, allow := tally.allow
        sources := bl.sources ++ [⟨url, .Ok, tally.blocks, tally.allows, tally.skipped⟩] }
  | .error error => { bl with sources := bl.sources ++ [⟨url, .Failed error, 0, 0, 0⟩] }

variable {World : Type}

/-- `load` with the fetch of one source as a parameter. -/
def loadWith (fetch : Text → World → Except Error Text × World) (urls : List Text)
    (world : World) : Blocklist Error × World :=
  urls.foldl
    (fun (bl, world) url =>
      let (outcome, after) := fetch url world
      (bl.addSource url outcome, after))
    (.empty, world)

end Merge

/-! Matching. -/
section Matching

variable {Error : Type}

/-- What follows each dot of a text, from the first dot on. -/
def afterDots : Text → List Text
  | [] => []
  | char :: rest => if char = '.' then rest :: afterDots rest else afterDots rest

/-- The loop of `is_blocked` over the values its variable takes. -/
def Blocklist.walk (bl : Blocklist Error) : List Text → Bool → Bool
  | [], blocked => blocked
  | rest :: more, blocked =>
      -- An allowed suffix ends the walk, whatever was blocked before.
      if bl.allow.contains rest then false
      else bl.walk more (blocked || bl.block.contains rest)

variable (text : NameText)

def Blocklist.isBlocked (bl : Blocklist Error) (name : Name) : Bool :=
  if bl.block.isEmpty then false
  else
    let full := toAsciiLowercase (trimEndMatches '.' (text.toAscii name))
    if full.isEmpty then false
    else bl.walk (full :: afterDots full) false

end Matching

example : parseLine "0.0.0.0 a.example.com localhost B.example.com" =
    .Block ["a.example.com", "b.example.com"] := by decide

example : parseLine "@@||good.example.com^" = .Allow "good.example.com" := by decide

end Dnsix.Blocking
