import Dnsix.Address
import Dnsix.Ascii
import Dnsix.Panics

/-!
What a synthesizer is: a rule that looks at a context, built once for a name
without AAAA records, and may return a plan, the names to resolve and how to turn
the result into addresses. The NAT64 rule stands here too. The conversion between
a name and its text belongs to the DNS library and is a parameter.
-/

namespace Dnsix.Synth
open Address Ascii Dns Panics

/-- `toAscii` prints a name, an absolute one with a trailing dot; `fromAscii` reads
one back and fails on texts that are no name. -/
structure NameText where
  toAscii : Name → Text
  fromAscii : Text → Option Name

def plainChar (char : Char) : Bool := char.isAlphanum || char == '-' || char == '_'

/-- The conversion on names of letters, digits, hyphens and underscores, which need
no escapes; other texts are refused here. -/
def plainText : NameText where
  toAscii name :=
    let printed := join "." (name.labels.map fun label => label.map fun b => Char.ofNat b.toNat)
    if name.isFqdn then printed ++ ['.'] else printed
  fromAscii s :=
    let parts := split '.' (trimEndMatches '.' s)
    if parts.all fun part => !part.isEmpty && decide (part.length ≤ 63) && part.all plainChar then
      some ⟨parts.map fun part => part.map fun char => UInt8.ofNat char.toNat,
        s.getLast? == some '.'⟩
    else none

variable (text : NameText)

/-! Label matching. -/
section Labels

def labels (name : Name) : List Text :=
  ((split '.' (trimEndMatches '.' (text.toAscii name))).filter fun part => !part.isEmpty).map
    toAsciiLowercase

def labelsEndWith (labels suffix : List Text) : Bool :=
  decide (suffix.length ≤ labels.length) &&
    labels.drop (labels.length - suffix.length) == suffix

def endsWith (name : Name) (suffix : List Text) : Bool := labelsEndWith (labels text name) suffix

def parseName (s : Text) : Option Name :=
  let s := trimEndMatches '.' s
  text.fromAscii (s ++ ['.'])

def nameFromLabels (labels : List Text) : Option Name :=
  text.fromAscii (join "." labels ++ ['.'])

end Labels

/-- Signals from the authority section: the SOA's mailbox and its owner name. -/
structure Authority where
  soaAdmin : Option Name
  soaZone : Option Name
  deriving DecidableEq

def Authority.default : Authority := ⟨none, none⟩

/-- Everything a synthesizer may inspect. The label lists are computed once, and
`derived` says from what: the CNAME targets first, then the queried name. -/
structure SynthContext where
  name : Name
  cnameTargets : List Name
  aRecords : List (Ipv4Addr × Nat)
  authority : Authority
  hostnameLabels : List (List Text)
  derived : hostnameLabels = (cnameTargets ++ [name]).map (labels text)

variable {text}

def SynthContext.new (text : NameText) (name : Name) (cnameTargets : List Name)
    (aRecords : List (Ipv4Addr × Nat)) (authority : Authority) : SynthContext text :=
  { name, cnameTargets, aRecords, authority
    hostnameLabels := cnameTargets.map (labels text) ++ [labels text name]
    derived := by rw [List.map_append, List.map_singleton] }

def SynthContext.hostnames (ctx : SynthContext text) : List Name := ctx.cnameTargets ++ [ctx.name]

def SynthContext.aAddrs (ctx : SynthContext text) : List Ipv4Addr := ctx.aRecords.map Prod.fst

/-- From the resolved addresses and the A addresses to the synthesized set. -/
abbrev Combine := List Ipv6Addr → List Ipv4Addr → List Ipv6Addr

structure Plan where
  resolve : List Name
  combine : Combine

/-- A plan that resolves nothing. -/
def Plan.pure (combine : Combine) : Plan := ⟨[], combine⟩

variable (text) in
structure Synthesizer where
  id : String
  detect : SynthContext text → Checked (Option Plan)

/-! The NAT64 rule: embed an eligible IPv4 address into the prefix. -/
section Nat64

variable (text) in
def isIpv4onlyArpa (name : Name) : Bool :=
  eqIgnoreAsciiCase (text.toAscii name) "ipv4only.arpa."

def isGloballyRoutable (ip : Ipv4Addr) : Bool :=
  !(octet ip 0 == 0 ||
    isPrivate ip ||
    (octet ip 0 == 100 && octet ip 1 &&& 0xc0 == 64) ||
    isLoopback ip ||
    isLinkLocal ip ||
    (octet ip 0 == 192 && octet ip 1 == 0 && octet ip 2 == 0) ||
    isDocumentation ip ||
    (octet ip 0 == 198 && octet ip 1 &&& 0xfe == 18) ||
    isMulticast ip ||
    decide (240 ≤ octet ip 0))

def embed (nat64Prefix : Ipv6Addr) (ip : Ipv4Addr) : Ipv6Addr := setLastOctets nat64Prefix ip

variable (text) in
/-- The filter is bypassed for the prefix-discovery name. -/
def eligibleAddresses (name : Name) (aRecords : List Ipv4Addr) : List Ipv4Addr :=
  if isIpv4onlyArpa text name then aRecords else aRecords.filter isGloballyRoutable

structure Nat64 where
  base : Ipv6Addr
  deriving DecidableEq

def Nat64.plan (nat64 : Nat64) (ctx : SynthContext text) : Option Plan :=
  if ctx.aRecords.isEmpty then none
  else some (.pure fun _ v4 => (eligibleAddresses text ctx.name v4).map (embed nat64.base))

def Nat64.synthesizer (nat64 : Nat64) : Synthesizer text :=
  { id := "nat64", detect := fun ctx => .ok (nat64.plan ctx) }

example : embed (v6 0x64 0xff9b 0 0 0 0 0 0) (v4 192 0 2 33)
    = v6 0x64 0xff9b 0 0 0 0 0xc000 0x221 := by decide

example : isGloballyRoutable (v4 100 64 0 1) = false := by decide

end Nat64

/-- Every id that may be configured. -/
def knownIds : List String :=
  ["nat64", "fastly", "akamai", "cloudfront", "cloudflare", "shopify", "webflow", "s3", "oss",
   "alicdn", "oracleobjectstorage", "msedge", "bunnycdn", "blazingcdn", "gcorecdn", "cachefly",
   "cdn77", "awsglb", "weebly", "sucuri", "netlify", "bearblog", "azurewebsites", "wpvip"]

end Dnsix.Synth
