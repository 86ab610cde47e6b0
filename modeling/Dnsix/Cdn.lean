import Dnsix.Rewrites

/-!
The CDN providers: what makes each recognise a name, and the plan it answers with.
Networks and addresses are the source's constants in structured form.
-/

namespace Dnsix.Cdn
open Address Ascii Dns Panics Rewrites Synth

variable {text : NameText}

def hostMatches (ctx : SynthContext text) (suffixes : List (List Text)) : Bool :=
  ctx.hostnameLabels.any fun l => suffixes.any (labelsEndWith l)

def ipMatches (ctx : SynthContext text) (ranges : List Cidr) : Bool :=
  !ranges.isEmpty && ctx.aRecords.any fun record => inAny record.1 ranges

def soaAdminIs (ctx : SynthContext text) (admin : Text) : Bool :=
  let want := trimEndMatches '.' admin ++ ['.']
  match ctx.authority.soaAdmin with
  | some n => eqIgnoreAsciiCase (text.toAscii n) want
  | none => false

variable (text) in
/-- The name of a constant domain; one the DNS library refuses is a panic. -/
def fqdn (s : Text) : Checked Name := expect (parseName text s)

def verbatim : Combine := fun resolved _ => resolved

def borrowOr (fallback : Option Ipv6Addr) : Combine :=
  fun resolved _ => if resolved.isEmpty then fallback.toList else resolved

/-- A constant address, with an optional live reference that goes first. -/
structure MatchConst where
  id : String
  suffixes : List (List Text)
  ranges : List Cidr
  addr : Ipv6Addr
  reference : Option Text

def MatchConst.detect (provider : MatchConst) (ctx : SynthContext text) :
    Checked (Option Plan) := do
  if !(hostMatches ctx provider.suffixes || ipMatches ctx provider.ranges) then .ok none
  else
    match provider.reference with
    | some r =>
        let name ← fqdn text r
        .ok (some ⟨[name], borrowOr (some provider.addr)⟩)
    | none => .ok (some (.pure fun _ _ => [provider.addr]))

def MatchConst.synthesizer (provider : MatchConst) : Synthesizer text :=
  ⟨provider.id, provider.detect⟩

/-- A reference domain's live addresses, with an optional constant fallback. -/
structure MatchBorrow where
  id : String
  suffixes : List (List Text)
  ranges : List Cidr
  soaAdmin : Option Text
  reference : Text
  fallback : Option Ipv6Addr

def MatchBorrow.detect (provider : MatchBorrow) (ctx : SynthContext text) :
    Checked (Option Plan) := do
  let soa := provider.soaAdmin.any (soaAdminIs ctx)
  if !(soa || hostMatches ctx provider.suffixes || ipMatches ctx provider.ranges) then .ok none
  else
    let name ← fqdn text provider.reference
    .ok (some ⟨[name], borrowOr provider.fallback⟩)

def MatchBorrow.synthesizer (provider : MatchBorrow) : Synthesizer text :=
  ⟨provider.id, provider.detect⟩

/-- The first hostname the rewrite applies to, rewritten. -/
def firstRewrite (rewrite : Name → Checked (Option Name)) : List Name → Checked (Option Name)
  | [] => .ok none
  | h :: rest => do
      match ← rewrite h with
      | some target => .ok (some target)
      | none => firstRewrite rewrite rest

def MatchRewrite.detect (rewrite : Name → Checked (Option Name)) (ctx : SynthContext text) :
    Checked (Option Plan) := do
  let found ← firstRewrite rewrite ctx.hostnames
  .ok (found.map fun target => ⟨[target], verbatim⟩)

variable (text) in
def MatchRewrite.synthesizer (id : String) (rewrite : Name → Checked (Option Name)) :
    Synthesizer text :=
  ⟨id, MatchRewrite.detect rewrite⟩

/-! Fastly. -/
section Fastly

def fastlyRanges : List Cidr := [cidr 151 101 0 0 16, cidr 199 232 0 0 16, cidr 146 75 0 0 17]

def fastlyRef : Text := "dualstack.g.shared.global.fastly.net"

def githubPagesRange : Cidr := cidr 185 199 108 0 22

def githubPagesRef : Text := "dualstack.github.io"

def fastlyV6hex (ip : Ipv4Addr) (github : Bool) : Nat :=
  if github then octet ip 3 else octet ip 2 % 4 * 256 + octet ip 3

/-- The host id's decimal digits become the last segment's hexadecimal ones, when
they fit. -/
def fastlyFuse (base : Ipv6Addr) (hostid : Nat) : Option Ipv6Addr :=
  if decimalAsHex hostid < 65536 then
    some (setLastSegment base (BitVec.ofNat 16 (decimalAsHex hostid)))
  else none

def fuseAll (hostid : Nat) : Combine :=
  fun resolved _ => resolved.filterMap fun p => fastlyFuse p hostid

variable (text) in
def fastlyRewrite (h : Name) : Checked (Option Name) := do
  if endsWith text h ["fastly", "net"] || endsWith text h ["fastlylb", "net"] then
    let l ← Vec.insert (labels text h) 0 "dualstack"
    .ok (nameFromLabels text l)
  else .ok none

/-- The address the fused host id is taken from, on the IP and authority path. -/
def fastlyChosen (ctx : SynthContext text) : Option Ipv4Addr :=
  let v4 := ctx.aAddrs
  let fastlyIp := v4.any fun ip => inAny ip fastlyRanges
  if soaAdminIs ctx "hostmaster.fastly.com" || fastlyIp then
    -- The mailbox alone is enough: then any address gives the host id.
    (v4.find? fun ip => inAny ip fastlyRanges).or v4.head?
  else none

def fastlyDetect (ctx : SynthContext text) : Checked (Option Plan) := do
  match fastlyChosen ctx with
  | some ip =>
      let name ← fqdn text fastlyRef
      .ok (some ⟨[name], fuseAll (fastlyV6hex ip false)⟩)
  | none =>
      match ctx.aAddrs.find? fun ip => inCidr ip githubPagesRange with
      | some ip =>
          let name ← fqdn text githubPagesRef
          .ok (some ⟨[name], fuseAll (fastlyV6hex ip true)⟩)
      | none => MatchRewrite.detect (fastlyRewrite text) ctx

end Fastly

/-! Microsoft Edge. -/
section Msedge

def msedgePrefix (letter : Text) : Option (Ipv6Addr × Bool) :=
  if letter = "a" then some (v6 0x2620 0x1ec 0xc11 0 0 0 0 0, false)
  else if letter = "b" then some (v6 0x2620 0x1ec 0xa92 0 0 0 0 0, false)
  else if letter = "c" then some (v6 0x2a01 0x111 0x2003 0 0 0 0 0, false)
  else if letter = "l" then some (v6 0x2620 0x1ec 0x21 0 0 0 0 0, false)
  else if letter = "s" then some (v6 0x2620 0x1ec 0x6 0 0 0 0 0, false)
  else if letter = "k" then some (v6 0x2620 0x1ec 0xc 0 0 0 0 0, false)
  else if letter = "t" then some (v6 0x2620 0x1ec 0xbdf 0 0 0 0 0, false)
  else if letter = "spo" then some (v6 0x2620 0x1ec 0x8f8 0 0 0 0 0, true)
  else none

/-- The last octet's decimal digits, written after the prefix and read back. -/
def msedgeV4to6 (base : Ipv6Addr) (spo : Bool) (ip : Ipv4Addr) : Ipv6Addr :=
  let o3 := if spo && octet ip 3 == 9 then 8 else octet ip 3
  setLastSegment base (BitVec.ofNat 16 (decimalAsHex o3))

def msedgeDetect (ctx : SynthContext text) : Option Plan := do
  let zone ← ctx.authority.soaZone
  if !contains (toAsciiLowercase (text.toAscii zone)) "msedge.net" then none
  else
    -- The end of the CNAME chain names the edge.
    let host := ctx.cnameTargets.getLast?.getD ctx.name
    let first ← (labels text host).head?
    let letter ← (split '-' first).head?
    let (base, spo) ← msedgePrefix letter
    some (.pure fun _ v4 => v4.map (msedgeV4to6 base spo))

end Msedge

/-! The algorithmic embeddings of the A address. -/
section Embeddings

/-- A plan for the addresses in one network, where there is one. -/
def embedIn (ctx : SynthContext text) (range : Cidr) (v4to6 : Ipv4Addr → Ipv6Addr) :
    Option Plan :=
  if ctx.aRecords.any fun record => inCidr record.1 range then
    some (.pure fun _ v4 => (v4.filter fun ip => inCidr ip range).map v4to6)
  else none

def wpvipRange : Cidr := cidr 192 0 66 0 24

def wpvipV4to6 (ip : Ipv4Addr) : Ipv6Addr :=
  setLastOctets (v6 0x2a04 0xfa87 0xfffd 0 0 0 0 0) ip

def wpvipDetect (ctx : SynthContext text) : Option Plan := embedIn ctx wpvipRange wpvipV4to6

def cloudflareRange : Cidr := cidr 104 16 0 0 12

def cloudflareV4to6 (ip : Ipv4Addr) : Ipv6Addr := setLastOctets (v6 0x2606 0x4700 0 0 0 0 0 0) ip

def cloudflareDetect (ctx : SynthContext text) : Option Plan :=
  embedIn ctx cloudflareRange cloudflareV4to6

def cacheflyRange : Cidr := cidr 205 234 175 0 24

/-- The last two octets in decimal, read as the last two segments. -/
def cacheflyV4to6 (ip : Ipv4Addr) : Ipv6Addr :=
  v6 0x2605 0x4c40 0 0 0 0 (BitVec.ofNat 16 (decimalAsHex (octet ip 2)))
    (BitVec.ofNat 16 (decimalAsHex (octet ip 3)))

def cacheflyDetect (ctx : SynthContext text) : Checked (Option Plan) := do
  match ← firstRewrite (cacheflyRewrite text) ctx.hostnames with
  | some target => .ok (some ⟨[target], verbatim⟩)
  | none => .ok (embedIn ctx cacheflyRange cacheflyV4to6)

example : cacheflyV4to6 (v4 205 234 175 136) = v6 0x2605 0x4c40 0 0 0 0 0x175 0x136 := by decide

end Embeddings

/-! The registry. -/
section Registry

def cloudfrontRanges : List Cidr :=
  [cidr 120 52 22 96 27, cidr 205 251 249 0 24, cidr 180 163 57 128 26, cidr 204 246 168 0 22,
    cidr 111 13 171 128 26, cidr 18 160 0 0 15, cidr 205 251 252 0 23, cidr 54 192 0 0 16,
    cidr 204 246 173 0 24, cidr 54 230 200 0 21, cidr 120 253 240 192 26,
    cidr 116 129 226 128 26, cidr 130 176 0 0 17, cidr 108 156 0 0 14, cidr 99 86 0 0 16,
    cidr 13 32 0 0 15, cidr 120 253 245 128 26, cidr 13 224 0 0 14, cidr 70 132 0 0 18,
    cidr 15 158 0 0 16, cidr 111 13 171 192 26, cidr 13 249 0 0 16, cidr 18 238 0 0 15,
    cidr 18 244 0 0 15, cidr 205 251 208 0 20, cidr 65 9 128 0 18, cidr 130 176 128 0 18,
    cidr 58 254 138 0 25, cidr 205 251 201 0 24, cidr 205 251 206 0 23, cidr 54 230 208 0 20,
    cidr 3 160 0 0 14, cidr 116 129 226 0 25, cidr 52 222 128 0 17, cidr 18 164 0 0 15,
    cidr 111 13 185 32 27, cidr 64 252 128 0 18, cidr 205 251 254 0 24, cidr 54 230 224 0 19,
    cidr 71 152 0 0 17, cidr 216 137 32 0 19, cidr 204 246 172 0 24, cidr 205 251 202 0 23,
    cidr 18 172 0 0 15, cidr 120 52 39 128 27, cidr 118 193 97 64 26, cidr 3 164 64 0 18,
    cidr 18 154 0 0 15, cidr 54 240 128 0 18, cidr 205 251 250 0 23, cidr 180 163 57 0 25,
    cidr 52 46 0 0 18, cidr 52 82 128 0 19, cidr 54 230 0 0 17, cidr 54 230 128 0 18,
    cidr 54 239 128 0 18, cidr 130 176 224 0 20, cidr 36 103 232 128 26, cidr 52 84 0 0 15,
    cidr 143 204 0 0 16, cidr 144 220 0 0 16, cidr 120 52 153 192 26, cidr 119 147 182 0 25,
    cidr 120 232 236 0 25, cidr 111 13 185 64 27, cidr 3 164 0 0 18, cidr 54 182 0 0 16,
    cidr 58 254 138 128 26, cidr 120 253 245 192 27, cidr 54 239 192 0 19, cidr 18 68 0 0 16,
    cidr 18 64 0 0 14, cidr 120 52 12 64 26, cidr 99 84 0 0 16, cidr 205 251 204 0 23,
    cidr 130 176 192 0 19, cidr 52 124 128 0 17, cidr 205 251 200 0 24, cidr 204 246 164 0 22,
    cidr 13 35 0 0 16, cidr 204 246 174 0 23, cidr 3 164 128 0 17, cidr 3 172 0 0 18,
    cidr 36 103 232 0 25, cidr 119 147 182 128 26, cidr 118 193 97 128 25,
    cidr 120 232 236 128 26, cidr 204 246 176 0 20, cidr 65 8 0 0 16, cidr 65 9 0 0 17,
    cidr 108 138 0 0 15, cidr 120 253 241 160 27, cidr 64 252 64 0 18, cidr 13 113 196 64 26,
    cidr 13 113 203 0 24, cidr 52 199 127 192 26, cidr 13 124 199 0 24, cidr 3 35 130 128 25,
    cidr 52 78 247 128 26, cidr 13 233 177 192 26, cidr 15 207 13 128 25,
    cidr 15 207 213 128 25, cidr 52 66 194 128 26, cidr 13 228 69 0 24, cidr 52 220 191 0 26,
    cidr 13 210 67 128 26, cidr 13 54 63 128 26, cidr 43 218 56 128 26, cidr 43 218 56 192 26,
    cidr 43 218 56 64 26, cidr 43 218 71 0 26, cidr 99 79 169 0 24, cidr 18 192 142 0 23,
    cidr 35 158 136 0 24, cidr 52 57 254 0 24, cidr 13 48 32 0 24, cidr 18 200 212 0 23,
    cidr 52 212 248 0 26, cidr 3 10 17 128 25, cidr 3 11 53 0 24, cidr 52 56 127 0 25,
    cidr 15 188 184 0 24, cidr 52 47 139 0 24, cidr 3 29 40 128 26, cidr 3 29 40 192 26,
    cidr 3 29 40 64 26, cidr 3 29 57 0 26, cidr 18 229 220 192 26, cidr 54 233 255 128 26,
    cidr 3 231 2 0 25, cidr 3 234 232 224 27, cidr 3 236 169 192 26, cidr 3 236 48 0 23,
    cidr 34 195 252 0 24, cidr 34 226 14 0 24, cidr 13 59 250 0 26, cidr 18 216 170 128 25,
    cidr 3 128 93 0 24, cidr 3 134 215 0 24, cidr 52 15 127 128 26, cidr 3 101 158 0 23,
    cidr 52 52 191 128 26, cidr 34 216 51 0 25, cidr 34 223 12 224 27, cidr 34 223 80 192 26,
    cidr 35 162 63 192 26, cidr 35 167 191 128 26, cidr 44 227 178 0 24, cidr 44 234 108 128 25,
    cidr 44 234 90 252 30]

def shopify : MatchConst :=
  { id := "shopify"
    suffixes := [["shopify", "com"], ["myshopify", "com"]]
    ranges := [cidr 23 227 37 0 24, cidr 23 227 38 0 23, cidr 23 227 60 0 24,
      cidr 185 146 172 0 23]
    addr := v6 0x2620 0x127 0xf00f 0 0 0 0 0
    reference := none }

def webflow : MatchConst :=
  { id := "webflow"
    suffixes := [["webflow", "com"]]
    ranges := [cidr 198 202 211 0 24, cidr 75 2 70 75 32, cidr 99 83 190 102 32]
    addr := v6 0x2620 0xcb 0x2000 0 0 0 0 1
    reference := none }

def weebly : MatchConst :=
  { id := "weebly"
    suffixes := [["weebly", "com"]]
    ranges := [cidr 199 34 228 0 22]
    addr := v6 0x2620 0x11c 1 0xe4 0 0 0 0x36
    reference := none }

def cloudfront : MatchBorrow :=
  { id := "cloudfront"
    suffixes := [["cloudfront", "net"]]
    ranges := cloudfrontRanges
    soaAdmin := none
    reference := "static.twitchcdn.net"
    fallback := none }

def bunnycdn : MatchBorrow :=
  { id := "bunnycdn"
    suffixes := [["b-cdn", "net"]]
    ranges := []
    soaAdmin := none
    reference := "bunnyfonts.b-cdn.net"
    fallback := some (v6 0x2400 0x52e0 0x1e01 0 0 0 0x883 1) }

def blazingcdn : MatchBorrow :=
  { id := "blazingcdn"
    suffixes := [["blazingcdn", "net"]]
    ranges := []
    soaAdmin := none
    reference := "cdn59455242.blazingcdn.net"
    fallback := some (v6 0x2a02 0xb48 0x9000 0 0 0 0 1) }

def gcorecdn : MatchBorrow :=
  { id := "gcorecdn"
    suffixes := [["gcdn", "co"]]
    ranges := []
    soaAdmin := none
    reference := "d.gcdn.co"
    fallback := none }

def cdn77 : MatchBorrow :=
  { id := "cdn77"
    suffixes := [["cdn77", "org"]]
    ranges := []
    soaAdmin := some "admin.cdn77.com"
    reference := "www.cdn77.com"
    fallback := none }

def sucuri : MatchBorrow :=
  { id := "sucuri"
    suffixes := []
    ranges := [cidr 192 124 249 0 24]
    soaAdmin := none
    reference := "sucuri.net"
    fallback := none }

def netlify : MatchBorrow :=
  { id := "netlify"
    suffixes := [["netlify", "com"]]
    ranges := [cidr 75 2 60 5 32, cidr 99 83 231 61 32]
    soaAdmin := none
    reference := "www.netlify.com"
    fallback := none }

def bearblog : MatchBorrow :=
  { id := "bearblog"
    suffixes := []
    ranges := [cidr 159 223 204 176 32]
    soaAdmin := none
    reference := "domain-proxy.bearblog.dev"
    fallback := none }

def alicdn : MatchBorrow :=
  { id := "alicdn"
    suffixes := [["alicdn", "com"]]
    ranges := []
    soaAdmin := none
    reference := "t.alicdn.com"
    fallback := none }

variable (text) in
def make (id : String) : Option (Synthesizer text) :=
  match id with
  | "shopify" => some shopify.synthesizer
  | "webflow" => some webflow.synthesizer
  | "weebly" => some weebly.synthesizer
  | "cloudfront" => some cloudfront.synthesizer
  | "bunnycdn" => some bunnycdn.synthesizer
  | "blazingcdn" => some blazingcdn.synthesizer
  | "gcorecdn" => some gcorecdn.synthesizer
  | "cdn77" => some cdn77.synthesizer
  | "sucuri" => some sucuri.synthesizer
  | "netlify" => some netlify.synthesizer
  | "bearblog" => some bearblog.synthesizer
  | "alicdn" => some alicdn.synthesizer
  | "akamai" => some (MatchRewrite.synthesizer text "akamai" (akamaiRewrite text))
  | "s3" => some (MatchRewrite.synthesizer text "s3" (s3Rewrite text))
  | "oss" => some (MatchRewrite.synthesizer text "oss" (ossRewrite text))
  | "oracleobjectstorage" =>
      some (MatchRewrite.synthesizer text "oracleobjectstorage" (oracleRewrite text))
  | "awsglb" => some (MatchRewrite.synthesizer text "awsglb" (awsglbRewrite text))
  | "azurewebsites" => some (MatchRewrite.synthesizer text "azurewebsites" (azureRewrite text))
  | "cloudflare" => some ⟨"cloudflare", fun ctx => .ok (cloudflareDetect ctx)⟩
  | "fastly" => some ⟨"fastly", fastlyDetect⟩
  | "msedge" => some ⟨"msedge", fun ctx => .ok (msedgeDetect ctx)⟩
  | "wpvip" => some ⟨"wpvip", fun ctx => .ok (wpvipDetect ctx)⟩
  | "cachefly" => some ⟨"cachefly", cacheflyDetect⟩
  | _ => none

/-- The constant domains the providers resolve. -/
def referenceDomains : List Text :=
  [cloudfront.reference, bunnycdn.reference, blazingcdn.reference, gcorecdn.reference,
   cdn77.reference, sucuri.reference, netlify.reference, bearblog.reference, alicdn.reference,
   fastlyRef, githubPagesRef]

end Registry

/-! A provider carries the id it was made for, and its detection does not panic. -/
section Completes

variable (text) in
/-- The DNS library reads every constant domain as a name. -/
def AcceptsConstants : Prop :=
  ∀ domain ∈ referenceDomains, ∃ name, parseName text domain = some name

theorem make_id (id : String) (synth : Synthesizer text) (made : make text id = some synth) :
    synth.id = id := by
  unfold make at made
  split at made <;> cases made <;> rfl

variable (text) in
/-- The computation returns, or panics because a constant domain is refused. -/
def Blames {Item : Type} (computation : Checked Item) : Prop :=
  ∀ panic, computation = .error panic →
    panic = .expect ∧ ∃ domain ∈ referenceDomains, parseName text domain = none

theorem blames_completes {Item : Type} {computation : Checked Item}
    (completes : Completes computation) : Blames text computation := by
  intro panic failed
  rcases completes with ⟨result, returned, _⟩
  rw [returned] at failed
  cases failed

theorem blames_bind {Item Other : Type} {computation : Checked Item}
    {next : Item → Checked Other} (first : Blames text computation)
    (rest : ∀ item, Blames text (next item)) : Blames text (computation >>= next) := by
  cases computation with
  | ok item => exact rest item
  | error panic =>
      intro other failed
      cases failed
      exact first panic rfl

theorem fqdn_blames (domain : Text) (listed : domain ∈ referenceDomains) :
    Blames text (fqdn text domain) := by
  intro panic failed
  cases read : parseName text domain with
  | none =>
      rw [fqdn, read] at failed
      cases failed
      exact ⟨rfl, domain, listed, read⟩
  | some name =>
      rw [fqdn, read] at failed
      cases failed

theorem const_completes (provider : MatchConst) (plain : provider.reference = none)
    (ctx : SynthContext text) : Completes (provider.detect ctx) := by
  refine ensures_ite (fun _ => completes_ok _) fun _ => ?_
  rw [plain]
  exact completes_ok _

theorem borrow_blames (provider : MatchBorrow) (listed : provider.reference ∈ referenceDomains)
    (ctx : SynthContext text) : Blames text (provider.detect ctx) := by
  unfold MatchBorrow.detect
  dsimp only
  split
  · exact blames_completes (completes_ok _)
  · exact blames_bind (fqdn_blames _ listed) fun _ => blames_completes (completes_ok _)

theorem first_rewrite_completes (rewrite : Name → Checked (Option Name))
    (completes : ∀ name, Completes (rewrite name)) (names : List Name) :
    Completes (firstRewrite rewrite names) := by
  induction names with
  | nil => exact completes_ok _
  | cons h rest ih =>
      refine ensures_bind (completes h) fun found _ => ?_
      cases found with
      | some target => exact completes_ok _
      | none => exact ih

theorem rewrite_completes (rewrite : Name → Checked (Option Name))
    (completes : ∀ name, Completes (rewrite name)) (ctx : SynthContext text) :
    Completes (MatchRewrite.detect rewrite ctx) :=
  ensures_bind (first_rewrite_completes rewrite completes _) fun _ _ =>
    completes_ok _

theorem fastly_blames (ctx : SynthContext text) : Blames text (fastlyDetect ctx) := by
  unfold fastlyDetect
  split
  · exact blames_bind (fqdn_blames fastlyRef (by simp [referenceDomains]))
      fun _ => blames_completes (completes_ok _)
  split
  · exact blames_bind (fqdn_blames githubPagesRef (by simp [referenceDomains]))
      fun _ => blames_completes (completes_ok _)
  apply blames_completes
  refine rewrite_completes _ (fun h => ?_) ctx
  refine ensures_ite (fun _ => ?_) fun _ => completes_ok _
  exact ensures_bind (ensures_insert _ 0 _ (Nat.zero_le _)) fun _ _ =>
    completes_ok _

theorem cachefly_detect_completes (ctx : SynthContext text) : Completes (cacheflyDetect ctx) := by
  refine ensures_bind (first_rewrite_completes _ cachefly_completes _) fun found _ => ?_
  cases found with
  | some target => exact completes_ok _
  | none => exact completes_ok _

/-- Whatever the context, no provider panics over anything but a constant domain. -/
theorem make_blames (id : String) (synth : Synthesizer text) (made : make text id = some synth)
    (ctx : SynthContext text) : Blames text (synth.detect ctx) := by
  unfold make at made
  split at made <;> cases made
  · exact blames_completes (const_completes shopify rfl ctx)
  · exact blames_completes (const_completes webflow rfl ctx)
  · exact blames_completes (const_completes weebly rfl ctx)
  · exact borrow_blames cloudfront (by simp [referenceDomains]) ctx
  · exact borrow_blames bunnycdn (by simp [referenceDomains]) ctx
  · exact borrow_blames blazingcdn (by simp [referenceDomains]) ctx
  · exact borrow_blames gcorecdn (by simp [referenceDomains]) ctx
  · exact borrow_blames cdn77 (by simp [referenceDomains]) ctx
  · exact borrow_blames sucuri (by simp [referenceDomains]) ctx
  · exact borrow_blames netlify (by simp [referenceDomains]) ctx
  · exact borrow_blames bearblog (by simp [referenceDomains]) ctx
  · exact borrow_blames alicdn (by simp [referenceDomains]) ctx
  · exact blames_completes (rewrite_completes _ akamai_completes ctx)
  · exact blames_completes (rewrite_completes _ s3_completes ctx)
  · exact blames_completes (rewrite_completes _ oss_completes ctx)
  · exact blames_completes (rewrite_completes _ oracle_completes ctx)
  · exact blames_completes (rewrite_completes _ awsglb_completes ctx)
  · exact blames_completes (rewrite_completes _ azure_completes ctx)
  · exact blames_completes (completes_ok _)
  · exact fastly_blames ctx
  · exact blames_completes (completes_ok _)
  · exact blames_completes (completes_ok _)
  · exact blames_completes (cachefly_detect_completes ctx)

theorem make_completes (accepts : AcceptsConstants text) (id : String)
    (synth : Synthesizer text) (made : make text id = some synth) (ctx : SynthContext text) :
    Completes (synth.detect ctx) := by
  cases detected : synth.detect ctx with
  | ok found => exact completes_ok found
  | error panic =>
      rcases make_blames id synth made ctx panic detected with ⟨_, domain, listed, refused⟩
      rcases accepts domain listed with ⟨name, read⟩
      rw [refused] at read
      cases read

end Completes

end Dnsix.Cdn
