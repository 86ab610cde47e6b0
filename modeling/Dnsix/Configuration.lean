import Dnsix.Acl
import Dnsix.ChainContract

/-!
The configuration and its validation, and what validation promises of the NAT64
prefix: every address embedded into it may be served, so a name with an eligible A
address is never answered with nothing.
-/

namespace Dnsix.Configuration
open Acl Address Ascii Cdn ChainContract Dns FirstAnswer Panics Synth SynthChain
open Handler (IpAddr SocketAddr)

variable {text : NameText} {World : Type}

inductive Upstream where
  | Plain (addr : SocketAddr)
  | Tls (addr : SocketAddr) (dnsName : Text)
  deriving DecidableEq

structure Config where
  listen : SocketAddr
  nat64Prefix : Ipv6Addr
  ttlCap : Option Nat
  upstreams : List Upstream
  cacheSize : Nat
  serveStale : Bool
  synthesizers : List String
  nat64Fallback : Bool
  blocklists : List Text
  uiListen : Option SocketAddr
  queryLogSize : Nat
  clientNetworks : List Text
  deriving DecidableEq

def wellKnownNat64Prefix : Ipv6Addr := v6 0x64 0xff9b 0 0 0 0 0 0

/-- The configuration that only names its upstreams. -/
def Config.minimal (upstreams : List Upstream) : Config :=
  { listen := ⟨.V6 0, 53⟩
    nat64Prefix := wellKnownNat64Prefix
    ttlCap := none
    upstreams
    cacheSize := 4096
    serveStale := true
    synthesizers := ["nat64"]
    nat64Fallback := true
    blocklists := []
    uiListen := none
    queryLogSize := 1000
    clientNetworks := [] }

inductive ConfigError where
  | listenNotIpv6 (listen : SocketAddr)
  | noUpstream
  | prefixLowBits (nat64Prefix : Ipv6Addr)
  | prefixNotGlobal (nat64Prefix : Ipv6Addr)
  | clientNetworks (error : AclError)
  deriving DecidableEq

def SocketAddr.isIpv6 (addr : SocketAddr) : Bool :=
  match addr.ip with
  | .V6 _ => true
  | .V4 _ => false

def Config.validate (config : Config) : Except ConfigError Unit :=
  if !SocketAddr.isIpv6 config.listen then .error (.listenNotIpv6 config.listen)
  else if config.upstreams.isEmpty then .error .noUpstream
  else if config.nat64Prefix.extractLsb' 0 32 ≠ 0 then
    .error (.prefixLowBits config.nat64Prefix)
  -- The filter on synthesized addresses, applied to the prefix itself.
  else if !isGlobalUnicastV6 config.nat64Prefix then .error (.prefixNotGlobal config.nat64Prefix)
  else
    match ClientAcl.parse config.clientNetworks with
    | .ok _ => .ok ()
    | .error error => .error (.clientNetworks error)

/-- What `main` hands to `Chain::build`. -/
def Config.settings (config : Config) : Settings :=
  { ids := config.synthesizers, nat64Prefix := config.nat64Prefix, ttlCap := config.ttlCap
    nat64Fallback := config.nat64Fallback }

structure Validated (config : Config) : Prop where
  listen : SocketAddr.isIpv6 config.listen = true
  upstreams : config.upstreams ≠ []
  low : config.nat64Prefix.extractLsb' 0 32 = 0
  global : isGlobalUnicastV6 config.nat64Prefix = true
  clients : ∃ acl, ClientAcl.parse config.clientNetworks = .ok acl

theorem validate_ok_iff (config : Config) : config.validate = .ok () ↔ Validated config := by
  constructor
  · intro accepted
    unfold Config.validate at accepted
    split at accepted
    · cases accepted
    rename_i listen
    split at accepted
    · cases accepted
    rename_i upstreams
    split at accepted
    · cases accepted
    rename_i low
    split at accepted
    · cases accepted
    rename_i global
    split at accepted
    · rename_i acl parsed
      exact ⟨by simpa using listen, by simpa using upstreams, not_not.mp low,
        by simpa using global, ⟨acl, parsed⟩⟩
    · cases accepted
  · rintro ⟨listen, upstreams, low, global, acl, parsed⟩
    simp [Config.validate, listen, upstreams, low, global, parsed]

theorem minimal_validates (upstreams : List Upstream) (present : upstreams ≠ []) :
    (Config.minimal upstreams).validate = .ok () := by
  have low : wellKnownNat64Prefix.extractLsb' 0 32 = 0 := by decide
  have global : isGlobalUnicastV6 wellKnownNat64Prefix = true := by decide
  exact (validate_ok_iff _).mpr ⟨rfl, present, low, global, ⟨[]⟩, rfl⟩

/-! Embedding into a validated prefix. -/
section Prefixes

/-- A prefix that is served and has no low bits has some high bits. -/
theorem high_nonzero (nat64Prefix : Ipv6Addr) (low : nat64Prefix.extractLsb' 0 32 = 0)
    (global : isGlobalUnicastV6 nat64Prefix = true) : nat64Prefix.extractLsb' 32 96 ≠ 0 := by
  intro high
  have lowNumber := congrArg BitVec.toNat low
  have highNumber := congrArg BitVec.toNat high
  rw [BitVec.extractLsb'_toNat, Nat.shiftRight_eq_div_pow] at lowNumber highNumber
  have zero : nat64Prefix = 0 := by
    apply BitVec.eq_of_toNat_eq
    have bound := nat64Prefix.isLt
    change nat64Prefix.toNat = 0
    change nat64Prefix.toNat / 2 ^ 0 % 2 ^ 32 = 0 at lowNumber
    change nat64Prefix.toNat / 2 ^ 32 % 2 ^ 96 = 0 at highNumber
    omega
  rw [zero] at global
  exact absurd global (by decide)

theorem embed_passes (nat64Prefix : Ipv6Addr) (low : nat64Prefix.extractLsb' 0 32 = 0)
    (global : isGlobalUnicastV6 nat64Prefix = true) (ip : Ipv4Addr) :
    isGlobalUnicastV6 (embed nat64Prefix ip) = true := by
  have high := set_last_octets_high nat64Prefix ip
  have nonzero := high_nonzero nat64Prefix low global
  exact (global_of_high (embed nat64Prefix ip) nat64Prefix high (high ▸ nonzero)).trans global

/-- Nothing of a NAT64 plan is filtered out. -/
theorem nat64_passing (nat64Prefix : Ipv6Addr) (low : nat64Prefix.extractLsb' 0 32 = 0)
    (global : isGlobalUnicastV6 nat64Prefix = true) (ctx : SynthContext text) (plan : Plan)
    (planned : (Nat64.mk nat64Prefix).plan ctx = some plan) (found : List (Ipv6Addr × Nat)) :
    passing plan found ctx =
      (eligibleAddresses text ctx.name ctx.aAddrs).map (embed nat64Prefix) := by
  rw [(nat64_plan_some _ ctx plan planned).2 found, List.filter_eq_self]
  intro ip listed
  rcases List.mem_map.mp listed with ⟨source, _, rfl⟩
  exact embed_passes nat64Prefix low global source

end Prefixes

theorem fruitless_mem (resolve : Resolver World) (ctx : SynthContext text)
    (synths : List (Synthesizer text)) (world after : World)
    (fruitless : Fruitless resolve ctx synths world after) (synth : Synthesizer text)
    (listed : synth ∈ synths) : ∃ start stop, Yields resolve ctx synth start [] stop := by
  induction fruitless with
  | nil => cases listed
  | cons first rest world middle after nothing _ ih =>
      rcases List.mem_cons.mp listed with rfl | later
      · exact ⟨world, middle, nothing⟩
      · exact ih later

/-- With an eligible address the translator yields something. -/
theorem nat64_not_fruitless (nat64Prefix : Ipv6Addr)
    (low : nat64Prefix.extractLsb' 0 32 = 0) (global : isGlobalUnicastV6 nat64Prefix = true)
    (resolve : Resolver World) (ctx : SynthContext text)
    (eligible : eligibleAddresses text ctx.name ctx.aAddrs ≠ []) (start stop : World) :
    ¬ Yields resolve ctx (Nat64.mk nat64Prefix).synthesizer start [] stop := by
  intro yields
  generalize empty : ([] : List Ipv6Addr) = addrs at yields
  cases yields with
  | silent declined =>
      have unplanned := Except.ok.inj declined
      unfold Nat64.plan at unplanned
      split at unplanned
      · rename_i bare
        apply eligible
        rw [SynthContext.aAddrs, List.isEmpty_iff.mp bare]
        simp [eligibleAddresses]
      · cases unplanned
  | planned plan detected =>
      rw [nat64_passing nat64Prefix low global ctx plan (Except.ok.inj detected)] at empty
      exact eligible (List.map_eq_nil_iff.mp empty.symm)

/-- Under an accepted configuration with the translator, a name with an eligible address is
answered with records, and the filter strips no embedded address. -/
theorem nat64_never_empty (config : Config) (accepted : config.validate = .ok ())
    (listed : "nat64" ∈ config.synthesizers) (chain : Chain text)
    (started : config.settings.build = .ok chain) (accepts : AcceptsConstants text)
    (resolve : Resolver World) (ctx : SynthContext text) (env : Env World)
    (eligible : eligibleAddresses text ctx.name ctx.aAddrs ≠ []) :
    (∃ records id after, chain.synthesize resolve ctx env = .ok (some (records, id), after) ∧
        records ≠ []) ∧
      (∀ ip, isGlobalUnicastV6 (embed config.nat64Prefix ip) = true) ∧
      ∀ plan found, (Nat64.mk config.nat64Prefix).plan ctx = some plan →
        passing plan found ctx =
          (eligibleAddresses text ctx.name ctx.aAddrs).map (embed config.nat64Prefix) := by
  have valid := (validate_ok_iff config).mp accepted
  have built := build_built _ _ _ _ chain started
  refine ⟨?_, embed_passes _ valid.low valid.global, fun plan found planned =>
    nat64_passing _ valid.low valid.global ctx plan planned found⟩
  rcases built_completes _ _ _ _ chain built accepts resolve ctx env with
    ⟨⟨answer, after⟩, returned, _⟩
  cases answer with
  | some pair =>
      rcases synthesize_won chain resolve ctx env after pair.1 pair.2 returned with
        ⟨_, _, _, world, plan, _, _, _, _, fruitful, made, _⟩
      refine ⟨pair.1, pair.2, after, returned, ?_⟩
      rw [made]
      intro empty
      exact fruitful (List.map_eq_nil_iff.mp (List.append_eq_nil_iff.mp empty).1)
  | none =>
      have barren := (first_answer_none_iff _ _ _).mp returned
      have fruitless := ((barren_iff_fruitless chain resolve ctx _ env after).mp barren).1
      -- The translator stands in the chain, so it was tried.
      have named : "nat64" ∈ chain.synths.map Synthesizer.id := by
        rw [built.named]
        exact listed
      rcases List.mem_map.mp named with ⟨synth, present, id⟩
      have made := built.made synth present
      rw [id] at made
      cases Option.some.inj made
      rcases fruitless_mem resolve ctx _ _ _ fruitless _ present with ⟨start, stop, yields⟩
      exact absurd yields
        (nat64_not_fruitless _ valid.low valid.global resolve ctx eligible start stop)

def sampleConfig : Config := .minimal [.Plain ⟨.V4 (v4 192 0 2 1), 53⟩]

theorem nat64_never_empty_minimal :
    ∃ chain records id after, sampleConfig.settings.build = .ok chain ∧
      chain.synthesize silentPool sampleContext sampleEnv = .ok (some (records, id), after) ∧
      records ≠ [] := by
  have started : sampleConfig.settings.build = .ok
      (⟨[(Nat64.mk wellKnownNat64Prefix).synthesizer], none, some ⟨wellKnownNat64Prefix⟩⟩ :
        Chain plainText) := rfl
  rcases (nat64_never_empty sampleConfig (by decide) (by decide) _ started plain_text_accepts
    silentPool sampleContext sampleEnv (by decide)).1 with ⟨records, id, after, ran, present⟩
  exact ⟨_, records, id, after, started, ran, present⟩

end Dnsix.Configuration
