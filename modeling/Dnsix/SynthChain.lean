import Dnsix.Cdn
import Dnsix.Counters
import Dnsix.FirstAnswer

/-!
The ordered synthesizer chain: how it is built from the configured ids, how one
plan is executed, and the loop that takes the first synthesizer whose plan yields
an address. The upstream pool is a stateful lookup that answers each reference
query in any way.
-/

namespace Dnsix.SynthChain
open Address Ascii Counters Dns FirstAnswer Panics Synth

variable {text : NameText} {World : Type}

def defaultSynthTtl : Nat := 300

def ednsPayload : Nat := 1232

/-! Building a chain. -/
section Build

/-- Either two ids stand in the wrong order, or an id is not known. -/
inductive BuildError where
  | misordered (specific generic : String)
  | unknown (id : String)
  deriving DecidableEq

variable (text) in
structure Chain where
  synths : List (Synthesizer text)
  ttlCap : Option Nat
  nat64Fallback : Option Nat64

/-- A specific provider must run before the generic one that shadows it. -/
def precedes : List (String × String) := [("shopify", "cloudflare"), ("webflow", "cloudflare")]

def misplaced (ids : List String) (pair : String × String) : Bool :=
  match ids.idxOf? pair.1, ids.idxOf? pair.2 with
  | some ia, some ib => decide (ib < ia)
  | _, _ => false

def validateOrder (ids : List String) : Except BuildError Unit :=
  match precedes.find? (misplaced ids) with
  | some (a, b) => .error (.misordered a b)
  | none => .ok ()

variable (text) in
def makeSynthesizer (id : String) (nat64Prefix : Ipv6Addr) : Option (Synthesizer text) :=
  match id with
  | "nat64" => some (Nat64.mk nat64Prefix).synthesizer
  | other => Cdn.make text other

variable (text) in
def makeAll (nat64Prefix : Ipv6Addr) : List String → Except BuildError (List (Synthesizer text))
  | [] => .ok []
  | id :: rest =>
      match makeSynthesizer text id nat64Prefix with
      | some synth => (makeAll nat64Prefix rest).map (synth :: ·)
      | none => .error (.unknown id)

variable (text) in
/-- The fallback is kept only where a translator exists. -/
def Chain.build (ids : List String) (nat64Prefix : Ipv6Addr) (ttlCap : Option Nat)
    (nat64Fallback : Bool) : Except BuildError (Chain text) := do
  validateOrder ids
  let synths ← makeAll text nat64Prefix ids
  let nat64InChain := ids.contains "nat64"
  .ok
    { synths, ttlCap
      nat64Fallback := if nat64Fallback && nat64InChain then some ⟨nat64Prefix⟩ else none }

end Build

/-! Executing a plan. -/
section Plans

/-- The upstream pool as the chain uses it. -/
abbrev Resolver (World : Type) := Message → World → Option Message × World

/-- The DO bit is clear, so the response cache applies. -/
def referenceQuery (name : Name) : Message :=
  { Message.new with
    header := { Header.new with
      messageType := .Query
      opCode := .Query
      recursionDesired := true }
    queries := [⟨name, .AAAA, .IN⟩]
    edns := some { version := 0, maxPayload := ednsPayload, dnssecOk := false } }

def extractAaaa (resp : Message) : List (Ipv6Addr × Nat) :=
  resp.answers.filterMap fun r =>
    match r.data with
    | .AAAA a => some (a, r.ttl)
    | _ => none

def resolveAaaa (resolve : Resolver World) (name : Name) (world : World) :
    List (Ipv6Addr × Nat) × World :=
  match resolve (referenceQuery name) world with
  | (some resp, after) =>
      if resp.responseCode = .NoError then (extractAaaa resp, after) else ([], after)
  | (none, after) => ([], after)

/-- The resolution loop of `run_plan`. -/
def resolveAll (resolve : Resolver World) : List Name → World → List (Ipv6Addr × Nat) × World
  | [], world => ([], world)
  | name :: rest, world =>
      let (found, middle) := resolveAaaa resolve name world
      let (more, after) := resolveAll resolve rest middle
      (found ++ more, after)

def cappedTtl (ttl : Nat) (cap : Option Nat) : Nat :=
  match cap with
  | some c => min ttl c
  | none => ttl

/-- The smallest A TTL, replaced by the smallest reference TTL once a reference
resolved. -/
def baseTtl (ctx : SynthContext text) (found : List (Ipv6Addr × Nat)) : Nat :=
  (found.map Prod.snd).min?.getD ((ctx.aRecords.map Prod.snd).min?.getD defaultSynthTtl)

/-- The addresses a plan combines to, less those that may not be served. -/
def passing (plan : Plan) (found : List (Ipv6Addr × Nat)) (ctx : SynthContext text) :
    List Ipv6Addr :=
  (plan.combine (found.map Prod.fst) ctx.aAddrs).filter isGlobalUnicastV6

def aaaaRecord (name : Name) (ttl : Nat) (ip : Ipv6Addr) : Record :=
  .fromRdata name ttl (.AAAA ip)

def Chain.runPlan (chain : Chain text) (resolve : Resolver World) (plan : Plan)
    (ctx : SynthContext text) (world : World) : Option (List Record) × World :=
  let (found, after) := resolveAll resolve plan.resolve world
  let out := passing plan found ctx
  -- Every candidate was filtered out.
  if out.isEmpty then (none, after)
  else
    let ttl := cappedTtl (baseTtl ctx found) chain.ttlCap
    (some (out.map (aaaaRecord ctx.name ttl)), after)

end Plans

/-! The loop. -/
section Synthesize

/-- What a run of the chain may change: the pool and the counters. -/
structure Env (World : Type) where
  world : World
  metrics : Metrics

def Env.count (env : Env World) (bump : Metrics → Metrics) : Env World :=
  { env with metrics := bump env.metrics }

/-- After a provider won, at most one translated address goes behind its records. -/
def Chain.appended (chain : Chain text) (resolve : Resolver World) (ctx : SynthContext text)
    (id : String) (world : World) : List Record × World :=
  if id ≠ "nat64" then
    match chain.nat64Fallback with
    | some nat64 =>
        match nat64.plan ctx with
        | some plan =>
            match chain.runPlan resolve plan ctx world with
            -- The fallback runs a whole plan and keeps its first record.
            | (some extra, after) => (extra.head?.toList, after)
            | (none, after) => ([], after)
        | none => ([], world)
    | none => ([], world)
  else ([], world)

/-- The loop body of `synthesize`. -/
def Chain.attempt (chain : Chain text) (resolve : Resolver World) (ctx : SynthContext text)
    (synth : Synthesizer text) (env : Env World) :
    Checked (Option (List Record × String) × Env World) := do
  match ← synth.detect ctx with
  | none => .ok (none, env)
  | some plan =>
      match chain.runPlan resolve plan ctx env.world with
      | (some records, middle) =>
          let (extra, after) := chain.appended resolve ctx synth.id middle
          .ok (some (records ++ extra, synth.id), ⟨after, env.metrics.synthHit synth.id⟩)
      -- Nothing passed: its lookups stay made, the loop goes on.
      | (none, after) => .ok (none, { env with world := after })

def Chain.synthesize (chain : Chain text) (resolve : Resolver World) (ctx : SynthContext text)
    (env : Env World) : Checked (Option (List Record × String) × Env World) :=
  firstAnswer (chain.attempt resolve ctx) chain.synths env

end Synthesize

end Dnsix.SynthChain
