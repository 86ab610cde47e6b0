import Dnsix.SynthChain

/-!
How the plans of the synthesizers make their addresses. There are five ways, and a
synthesizer's id tells which of them its plans may follow.
-/

namespace Dnsix.PlanRules
open Address Ascii Cdn Dns Panics Synth SynthChain

variable {text : NameText}

inductive Rule where
  | constant (addr : Ipv6Addr)
  | borrowed (fallback : Option Ipv6Addr)
  | fused (hostid : Nat)
  | edge (base : Ipv6Addr) (spo : Bool)
  | embedded (covers : Ipv4Addr → Bool) (v4to6 : Ipv4Addr → Ipv6Addr)

def Rule.addresses : Rule → Combine
  | .constant addr => fun _ _ => [addr]
  | .borrowed fallback => borrowOr fallback
  | .fused hostid => fuseAll hostid
  | .edge base spo => fun _ v4 => v4.map (msedgeV4to6 base spo)
  | .embedded covers v4to6 => fun _ v4 => (v4.filter covers).map v4to6

/-- Only a borrowing or a fusing plan has names to resolve. -/
def Rule.plan (names : List Name) : Rule → Plan
  | .borrowed fallback => ⟨names, borrowOr fallback⟩
  | .fused hostid => ⟨names, fuseAll hostid⟩
  | rule => .pure rule.addresses

theorem plan_combine (rule : Rule) (names : List Name) :
    (rule.plan names).combine = rule.addresses := by
  cases rule <;> rfl

theorem verbatim_eq : verbatim = borrowOr none := by
  funext resolved v4
  cases resolved <;> rfl

/-- The rules a synthesizer's plans may follow. -/
inductive Follows (nat64Prefix : Ipv6Addr) (ctx : SynthContext text) : String → Rule → Prop
  | nat64 : Follows nat64Prefix ctx "nat64"
      (.embedded (fun ip => isIpv4onlyArpa text ctx.name || isGloballyRoutable ip)
        (embed nat64Prefix))
  | cloudflare : Follows nat64Prefix ctx "cloudflare"
      (.embedded (inCidr · cloudflareRange) cloudflareV4to6)
  | wpvip : Follows nat64Prefix ctx "wpvip" (.embedded (inCidr · wpvipRange) wpvipV4to6)
  | cachefly : Follows nat64Prefix ctx "cachefly"
      (.embedded (inCidr · cacheflyRange) cacheflyV4to6)
  | msedge (letter : Text) (base : Ipv6Addr) (spo : Bool)
      (known : msedgePrefix letter = some (base, spo)) :
      Follows nat64Prefix ctx "msedge" (.edge base spo)
  | fastly (ip : Ipv4Addr) (github : Bool) :
      Follows nat64Prefix ctx "fastly" (.fused (fastlyV6hex ip github))
  | constant (id : String) (addr : Ipv6Addr)
      (other : id ∉ ["nat64", "cloudflare", "wpvip", "cachefly", "msedge", "fastly"]) :
      Follows nat64Prefix ctx id (.constant addr)
  | borrowed (id : String) (fallback : Option Ipv6Addr)
      (other : id ∉ ["nat64", "cloudflare", "wpvip", "msedge"]) :
      Follows nat64Prefix ctx id (.borrowed fallback)

/-! One provider at a time. -/
section Providers

theorem const_plan (provider : MatchConst) (ctx : SynthContext text) (plan : Plan)
    (detected : provider.detect ctx = .ok (some plan)) :
    plan = (Rule.constant provider.addr).plan [] ∨
      ∃ names, plan = (Rule.borrowed (some provider.addr)).plan names := by
  unfold MatchConst.detect at detected
  split at detected
  · cases detected
  split at detected
  · rename_i reference _
    cases named : fqdn text reference with
    | error panic =>
        rw [named] at detected
        cases detected
    | ok name =>
        rw [named] at detected
        cases detected
        exact .inr ⟨[name], rfl⟩
  · cases detected
    exact .inl rfl

theorem borrow_plan (provider : MatchBorrow) (ctx : SynthContext text) (plan : Plan)
    (detected : provider.detect ctx = .ok (some plan)) :
    ∃ names, plan = (Rule.borrowed provider.fallback).plan names := by
  unfold MatchBorrow.detect at detected
  dsimp only at detected
  split at detected
  · cases detected
  cases named : fqdn text provider.reference with
  | error panic =>
      rw [named] at detected
      cases detected
  | ok name =>
      rw [named] at detected
      cases detected
      exact ⟨[name], rfl⟩

theorem rewrite_plan (rewrite : Name → Checked (Option Name)) (ctx : SynthContext text)
    (plan : Plan) (detected : MatchRewrite.detect rewrite ctx = .ok (some plan)) :
    ∃ names, plan = (Rule.borrowed none).plan names := by
  unfold MatchRewrite.detect at detected
  cases found : firstRewrite rewrite ctx.hostnames with
  | error panic =>
      rw [found] at detected
      cases detected
  | ok target =>
      rw [found] at detected
      cases target with
      | none => cases detected
      | some name =>
          cases detected
          exact ⟨[name], congrArg (Plan.mk [name]) verbatim_eq⟩

theorem embed_in_plan (ctx : SynthContext text) (range : Cidr) (v4to6 : Ipv4Addr → Ipv6Addr)
    (plan : Plan) (planned : embedIn ctx range v4to6 = some plan) :
    plan = (Rule.embedded (inCidr · range) v4to6).plan [] := by
  unfold embedIn at planned
  split at planned
  · cases planned
    rfl
  · cases planned

theorem msedge_plan (ctx : SynthContext text) (plan : Plan)
    (planned : msedgeDetect ctx = some plan) :
    ∃ letter base spo, msedgePrefix letter = some (base, spo) ∧
      plan = (Rule.edge base spo).plan [] := by
  simp only [msedgeDetect, Option.bind_eq_bind, Option.bind_eq_some_iff] at planned
  rcases planned with ⟨zone, _, planned⟩
  split at planned
  · cases planned
  simp only [Option.bind_eq_some_iff] at planned
  rcases planned with ⟨first, _, letter, _, ⟨base, spo⟩, known, planned⟩
  cases planned
  exact ⟨letter, base, spo, known, rfl⟩

theorem cachefly_plan (ctx : SynthContext text) (plan : Plan)
    (detected : cacheflyDetect ctx = .ok (some plan)) :
    (∃ names, plan = (Rule.borrowed none).plan names) ∨
      plan = (Rule.embedded (inCidr · cacheflyRange) cacheflyV4to6).plan [] := by
  unfold cacheflyDetect at detected
  cases found : firstRewrite (Rewrites.cacheflyRewrite text) ctx.hostnames with
  | error panic =>
      rw [found] at detected
      cases detected
  | ok target =>
      rw [found] at detected
      cases target with
      | none => exact .inr (embed_in_plan ctx _ _ plan (Except.ok.inj detected))
      | some name =>
          cases detected
          exact .inl ⟨[name], congrArg (Plan.mk [name]) verbatim_eq⟩

theorem fastly_plan (ctx : SynthContext text) (plan : Plan)
    (detected : fastlyDetect ctx = .ok (some plan)) :
    (∃ names ip github, plan = (Rule.fused (fastlyV6hex ip github)).plan names) ∨
      ∃ names, plan = (Rule.borrowed none).plan names := by
  unfold fastlyDetect at detected
  split at detected
  · rename_i ip _
    cases named : fqdn text fastlyRef with
    | error panic =>
        rw [named] at detected
        cases detected
    | ok name =>
        rw [named] at detected
        cases detected
        exact .inl ⟨[name], ip, false, rfl⟩
  split at detected
  · rename_i ip _
    cases named : fqdn text githubPagesRef with
    | error panic =>
        rw [named] at detected
        cases detected
    | ok name =>
        rw [named] at detected
        cases detected
        exact .inl ⟨[name], ip, true, rfl⟩
  · exact .inr (rewrite_plan _ ctx plan detected)

theorem nat64_plan (nat64 : Nat64) (ctx : SynthContext text) (plan : Plan)
    (planned : nat64.plan ctx = some plan) :
    plan = (Rule.embedded (fun ip => isIpv4onlyArpa text ctx.name || isGloballyRoutable ip)
      (embed nat64.base)).plan [] := by
  unfold Nat64.plan at planned
  split at planned
  · cases planned
  cases planned
  refine congrArg (Plan.mk []) ?_
  funext _ v4
  by_cases discovery : isIpv4onlyArpa text ctx.name = true
  · simp [eligibleAddresses, Rule.addresses, discovery]
  · simp [eligibleAddresses, Rule.addresses, discovery]

end Providers

variable {nat64Prefix : Ipv6Addr} {ctx : SynthContext text} {plan : Plan}

/-- A plan follows one of the rules of its synthesizer's id. -/
def Planned (nat64Prefix : Ipv6Addr) (ctx : SynthContext text) (id : String) (plan : Plan) :
    Prop :=
  ∃ rule names, Follows nat64Prefix ctx id rule ∧ plan = rule.plan names

theorem const_planned (provider : MatchConst)
    (other : provider.id ∉ ["nat64", "cloudflare", "wpvip", "cachefly", "msedge", "fastly"])
    (detected : provider.detect ctx = .ok (some plan)) :
    Planned nat64Prefix ctx provider.id plan := by
  rcases const_plan provider ctx plan detected with same | ⟨names, same⟩
  · exact ⟨_, [], .constant provider.id provider.addr other, same⟩
  · refine ⟨_, names, .borrowed provider.id _ fun listed => other ?_, same⟩
    simp only [List.mem_cons] at listed ⊢
    tauto

theorem borrow_planned (provider : MatchBorrow)
    (other : provider.id ∉ ["nat64", "cloudflare", "wpvip", "msedge"])
    (detected : provider.detect ctx = .ok (some plan)) :
    Planned nat64Prefix ctx provider.id plan := by
  rcases borrow_plan provider ctx plan detected with ⟨names, same⟩
  exact ⟨_, names, .borrowed provider.id _ other, same⟩

theorem rewrite_planned (id : String) (other : id ∉ ["nat64", "cloudflare", "wpvip", "msedge"])
    (rewrite : Name → Checked (Option Name))
    (detected : MatchRewrite.detect rewrite ctx = .ok (some plan)) :
    Planned nat64Prefix ctx id plan := by
  rcases rewrite_plan rewrite ctx plan detected with ⟨names, same⟩
  exact ⟨_, names, .borrowed id _ other, same⟩

theorem make_planned (id : String) (synth : Synthesizer text) (made : make text id = some synth)
    (detected : synth.detect ctx = .ok (some plan)) : Planned nat64Prefix ctx id plan := by
  unfold make at made
  split at made <;> cases made
  · exact const_planned shopify (by decide) detected
  · exact const_planned webflow (by decide) detected
  · exact const_planned weebly (by decide) detected
  · exact borrow_planned cloudfront (by decide) detected
  · exact borrow_planned bunnycdn (by decide) detected
  · exact borrow_planned blazingcdn (by decide) detected
  · exact borrow_planned gcorecdn (by decide) detected
  · exact borrow_planned cdn77 (by decide) detected
  · exact borrow_planned sucuri (by decide) detected
  · exact borrow_planned netlify (by decide) detected
  · exact borrow_planned bearblog (by decide) detected
  · exact borrow_planned alicdn (by decide) detected
  · exact rewrite_planned _ (by decide) _ detected
  · exact rewrite_planned _ (by decide) _ detected
  · exact rewrite_planned _ (by decide) _ detected
  · exact rewrite_planned _ (by decide) _ detected
  · exact rewrite_planned _ (by decide) _ detected
  · exact rewrite_planned _ (by decide) _ detected
  · exact ⟨_, [], .cloudflare, embed_in_plan ctx _ _ plan (Except.ok.inj detected)⟩
  · rcases fastly_plan ctx plan detected with ⟨names, ip, github, same⟩ | ⟨names, same⟩
    · exact ⟨_, names, .fastly ip github, same⟩
    · exact ⟨_, names, .borrowed "fastly" none (by decide), same⟩
  · rcases msedge_plan ctx plan (Except.ok.inj detected) with ⟨letter, base, spo, known, same⟩
    exact ⟨_, [], .msedge letter base spo known, same⟩
  · exact ⟨_, [], .wpvip, embed_in_plan ctx _ _ plan (Except.ok.inj detected)⟩
  · rcases cachefly_plan ctx plan detected with ⟨names, same⟩ | same
    · exact ⟨_, names, .borrowed "cachefly" none (by decide), same⟩
    · exact ⟨_, [], .cachefly, same⟩

theorem make_synthesizer_planned (id : String) (synth : Synthesizer text)
    (made : makeSynthesizer text id nat64Prefix = some synth)
    (detected : synth.detect ctx = .ok (some plan)) : Planned nat64Prefix ctx id plan := by
  unfold makeSynthesizer at made
  split at made
  · cases made
    exact ⟨_, [], .nat64, nat64_plan ⟨nat64Prefix⟩ ctx plan (Except.ok.inj detected)⟩
  · exact make_planned _ synth made detected

end Dnsix.PlanRules
