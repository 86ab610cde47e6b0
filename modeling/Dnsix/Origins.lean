import Dnsix.Grounding
import Dnsix.PlanRules

/-!
Where every address of a synthesized answer comes from. The rule of the synthesizer that
won makes it of the A records the upstreams told for the queried name, or of the AAAA
records they told for a reference, or has it written down; the address behind it is the
translator's. What the chain did not make is an error or a reply handed on.
-/

namespace Dnsix.Origins
open Address Cdn ChainContract Dns Handler Synth SynthChain PlanRules Transition
open Forwarder Grounding Provenance Served Workload
open Pool (CacheStatus CallId Config)
open RequestRuns (Event Handling Place Progress)

variable {text : NameText}

/-! What the upstreams told of a question. -/
section Telling
variable {pool after : Pool.State} {question : Query} {answer : Message}

/-- An answer record of a reply without an error. -/
def Attested (pool : Pool.State) (question : Query) (data : RData) : Prop :=
  ∃ resp, Replied pool question resp ∧ resp.responseCode = .NoError ∧
    ∃ record ∈ resp.answers, record.data = data

def aOf (name : Name) : Query := ⟨name, .A, .IN⟩

def aaaaOf (name : Name) : Query := ⟨name, .AAAA, .IN⟩

theorem Attested.grow {data : RData} (grows : ∀ reply ∈ pool.replies, reply ∈ after.replies)
    (attested : Attested pool question data) : Attested after question data := by
  obtain ⟨resp, ⟨fetch, logged, asks⟩, fine, held⟩ := attested
  exact ⟨resp, ⟨fetch, grows _ logged, asks⟩, fine, held⟩

/-- The cache keeps the data of the records it keeps. -/
theorem told_attested (told : Told pool question answer) (fine : answer.responseCode = .NoError)
    (record : Record) (listed : record ∈ answer.answers) :
    Attested pool question record.data := by
  cases told with
  | verbatim replied => exact ⟨answer, replied, fine, record, listed, rfl⟩
  | @cached resp own stamp ttl replied storable =>
      simp only [ResponseCache.rebuilt, ResponseCache.CacheEntry.toResponse,
        ResponseCache.stampTtl, List.mem_map] at listed
      obtain ⟨source, inside, rfl⟩ := listed
      unfold StoreHistory.storedEntry at inside
      split at inside
      · rename_i kind
        exact ⟨resp, replied, kind.1, source, inside, rfl⟩
      · cases inside

theorem a_records_attested (aRes : Option Message) (told : ∀ a ∈ aRes, Told pool question a)
    (ip : Ipv4Addr) (listed : ip ∈ (aRecords aRes).map Prod.fst) :
    Attested pool question (.A ip) := by
  obtain ⟨⟨_, ttl⟩, inside, rfl⟩ := List.mem_map.mp listed
  cases aRes with
  | none => cases inside
  | some a =>
      unfold aRecords at inside
      dsimp only at inside
      split at inside
      · rename_i fine
        obtain ⟨record, held, read⟩ := List.mem_filterMap.mp inside
        have attested := told_attested (told a rfl) fine record held
        split at read
        · rename_i addr data
          cases read
          exact data ▸ attested
        · cases read
      · cases inside

/-- What the loop over the references finds in what it is told. -/
theorem references_attested (names : List Name) (answers : List (Option Message))
    (told : List.Forall₂ (fun name answer => ∀ resp ∈ answer, Told pool (aaaaOf name) resp)
      names answers) :
    ∀ found ∈ (resolveAll replay names answers).1,
      ∃ reference ∈ names, Attested pool (aaaaOf reference) (.AAAA found.1) := by
  induction told with
  | nil => exact List.forall_mem_nil _
  | @cons name answer rest others first _ ih =>
      have one : ∀ found ∈ (resolveAaaa replay name (answer :: others)).1,
          Attested pool (aaaaOf name) (.AAAA found.1) := by
        intro found listed
        cases answer with
        | none => cases listed
        | some resp =>
            simp only [resolveAaaa, replay, List.head?_cons, Option.join_some] at listed
            split at listed
            · rename_i fine
              obtain ⟨record, held, read⟩ := List.mem_filterMap.mp listed
              have attested := told_attested (first resp rfl) fine record held
              split at read
              · rename_i addr data
                cases read
                exact data ▸ attested
              · cases read
            · cases listed
      intro found listed
      simp only [resolveAll, replay_popped] at listed
      rcases List.mem_append.mp listed with here | later
      · exact ⟨name, List.mem_cons_self, one found here⟩
      · obtain ⟨reference, inside, attested⟩ := ih found later
        exact ⟨reference, List.mem_cons_of_mem name inside, attested⟩

end Telling

/-! The addresses of a plan. -/
section Plans
variable {pool after : Pool.State} {name : Name} {references : List Name}

/-- How a rule comes to an address from what the upstreams told. -/
inductive MadeBy (pool : Pool.State) (name : Name) (references : List Name) :
    Rule → Ipv6Addr → Prop where
  | constant (addr : Ipv6Addr) : MadeBy pool name references (.constant addr) addr
  | fallback (addr : Ipv6Addr) : MadeBy pool name references (.borrowed (some addr)) addr
  | borrowed (fallback : Option Ipv6Addr) (reference : Name) (addr : Ipv6Addr)
      (listed : reference ∈ references) (told : Attested pool (aaaaOf reference) (.AAAA addr)) :
      MadeBy pool name references (.borrowed fallback) addr
  | fused (hostid : Nat) (reference : Name) (base addr : Ipv6Addr)
      (listed : reference ∈ references) (told : Attested pool (aaaaOf reference) (.AAAA base))
      (fuses : fastlyFuse base hostid = some addr) :
      MadeBy pool name references (.fused hostid) addr
  | edge (base : Ipv6Addr) (spo : Bool) (ip : Ipv4Addr)
      (told : Attested pool (aOf name) (.A ip)) :
      MadeBy pool name references (.edge base spo) (msedgeV4to6 base spo ip)
  | embedded (covers : Ipv4Addr → Bool) (v4to6 : Ipv4Addr → Ipv6Addr) (ip : Ipv4Addr)
      (told : Attested pool (aOf name) (.A ip)) (covered : covers ip = true) :
      MadeBy pool name references (.embedded covers v4to6) (v4to6 ip)

theorem MadeBy.grow {rule : Rule} {addr : Ipv6Addr}
    (grows : ∀ reply ∈ pool.replies, reply ∈ after.replies)
    (made : MadeBy pool name references rule addr) : MadeBy after name references rule addr := by
  cases made with
  | constant addr => exact .constant addr
  | fallback addr => exact .fallback addr
  | borrowed fallback reference addr listed told =>
      exact .borrowed fallback reference addr listed (told.grow grows)
  | fused hostid reference base addr listed told fuses =>
      exact .fused hostid reference base addr listed (told.grow grows) fuses
  | edge base spo ip told => exact .edge base spo ip (told.grow grows)
  | embedded covers v4to6 ip told covered =>
      exact .embedded covers v4to6 ip (told.grow grows) covered

theorem addresses_made (rule : Rule) (resolved : List Ipv6Addr) (v4 : List Ipv4Addr)
    (borrows : ∀ addr ∈ resolved, ∃ reference ∈ references,
      Attested pool (aaaaOf reference) (.AAAA addr))
    (own : ∀ ip ∈ v4, Attested pool (aOf name) (.A ip)) (addr : Ipv6Addr)
    (listed : addr ∈ rule.addresses resolved v4) : MadeBy pool name references rule addr := by
  cases rule with
  | constant constant =>
      rw [List.mem_singleton.mp listed]
      exact .constant constant
  | borrowed fallback =>
      simp only [Rule.addresses, borrowOr] at listed
      split at listed
      · rw [Option.mem_toList] at listed
        rw [listed]
        exact .fallback addr
      · obtain ⟨reference, asked, told⟩ := borrows addr listed
        exact .borrowed fallback reference addr asked told
  | fused hostid =>
      obtain ⟨base, inside, fuses⟩ := List.mem_filterMap.mp listed
      obtain ⟨reference, asked, told⟩ := borrows base inside
      exact .fused hostid reference base addr asked told fuses
  | edge base spo =>
      obtain ⟨ip, inside, rfl⟩ := List.mem_map.mp listed
      exact .edge base spo ip (own ip inside)
  | embedded covers v4to6 =>
      obtain ⟨ip, inside, rfl⟩ := List.mem_map.mp listed
      obtain ⟨held, covered⟩ := List.mem_filter.mp inside
      exact .embedded covers v4to6 ip (own ip held) covered

/-- A record of the plan the synthesizer makes of the context, by the rule of that plan. -/
structure Origin (pool : Pool.State) (nat64Prefix : Ipv6Addr) (ctx : SynthContext text)
    (synth : Synthesizer text) (rule : Rule) (names : List Name) (record : Record) : Prop where
  follows : Follows nat64Prefix ctx synth.id rule
  detected : synth.detect ctx = .ok (some (rule.plan names))
  made : ∃ ttl addr, record = aaaaRecord ctx.name ttl addr ∧ isGlobalUnicastV6 addr = true ∧
    MadeBy pool ctx.name (rule.plan names).resolve rule addr

/-- A record of the translator. -/
def Translated (pool : Pool.State) (nat64Prefix : Ipv6Addr) (ctx : SynthContext text)
    (record : Record) : Prop :=
  ∃ ttl ip, record = aaaaRecord ctx.name ttl (embed nat64Prefix ip) ∧
    isGlobalUnicastV6 (embed nat64Prefix ip) = true ∧ Attested pool (aOf ctx.name) (.A ip) ∧
    (isIpv4onlyArpa text ctx.name || isGloballyRoutable ip) = true

theorem Origin.grow {nat64Prefix : Ipv6Addr} {ctx : SynthContext text} {synth : Synthesizer text}
    {rule : Rule} {names : List Name} {record : Record}
    (grows : ∀ reply ∈ pool.replies, reply ∈ after.replies)
    (origin : Origin pool nat64Prefix ctx synth rule names record) :
    Origin after nat64Prefix ctx synth rule names record := by
  obtain ⟨follows, detected, ttl, addr, same, global, made⟩ := origin
  exact ⟨follows, detected, ttl, addr, same, global, made.grow grows⟩

theorem Translated.grow {nat64Prefix : Ipv6Addr} {ctx : SynthContext text} {record : Record}
    (grows : ∀ reply ∈ pool.replies, reply ∈ after.replies)
    (translated : Translated pool nat64Prefix ctx record) :
    Translated after nat64Prefix ctx record := by
  obtain ⟨ttl, ip, same, global, told, covered⟩ := translated
  exact ⟨ttl, ip, same, global, told.grow grows, covered⟩

/-- A context made of what was told of the name: no AAAA record, and the A records. -/
def Posed (pool : Pool.State) (query : Query) (ctx : SynthContext text) : Prop :=
  ∃ aaaa aRes, Told pool query aaaa ∧ aaaa.responseCode = .NoError ∧
    hasNativeAaaa aaaa = false ∧ (∀ a ∈ aRes, Told pool (aOf query.name) a) ∧
    ctx = synthContext text query aaaa aRes

theorem Posed.grow {query : Query} {ctx : SynthContext text}
    (grows : ∀ reply ∈ pool.replies, reply ∈ after.replies) (posed : Posed pool query ctx) :
    Posed after query ctx := by
  obtain ⟨aaaa, aRes, told, code, hasNo, heard, same⟩ := posed
  exact ⟨aaaa, aRes, told.grow grows, code, hasNo, fun a listed => (heard a listed).grow grows,
    same⟩

theorem posed_informed {query : Query} {ctx : SynthContext text} (posed : Posed pool query ctx) :
    ctx.name = query.name ∧ ∀ ip ∈ ctx.aAddrs, Attested pool (aOf ctx.name) (.A ip) := by
  obtain ⟨aaaa, aRes, _, _, _, heard, rfl⟩ := posed
  exact ⟨rfl, fun ip listed => a_records_attested aRes heard ip listed⟩

theorem plan_origin (nat64Prefix : Ipv6Addr) (ctx : SynthContext text) (synth : Synthesizer text)
    (made : makeSynthesizer text synth.id nat64Prefix = some synth) (plan : Plan)
    (detected : synth.detect ctx = .ok (some plan))
    (informed : ∀ ip ∈ ctx.aAddrs, Attested pool (aOf ctx.name) (.A ip))
    (found : List (Ipv6Addr × Nat))
    (told : ∀ entry ∈ found, ∃ reference ∈ plan.resolve,
      Attested pool (aaaaOf reference) (.AAAA entry.1)) (ttl : Nat) :
    ∃ rule names, ∀ addr ∈ passing plan found ctx,
      Origin pool nat64Prefix ctx synth rule names (aaaaRecord ctx.name ttl addr) := by
  obtain ⟨rule, names, follows, rfl⟩ := make_synthesizer_planned synth.id synth made detected
  refine ⟨rule, names, ?_⟩
  intro addr listed
  obtain ⟨combined, global⟩ := List.mem_filter.mp listed
  rw [plan_combine] at combined
  refine ⟨follows, detected, ttl, addr, rfl, global, ?_⟩
  refine addresses_made rule _ _ ?_ informed addr combined
  intro base inside
  obtain ⟨entry, present, rfl⟩ := List.mem_map.mp inside
  exact told entry present

/-- The record behind a provider's is the translator's. -/
theorem appended_origin {World : Type} (chain : Chain text) (nat64Prefix : Ipv6Addr)
    (resolve : Resolver World) (ctx : SynthContext text) (id : String) (world : World)
    (base : ∀ nat64, chain.nat64Fallback = some nat64 → nat64.base = nat64Prefix)
    (informed : ∀ ip ∈ ctx.aAddrs, Attested pool (aOf ctx.name) (.A ip)) :
    (chain.appended resolve ctx id world).1.length ≤ 1 ∧
      ∀ record ∈ (chain.appended resolve ctx id world).1,
        id ≠ "nat64" ∧ chain.nat64Fallback.isSome = true ∧
          Translated pool nat64Prefix ctx record := by
  rw [appended_spec]
  dsimp only
  split
  · exact ⟨Nat.zero_le 1, List.forall_mem_nil _⟩
  · rename_i other
    cases fallback : chain.nat64Fallback with
    | none => exact ⟨Nat.zero_le 1, List.forall_mem_nil _⟩
    | some nat64 =>
        simp only [Option.toList_some, List.flatMap_cons, List.flatMap_nil, List.append_nil]
        cases first : firstEmbedded nat64 ctx with
        | none => exact ⟨Nat.zero_le 1, List.forall_mem_nil _⟩
        | some ip =>
            refine ⟨Nat.le_refl 1, ?_⟩
            intro record listed
            rw [List.mem_singleton.mp listed]
            have passes := List.find?_some first
            have eligible := List.mem_of_find?_eq_some first
            have held : ip ∈ ctx.aAddrs ∧
                (isIpv4onlyArpa text ctx.name || isGloballyRoutable ip) = true := by
              unfold eligibleAddresses at eligible
              split at eligible
              · rename_i discovery
                exact ⟨eligible, by rw [discovery, Bool.true_or]⟩
              · obtain ⟨inside, routable⟩ := List.mem_filter.mp eligible
                exact ⟨inside, by rw [routable, Bool.or_true]⟩
            rw [base nat64 fallback] at passes ⊢
            exact ⟨other, rfl, _, ip, rfl, passes, informed ip held.1, held.2⟩

end Plans

/-! One request. -/
section Requests
variable {handler : Dns64Handler text} {pool : Pool.State} {h : Handling text}
variable {nat64Prefix : Ipv6Addr} {progress : Progress text}

/-- What the chain has to be for its records to be traced. -/
structure Traceable (chain : Chain text) (nat64Prefix : Ipv6Addr) : Prop where
  made : ∀ synth ∈ chain.synths, makeSynthesizer text synth.id nat64Prefix = some synth
  base : ∀ nat64, chain.nat64Fallback = some nat64 → nat64.base = nat64Prefix

/-- A response of the chain: the winner's records, by one rule, and at most one of the
translator's. -/
def Chained (handler : Dns64Handler text) (pool : Pool.State) (nat64Prefix : Ipv6Addr)
    (request : Request) (id : String) (own : List Record) (response : Message) : Prop :=
  ∃ query ctx synth rule names extra, request.message.queries = [query] ∧
    Posed pool query ctx ∧ synth ∈ handler.chain.synths ∧ synth.id = id ∧
    response = sendSynthesized request (own ++ extra) ∧
    (∀ record ∈ own, Origin pool nat64Prefix ctx synth rule names record) ∧
    extra.length ≤ 1 ∧ ∀ record ∈ extra, id ≠ "nat64" ∧
      handler.chain.nat64Fallback.isSome = true ∧ Translated pool nat64Prefix ctx record

/-- A response is the chain's where the chain has a winner, and else an error or a reply
handed on. -/
def Rooted (handler : Dns64Handler text) (pool : Pool.State) (nat64Prefix : Ipv6Addr)
    (h : Handling text) (response : Message) : Prop :=
  match h.winner with
  | some (id, own) => Chained handler pool nat64Prefix h.request id own response
  | none => (∃ code, response = serveError h.request code) ∨
      ∃ reply, response = relay h.request reply

/-- What is known of a request where it stands. -/
def Stands (handler : Dns64Handler text) (pool : Pool.State) (nat64Prefix : Ipv6Addr)
    (h : Handling text) : Prop :=
  match h.place with
  | .received => h.winner = none
  | .gating query | .observing query | .joining query =>
      h.winner = none ∧ h.request.message.queries = [query]
  | .trying query _ _ ctx rest =>
      h.winner = none ∧ h.request.message.queries = [query] ∧ Posed pool query ctx ∧
        ∀ synth ∈ rest, synth ∈ handler.chain.synths
  | .won query _ ctx id own =>
      h.winner = some (id, own) ∧ h.request.message.queries = [query] ∧ Posed pool query ctx ∧
        ∃ synth rule names, synth ∈ handler.chain.synths ∧ synth.id = id ∧
          ∀ record ∈ own, Origin pool nat64Prefix ctx synth rule names record
  | .closing _ response _ | .decided response _ | .finished response =>
      Rooted handler pool nat64Prefix h response

/-- What the lookups of the chain returned, the upstreams told. -/
def Informs {World : Type} (pool : Pool.State) : Place text → Event World → Prop
  | .joining query, .joined aaaaRes _ aRes => (∀ aaaa ∈ aaaaRes, Told pool query aaaa) ∧
      ∀ a ∈ aRes, Told pool (aOf query.name) a
  | .trying _ _ _ ctx (synth :: _), .tried resolve world =>
      ∀ plan, synth.detect ctx = .ok (some plan) →
        ∀ found ∈ (resolveAll resolve plan.resolve world).1,
          ∃ reference ∈ plan.resolve, Attested pool (aaaaOf reference) (.AAAA found.1)
  | _, _ => True

theorem Rooted.grow {after : Pool.State} {response : Message}
    (grows : ∀ reply ∈ pool.replies, reply ∈ after.replies)
    (rooted : Rooted handler pool nat64Prefix h response) :
    Rooted handler after nat64Prefix h response := by
  unfold Rooted at rooted ⊢
  cases won : h.winner with
  | none =>
      rw [won] at rooted
      exact rooted
  | some pair =>
      rw [won] at rooted
      obtain ⟨query, ctx, synth, rule, names, extra, single, posed, listed, named, same, own, few,
        behind⟩ := rooted
      refine ⟨query, ctx, synth, rule, names, extra, single, posed.grow grows, listed, named, same,
        ?_, few, ?_⟩
      · exact fun record inside => (own record inside).grow grows
      · intro record inside
        obtain ⟨other, there, translated⟩ := behind record inside
        exact ⟨other, there, translated.grow grows⟩

theorem Stands.grow {after : Pool.State} (grows : ∀ reply ∈ pool.replies, reply ∈ after.replies)
    (stands : Stands handler pool nat64Prefix h) : Stands handler after nat64Prefix h := by
  unfold Stands at stands ⊢
  cases placed : h.place with
  | received =>
      simp only [placed] at stands
      exact stands
  | gating query | observing query | joining query =>
      simp only [placed] at stands
      exact stands
  | trying query aaaa cache ctx rest =>
      simp only [placed] at stands
      obtain ⟨none, single, posed, rest⟩ := stands
      exact ⟨none, single, posed.grow grows, rest⟩
  | won query cache ctx id own =>
      simp only [placed] at stands
      obtain ⟨some, single, posed, synth, rule, names, listed, named, origins⟩ := stands
      exact ⟨some, single, posed.grow grows, synth, rule, names, listed, named,
        fun record inside => (origins record inside).grow grows⟩
  | closing query response obs | decided response due | finished response =>
      simp only [placed] at stands
      exact stands.grow grows

/-- A hit, with the plan that made its records. -/
theorem attempt_won {World : Type} (query : Query) (aaaa : Message) (cache : CacheStatus)
    (ctx : SynthContext text) (synth : Synthesizer text) (rest : List (Synthesizer text))
    (resolve : Resolver World) (world : World) (id : String) (records : List Record)
    (taken : h.attempt handler query aaaa cache ctx synth rest resolve world = some progress)
    (won : progress.handling.place = .won query cache ctx id records) :
    id = synth.id ∧ ∃ plan ttl, synth.detect ctx = .ok (some plan) ∧
      records = (passing plan (resolveAll resolve plan.resolve world).1 ctx).map
        (aaaaRecord ctx.name ttl) := by
  unfold Handling.attempt at taken
  split at taken
  · cases taken
  · cases taken
    cases won
  · rename_i plan detects
    split at taken
    · rename_i made ran
      cases taken
      simp only [Handling.counting, Place.won.injEq, true_and] at won
      obtain ⟨rfl, rfl⟩ := won
      simp only [Chain.runPlan] at ran
      split at ran
      · cases ran
      · cases ran
        exact ⟨rfl, plan, _, detects, rfl⟩
    · cases taken
      cases won

/-- One step of a request. -/
theorem stands_next {World : Type} (traceable : Traceable handler.chain nat64Prefix)
    (event : Event World) (stands : Stands handler pool nat64Prefix h)
    (informs : Informs pool h.place event) (taken : h.next handler event = some progress) :
    Stands handler pool nat64Prefix progress.handling := by
  have moved := RequestRuns.next_moved h event progress taken
  cases moved with
  | malformed code placed unfit =>
      simp only [Stands, placed] at stands
      simp only [Stands, Handling.counting, Rooted, stands]
      exact .inl ⟨code, rfl⟩
  | received query placed fit asked =>
      simp only [Stands, placed] at stands
      exact ⟨stands, asked⟩
  | refused query placed sent | blocked query placed sent =>
      simp only [Stands, placed] at stands
      simp only [Stands, Handling.counting, Rooted, stands.1]
      exact .inl ⟨_, rfl⟩
  | routed query placed sent | passedOn query placed sent =>
      simp only [Stands, placed] at stands
      exact stands
  | failed query cache aRes placed | unanswered query cache placed =>
      simp only [Stands, placed] at stands
      simp only [Stands, Handling.counting, Rooted, stands.1]
      exact .inl ⟨.ServFail, rfl⟩
  | native query aaaa cache aRes placed | missing query aaaa cache aRes placed
  | errored query aaaa cache aRes placed | relayed query aaaa cache placed =>
      simp only [Stands, placed] at stands
      simp only [Stands, Handling.counting, Rooted, stands.1]
      exact .inr ⟨aaaa, rfl⟩
  | nodata query aaaa cache aRes placed hasNo code =>
      simp only [Stands, placed] at stands
      simp only [Informs, placed] at informs
      refine ⟨stands.1, stands.2, ?_, fun synth listed => listed⟩
      exact ⟨aaaa, aRes, informs.1 aaaa rfl, code, hasNo, informs.2, rfl⟩
  | missed query aaaa cache ctx synth rest resolve world placed =>
      simp only [Stands, placed] at stands
      obtain ⟨none, single, posed, there⟩ := stands
      exact ⟨none, single, posed,
        fun other later => there other (List.mem_cons_of_mem synth later)⟩
  | hit query aaaa cache ctx synth rest resolve world records placed some_ =>
      simp only [Stands, placed] at stands
      simp only [Informs, placed] at informs
      obtain ⟨none, single, posed, there⟩ := stands
      simp only [Handling.next, placed] at taken
      obtain ⟨_, plan, ttl, detected, made⟩ :=
        attempt_won query aaaa cache ctx synth rest resolve world synth.id records taken rfl
      have inside := there synth List.mem_cons_self
      obtain ⟨rule, names, origins⟩ := plan_origin nat64Prefix ctx synth
        (traceable.made synth inside) plan detected (posed_informed posed).2 _
        (informs plan detected) ttl
      refine ⟨rfl, single, posed, synth, rule, names, inside, rfl, ?_⟩
      rw [made]
      intro record listed
      obtain ⟨addr, passes, rfl⟩ := List.mem_map.mp listed
      exact origins addr passes
  | empty query aaaa cache ctx placed =>
      simp only [Stands, placed] at stands
      simp only [Stands, Handling.counting, Rooted, stands.1]
      exact .inr ⟨aaaa, rfl⟩
  | appended query cache ctx id records extra resolve world placed =>
      simp only [Stands, placed] at stands
      obtain ⟨some, single, posed, synth, rule, names, listed, named, origins⟩ := stands
      simp only [Handling.next, placed, Option.some.injEq] at taken
      rw [← taken]
      obtain ⟨few, behind⟩ := appended_origin handler.chain nat64Prefix resolve ctx id world
        traceable.base (posed_informed posed).2
      simp only [Stands, Handling.counting, Rooted, some]
      exact ⟨query, ctx, synth, rule, names, _, single, posed, listed, named, rfl, origins, few,
        behind⟩
  | counted query response obs placed =>
      simp only [Stands, placed] at stands
      exact stands
  | finished response due placed =>
      simp only [Stands, placed] at stands
      exact stands

end Requests

/-! The whole server. -/
section Server
variable {config : Config} {handler : Dns64Handler text}

/-- The lookups of a plan are those of its references, in their order. -/
theorem references_told {pool : Pool.State} (names : List Name)
    (answers : List (Option Message × CacheStatus))
    (heeded : List.Forall₂ (Heeds pool) (names.map referenceQuery) answers) :
    List.Forall₂ (fun name answer => ∀ resp ∈ answer, Told pool (aaaaOf name) resp) names
      (answers.map Prod.fst) := by
  rw [List.forall₂_map_left_iff] at heeded
  rw [List.forall₂_map_right_iff]
  refine heeded.imp fun name answer told resp same => ?_
  exact told (aaaaOf name) resp rfl same

theorem heeded_informs (state : State text) (h : Handling text)
    (answers : List (Option Message × CacheStatus)) (event : Event (List (Option Message)))
    (heeded : List.Forall₂ (Heeds state.pool) (wants handler h) answers)
    (heard : eventFor h.place answers = some event) : Informs state.pool h.place event := by
  cases placed : h.place with
  | joining query =>
      rw [placed] at heard
      cases event with
      | joined aaaaRes cache aRes =>
          obtain ⟨plain, rfl⟩ := heard_joined heard
          simp only [wants, placed] at heeded
          obtain ⟨first, rest⟩ := List.forall₂_cons.mp heeded
          have second := (List.forall₂_cons.mp rest).1
          exact ⟨fun aaaa same => first query aaaa rfl same,
            fun a same => second (aOf query.name) a rfl same⟩
      | _ => trivial
  | trying query aaaa cache ctx rest =>
      cases rest with
      | nil => trivial
      | cons synth rest =>
          rw [placed] at heard
          cases heard
          intro plan planned
          have named : wants handler h = plan.resolve.map referenceQuery := by
            simp only [wants, placed, detected, planned, references, Option.elim_some]
          rw [named] at heeded
          exact references_attested plan.resolve _ (references_told plan.resolve answers heeded)
  | _ => trivial

theorem reachable_stands {nat64Prefix : Ipv6Addr} (traceable : Traceable handler.chain nat64Prefix)
    (metrics : Counters.Metrics) (actions : List Action) (after : State text)
    (run : Run (step config handler) anyAction (State.new text config metrics) actions after) :
    ∀ (r : Nat) (h : Handling text), after.requests.handlings[r]? = some h →
      Stands handler after.pool nat64Prefix h := by
  refine run_history (motive := fun _ (state : State text) =>
    ∀ (r : Nat) (h : Handling text), state.requests.handlings[r]? = some h →
      Stands handler state.pool nat64Prefix h) ?_ ?_ run
  · intro r h impossible
    cases impossible
  intro front action before after begun stands _ taken r h present
  cases step_moved action before after taken with
  | pooled inside moved => exact (stands r h present).grow (log_kept _ _ _ moved)
  | arrived request =>
      obtain old | ⟨_, rfl⟩ := joined_cases present
      · exact stands r h old
      · rfl
  | asked found wanted turn called => exact (stands r h present).grow (log_kept _ _ _ called)
  | @advanced id other answers event progress found complete answered heard next =>
      obtain ⟨rfl, rfl⟩ | ⟨_, old⟩ :=
        replaced_cases (List.getElem?_eq_some_iff.mp found).1 present
      · obtain ⟨inner, pooled, _, _⟩ := pool_run metrics front before begun
        have sound := (reachable_sound config anyAction inner before.pool pooled).2
        have heeded := answers_heeded before r other answers sound
          (linked_run metrics front before begun) (reachable_transcribed metrics front before begun)
          found complete ((all_returned _ _ _).mp answered)
        exact stands_next traceable event (stands r other found)
          (heeded_informs before other answers event heeded heard) next
      · exact stands r h old

theorem built_traceable (ids : List String) (nat64Prefix : Ipv6Addr) (ttlCap : Option Nat)
    (nat64Fallback : Bool) (chain : Chain text)
    (built : Chain.build text ids nat64Prefix ttlCap nat64Fallback = .ok chain) :
    Traceable chain nat64Prefix := by
  have spec := build_built ids nat64Prefix ttlCap nat64Fallback chain built
  refine ⟨spec.made, ?_⟩
  intro nat64 held
  rw [spec.fallback] at held
  split at held
  · cases held
    rfl
  · cases held

end Server

/-- One request for a name that has an A record only. -/
def synthesizedActions : List Action :=
  [.arrive Conservation.sampleRequest, .advance 0, .advance 0, .ask 0, .ask 0,
    .pool (.advance 0), .pool (.advance 1), .pool (.advance 1), .pool (.advance 0),
    .pool (.reply 0 (some sampleNodata)), .pool (.advance 0), .pool (.advance 0),
    .pool (.reply 1 (some (sampleAddress 300 (v4 23 227 38 10)))), .pool (.advance 1),
    .pool (.advance 1), .advance 0, .advance 0, .advance 0, .advance 0, .advance 0]

end Dnsix.Origins
