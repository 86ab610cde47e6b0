import Dnsix.SynthChain

/-!
What a chain answers. A synthesizer yields its plan's passing addresses, in the
world its lookups find; the chain answers with the first one that yields any, and
with nothing when none does.
-/

namespace Dnsix.ChainContract
open Address Ascii Cdn Counters Dns FirstAnswer Panics Synth SynthChain

variable {text : NameText} {World : Type}

/-- A synthesizer that does not apply yields no address; one that does yields what
its plan makes of the lookups. -/
inductive Yields (resolve : Resolver World) (ctx : SynthContext text) :
    Synthesizer text → World → List Ipv6Addr → World → Prop
  | silent (synth : Synthesizer text) (world : World) (declined : synth.detect ctx = .ok none) :
      Yields resolve ctx synth world [] world
  | planned (synth : Synthesizer text) (world : World) (plan : Plan)
      (detected : synth.detect ctx = .ok (some plan)) :
      Yields resolve ctx synth world
        (passing plan (resolveAll resolve plan.resolve world).1 ctx)
        (resolveAll resolve plan.resolve world).2

/-- Synthesizers that all yield nothing, one after the other. -/
inductive Fruitless (resolve : Resolver World) (ctx : SynthContext text) :
    List (Synthesizer text) → World → World → Prop
  | nil (world : World) : Fruitless resolve ctx [] world world
  | cons (synth : Synthesizer text) (rest : List (Synthesizer text)) (world middle after : World)
      (nothing : Yields resolve ctx synth world [] middle)
      (others : Fruitless resolve ctx rest middle after) :
      Fruitless resolve ctx (synth :: rest) world after

/-- The NAT64 plan has a passing address. It looks nothing up. -/
def NatYields (nat64 : Nat64) (ctx : SynthContext text) : Prop :=
  ∃ plan, nat64.plan ctx = some plan ∧ passing plan [] ctx ≠ []

/-- The first A address whose embedding passes. -/
def firstEmbedded (nat64 : Nat64) (ctx : SynthContext text) : Option Ipv4Addr :=
  (eligibleAddresses text ctx.name ctx.aAddrs).find? fun ip =>
    isGlobalUnicastV6 (embed nat64.base ip)

/-! Building. -/
section Build

theorem make_synthesizer_id (id : String) (nat64Prefix : Ipv6Addr) (synth : Synthesizer text)
    (made : makeSynthesizer text id nat64Prefix = some synth) : synth.id = id := by
  unfold makeSynthesizer at made
  split at made
  · cases made
    rfl
  · exact make_id _ synth made

theorem make_synthesizer_known (id : String) (nat64Prefix : Ipv6Addr) (synth : Synthesizer text)
    (made : makeSynthesizer text id nat64Prefix = some synth) : knownIds.contains id = true := by
  unfold makeSynthesizer at made
  split at made
  · decide
  · unfold make at made
    split at made
    all_goals first | decide | cases made

theorem make_synthesizer_completes (accepts : AcceptsConstants text) (id : String)
    (nat64Prefix : Ipv6Addr) (synth : Synthesizer text)
    (made : makeSynthesizer text id nat64Prefix = some synth) (ctx : SynthContext text) :
    Completes (synth.detect ctx) := by
  unfold makeSynthesizer at made
  split at made
  · cases made
    exact completes_ok _
  · exact make_completes accepts _ synth made ctx

/-- The synthesizers are the ones of the ids, in their order. -/
theorem make_all_made (nat64Prefix : Ipv6Addr) (ids : List String)
    (synths : List (Synthesizer text)) (made : makeAll text nat64Prefix ids = .ok synths) :
    synths.map Synthesizer.id = ids ∧
      ∀ synth ∈ synths, makeSynthesizer text synth.id nat64Prefix = some synth := by
  induction ids generalizing synths with
  | nil =>
      cases made
      exact ⟨rfl, fun _ listed => nomatch listed⟩
  -- An unknown id ends the build; a known one goes before the rest.
  | cons id rest ih =>
      cases found : makeSynthesizer text id nat64Prefix with
      | none =>
          rw [makeAll, found] at made
          cases made
      | some synth =>
          rw [makeAll, found] at made
          cases others : makeAll text nat64Prefix rest with
          | error reason =>
              rw [others] at made
              cases made
          | ok more =>
              rw [others] at made
              cases made
              rcases ih more others with ⟨named, listed⟩
              have same := make_synthesizer_id id nat64Prefix synth found
              constructor
              · rw [List.map_cons, same, named]
              · intro other present
                rcases List.mem_cons.mp present with rfl | later
                · rw [same]
                  exact found
                · exact listed other later

structure Built (ids : List String) (nat64Prefix : Ipv6Addr) (ttlCap : Option Nat)
    (nat64Fallback : Bool) (chain : Chain text) : Prop where
  named : chain.synths.map Synthesizer.id = ids
  made : ∀ synth ∈ chain.synths, makeSynthesizer text synth.id nat64Prefix = some synth
  cap : chain.ttlCap = ttlCap
  fallback : chain.nat64Fallback =
    if nat64Fallback = true ∧ "nat64" ∈ ids then some ⟨nat64Prefix⟩ else none

theorem build_built (ids : List String) (nat64Prefix : Ipv6Addr) (ttlCap : Option Nat)
    (nat64Fallback : Bool) (chain : Chain text)
    (accepted : Chain.build text ids nat64Prefix ttlCap nat64Fallback = .ok chain) :
    Built ids nat64Prefix ttlCap nat64Fallback chain := by
  cases ordered : validateOrder ids with
  | error reason =>
      rw [Chain.build, ordered] at accepted
      cases accepted
  | ok _ =>
      cases all : makeAll text nat64Prefix ids with
      | error reason =>
          rw [Chain.build, ordered, all] at accepted
          cases accepted
      | ok synths =>
          rw [Chain.build, ordered, all] at accepted
          cases accepted
          rcases make_all_made nat64Prefix ids synths all with ⟨named, made⟩
          exact ⟨named, made, rfl, by simp⟩

/-- Every id of an accepted chain is known, so each of them is counted. -/
theorem built_counted (ids : List String) (nat64Prefix : Ipv6Addr) (ttlCap : Option Nat)
    (nat64Fallback : Bool) (chain : Chain text)
    (built : Built ids nat64Prefix ttlCap nat64Fallback chain) :
    (Metrics.new ids).synthIds = ids := by
  refine List.filter_eq_self.mpr fun id listed => ?_
  rw [← built.named] at listed
  rcases List.mem_map.mp listed with ⟨synth, present, rfl⟩
  exact make_synthesizer_known _ nat64Prefix synth (built.made synth present)

end Build

/-! Running a plan. -/
section Plans

/-- The TTL every record of one plan carries. -/
def planTtl (chain : Chain text) (resolve : Resolver World) (plan : Plan)
    (ctx : SynthContext text) (world : World) : Nat :=
  cappedTtl (baseTtl ctx (resolveAll resolve plan.resolve world).1) chain.ttlCap

theorem run_plan_empty (chain : Chain text) (resolve : Resolver World) (plan : Plan)
    (ctx : SynthContext text) (world : World)
    (empty : passing plan (resolveAll resolve plan.resolve world).1 ctx = []) :
    chain.runPlan resolve plan ctx world = (none, (resolveAll resolve plan.resolve world).2) := by
  simp [Chain.runPlan, empty]

theorem run_plan_records (chain : Chain text) (resolve : Resolver World) (plan : Plan)
    (ctx : SynthContext text) (world : World)
    (fruitful : passing plan (resolveAll resolve plan.resolve world).1 ctx ≠ []) :
    chain.runPlan resolve plan ctx world =
      (some ((passing plan (resolveAll resolve plan.resolve world).1 ctx).map
        (aaaaRecord ctx.name (planTtl chain resolve plan ctx world))),
        (resolveAll resolve plan.resolve world).2) := by
  simp [Chain.runPlan, fruitful, planTtl]

theorem capped_le (ttl : Nat) (limit : Option Nat) (cap : Nat) (set : limit = some cap) :
    cappedTtl ttl limit ≤ cap := by
  rw [set]
  exact Nat.min_le_right ttl cap

theorem capped_le_ttl (ttl : Nat) (cap : Option Nat) : cappedTtl ttl cap ≤ ttl := by
  cases cap with
  | none => exact Nat.le_refl _
  | some c => exact Nat.min_le_left ttl c

end Plans

/-! The appended record. -/
section Appended

theorem nat64_plan_some (nat64 : Nat64) (ctx : SynthContext text) (plan : Plan)
    (planned : nat64.plan ctx = some plan) :
    plan.resolve = [] ∧ ∀ found, passing plan found ctx =
      ((eligibleAddresses text ctx.name ctx.aAddrs).map (embed nat64.base)).filter
        isGlobalUnicastV6 := by
  unfold Nat64.plan at planned
  split at planned
  · cases planned
  · cases planned
    exact ⟨rfl, fun _ => rfl⟩

theorem nat64_passing_head (nat64 : Nat64) (ctx : SynthContext text) (plan : Plan)
    (planned : nat64.plan ctx = some plan) (found : List (Ipv6Addr × Nat)) :
    (passing plan found ctx).head? = (firstEmbedded nat64 ctx).map (embed nat64.base) := by
  rw [(nat64_plan_some nat64 ctx plan planned).2 found, List.filter_map, List.head?_map,
    List.head?_filter]
  rfl

/-- Without A records there is no plan, and nothing to embed. -/
theorem nat64_unplanned (nat64 : Nat64) (ctx : SynthContext text)
    (unplanned : nat64.plan ctx = none) : firstEmbedded nat64 ctx = none := by
  unfold Nat64.plan at unplanned
  split at unplanned
  · rename_i empty
    have none : ctx.aAddrs = [] := by
      rw [SynthContext.aAddrs, List.isEmpty_iff.mp empty, List.map_nil]
    simp [firstEmbedded, eligibleAddresses, none]
  · cases unplanned

theorem nat_yields_iff (nat64 : Nat64) (ctx : SynthContext text) :
    NatYields nat64 ctx ↔ firstEmbedded nat64 ctx ≠ none := by
  constructor
  · rintro ⟨plan, planned, nonempty⟩ missing
    have head := nat64_passing_head nat64 ctx plan planned []
    rw [missing, Option.map_none, List.head?_eq_none_iff] at head
    exact nonempty head
  · intro present
    cases planned : nat64.plan ctx with
    | none => exact absurd (nat64_unplanned nat64 ctx planned) present
    | some plan =>
        refine ⟨plan, planned, fun empty => present ?_⟩
        have head := nat64_passing_head nat64 ctx plan planned []
        rw [empty, List.head?_nil, eq_comm, Option.map_eq_none_iff] at head
        exact head

/-- What goes behind a provider's records: the first passing embedding, if the
fallback is there for it. The pool is left alone. -/
theorem appended_spec (chain : Chain text) (resolve : Resolver World) (ctx : SynthContext text)
    (id : String) (world : World) :
    chain.appended resolve ctx id world =
      ((if id = "nat64" then []
        else chain.nat64Fallback.toList.flatMap fun nat64 =>
          ((firstEmbedded nat64 ctx).map fun ip =>
            aaaaRecord ctx.name (cappedTtl (baseTtl ctx []) chain.ttlCap)
              (embed nat64.base ip)).toList), world) := by
  by_cases won : id = "nat64"
  · simp [Chain.appended, won]
  cases fallback : chain.nat64Fallback with
  | none => simp [Chain.appended, won, fallback]
  | some nat64 =>
      cases planned : nat64.plan ctx with
      | none =>
          simp [Chain.appended, won, fallback, planned, nat64_unplanned nat64 ctx planned]
      | some plan =>
          have alone := (nat64_plan_some nat64 ctx plan planned).1
          have head := nat64_passing_head nat64 ctx plan planned []
          -- The translator resolves nothing, so the pool stays as the winner left it.
          have looked : resolveAll resolve plan.resolve world = ([], world) := by
            rw [alone]
            rfl
          by_cases empty : passing plan [] ctx = []
          · have nothing := run_plan_empty chain resolve plan ctx world
              (by rw [looked]; exact empty)
            rw [empty, List.head?_nil, eq_comm, Option.map_eq_none_iff] at head
            simp [Chain.appended, won, fallback, planned, nothing, looked, head]
          · have records := run_plan_records chain resolve plan ctx world
              (by rw [looked]; exact empty)
            rw [planTtl, looked] at records
            simp [Chain.appended, won, fallback, planned, records, head, List.head?_map,
              Option.map_map, Function.comp_def]

end Appended

/-! The loop. -/
section Loop

theorem attempt_declined (chain : Chain text) (resolve : Resolver World)
    (ctx : SynthContext text) (synth : Synthesizer text) (env : Env World)
    (declined : synth.detect ctx = .ok none) :
    chain.attempt resolve ctx synth env = .ok (none, env) := by
  rw [Chain.attempt, declined]
  rfl

theorem attempt_fruitless (chain : Chain text) (resolve : Resolver World)
    (ctx : SynthContext text) (synth : Synthesizer text) (env : Env World) (plan : Plan)
    (detected : synth.detect ctx = .ok (some plan))
    (empty : passing plan (resolveAll resolve plan.resolve env.world).1 ctx = []) :
    chain.attempt resolve ctx synth env =
      .ok (none, { env with world := (resolveAll resolve plan.resolve env.world).2 }) := by
  have ran := run_plan_empty chain resolve plan ctx env.world empty
  rw [Chain.attempt, detected]
  simp only [bind, Except.bind, ran]

theorem attempt_won (chain : Chain text) (resolve : Resolver World)
    (ctx : SynthContext text) (synth : Synthesizer text) (env : Env World) (plan : Plan)
    (detected : synth.detect ctx = .ok (some plan))
    (fruitful : passing plan (resolveAll resolve plan.resolve env.world).1 ctx ≠ []) :
    chain.attempt resolve ctx synth env =
      .ok (some
        ((passing plan (resolveAll resolve plan.resolve env.world).1 ctx).map
          (aaaaRecord ctx.name (planTtl chain resolve plan ctx env.world)) ++
          (chain.appended resolve ctx synth.id env.world).1, synth.id),
        ⟨(resolveAll resolve plan.resolve env.world).2, env.metrics.synthHit synth.id⟩) := by
  have ran := run_plan_records chain resolve plan ctx env.world fruitful
  rw [Chain.attempt, detected]
  simp only [bind, Except.bind, ran, appended_spec]

/-- An attempt that completes answers nothing exactly when its synthesizer yields
nothing, and then only the pool has changed. -/
theorem attempt_none_iff (chain : Chain text) (resolve : Resolver World)
    (ctx : SynthContext text) (synth : Synthesizer text) (env after : Env World) :
    chain.attempt resolve ctx synth env = .ok (none, after) ↔
      Yields resolve ctx synth env.world [] after.world ∧ after.metrics = env.metrics := by
  constructor
  · intro returned
    cases detected : synth.detect ctx with
    | error panic =>
        rw [Chain.attempt, detected] at returned
        cases returned
    | ok found =>
        cases found with
        | none =>
            rw [attempt_declined chain resolve ctx synth env detected] at returned
            cases returned
            exact ⟨.silent synth env.world detected, rfl⟩
        | some plan =>
            have planned : Yields resolve ctx synth env.world _ _ :=
              .planned synth env.world plan detected
            by_cases empty : passing plan (resolveAll resolve plan.resolve env.world).1 ctx = []
            · rw [attempt_fruitless chain resolve ctx synth env plan detected empty] at returned
              cases returned
              rw [empty] at planned
              exact ⟨planned, rfl⟩
            · rw [attempt_won chain resolve ctx synth env plan detected empty] at returned
              cases returned
  · rintro ⟨yields, counted⟩
    rcases after with ⟨world, metrics⟩
    dsimp only at yields counted
    subst metrics
    -- Either it declined, or its plan left nothing after the filter.
    generalize empty : ([] : List Ipv6Addr) = addrs at yields
    cases yields with
    | silent declined => exact attempt_declined chain resolve ctx synth env declined
    | planned plan detected =>
        exact attempt_fruitless chain resolve ctx synth env plan detected empty.symm

theorem barren_iff_fruitless (chain : Chain text) (resolve : Resolver World)
    (ctx : SynthContext text) (synths : List (Synthesizer text)) (env after : Env World) :
    Barren (chain.attempt resolve ctx) synths env after ↔
      Fruitless resolve ctx synths env.world after.world ∧ after.metrics = env.metrics := by
  constructor
  · intro barren
    induction barren with
    | nil env => exact ⟨.nil env.world, rfl⟩
    | cons synth rest env middle after nothing _ ih =>
        rcases (attempt_none_iff chain resolve ctx synth env middle).mp nothing with
          ⟨yields, counted⟩
        exact ⟨.cons synth rest _ _ _ yields ih.1, ih.2.trans counted⟩
  · rintro ⟨fruitless, counted⟩
    rcases env with ⟨start, metrics⟩
    rcases after with ⟨stop, same⟩
    dsimp only at fruitless counted
    subst same
    -- On the barren synthesizers: the counters pass through each of them.
    induction fruitless with
    | nil world => exact .nil _
    | cons synth rest world middle after nothing _ ih =>
        refine .cons synth rest _ ⟨middle, metrics⟩ _ ?_ ih
        exact (attempt_none_iff chain resolve ctx synth _ _).mpr ⟨nothing, rfl⟩

theorem attempt_completes (chain : Chain text) (resolve : Resolver World)
    (ctx : SynthContext text) (synth : Synthesizer text) (env : Env World)
    (completes : Completes (synth.detect ctx)) :
    Completes (chain.attempt resolve ctx synth env) := by
  rcases completes with ⟨found, detected, _⟩
  cases found with
  | none => exact ⟨_, attempt_declined chain resolve ctx synth env detected, trivial⟩
  | some plan =>
      by_cases empty : passing plan (resolveAll resolve plan.resolve env.world).1 ctx = []
      · exact ⟨_, attempt_fruitless chain resolve ctx synth env plan detected empty, trivial⟩
      · exact ⟨_, attempt_won chain resolve ctx synth env plan detected empty, trivial⟩

/-- An attempt that answers is the synthesizer's plan run, with the fallback behind. -/
theorem attempt_answers (chain : Chain text) (resolve : Resolver World)
    (ctx : SynthContext text) (synth : Synthesizer text) (env after : Env World)
    (records : List Record) (id : String)
    (won : chain.attempt resolve ctx synth env = .ok (some (records, id), after)) :
    ∃ plan, synth.detect ctx = .ok (some plan) ∧
      passing plan (resolveAll resolve plan.resolve env.world).1 ctx ≠ [] ∧
      records = (passing plan (resolveAll resolve plan.resolve env.world).1 ctx).map
        (aaaaRecord ctx.name (planTtl chain resolve plan ctx env.world)) ++
        (chain.appended resolve ctx synth.id env.world).1 ∧
      id = synth.id ∧ after.world = (resolveAll resolve plan.resolve env.world).2 ∧
      after.metrics = env.metrics.synthHit synth.id := by
  cases detected : synth.detect ctx with
  | error panic =>
      rw [Chain.attempt, detected] at won
      cases won
  | ok found =>
      cases found with
      | none =>
          rw [attempt_declined chain resolve ctx synth env detected] at won
          cases won
      | some plan =>
          by_cases empty : passing plan (resolveAll resolve plan.resolve env.world).1 ctx = []
          · rw [attempt_fruitless chain resolve ctx synth env plan detected empty] at won
            cases won
          · rw [attempt_won chain resolve ctx synth env plan detected empty] at won
            cases won
            exact ⟨plan, rfl, empty, rfl, rfl, rfl, rfl⟩

/-- The chain of an accepted configuration always answers. -/
theorem built_completes (ids : List String) (nat64Prefix : Ipv6Addr) (ttlCap : Option Nat)
    (nat64Fallback : Bool) (chain : Chain text)
    (built : Built ids nat64Prefix ttlCap nat64Fallback chain) (accepts : AcceptsConstants text)
    (resolve : Resolver World) (ctx : SynthContext text) (env : Env World) :
    Completes (chain.synthesize resolve ctx env) := by
  refine first_answer_completes _ _ fun synth listed env => ?_
  refine attempt_completes chain resolve ctx synth env ?_
  exact make_synthesizer_completes accepts _ _ synth (built.made synth listed) ctx

/-- An answer goes back to one synthesizer's plan, after others that yielded nothing. -/
theorem synthesize_won (chain : Chain text) (resolve : Resolver World) (ctx : SynthContext text)
    (env after : Env World) (records : List Record) (id : String)
    (answered : chain.synthesize resolve ctx env = .ok (some (records, id), after)) :
    ∃ before winner rest world plan, chain.synths = before ++ winner :: rest ∧
      Fruitless resolve ctx before env.world world ∧ winner.id = id ∧
      winner.detect ctx = .ok (some plan) ∧
      passing plan (resolveAll resolve plan.resolve world).1 ctx ≠ [] ∧
      records = (passing plan (resolveAll resolve plan.resolve world).1 ctx).map
        (aaaaRecord ctx.name (planTtl chain resolve plan ctx world)) ++
        (chain.appended resolve ctx id world).1 ∧
      after.world = (resolveAll resolve plan.resolve world).2 ∧
      after.metrics = env.metrics.synthHit id := by
  rcases (first_answer_some_iff _ _ _ _).mp answered with
    ⟨before, winner, rest, middle, split, barren, won⟩
  rcases (barren_iff_fruitless chain resolve ctx before env middle).mp barren with
    ⟨fruitless, unchanged⟩
  rcases attempt_answers chain resolve ctx winner middle after records id won with
    ⟨plan, detected, fruitful, made, rfl, moved, counted⟩
  rw [unchanged] at counted
  exact ⟨before, winner, rest, middle.world, plan, split, fruitless, rfl, detected, fruitful, made,
    moved, counted⟩

end Loop

/-- The first of the synthesizers whose plan yields a passing address, with the
addresses it yields and the world its lookups leave. -/
def FirstFruitful (resolve : Resolver World) (ctx : SynthContext text)
    (synths : List (Synthesizer text)) (world : World) (winner : Synthesizer text)
    (addrs : List Ipv6Addr) (after : World) : Prop :=
  ∃ before rest middle, synths = before ++ winner :: rest ∧
    Fruitless resolve ctx before world middle ∧
    Yields resolve ctx winner middle addrs after ∧ addrs ≠ []

/-- The configuration a chain was built from. -/
structure Settings where
  ids : List String
  nat64Prefix : Ipv6Addr
  ttlCap : Option Nat
  nat64Fallback : Bool

def Settings.build (settings : Settings) : Except BuildError (Chain text) :=
  Chain.build text settings.ids settings.nat64Prefix settings.ttlCap settings.nat64Fallback

/-- What is promised of an answer: the winner's addresses at the queried name, then
at most one translated address, and the winner's hit counted. -/
structure Answers (settings : Settings) (resolve : Resolver World) (ctx : SynthContext text)
    (synths : List (Synthesizer text)) (env after : Env World) (records : List Record)
    (id : String) (winner : Synthesizer text) (addrs : List Ipv6Addr) (ttl : Nat)
    (extra : List Record) : Prop where
  first : FirstFruitful resolve ctx synths env.world winner addrs after.world
  named : winner.id = id
  records : records = addrs.map (aaaaRecord ctx.name ttl) ++ extra
  capped : ∀ cap, settings.ttlCap = some cap → ttl ≤ cap
  single : extra.length ≤ 1
  present : extra ≠ [] ↔ settings.nat64Fallback = true ∧ "nat64" ∈ settings.ids ∧ id ≠ "nat64" ∧
    NatYields ⟨settings.nat64Prefix⟩ ctx
  embedded : ∀ record ∈ extra, ∃ ip ttl, firstEmbedded ⟨settings.nat64Prefix⟩ ctx = some ip ∧
    record = aaaaRecord ctx.name ttl (embed settings.nat64Prefix ip) ∧
    ∀ cap, settings.ttlCap = some cap → ttl ≤ cap
  counted : after.metrics = env.metrics.synthHit id
  hits : ∀ other, after.metrics.hits other = env.metrics.hits other + if other = id then 1 else 0

/-- The appended records as the settings determine them. -/
theorem built_appended (settings : Settings) (chain : Chain text) (resolve : Resolver World)
    (ctx : SynthContext text) (id : String) (world : World)
    (built : Built settings.ids settings.nat64Prefix settings.ttlCap settings.nat64Fallback chain) :
    (chain.appended resolve ctx id world).1 =
      if settings.nat64Fallback = true ∧ "nat64" ∈ settings.ids ∧ id ≠ "nat64" then
        ((firstEmbedded ⟨settings.nat64Prefix⟩ ctx).map fun ip =>
          aaaaRecord ctx.name (cappedTtl (baseTtl ctx []) settings.ttlCap)
            (embed settings.nat64Prefix ip)).toList
      else [] := by
  rw [appended_spec, built.fallback, built.cap]
  by_cases won : id = "nat64"
  · simp [won]
  · by_cases enabled : settings.nat64Fallback = true ∧ "nat64" ∈ settings.ids
    · simp [won, enabled]
    · rw [if_neg enabled, if_neg won, if_neg fun all => enabled ⟨all.1, all.2.1⟩]
      rfl

theorem answers_of_synthesize (settings : Settings) (chain : Chain text)
    (resolve : Resolver World) (ctx : SynthContext text) (env after : Env World)
    (records : List Record) (id : String)
    (built : Built settings.ids settings.nat64Prefix settings.ttlCap settings.nat64Fallback chain)
    (tracked : env.metrics.synthIds = (Metrics.new settings.ids).synthIds)
    (answered : chain.synthesize resolve ctx env = .ok (some (records, id), after)) :
    ∃ winner addrs ttl extra,
      Answers settings resolve ctx chain.synths env after records id winner addrs ttl extra := by
  rcases synthesize_won chain resolve ctx env after records id answered with
    ⟨before, winner, rest, world, plan, split, fruitless, rfl, detected, fruitful, made, moved,
      counted⟩
  have yields : Yields resolve ctx winner world _ _ := .planned winner world plan detected
  rw [← moved] at yields
  rw [built_appended settings chain resolve ctx winner.id world built] at made
  have capped : ∀ ttl cap, settings.ttlCap = some cap → cappedTtl ttl settings.ttlCap ≤ cap :=
    fun ttl cap set => capped_le ttl _ cap set
  -- An id that is not tracked would not be counted.
  have listed : winner.id ∈ env.metrics.synthIds := by
    rw [tracked, built_counted _ _ _ _ chain built, ← built.named, split]
    exact List.mem_map_of_mem (List.mem_append_right _ List.mem_cons_self)
  refine ⟨winner, _, _, _, ⟨before, rest, world, split, fruitless, yields, fruitful⟩, rfl,
    made, ?_, ?_, ?_, ?_, counted, ?_⟩
  · intro cap set
    exact capped_le _ _ cap (built.cap.trans set)
  · split_ifs
    · exact Option.length_toList_le
    · exact Nat.zero_le _
  · rw [nat_yields_iff]
    split_ifs with enabled
    · simp [enabled]
    · constructor
      · intro impossible
        exact absurd rfl impossible
      · intro all
        exact absurd ⟨all.1, all.2.1, all.2.2.1⟩ enabled
  · intro record present
    split_ifs at present with enabled
    · rcases Option.mem_toList.mp present with found
      rcases Option.map_eq_some_iff.mp found with ⟨ip, first, same⟩
      exact ⟨ip, _, first, same.symm, capped _⟩
    · cases present
  · intro other
    rw [counted]
    exact synth_hit_hits env.metrics winner.id other listed

/-! A chain of two for concrete runs, with a pool that answers nothing. -/
def sampleSettings : Settings :=
  { ids := ["shopify", "nat64"], nat64Prefix := v6 0x64 0xff9b 0 0 0 0 0 0, ttlCap := none
    nat64Fallback := true }

def sampleChain : Chain plainText :=
  { synths := [shopify.synthesizer, (Nat64.mk sampleSettings.nat64Prefix).synthesizer]
    ttlCap := none
    nat64Fallback := some ⟨sampleSettings.nat64Prefix⟩ }

def silentPool : Resolver Unit := fun _ world => (none, world)

/-- `shop.example` with an address of the provider's range. -/
def sampleContext : SynthContext plainText :=
  .new plainText ⟨[[115, 104, 111, 112], [101, 120, 97, 109, 112, 108, 101]], true⟩ []
    [(v4 23 227 38 10, 300)] .default

def sampleEnv : Env Unit := ⟨(), .new sampleSettings.ids⟩

theorem plain_text_accepts : AcceptsConstants plainText := by
  intro domain listed
  have all : referenceDomains.all fun domain => (parseName plainText domain).isSome := by decide
  exact Option.isSome_iff_exists.mp (List.all_eq_true.mp all domain listed)

end Dnsix.ChainContract
