import Dnsix.Conservation
import Dnsix.Forwarder

/-!
The server against `handle_request` taken alone. Whatever else is going on, a request is
answered as `handle_request` answers it over a pool that gives it, one after the other,
the answers its own lookups had: it makes these very lookups, sends this response, leaves
this entry and makes these increments.
-/

namespace Dnsix.Served
open Dns Handler Panics Synth SynthChain Transition Forwarder
open Pool (CacheStatus CallId Config)
open RequestRuns (Bump Event Handling Place Progress entriesOf)

variable {text : NameText}

/-! A pool that answers from a script. -/
section Scripts

/-- The answers still to be given, and the lookups made so far. -/
structure Script where
  answers : List (Option Message × CacheStatus)
  asked : List Message

def Script.lookup (script : Script) (query : Message) :
    (Option Message × CacheStatus) × Script :=
  (script.answers.headD (none, .Uncached), ⟨script.answers.tail, script.asked ++ [query]⟩)

def scripted : Lookups Script where
  resolveObserved query script := script.lookup query
  join first second script :=
    let (observed, middle) := script.lookup first
    let (plain, after) := middle.lookup second
    ((observed, plain.1), after)
  resolve query script :=
    let (found, after) := script.lookup query
    (found.1, after)

/-- Each reference takes one answer. -/
theorem replay_popped (name : Name) (answer : Option Message) (others : List (Option Message)) :
    (resolveAaaa replay name (answer :: others)).2 = others := by
  cases answer with
  | none => rfl
  | some resp =>
      simp only [resolveAaaa, replay, List.head?_cons, Option.join_some, List.tail_cons]
      split <;> rfl

/-- A plan finds the same references, whoever gives it their answers. -/
theorem scripted_references (names : List Name)
    (answers rest : List (Option Message × CacheStatus)) (asked : List Message)
    (each : answers.length = names.length) :
    resolveAll scripted.resolve names ⟨answers ++ rest, asked⟩ =
      ((resolveAll replay names (answers.map Prod.fst)).1,
        ⟨rest, asked ++ names.map referenceQuery⟩) := by
  induction names generalizing answers asked with
  | nil =>
      rw [List.length_nil, List.length_eq_zero_iff] at each
      subst each
      simp [resolveAll]
  | cons name more ih =>
      cases answers with
      | nil => cases each
      | cons answer others =>
          have later := ih others (asked ++ [referenceQuery name]) (Nat.succ.inj each)
          obtain ⟨found, status⟩ := answer
          have first :
              resolveAaaa scripted.resolve name ⟨(found, status) :: others ++ rest, asked⟩ =
                ((resolveAaaa replay name (found :: others.map Prod.fst)).1,
                  ⟨others ++ rest, asked ++ [referenceQuery name]⟩) := by
            cases found with
            | none => rfl
            | some resp =>
                simp only [resolveAaaa, scripted, replay, Script.lookup, List.cons_append,
                  List.headD_cons, List.tail_cons, List.head?_cons, Option.join_some]
                split <;> rfl
          simp only [resolveAll, first, later, List.map_cons, replay_popped, List.append_assoc,
            List.singleton_append]

theorem scripted_plan (chain : Chain text) (plan : Plan) (ctx : SynthContext text)
    (answers rest : List (Option Message × CacheStatus)) (asked : List Message)
    (each : answers.length = plan.resolve.length) :
    chain.runPlan scripted.resolve plan ctx ⟨answers ++ rest, asked⟩ =
      ((chain.runPlan replay plan ctx (answers.map Prod.fst)).1,
        ⟨rest, asked ++ plan.resolve.map referenceQuery⟩) := by
  simp only [Chain.runPlan, scripted_references plan.resolve answers rest asked each]
  split <;> rfl

/-- The fallback runs a plan of its own, or none. -/
theorem scripted_appended (chain : Chain text) (ctx : SynthContext text) (id : String)
    (answers rest : List (Option Message × CacheStatus)) (asked : List Message)
    (each : answers.length = (references (fallbackPlan chain ctx id)).length) :
    chain.appended scripted.resolve ctx id ⟨answers ++ rest, asked⟩ =
      ((chain.appended replay ctx id (answers.map Prod.fst)).1,
        ⟨rest, asked ++ references (fallbackPlan chain ctx id)⟩) := by
  unfold Chain.appended
  by_cases won : id = "nat64"
  · subst id
    have empty : answers = [] := List.length_eq_zero_iff.mp each
    subst empty
    simp [fallbackPlan, references]
  · simp only [fallbackPlan, ne_eq, won, not_false_eq_true, if_true] at each ⊢
    cases kept : chain.nat64Fallback with
    | none =>
        rw [kept] at each
        have empty : answers = [] := List.length_eq_zero_iff.mp each
        subst empty
        simp [references]
    | some nat64 =>
        rw [kept, Option.bind_some] at each
        cases planned : nat64.plan ctx with
        | none =>
            rw [planned] at each
            have empty : answers = [] := List.length_eq_zero_iff.mp each
            subst empty
            simp [references, planned]
        | some plan =>
            rw [planned, references, Option.elim_some, List.length_map] at each
            simp only [planned, Option.bind_some, references, Option.elim_some,
              scripted_plan chain plan ctx answers rest asked each]
            cases (chain.runPlan replay plan ctx (answers.map Prod.fst)) with
            | mk yielded between => cases yielded <;> rfl

end Scripts

/-! What is left of `handle_request`. -/
section Resuming
variable (handler : Dns64Handler text) (request : Request)

/-- The end of `handle_request`, once the response is known. -/
def conclude (query : Query) (result : Checked ((Message × Observation) × Env Script)) :
    Checked (Handled × Env Script) := do
  let ((response, obs), after) ← result
  .ok (⟨response, handler.log request query obs⟩, after)

/-- The rest of `handle_request` from where a request stands, with the entry it has left. -/
def resume (left : Option LogRecord) : Place text → Env Script → Checked (Handled × Env Script)
  | .received, env => handler.handleRequest scripted request env
  | .gating query, env =>
      conclude handler request query (handler.answer scripted request query env)
  | .joining query, env =>
      conclude handler request query (handler.handleDns64 scripted request query env)
  | .observing query, env =>
      conclude handler request query (.ok (passthrough scripted request query env))
  | .trying query aaaa cache ctx rest, env =>
      conclude handler request query do
        let (answer, after) ←
          FirstAnswer.firstAnswer (handler.chain.attempt scripted.resolve ctx) rest env
        .ok (finishNodata request aaaa cache answer after)
  | .won query cache ctx id records, env =>
      let (extra, world) := handler.chain.appended scripted.resolve ctx id env.world
      conclude handler request query
        (.ok (finishNodata request .new cache (some (records ++ extra, id)) { env with world }))
  | .closing query response obs, env =>
      conclude handler request query (.ok ((response, obs), env.count (·.recordRcode obs.rcode)))
  | .decided response due, env =>
      .ok (⟨response, due.bind fun entry => handler.log request entry.1 entry.2⟩, env)
  | .finished response, env => .ok (⟨response, left⟩, env)

variable {handler request}

variable {h : Handling text} {progress : Progress text}
variable {answers more : List (Option Message × CacheStatus)} {asked : List Message}
variable {metrics : Counters.Metrics}

variable (handler) in
/-- One step of a request is one step of `handle_request` over its answers. -/
def Resumes (h : Handling text) (progress : Progress text)
    (answers more : List (Option Message × CacheStatus)) (asked : List Message)
    (metrics : Counters.Metrics) : Prop :=
  resume handler h.request none h.place ⟨⟨answers ++ more, asked⟩, metrics⟩ =
    resume handler h.request progress.logged progress.handling.place
      ⟨⟨more, asked ++ wants handler h⟩,
        progress.bump.elim metrics fun bump => bump.apply metrics⟩

/-- The chain goes on with the rest when an attempt comes to nothing, and ends otherwise. -/
theorem attempt_resumes (query : Query) (aaaa : Message) (cache : CacheStatus)
    (ctx : SynthContext text) (synth : Synthesizer text) (rest : List (Synthesizer text))
    (placed : h.place = .trying query aaaa cache ctx (synth :: rest))
    (each : answers.length = (wants handler h).length)
    (taken : h.attempt handler query aaaa cache ctx synth rest replay (answers.map Prod.fst) =
      some progress) :
    Resumes handler h progress answers more asked metrics := by
  simp only [wants, placed] at each
  simp only [Resumes, wants, placed]
  unfold Handling.attempt at taken
  cases found : synth.detect ctx with
  | error panic =>
      rw [found] at taken
      cases taken
  | ok plan =>
      cases plan with
      | none =>
          rw [found] at taken
          cases taken
          simp only [detected, found, references, Option.elim_none, List.length_nil,
            List.length_eq_zero_iff] at each
          subst each
          simp only [resume, FirstAnswer.first_answer_passed synth rest _ _
            (ChainContract.attempt_declined handler.chain _ ctx synth _ found)]
          simp [Handling.moving, detected, found, references]
      | some plan =>
          simp only [detected, found, references, Option.elim_some, List.length_map] at each
          have ran := scripted_plan handler.chain plan ctx answers more asked each
          cases yielded : (handler.chain.runPlan replay plan ctx (answers.map Prod.fst)).1 with
          | none =>
              simp only [found, yielded] at taken
              cases taken
              rw [yielded] at ran
              have nothing : handler.chain.attempt scripted.resolve ctx synth
                  ⟨⟨answers ++ more, asked⟩, metrics⟩ =
                  .ok (none, ⟨⟨more, asked ++ plan.resolve.map referenceQuery⟩, metrics⟩) := by
                rw [Chain.attempt, found]
                simp only [bind, Except.bind, ran]
              simp only [resume, FirstAnswer.first_answer_passed synth rest _ _ nothing]
              simp [Handling.moving, detected, found, references]
          | some records =>
              simp only [found, yielded] at taken
              cases taken
              rw [yielded] at ran
              have won : handler.chain.attempt scripted.resolve ctx synth
                  ⟨⟨answers ++ more, asked⟩, metrics⟩ =
                  .ok (some (records ++ (handler.chain.appended scripted.resolve ctx synth.id
                      ⟨more, asked ++ plan.resolve.map referenceQuery⟩).1, synth.id),
                    ⟨(handler.chain.appended scripted.resolve ctx synth.id
                      ⟨more, asked ++ plan.resolve.map referenceQuery⟩).2,
                      metrics.synthHit synth.id⟩) := by
                rw [Chain.attempt, found]
                simp only [bind, Except.bind, ran]
              simp only [resume, FirstAnswer.first_answer_won synth rest _ _ _ won]
              simp [Handling.counting, detected, found, references, Bump.apply, finishNodata]
              rfl

theorem receive_resumes (placed : h.place = .received) :
    Resumes handler h h.receive [] more asked metrics := by
  simp only [Resumes, wants, placed, resume, Dns64Handler.handleRequest, Handling.receive]
  by_cases foreign : h.request.message.header.opCode ≠ .Query ∨
      h.request.message.header.messageType ≠ .Query
  · simp [foreign, Handling.counting, Bump.apply, Env.count]
  · rw [if_neg foreign, if_neg foreign]
    rcases several : h.request.message.queries with _ | ⟨query, _ | ⟨second, rest⟩⟩
    · simp [Handling.counting, Bump.apply, Env.count]
    · simp [Handling.counting, conclude, Bump.apply, Env.count]
    · simp [Handling.counting, Bump.apply, Env.count]

theorem pass_resumes (query : Query) (placed : h.place = .gating query) :
    Resumes handler h (h.pass handler query) [] more asked metrics := by
  simp only [Resumes, wants, placed, resume, Dns64Handler.answer, Handling.pass,
    RequestRuns.sentTo]
  by_cases refused : handler.refuses h.request = true
  · simp [refused, Handling.counting, conclude, Bump.apply, Env.count, bind, Except.bind]
  · by_cases blocked : handler.blocks query.name = true
    · simp [refused, blocked, Handling.counting, conclude, Bump.apply, Env.count, bind,
        Except.bind]
    · by_cases path : isDns64 h.request query = true
      · simp [refused, blocked, path, Handling.counting, Bump.apply, Env.count]
      · simp [refused, blocked, path, Handling.counting, Bump.apply, Env.count]

/-- The lookups of `handle_dns64` are made in one go. -/
theorem branch_resumes (query : Query) (aaaaRes aRes : Option Message)
    (cache plain : CacheStatus) (placed : h.place = .joining query) :
    Resumes handler h (h.branch handler query aaaaRes cache aRes)
      [(aaaaRes, cache), (aRes, plain)] more asked metrics := by
  simp only [Resumes, wants, placed, resume, Dns64Handler.handleDns64, scripted, Script.lookup,
    List.cons_append, List.nil_append, List.headD_cons, List.tail_cons, List.append_assoc,
    Handling.branch, Dns64Handler.decideDns64]
  cases aaaaRes with
  | none => simp [Handling.counting, conclude, Bump.apply, Env.count, bind, Except.bind]
  | some aaaa =>
      dsimp only
      split
      · simp [Handling.counting, conclude, Bump.apply, Env.count, bind, Except.bind]
      · split
        · simp [Handling.counting, conclude, Bump.apply, Env.count, bind, Except.bind]
        · split
          · simp [Handling.counting, conclude, Bump.apply, Env.count, bind, Except.bind]
          · simp [Handling.counting, conclude, Bump.apply, Env.count]
            rfl

theorem forward_resumes (query : Query) (resp : Option Message) (cache : CacheStatus)
    (placed : h.place = .observing query) :
    Resumes handler h (h.forward query resp cache) [(resp, cache)] more asked metrics := by
  simp only [Resumes, wants, placed, resume, passthrough, scripted, Script.lookup,
    List.cons_append, List.nil_append, List.headD_cons, List.tail_cons, Handling.forward]
  cases resp with
  | none => simp [Handling.counting, conclude, Bump.apply, Env.count, bind, Except.bind]
  | some resp =>
      simp [Handling.counting, conclude, Bump.apply, Env.count, bind, Except.bind]

/-- What a request hears is what its lookups returned. -/
theorem heard_joined {query : Query} {aaaaRes aRes : Option Message} {cache : CacheStatus}
    (heard : eventFor (.joining query : Place text) answers = some (.joined aaaaRes cache aRes)) :
    ∃ plain, answers = [(aaaaRes, cache), (aRes, plain)] := by
  rcases answers with _ | ⟨first, _ | ⟨second, _ | ⟨third, rest⟩⟩⟩ <;> cases heard
  exact ⟨second.2, rfl⟩

theorem heard_observed {query : Query} {resp : Option Message} {cache : CacheStatus}
    (heard : eventFor (.observing query : Place text) answers = some (.observed resp cache)) :
    answers = [(resp, cache)] := by
  rcases answers with _ | ⟨first, _ | ⟨second, rest⟩⟩ <;> cases heard
  rfl

theorem next_resumes (event : Event (List (Option Message)))
    (each : answers.length = (wants handler h).length)
    (heard : eventFor h.place answers = some event)
    (taken : h.next handler event = some progress) :
    Resumes handler h progress answers more asked metrics := by
  -- Whoever waits for nothing has no answers.
  have silent : wants handler h = [] → answers = [] := by
    intro nothing
    rw [nothing] at each
    exact List.length_eq_zero_iff.mp each
  unfold Handling.next at taken
  split at taken
  all_goals rename_i placed
  · cases taken
    rw [silent (by simp [wants, placed])]
    exact receive_resumes placed
  · cases taken
    rw [silent (by simp [wants, placed])]
    exact pass_resumes _ placed
  · cases taken
    rw [placed] at heard
    rcases heard_joined heard with ⟨plain, rfl⟩
    exact branch_resumes _ _ _ _ plain placed
  · cases taken
    rw [placed] at heard
    rw [heard_observed heard]
    exact forward_resumes _ _ _ placed
  · rw [placed] at heard
    cases heard
    exact attempt_resumes _ _ _ _ _ _ placed each taken
  · cases taken
    rw [silent (by simp [wants, placed])]
    simp [Resumes, wants, placed, resume, FirstAnswer.firstAnswer, Handling.counting, conclude,
      finishNodata, Bump.apply, Env.count, bind, Except.bind]
  · cases taken
    rw [placed] at heard
    cases heard
    simp only [wants, placed] at each
    simp [Resumes, wants, placed, resume, scripted_appended handler.chain _ _ answers more asked
      each, Handling.counting, conclude, finishNodata, Bump.apply, Env.count, bind, Except.bind]
  · cases taken
    rw [silent (by simp [wants, placed])]
    simp [Resumes, wants, placed, resume, Handling.counting, conclude, Bump.apply, Env.count,
      bind, Except.bind]
  · cases taken
    rw [silent (by simp [wants, placed])]
    simp [Resumes, wants, placed, resume, Handling.finish, Handling.moving]
  · cases taken

end Resuming

/-! The transcripts of the requests. -/
section Transcripts
variable {config : Config} {handler : Dns64Handler text}

def ownLookups (lookups : List Lookup) (r : Nat) : List CallId :=
  (List.range lookups.length).filter fun call => lookups[call]?.map Lookup.request = some r

theorem own_append (lookups : List Lookup) (lookup : Lookup) (r : Nat) :
    ownLookups (lookups ++ [lookup]) r =
      ownLookups lookups r ++ if lookup.request = r then [lookups.length] else [] := by
  have old : (List.range lookups.length).filter
      (fun call => decide ((lookups ++ [lookup])[call]?.map Lookup.request = some r)) =
      ownLookups lookups r := by
    refine List.filter_congr fun call inside => ?_
    rw [List.getElem?_append_left (List.mem_range.mp inside)]
  rw [ownLookups, List.length_append, List.length_singleton, List.range_succ, List.filter_append,
    old]
  by_cases own : lookup.request = r
  · simp [own]
  · simp [own]

/-- The lookups are these, in their order. -/
def Asked (lookups : List Lookup) (r : Nat) : List CallId → List Message → Prop :=
  List.Forall₂ fun call query => lookups[call]? = some ⟨r, query⟩

theorem asked_append (lookups : List Lookup) (lookup : Lookup) (r : Nat) (calls : List CallId)
    (queries : List Message) (asked : Asked lookups r calls queries) :
    Asked (lookups ++ [lookup]) r calls queries := by
  refine asked.imp fun call query found => ?_
  rw [List.getElem?_append_left (List.getElem?_eq_some_iff.mp found).1]
  exact found

/-- Once as many lookups have begun as are wanted, all of those have been asked. -/
theorem all_asked {lookups : List Lookup} {r : Nat} {calls : List CallId} {wanted : List Message}
    (begun : ∃ front back, wanted = front ++ back ∧ Asked lookups r calls front)
    (complete : calls.length = wanted.length) : Asked lookups r calls wanted := by
  rcases begun with ⟨front, back, all, begun⟩
  have enough := begun.length_eq
  rw [complete, all, List.length_append] at enough
  have nothing : back = [] := List.length_eq_zero_iff.mp (by omega)
  rw [all, nothing, List.append_nil]
  exact begun

def Answered (pool : Pool.State) : List CallId → List (Option Message × CacheStatus) → Prop :=
  List.Forall₂ fun call answer => returned pool call = some answer

/-- What a request has asked and been told so far, and that `handle_request` comes to
where it stands on the same answers. -/
structure Transcript (handler : Dns64Handler text) (state : State text) (r : Nat)
    (h : Handling text) (taken : List CallId) (answers : List (Option Message × CacheStatus))
    (queries : List Message) : Prop where
  own : ownLookups state.lookups r = taken ++ state.waiting r
  answered : Answered state.pool taken answers
  asked : Asked state.lookups r taken queries
  begun : ∃ front back, wants handler h = front ++ back ∧
    Asked state.lookups r (state.waiting r) front
  replays : ∀ more metrics,
    handler.handleRequest scripted h.request ⟨⟨answers ++ more, []⟩, metrics⟩ =
      resume handler h.request (entriesOf state.requests r).head? h.place
        ⟨⟨more, queries⟩, h.made.foldl (fun metrics bump => bump.apply metrics) metrics⟩
  unlogged : (∀ response, h.place ≠ .finished response) → entriesOf state.requests r = []
  single : (entriesOf state.requests r).length ≤ 1

structure Transcribed (handler : Dns64Handler text) (state : State text) : Prop where
  present : ∀ r h, state.requests.handlings[r]? = some h →
    ∃ taken answers queries, Transcript handler state r h taken answers queries
  absent : ∀ r, state.requests.handlings[r]? = none →
    ownLookups state.lookups r = [] ∧ state.waiting r = [] ∧ entriesOf state.requests r = []

theorem transcribed_new (metrics : Counters.Metrics) :
    Transcribed handler (State.new text config metrics) where
  present _ _ impossible := nomatch impossible
  absent _ _ := ⟨rfl, rfl, rfl⟩

theorem transcript_pooled (state : State text) (action : Pool.Action) (pool : Pool.State)
    (transcribed : Transcribed handler state)
    (moved : Pool.step config action state.pool = some pool) :
    Transcribed handler { state with pool } where
  present r h present := by
    rcases transcribed.present r h present with ⟨taken, answers, queries, known⟩
    refine ⟨taken, answers, queries, { known with answered := ?_ }⟩
    exact known.answered.imp fun call answer found =>
      returned_step action state.pool pool call answer moved found
  absent := transcribed.absent

theorem transcript_arrived (state : State text) (request : Request)
    (transcribed : Transcribed handler state) :
    Transcribed handler
      { state with
        requests :=
          { state.requests with
            handlings := state.requests.handlings ++ [Handling.new text request] } } where
  present r h present := by
    rcases joined_cases present with old | ⟨rfl, rfl⟩
    · rcases transcribed.present r h old with ⟨taken, answers, queries, known⟩
      exact ⟨taken, answers, queries, known.own, known.answered, known.asked, known.begun,
        known.replays, known.unlogged, known.single⟩
    · -- The new request has asked nothing.
      rcases transcribed.absent _ (List.getElem?_eq_none (Nat.le_refl _)) with
        ⟨own, waiting, unlogged⟩
      refine ⟨[], [], [], ?_⟩
      constructor
      · simpa [waiting] using own
      · exact .nil
      · exact .nil
      · exact ⟨[], [], rfl, by rw [waiting]; exact .nil⟩
      · intro more metrics
        rfl
      · exact fun _ => unlogged
      · exact (congrArg List.length unlogged).trans_le (Nat.zero_le 1)
  absent r absent := by
    rw [List.getElem?_eq_none_iff, List.length_append] at absent
    exact transcribed.absent r (List.getElem?_eq_none (by omega))

theorem transcript_asked (state : State text) (id : Nat) (h : Handling text) (query : Message)
    (pool : Pool.State) (transcribed : Transcribed handler state)
    (present : state.requests.handlings[id]? = some h)
    (wanted : (wants handler h)[(state.waiting id).length]? = some query)
    (called : Pool.step config (.call state.lookups.length query) state.pool = some pool) :
    Transcribed handler
      { state with
        pool
        lookups := state.lookups ++ [⟨id, query⟩]
        waiting := Function.update state.waiting id
          (state.waiting id ++ [state.lookups.length]) } where
  present r other found := by
    rcases transcribed.present r other found with ⟨taken, answers, queries, known⟩
    refine ⟨taken, answers, queries, ?_⟩
    constructor
    · dsimp only
      rw [own_append, known.own]
      by_cases own : id = r
      · subst id
        simp
      · simp [own, Function.update_of_ne (Ne.symm own)]
    · exact known.answered.imp fun call answer found =>
        returned_step _ state.pool pool call answer called found
    · exact asked_append _ _ r taken queries known.asked
    · rcases known.begun with ⟨front, back, all, begun⟩
      by_cases own : r = id
      · subst r
        rw [present, Option.some.injEq] at found
        subst other
        -- The lookup that begins is the next one wanted.
        rw [begun.length_eq, all, List.getElem?_append_right (Nat.le_refl _), Nat.sub_self,
          ← List.head?_eq_getElem?, List.head?_eq_some_iff] at wanted
        rcases wanted with ⟨rest, rfl⟩
        refine ⟨front ++ [query], rest, by simp [all], ?_⟩
        dsimp only
        rw [Function.update_self]
        refine List.rel_append (asked_append _ _ id _ _ begun) ?_
        exact .cons List.getElem?_concat_length .nil
      · refine ⟨front, back, all, ?_⟩
        dsimp only
        rw [Function.update_of_ne own]
        exact asked_append _ _ r _ _ begun
    · exact known.replays
    · exact known.unlogged
    · exact known.single
  absent r absent := by
    rcases transcribed.absent r absent with ⟨own, waiting, unlogged⟩
    have other : r ≠ id := by
      rintro rfl
      rw [present] at absent
      cases absent
    refine ⟨?_, ?_, unlogged⟩
    · dsimp only
      rw [own_append, own, if_neg (Ne.symm other), List.append_nil]
    · dsimp only
      rw [Function.update_of_ne other]
      exact waiting

/-- A step writes its increment down, and only the last one leaves an entry. -/
theorem moved_marks {World : Type} (h : Handling text) (event : Event World)
    (progress : Progress text) (moved : RequestRuns.Moved handler h event progress) :
    progress.handling.made = h.made ++ progress.bump.toList ∧
      (progress.logged = none ∨ ∃ response, progress.handling.place = .finished response) := by
  cases moved with
  | finished response due placed =>
      exact ⟨(List.append_nil _).symm, Or.inr ⟨response, rfl⟩⟩
  | missed => exact ⟨(List.append_nil _).symm, Or.inl rfl⟩
  | _ => exact ⟨rfl, Or.inl rfl⟩

/-- What is known of the request that moves. -/
theorem transcript_turned (state : State text) (id : Nat) (h : Handling text)
    (answers past : List (Option Message × CacheStatus)) (taken : List CallId)
    (queries : List Message) (event : Event (List (Option Message))) (progress : Progress text)
    (known : Transcript handler state id h taken past queries)
    (complete : (state.waiting id).length = (wants handler h).length)
    (answered : Answered state.pool (state.waiting id) answers)
    (heard : eventFor h.place answers = some event)
    (next : h.next handler event = some progress) :
    Transcript handler
      { state with
        requests := state.requests.progressed id progress
        waiting := Function.update state.waiting id [] } id progress.handling
      (taken ++ state.waiting id) (past ++ answers) (queries ++ wants handler h) := by
  have moved := RequestRuns.next_moved h event progress next
  rcases moved_marks h event progress moved with ⟨made, leaves⟩
  have unfinished : ∀ response, h.place ≠ .finished response := by
    intro response ended
    simp [Handling.next, ended] at next
  have unlogged := known.unlogged unfinished
  have entries : entriesOf (state.requests.progressed id progress) id = progress.logged.toList := by
    rw [RequestRuns.entries_progressed, unlogged, if_pos rfl, List.nil_append]
  constructor
  · dsimp only
    rw [Function.update_self, List.append_nil]
    exact known.own
  · exact List.rel_append known.answered answered
  · exact List.rel_append known.asked (all_asked known.begun complete)
  · dsimp only
    rw [Function.update_self]
    exact ⟨[], _, rfl, .nil⟩
  · intro more metrics
    have each : answers.length = (wants handler h).length := by
      rw [← complete]
      exact answered.length_eq.symm
    have resumes : Resumes handler h progress answers more queries
        (h.made.foldl (fun metrics bump => bump.apply metrics) metrics) :=
      next_resumes event each heard next
    have before := known.replays (answers ++ more) metrics
    rw [unlogged, List.head?_nil, ← List.append_assoc] at before
    rw [RequestRuns.moved_request h event progress moved, before]
    dsimp only
    rw [entries, Option.head?_toList, made, List.foldl_append]
    refine Eq.trans resumes ?_
    cases progress.bump <;> rfl
  · intro still
    dsimp only
    rw [entries]
    rcases leaves with quiet | ⟨response, ended⟩
    · rw [quiet]
      rfl
    · exact absurd ended (still response)
  · dsimp only
    rw [entries]
    cases progress.logged with
    | none => exact Nat.zero_le 1
    | some entry => exact Nat.le_refl 1

theorem transcript_advanced (state : State text) (id : Nat) (h : Handling text)
    (answers : List (Option Message × CacheStatus)) (event : Event (List (Option Message)))
    (progress : Progress text) (transcribed : Transcribed handler state)
    (present : state.requests.handlings[id]? = some h)
    (complete : (state.waiting id).length = (wants handler h).length)
    (answered : Answered state.pool (state.waiting id) answers)
    (heard : eventFor h.place answers = some event)
    (next : h.next handler event = some progress) :
    Transcribed handler
      { state with
        requests := state.requests.progressed id progress
        waiting := Function.update state.waiting id [] } where
  present r other found := by
    rcases replaced_cases (List.getElem?_eq_some_iff.mp present).1 found with
      ⟨rfl, rfl⟩ | ⟨own, stays⟩
    · rcases transcribed.present r h present with ⟨taken, past, queries, known⟩
      exact ⟨_, _, _, transcript_turned state r h answers past taken queries event progress known
        complete answered heard next⟩
    · rcases transcribed.present r other stays with ⟨taken, past, queries, known⟩
      have same := RequestRuns.entries_progressed state.requests id r progress
      rw [if_neg (Ne.symm own), List.append_nil] at same
      refine ⟨taken, past, queries, ?_, known.answered, known.asked, ?_, ?_, ?_, ?_⟩
      · dsimp only
        rw [Function.update_of_ne own]
        exact known.own
      · dsimp only
        rw [Function.update_of_ne own]
        exact known.begun
      · dsimp only
        rw [same]
        exact known.replays
      · dsimp only
        rw [same]
        exact known.unlogged
      · dsimp only
        rw [same]
        exact known.single
  absent r absent := by
    have other : r ≠ id := by
      rintro rfl
      have inside := (List.getElem?_eq_some_iff.mp present).1
      have beyond := List.getElem?_eq_none_iff.mp absent
      simp only [RequestRuns.State.progressed, List.length_set] at beyond
      omega
    have stays : (state.requests.progressed id progress).handlings[r]? =
        state.requests.handlings[r]? := List.getElem?_set_ne (Ne.symm other)
    rw [stays] at absent
    rcases transcribed.absent r absent with ⟨own, waiting, unlogged⟩
    have same := RequestRuns.entries_progressed state.requests id r progress
    rw [if_neg (Ne.symm other), List.append_nil] at same
    refine ⟨own, ?_, same.trans unlogged⟩
    dsimp only
    rw [Function.update_of_ne other]
    exact waiting

theorem transcribed_step (action : Action) (state after : State text)
    (transcribed : Transcribed handler state)
    (taken : step config handler action state = some after) : Transcribed handler after := by
  cases step_moved action state after taken with
  | pooled inside moved => exact transcript_pooled state _ _ transcribed moved
  | arrived request => exact transcript_arrived state request transcribed
  | asked present wanted turn called =>
      exact transcript_asked state _ _ _ _ transcribed present wanted called
  | advanced present complete answered heard next =>
      exact transcript_advanced state _ _ _ _ _ transcribed present complete
        ((all_returned _ _ _).mp answered) heard next

theorem reachable_transcribed (metrics : Counters.Metrics) (actions : List Action)
    (after : State text)
    (run : Run (step config handler) anyAction (State.new text config metrics) actions after) :
    Transcribed handler after :=
  run_invariant (fun action before next kept _ taken =>
    transcribed_step action before next kept taken) run (transcribed_new metrics)

end Transcripts

/-- Over the answers its lookups had, `handle_request` makes these very lookups, and sends,
logs and counts what the request did. -/
def ServedAlone (handler : Dns64Handler text) (state : State text) (r : Nat) (h : Handling text)
    (response : Message) : Prop :=
  ∃ answers queries entry,
    Answered state.pool (ownLookups state.lookups r) answers ∧
    Asked state.lookups r (ownLookups state.lookups r) queries ∧
    entriesOf state.requests r = entry.toList ∧
    ∀ before, handler.handleRequest scripted h.request ⟨⟨answers, []⟩, before⟩ =
      .ok (⟨response, entry⟩,
        ⟨⟨[], queries⟩, h.made.foldl (fun metrics bump => bump.apply metrics) before⟩)

theorem single_entry (entries : List LogRecord) (single : entries.length ≤ 1) :
    entries = entries.head?.toList := by
  rcases entries with _ | ⟨first, _ | ⟨second, rest⟩⟩
  · rfl
  · rfl
  · simp at single

/-- Whatever the requests, the pool and the upstreams do in between: a request that is
finished was answered as `handle_request` answers it alone, over a pool that gives it the
answers its own lookups had. -/
theorem served_as_alone (config : Config) (handler : Dns64Handler text)
    (metrics : Counters.Metrics) (actions : List Action) (after : State text)
    (run : Run (step config handler) anyAction (State.new text config metrics) actions after)
    (r : Nat) (h : Handling text) (present : after.requests.handlings[r]? = some h)
    (response : Message) (finished : h.place = .finished response) :
    ServedAlone handler after r h response := by
  rcases (reachable_transcribed metrics actions after run).present r h present with
    ⟨taken, answers, queries, known⟩
  -- Nothing is wanted any more.
  have whole : ownLookups after.lookups r = taken := by
    rcases known.begun with ⟨front, back, all, begun⟩
    simp only [wants, finished] at all
    rw [(List.append_eq_nil_iff.mp all.symm).1] at begun
    have nothing : after.waiting r = [] := List.forall₂_nil_right_iff.mp begun
    rw [known.own, nothing, List.append_nil]
  refine ⟨answers, queries, _, whole ▸ known.answered, whole ▸ known.asked,
    single_entry _ known.single, ?_⟩
  intro before
  have replays := known.replays [] before
  rw [List.append_nil, finished] at replays
  exact replays

/-- One request with two lookups, the AAAA one answered and the other not. -/
def sampleActions : List Forwarder.Action :=
  [.arrive Conservation.sampleRequest, .advance 0, .advance 0, .ask 0, .ask 0,
    .pool (.advance 0), .pool (.advance 1), .pool (.advance 1), .pool (.advance 0),
    .pool (.reply 0 (some (Pool.sampleReply 300))), .pool (.advance 0), .pool (.advance 0),
    .pool (.reply 1 none), .pool (.advance 1), .pool (.advance 1), .advance 0, .advance 0,
    .advance 0]

theorem served_as_alone_sample :
    ∃ (after : State Synth.plainText) (h : Handling Synth.plainText),
      exec (step Pool.sampleConfig Conservation.sampleHandler) sampleActions
        (State.new Synth.plainText Pool.sampleConfig (.new [])) = some after ∧
      ServedAlone Conservation.sampleHandler after 0 h
        (relay Conservation.sampleRequest (Pool.sampleReply 300)) := by
  have executed : exec (step Pool.sampleConfig Conservation.sampleHandler) sampleActions
      (State.new Synth.plainText Pool.sampleConfig (.new [])) = some _ := rfl
  exact ⟨_, _, executed, served_as_alone Pool.sampleConfig Conservation.sampleHandler
    (.new []) _ _ (exec_run executed) 0 _ rfl (relay Conservation.sampleRequest
      (Pool.sampleReply 300)) rfl⟩

end Dnsix.Served
