import Dnsix.Workload

/-!
Where the records a client gets come from. The records of a finished response stand, up to
their TTLs, in one reply the upstreams gave to the question the client asked, or they are
AAAA records at the name it asked for, made because such a reply had none. The AD bit is
set only where the response is such a reply as it stands.
-/

namespace Dnsix.Grounding
open Dns Handler Synth SynthChain Transition ResponseCache StoreHistory Provenance
open Forwarder Served Workload
open Pool (CacheStatus CallId Config Fetch Reply)
open RequestRuns (Event Handling Place Progress)

variable {text : NameText}

/-! What the upstreams told. -/
section Replies

/-- The query has this one question, the case of its letters aside. -/
def Asks (query : Message) (question : Query) : Prop :=
  ∃ same, query.queries = [same] ∧ same.key = question.key

/-- The upstreams answered a query for this question with `resp`. -/
def Replied (pool : Pool.State) (question : Query) (resp : Message) : Prop :=
  ∃ fetch, (⟨fetch, some resp⟩ : Reply) ∈ pool.replies ∧ Asks fetch.query question

/-- The records of a response, whatever section they are in. -/
def sections (message : Message) : List Record :=
  message.answers ++ message.nameServers ++ message.additionals

/-- An answer of the pool: a reply as it stands, or what the cache kept of one. -/
inductive Told (pool : Pool.State) (question : Query) : Message → Prop where
  | verbatim {resp : Message} (replied : Replied pool question resp) : Told pool question resp
  | cached {resp : Message} (own : Query) (stamp ttl : Nat) (replied : Replied pool question resp)
      (storable : Storable resp) :
      Told pool question (rebuilt own ((storedEntry resp stamp).toResponse ttl))

variable {config : Config} {pool : Pool.State} {question : Query} {answer : Message}

theorem cacheable_question_asked (query : Message) (found : Query)
    (keyed : config.key query = some found) : query.queries = [found] := by
  unfold Config.key Pool.cacheableQuestion at keyed
  split at keyed
  · split at keyed
    · cases keyed
    · split at keyed
      · rename_i single
        cases keyed
        exact single
      · cases keyed
  · cases keyed

theorem same_key_asks (query other : Message) (asked : query.queries = [question])
    (same : SameKey config query other) : Asks other question := by
  rcases same with ⟨first, second, keyed, otherKeyed, equal⟩
  have own := cacheable_question_asked query first keyed
  rw [asked, List.cons.injEq] at own
  exact ⟨second, cacheable_question_asked other second otherKeyed, equal.symm.trans (own.1 ▸ rfl)⟩

theorem told_fetched {task : Pool.Task} {query : Message} {outcome : Pool.Outcome}
    (asks : Asks query question) (fetched : Fetched pool task query outcome)
    (answered : outcome.answer = some answer) : Told pool question answer :=
  .verbatim ⟨outcome.fetch, answered ▸ fetched.logged, fetched.query ▸ asks⟩

theorem told_cached {query : Message} {found : Query} {outcome : Pool.Outcome}
    (asked : query.queries = [question]) (keyed : config.key query = some found)
    (held : FromCache config pool found outcome) (answered : outcome.answer = some answer) :
    Told pool question answer := by
  rcases held with ⟨resp, stamp, ttl, stored, logged, storable, origin, same, built⟩
  rw [built, Option.some.injEq] at answered
  subst answer
  exact .cached found stamp ttl ⟨_, logged, same_key_asks query _ asked
    ⟨found, stored, keyed, origin, same.symm⟩⟩ storable

/-- Whatever a finished call has returned, the upstreams told it. -/
theorem done_told (id : CallId) (call : Pool.Call) (outcome : Pool.Outcome) (status : CacheStatus)
    (asked : call.query.queries = [question])
    (sound : DoneSound config pool id call outcome status)
    (answered : outcome.answer = some answer) : Told pool question answer := by
  have own : Asks call.query question := ⟨question, asked, rfl⟩
  cases status with
  | Hit =>
      rcases sound with ⟨found, keyed, held⟩
      exact told_cached asked keyed held answered
  | Stale =>
      rcases sound with ⟨found, keyed, held | ⟨fetched, _⟩⟩
      · exact told_cached asked keyed held answered
      · exact told_fetched own fetched answered
  | Miss =>
      rcases sound with ⟨_, fetched⟩ | ⟨leader, owner, _, _, same, fetched⟩
      · exact told_fetched own fetched answered
      · exact told_fetched (same_key_asks _ _ asked same) fetched answered
  | Uncached => exact told_fetched own sound.2 answered

theorem returned_told (sound : Sound config pool) (id : CallId) (query : Message)
    (status : CacheStatus) (called : (pool.calls id).map Pool.Call.query = some query)
    (asked : query.queries = [question])
    (back : returned pool id = some (some answer, status)) : Told pool question answer := by
  rcases Option.map_eq_some_iff.mp called with ⟨call, present, rfl⟩
  unfold returned at back
  rw [present, Option.map_some] at back
  split at back
  · rename_i outcome told ended
    cases ended_ : call.phase with
    | done outcome' told' =>
        rw [ended_] at ended
        cases ended
        simp only [Option.some.injEq, Prod.mk.injEq] at back
        have done := sound.calls id call present
        rw [ended_] at done
        exact done_told id call outcome told asked done back.1
    | _ =>
        rw [ended_] at ended
        cases ended
  · cases back

theorem Told.grow {after : Pool.State} (grows : ∀ reply ∈ pool.replies, reply ∈ after.replies)
    (told : Told pool question answer) : Told after question answer := by
  cases told with
  | verbatim replied =>
      rcases replied with ⟨fetch, logged, asks⟩
      exact .verbatim ⟨fetch, grows _ logged, asks⟩
  | cached own stamp ttl replied storable =>
      rcases replied with ⟨fetch, logged, asks⟩
      exact .cached own stamp ttl ⟨fetch, grows _ logged, asks⟩ storable

/-- Each of them is a record of the reply, with another TTL perhaps. -/
def Repeats (resp : Message) (records : List Record) : Prop :=
  ∀ record ∈ records, ∃ source ∈ sections resp, record = { source with ttl := record.ttl }

theorem negative_soa_listed (resp : Message) (record : Record)
    (listed : record ∈ negativeSoa resp) : record ∈ sections resp := by
  rw [negativeSoa, List.mem_filter] at listed
  exact List.mem_append_left _ (List.mem_append_right _ listed.1)

/-- No record that is kept may be kept for less. -/
theorem stored_source (question : Query) (resp : Message) (stamp ttl : Nat) (record : Record)
    (listed : record ∈ sections (rebuilt question ((storedEntry resp stamp).toResponse ttl))) :
    record.ttl = ttl ∧ ∃ source ∈ sections resp,
      record = { source with ttl := record.ttl } ∧ life resp ≤ source.ttl := by
  simp only [sections, rebuilt, CacheEntry.toResponse, stampTtl, Message.new, List.append_nil,
    List.mem_append, List.mem_map] at listed
  unfold storedEntry at listed
  unfold life
  split at listed
  · rename_i kind
    rw [if_pos kind]
    obtain ⟨source, inside, rfl⟩ | ⟨source, inside, rfl⟩ := listed
    · exact ⟨rfl, source, List.mem_append_left _ (List.mem_append_left _ inside), rfl,
        CacheHistory.positive_ttl_le _ _ inside⟩
    · cases inside
  · rename_i kind
    rw [if_neg kind]
    obtain ⟨source, inside, rfl⟩ | ⟨source, inside, rfl⟩ := listed
    · cases inside
    · exact ⟨rfl, source, negative_soa_listed resp source inside, rfl,
        CacheHistory.negative_ttl_le _ _ inside (List.mem_filter.mp inside).2⟩

/-- The cache adds no record, and mixes no two replies. -/
theorem told_repeats (told : Told pool question answer) :
    ∃ resp, Replied pool question resp ∧ Repeats resp (sections answer) := by
  cases told with
  | verbatim replied => exact ⟨_, replied, fun record listed => ⟨record, listed, rfl⟩⟩
  | @cached resp own stamp ttl replied storable =>
      refine ⟨resp, replied, fun record listed => ?_⟩
      rcases stored_source own resp stamp ttl record listed with ⟨_, source, inside, same, _⟩
      exact ⟨source, inside, same⟩

/-- What comes from the cache as an answer without data was one when it was stored. -/
theorem told_nodata (told : Told pool question answer) (code : answer.responseCode = .NoError)
    (hasNo : hasNativeAaaa answer = false) :
    ∃ resp, Replied pool question resp ∧ resp.responseCode = .NoError ∧
      hasNativeAaaa resp = false := by
  cases told with
  | verbatim replied => exact ⟨_, replied, code, hasNo⟩
  | @cached resp own stamp ttl replied storable =>
      refine ⟨resp, replied, ?_⟩
      unfold storedEntry at code hasNo
      split at code
      · rename_i kind
        rw [if_pos kind] at hasNo
        refine ⟨kind.1, ?_⟩
        simp only [hasNativeAaaa, rebuilt, CacheEntry.toResponse, stampTtl, List.any_map] at hasNo ⊢
        exact hasNo
      · rename_i kind
        have fine : resp.responseCode = .NoError := code
        have empty : resp.answers = [] := by
          by_contra present
          exact kind ⟨fine, present⟩
        exact ⟨fine, by rw [hasNativeAaaa, empty, List.any_nil]⟩

end Replies

/-! What a request builds from it. -/
section Responses
variable {handler : Dns64Handler text} {pool : Pool.State} {h : Handling text}
variable {progress : Progress text}

/-- The upstreams have no AAAA record for the one question of the request. -/
structure Vacant (pool : Pool.State) (request : Request) (query : Query) : Prop where
  single : request.message.queries = [query]
  path : isDns64 request query = true
  nodata : ∃ resp, Replied pool query resp ∧ resp.responseCode = .NoError ∧
    hasNativeAaaa resp = false

def Owned (name : Name) (records : List Record) : Prop :=
  ∀ record ∈ records, ∃ ttl ip, record = aaaaRecord name ttl ip

inductive Grounded (pool : Pool.State) (request : Request) : Message → Prop where
  | refusal (code : ResponseCode) : Grounded pool request (serveError request code)
  | relayed {query : Query} {answer : Message} (single : request.message.queries = [query])
      (told : Told pool query answer) : Grounded pool request (relay request answer)
  | synthesized {query : Query} {records : List Record} (vacant : Vacant pool request query)
      (owned : Owned query.name records) : Grounded pool request (sendSynthesized request records)

/-- What is known of a request where it stands. -/
def Standing (pool : Pool.State) (h : Handling text) : Prop :=
  match h.place with
  | .received => True
  | .gating query | .observing query => h.request.message.queries = [query]
  | .joining query => h.request.message.queries = [query] ∧ isDns64 h.request query = true
  | .trying query aaaa _ ctx _ =>
      Vacant pool h.request query ∧ Told pool query aaaa ∧ ctx.name = query.name
  | .won query _ ctx _ records =>
      Vacant pool h.request query ∧ ctx.name = query.name ∧ Owned query.name records
  | .closing _ response _ | .decided response _ | .finished response =>
      Grounded pool h.request response

/-- The answers of the lookups were told for the question of the request. -/
def Heard {World : Type} (pool : Pool.State) : Place text → Event World → Prop
  | .joining query, .joined aaaaRes _ _ => ∀ aaaa ∈ aaaaRes, Told pool query aaaa
  | .observing query, .observed resp _ => ∀ answer ∈ resp, Told pool query answer
  | _, _ => True

theorem Vacant.grow {after : Pool.State} {request : Request} {query : Query}
    (grows : ∀ reply ∈ pool.replies, reply ∈ after.replies) (vacant : Vacant pool request query) :
    Vacant after request query := by
  rcases vacant with ⟨single, path, resp, ⟨fetch, logged, asks⟩, code, hasNo⟩
  exact ⟨single, path, resp, ⟨fetch, grows _ logged, asks⟩, code, hasNo⟩

theorem Grounded.grow {after : Pool.State} {request : Request} {response : Message}
    (grows : ∀ reply ∈ pool.replies, reply ∈ after.replies)
    (grounded : Grounded pool request response) : Grounded after request response := by
  cases grounded with
  | refusal code => exact .refusal code
  | relayed single told => exact .relayed single (told.grow grows)
  | synthesized vacant owned => exact .synthesized (vacant.grow grows) owned

theorem Standing.grow {after : Pool.State} (grows : ∀ reply ∈ pool.replies, reply ∈ after.replies)
    (standing : Standing pool h) : Standing after h := by
  unfold Standing at standing ⊢
  cases placed : h.place with
  | received => trivial
  | gating query => simpa only [placed] using standing
  | observing query => simpa only [placed] using standing
  | joining query => simpa only [placed] using standing
  | trying query aaaa cache ctx rest =>
      simp only [placed] at standing
      exact ⟨standing.1.grow grows, standing.2.1.grow grows, standing.2.2⟩
  | won query cache ctx id records =>
      simp only [placed] at standing
      exact ⟨standing.1.grow grows, standing.2⟩
  | closing query response obs =>
      simp only [placed] at standing
      exact standing.grow grows
  | decided response due =>
      simp only [placed] at standing
      exact standing.grow grows
  | finished response =>
      simp only [placed] at standing
      exact standing.grow grows

theorem hit_owned {World : Type} (query : Query) (aaaa : Message) (cache : CacheStatus)
    (ctx : SynthContext text) (synth : Synthesizer text) (rest : List (Synthesizer text))
    (resolve : Resolver World) (world : World)
    (taken : h.attempt handler query aaaa cache ctx synth rest resolve world = some progress) :
    progress.handling.place = .trying query aaaa cache ctx rest ∨
      ∃ id records, progress.handling.place = .won query cache ctx id records ∧
        Owned ctx.name records := by
  unfold Handling.attempt at taken
  split at taken
  · cases taken
  · cases taken
    exact Or.inl rfl
  · split at taken
    · rename_i plan detects records ran
      cases taken
      refine Or.inr ⟨synth.id, records, rfl, ?_⟩
      simp only [Chain.runPlan] at ran
      split at ran
      · cases ran
      · cases ran
        intro record listed
        rcases List.mem_map.mp listed with ⟨ip, _, same⟩
        exact ⟨_, ip, same.symm⟩
    · cases taken
      exact Or.inl rfl

theorem appended_owned {World : Type} (chain : Chain text) (resolve : Resolver World)
    (ctx : SynthContext text) (id : String) (world : World) :
    Owned ctx.name (chain.appended resolve ctx id world).1 := by
  intro record listed
  rw [ChainContract.appended_spec] at listed
  dsimp only at listed
  split at listed
  · cases listed
  · rcases List.mem_flatMap.mp listed with ⟨nat64, _, found⟩
    rcases Option.map_eq_some_iff.mp (Option.mem_toList.mp found) with ⟨ip, _, same⟩
    exact ⟨_, _, same.symm⟩

/-- One step of a request keeps what is known of it. -/
theorem standing_next {World : Type} (event : Event World) (standing : Standing pool h)
    (heard : Heard pool h.place event) (taken : h.next handler event = some progress) :
    Standing pool progress.handling := by
  have moved := RequestRuns.next_moved h event progress taken
  cases moved with
  | malformed code placed unfit => exact .refusal code
  | received query placed fit asked => exact asked
  | refused query placed sent => exact .refusal .Refused
  | blocked query placed sent => exact .refusal .NXDomain
  | routed query placed sent =>
      simp only [Standing, placed] at standing
      refine ⟨standing, ?_⟩
      unfold RequestRuns.sentTo at sent
      split_ifs at sent with refuses blocks path
      exact path
  | passedOn query placed sent =>
      simp only [Standing, placed] at standing
      exact standing
  | failed query cache aRes placed => exact .refusal .ServFail
  | native query aaaa cache aRes placed has =>
      simp only [Standing, Heard, placed] at standing heard
      exact .relayed standing.1 (heard aaaa rfl)
  | missing query aaaa cache aRes placed hasNo code =>
      simp only [Standing, Heard, placed] at standing heard
      exact .relayed standing.1 (heard aaaa rfl)
  | errored query aaaa cache aRes placed hasNo exists_ wrong =>
      simp only [Standing, Heard, placed] at standing heard
      exact .relayed standing.1 (heard aaaa rfl)
  | nodata query aaaa cache aRes placed hasNo code =>
      simp only [Standing, Heard, placed] at standing heard
      have told := heard aaaa rfl
      exact ⟨⟨standing.1, standing.2, told_nodata told code hasNo⟩, told, rfl⟩
  | relayed query resp cache placed =>
      simp only [Standing, Heard, placed] at standing heard
      exact .relayed standing (heard resp rfl)
  | unanswered query cache placed => exact .refusal .ServFail
  | missed query aaaa cache ctx synth rest resolve world placed =>
      simp only [Standing, placed] at standing
      exact standing
  | hit query aaaa cache ctx synth rest resolve world records placed some_ =>
      simp only [Standing, placed] at standing
      simp only [Handling.next, placed] at taken
      rcases hit_owned query aaaa cache ctx synth rest resolve world taken with
        still | ⟨id, made, won, owned⟩
      · cases still
      · cases won
        exact ⟨standing.1, standing.2.2, standing.2.2 ▸ owned⟩
  | empty query aaaa cache ctx placed =>
      simp only [Standing, placed] at standing
      exact .relayed standing.1.single standing.2.1
  | appended query cache ctx id records extra resolve world placed =>
      simp only [Standing, placed] at standing
      simp only [Handling.next, placed, Option.some.injEq] at taken
      rw [← taken]
      have extra := appended_owned handler.chain resolve ctx id world
      rw [standing.2.1] at extra
      refine .synthesized standing.1 fun record listed => ?_
      rcases List.mem_append.mp listed with first | last
      · exact standing.2.2 record first
      · exact extra record last
  | counted query response obs placed =>
      simp only [Standing, placed] at standing
      exact standing
  | finished response due placed =>
      simp only [Standing, placed] at standing
      exact standing

end Responses

/-! The whole server. -/
section Server
variable {config : Config} {handler : Dns64Handler text}

/-- What a lookup of one question returned, the upstreams told for it. -/
def Heeds (pool : Pool.State) (query : Message) (answer : Option Message × CacheStatus) : Prop :=
  ∀ question resp, query.queries = [question] → answer.1 = some resp → Told pool question resp

/-- Once all the lookups of a request have returned, each of them was told. -/
theorem answers_heeded (state : State text) (r : Nat) (h : Handling text)
    (answers : List (Option Message × CacheStatus)) (sound : Sound config state.pool)
    (linked : Linked state) (transcribed : Transcribed handler state)
    (present : state.requests.handlings[r]? = some h)
    (complete : (state.waiting r).length = (wants handler h).length)
    (answered : Answered state.pool (state.waiting r) answers) :
    List.Forall₂ (Heeds state.pool) (wants handler h) answers := by
  obtain ⟨_, _, _, known⟩ := transcribed.present r h present
  have begun := all_asked known.begun complete
  clear complete
  generalize state.waiting r = calls, wants handler h = wanted at begun answered ⊢
  induction begun generalizing answers with
  | nil =>
      cases answered
      exact .nil
  | @cons call query calls front asked _ ih =>
      obtain ⟨answer, rest, returned, others, rfl⟩ := List.forall₂_cons_left_iff.mp answered
      refine .cons ?_ (ih rest others)
      intro question resp single same
      refine returned_told sound call query answer.2 ?_ single ?_
      · rw [linked call, asked]
        rfl
      · rw [returned, ← same]

/-- What the lookups of a request returned, the upstreams told. -/
theorem answers_told (state : State text) (h : Handling text)
    (answers : List (Option Message × CacheStatus)) (event : Event (List (Option Message)))
    (heeded : List.Forall₂ (Heeds state.pool) (wants handler h) answers)
    (heard : eventFor h.place answers = some event) : Heard state.pool h.place event := by
  -- The first of the lookups is the one the response is built from.
  have first : ∀ query answer status,
      (wants handler h).head? = some (upstreamQuery h.request query) →
      answers.head? = some (some answer, status) → Told state.pool query answer := by
    intro query answer status wanted same
    rcases List.head?_eq_some_iff.mp wanted with ⟨rest, wanted⟩
    rcases List.head?_eq_some_iff.mp same with ⟨others, same⟩
    rw [wanted, same] at heeded
    exact (List.forall₂_cons.mp heeded).1 query answer rfl rfl
  cases placed : h.place with
  | joining query =>
      rw [placed] at heard
      cases event with
      | joined aaaaRes cache aRes =>
          rcases heard_joined heard with ⟨plain, same⟩
          rintro aaaa ⟨⟩
          exact first query aaaa cache (by simp [wants, placed]) (same ▸ rfl)
      | _ => trivial
  | observing query =>
      rw [placed] at heard
      cases event with
      | observed resp cache =>
          have same := heard_observed heard
          rintro answer ⟨⟩
          exact first query answer cache (by simp [wants, placed]) (same ▸ rfl)
      | _ => trivial
  | _ => trivial

/-- A step of the pool keeps the log. -/
theorem log_kept (inner : Pool.Action) (before after : Pool.State)
    (taken : Pool.step config inner before = some after) :
    ∀ reply ∈ before.replies, reply ∈ after.replies := fun reply logged =>
  Pool.moved_reply config inner before after reply
    (Pool.step_moved config inner before after taken) logged

theorem reachable_standing (metrics : Counters.Metrics) (actions : List Action)
    (after : State text)
    (run : Run (step config handler) anyAction (State.new text config metrics) actions after) :
    ∀ (r : Nat) (h : Handling text), after.requests.handlings[r]? = some h →
      Standing after.pool h := by
  refine run_history (motive := fun _ (state : State text) =>
    ∀ (r : Nat) (h : Handling text), state.requests.handlings[r]? = some h → Standing state.pool h)
    ?_ ?_ run
  · intro r h impossible
    cases impossible
  intro front action before after begun stands _ taken r h present
  cases step_moved action before after taken with
  | pooled inside moved => exact (stands r h present).grow (log_kept _ _ _ moved)
  | arrived request =>
      rcases joined_cases present with old | ⟨_, rfl⟩
      · exact stands r h old
      · trivial
  | asked found wanted turn called => exact (stands r h present).grow (log_kept _ _ _ called)
  | @advanced id other answers event progress found complete answered heard next =>
      rcases replaced_cases (List.getElem?_eq_some_iff.mp found).1 present with
        ⟨rfl, rfl⟩ | ⟨_, old⟩
      · rcases pool_run metrics front before begun with ⟨inner, pooled, _, _⟩
        have sound := (reachable_sound config anyAction inner before.pool pooled).2
        have heeded := answers_heeded before r other answers sound
          (linked_run metrics front before begun) (reachable_transcribed metrics front before begun)
          found complete ((all_returned _ _ _).mp answered)
        exact standing_next event (stands r other found)
          (answers_told before other answers event heeded heard) next
      · exact stands r h old

end Server

/-- The records are those of one reply to the question of the request. -/
def Relayed (pool : Pool.State) (query : Query) (response : Message) : Prop :=
  ∃ resp, Replied pool query resp ∧ Repeats resp (sections response) ∧
    (response.header.authenticData = true →
      resp.header.authenticData = true ∧ sections response = sections resp)

/-- The records were made for the request, at the name it asks for. -/
structure Made (pool : Pool.State) (request : Request) (query : Query) (response : Message) :
    Prop where
  vacant : Vacant pool request query
  owned : Owned query.name response.answers
  alone : sections response = response.answers
  unsigned : response.header.authenticData = false

/-- There are no records and there is no AD bit, or all of it has one source. -/
inductive Sourced (pool : Pool.State) (request : Request) (response : Message) : Prop where
  | bare (empty : sections response = []) (unsigned : response.header.authenticData = false)
  | relayed {query : Query} (single : request.message.queries = [query])
      (relayed : Relayed pool query response)
  | made {query : Query} (made : Made pool request query response)

/-- Nothing is made up: in every run of the server, whatever the cache, the refreshes and
the other requests do. -/
theorem answers_traced (config : Config) (handler : Dns64Handler text)
    (metrics : Counters.Metrics) (actions : List Action) (after : State text)
    (run : Run (step config handler) anyAction (State.new text config metrics) actions after)
    (r : Nat) (h : Handling text) (present : after.requests.handlings[r]? = some h)
    (response : Message) (finished : h.place = .finished response) :
    Sourced after.pool h.request response := by
  have standing := reachable_standing metrics actions after run r h present
  simp only [Standing, finished] at standing
  cases standing with
  | refusal code => exact .bare rfl rfl
  | @relayed query answer single told =>
      refine .relayed single ?_
      cases told with
      | verbatim replied =>
          exact ⟨answer, replied, fun record listed => ⟨record, listed, rfl⟩,
            fun claimed => ⟨claimed, rfl⟩⟩
      | cached own stamp ttl replied storable =>
          rcases told_repeats (.cached own stamp ttl replied storable) with ⟨resp, same, repeats⟩
          -- What is rebuilt from the cache claims nothing.
          exact ⟨resp, same, repeats, fun claimed => nomatch claimed⟩
  | synthesized vacant owned =>
      exact .made ⟨vacant, owned, by simp [sections, sendSynthesized], rfl⟩

theorem answers_traced_sample :
    ∃ (after : State Synth.plainText) (h : Handling Synth.plainText),
      Transition.exec (step Pool.sampleConfig Conservation.sampleHandler) sampleActions
        (State.new Synth.plainText Pool.sampleConfig (.new [])) = some after ∧
      Sourced after.pool h.request (relay Conservation.sampleRequest (Pool.sampleReply 300)) := by
  have executed : Transition.exec (step Pool.sampleConfig Conservation.sampleHandler) sampleActions
      (State.new Synth.plainText Pool.sampleConfig (.new [])) = some _ := rfl
  exact ⟨_, _, executed, answers_traced Pool.sampleConfig Conservation.sampleHandler (.new []) _ _
    (exec_run executed) 0 _ rfl (relay Conservation.sampleRequest (Pool.sampleReply 300)) rfl⟩

end Dnsix.Grounding
