import Dnsix.ResponseCache

/-!
Histories of the response cache: any calls of `insert`, `insert_negative` and
`get` at times that never go back, with evictions anywhere between them. A lookup
is related to the last call that stored something for its question, found in the
history without replaying the cache.
-/

namespace Dnsix.CacheHistory
open Dns ResponseCache

variable {Tag : Type}

inductive Op (Tag : Type) where
  | insert (question : Query) (answers : List Record) (tag : Tag)
  | insertNegative (question : Query) (responseCode : ResponseCode) (soa : List Record)
      (tag : Tag)
  | get (question : Query)
  | evict (question : Query)

structure Call (Tag : Type) where
  now : Nat
  op : Op Tag

def Op.apply (now : Nat) : Op Tag → StaleCache Tag → StaleCache Tag
  | .insert question answers tag, cache => cache.insert question answers now tag
  | .insertNegative question responseCode soa tag, cache =>
      cache.insertNegative question responseCode soa now tag
  | .get _, cache => cache
  | .evict question, cache => cache.evict question

def replay (cache : StaleCache Tag) (history : List (Call Tag)) : StaleCache Tag :=
  history.foldl (fun current call => call.op.apply call.now current) cache

def Op.question : Op Tag → Query
  | .insert question _ _ => question
  | .insertNegative question _ _ _ => question
  | .get question => question
  | .evict question => question

/-- Seconds of freshness a call grants; zero when it stores nothing. -/
def Op.lifetime : Op Tag → Nat
  | .insert _ answers _ => positiveTtl answers
  | .insertNegative _ _ soa _ => negativeTtl soa
  | _ => 0

def Op.answers : Op Tag → List Record
  | .insert _ answers _ => answers
  | _ => []

def Op.authority : Op Tag → List Record
  | .insertNegative _ _ soa _ => soa
  | _ => []

def Op.responseCode : Op Tag → ResponseCode
  | .insertNegative _ responseCode _ _ => responseCode
  | _ => .NoError

def Op.tag? : Op Tag → Option Tag
  | .insert _ _ tag => some tag
  | .insertNegative _ _ _ tag => some tag
  | _ => none

/-- What the only caller guarantees: a negative answer has one of the two
negative RCODEs and nothing but SOA records in its proof. -/
def Op.Promised : Op Tag → Prop
  | .insertNegative _ responseCode soa _ =>
      (responseCode = .NoError ∨ responseCode = .NXDomain) ∧ ∀ record ∈ soa, record.isSoa = true
  | _ => True

def Call.entry (call : Call Tag) : CacheEntry :=
  { answers := call.op.answers
    authority := call.op.authority
    responseCode := call.op.responseCode
    fetchedAt := call.now
    validUntil := call.now + secs call.op.lifetime }

def Call.storesFor (key : Query) (call : Call Tag) : Bool :=
  decide (call.op.question.key = key) && decide (0 < call.op.lifetime)

def lastStored (key : Query) (history : List (Call Tag)) : Option (Call Tag) :=
  (history.filter (Call.storesFor key)).getLast?

/-- A call seen as a write to, or drop of, its key. -/
def Call.event (call : Call Tag) : Option (LastWrite.Event Query (Call Tag)) :=
  match call.op with
  | .evict question => some (.drop question.key)
  | _ => if 0 < call.op.lifetime then some (.write call.op.question.key call) else none

def Call.stored (call : Call Tag) : Option (CacheEntry × Tag) :=
  call.op.tag?.map fun tag => (call.entry, tag)

theorem update_bind {Key Value Image : Type} [DecidableEq Key] (map : Key → Option Value)
    (image : Value → Option Image) (key : Key) (value : Option Value) :
    (fun k => (Function.update map key value k).bind image) =
      Function.update (fun k => (map k).bind image) key (value.bind image) := by
  funext k
  by_cases same : k = key
  · subst k
    simp
  · simp [Function.update_of_ne same]

/-- One call acts on the entries as its event acts on the calls they came from. -/
theorem apply_event (cache : StaleCache Tag) (held : Query → Option (Call Tag))
    (call : Call Tag) (faithful : cache.cache = fun key => (held key).bind Call.stored) :
    (call.op.apply call.now cache).cache =
      fun key => ((call.event.elim held (LastWrite.apply held)) key).bind Call.stored := by
  obtain ⟨now, op⟩ := call
  cases op with
  | insert question answers tag =>
      by_cases zero : positiveTtl answers = 0
      · simp [Op.apply, StaleCache.insert, Call.event, Op.lifetime, zero, faithful]
      · have positive : 0 < positiveTtl answers := by omega
        simp only [Op.apply, StaleCache.insert, zero, if_false, StaleCache.store, Call.event,
          Op.lifetime, positive, if_true, Option.elim, LastWrite.apply, update_bind, faithful]
        rfl
  | insertNegative question responseCode soa tag =>
      by_cases zero : negativeTtl soa = 0
      · simp [Op.apply, StaleCache.insertNegative, Call.event, Op.lifetime, zero, faithful]
      · have positive : 0 < negativeTtl soa := by omega
        simp only [Op.apply, StaleCache.insertNegative, zero, if_false, StaleCache.store,
          Call.event, Op.lifetime, positive, if_true, Option.elim, LastWrite.apply, update_bind,
          faithful]
        rfl
  | get question => simp [Op.apply, Call.event, Op.lifetime, faithful]
  | evict question =>
      simp only [Op.apply, StaleCache.evict, Call.event, Option.elim, LastWrite.apply,
        update_bind, faithful]
      rfl

theorem replay_events (history : List (Call Tag)) (cache : StaleCache Tag)
    (held : Query → Option (Call Tag))
    (faithful : cache.cache = fun key => (held key).bind Call.stored) :
    (replay cache history).cache =
      fun key => (LastWrite.replay held (history.filterMap Call.event) key).bind Call.stored := by
  -- On the history: the cache stays the image of the calls still held.
  induction history generalizing cache held with
  | nil => exact faithful
  | cons call rest ih =>
      have head := apply_event cache held call faithful
      have tail := ih (call.op.apply call.now cache) _ head
      cases event : call.event with
      | none => simpa [replay, List.filterMap_cons, event] using tail
      | some found =>
          simpa [replay, List.filterMap_cons, event, LastWrite.replay] using tail

theorem replay_window (history : List (Call Tag)) (cache : StaleCache Tag) :
    (replay cache history).staleWindow = cache.staleWindow := by
  induction history generalizing cache with
  | nil => rfl
  | cons call rest ih =>
      have head : (call.op.apply call.now cache).staleWindow = cache.staleWindow := by
        obtain ⟨now, op⟩ := call
        cases op with
        | insert question answers tag =>
            simp only [Op.apply, StaleCache.insert]
            split <;> rfl
        | insertNegative question responseCode soa tag =>
            simp only [Op.apply, StaleCache.insertNegative]
            split <;> rfl
        | get question => rfl
        | evict question => rfl
      exact (ih (call.op.apply call.now cache)).trans head

theorem event_write (key : Query) (call : Call Tag) :
    call.event.bind (LastWrite.writeTo key) = if call.storesFor key then some call else none := by
  obtain ⟨now, op⟩ := call
  by_cases same : op.question.key = key <;> by_cases kept : 0 < op.lifetime <;>
    cases op <;> simp_all [Call.event, Call.storesFor, LastWrite.writeTo, Op.lifetime]

theorem last_stored_latest (key : Query) (history : List (Call Tag)) :
    LastWrite.latest key (history.filterMap Call.event) = lastStored key history := by
  have same : (fun call : Call Tag => call.event.bind (LastWrite.writeTo key)) =
      Option.guard (Call.storesFor key) := by
    funext call
    rw [event_write]
    rfl
  simp only [LastWrite.latest, lastStored, List.filterMap_filterMap, same,
    List.filterMap_eq_filter]

def cacheAfter (window : Nat) (history : List (Call Tag)) : StaleCache Tag :=
  replay (StaleCache.new window) history

/-- Whatever the cache still holds under a key came from the last call that
stored something under it. -/
theorem held_last_stored (window : Nat) (history : List (Call Tag)) (key : Query)
    (entry : CacheEntry) (tag : Tag)
    (held : (cacheAfter window history).cache key = some (entry, tag)) :
    ∃ call, lastStored key history = some call ∧ entry = call.entry ∧
      call.op.tag? = some tag := by
  rw [cacheAfter, replay_events history (StaleCache.new window) (fun _ => none) rfl] at held
  obtain ⟨call, kept, stored⟩ := Option.bind_eq_some_iff.mp held
  refine ⟨call, ?_, ?_⟩
  · rw [← last_stored_latest]
    exact LastWrite.replay_latest _ _ _ kept
  · obtain ⟨found, tagged, same⟩ := Option.map_eq_some_iff.mp stored
    cases same
    exact ⟨rfl, tagged⟩

theorem last_stored_spec (key : Query) (history : List (Call Tag)) (call : Call Tag)
    (last : lastStored key history = some call) :
    call ∈ history ∧ call.op.question.key = key ∧ 0 < call.op.lifetime := by
  have member := List.mem_of_getLast? last
  rw [List.mem_filter] at member
  simpa [Call.storesFor] using member

/-! Lifetimes and the records they are taken from. -/

theorem min_get_le (otherwise : Nat) (values : List Nat) (value : Nat)
    (member : value ∈ values) : values.min?.getD otherwise ≤ value := by
  cases smallest : values.min? with
  | none =>
      rw [List.min?_eq_none_iff.mp smallest] at member
      cases member
  | some least => exact (List.min?_eq_some_iff.mp smallest).2 value member

theorem positive_ttl_le (answers : List Record) (record : Record) (member : record ∈ answers) :
    positiveTtl answers ≤ record.ttl := by
  have bound := min_get_le 0 (answers.map Record.ttl) record.ttl (List.mem_map_of_mem member)
  exact Nat.le_trans (Nat.min_le_left _ _) bound

theorem negative_ttl_le (soa : List Record) (record : Record) (member : record ∈ soa)
    (proof : record.isSoa = true) : negativeTtl soa ≤ record.ttl := by
  unfold Record.isSoa at proof
  split at proof
  · rename_i fields data
    have offered : soaTtl record = some (min record.ttl fields.minimum) := by
      simp [soaTtl, data]
    have bound := min_get_le 0 (soa.filterMap soaTtl) _
      (List.mem_filterMap.mpr ⟨record, member, offered⟩)
    exact Nat.le_trans (Nat.min_le_left _ _) (Nat.le_trans bound (Nat.min_le_left _ _))
  · simp at proof

theorem positive_ttl_nonempty (answers : List Record) (kept : 0 < positiveTtl answers) :
    answers ≠ [] := by
  intro empty
  subst answers
  simp [positiveTtl] at kept

theorem negative_ttl_nonempty (soa : List Record) (kept : 0 < negativeTtl soa) :
    soa ≠ [] := by
  intro empty
  subst soa
  simp [negativeTtl] at kept

theorem lifetime_le_ttl (op : Op Tag) (promised : op.Promised) (record : Record)
    (member : record ∈ op.answers ++ op.authority) : op.lifetime ≤ record.ttl := by
  cases op with
  | insert question answers tag =>
      exact positive_ttl_le answers record (by simpa [Op.answers, Op.authority] using member)
  | insertNegative question responseCode soa tag =>
      have listed : record ∈ soa := by simpa [Op.answers, Op.authority] using member
      exact negative_ttl_le soa record listed (promised.2 record listed)
  | get question => simp [Op.answers, Op.authority] at member
  | evict question => simp [Op.answers, Op.authority] at member

/-- The shape of what may be stored: a positive answer, or the SOA proof of a
negative one. -/
def WellFormed (entry : CacheEntry) : Prop :=
  (entry.answers ≠ [] ∧ entry.responseCode = .NoError ∧ entry.authority = []) ∨
    (entry.answers = [] ∧ entry.authority ≠ [] ∧
      (∀ record ∈ entry.authority, record.isSoa = true) ∧
      (entry.responseCode = .NoError ∨ entry.responseCode = .NXDomain))

theorem call_entry_wellformed (call : Call Tag) (promised : call.op.Promised)
    (kept : 0 < call.op.lifetime) : WellFormed call.entry := by
  obtain ⟨now, op⟩ := call
  cases op with
  | insert question answers tag =>
      exact Or.inl ⟨positive_ttl_nonempty answers kept, rfl, rfl⟩
  | insertNegative question responseCode soa tag =>
      exact Or.inr ⟨rfl, negative_ttl_nonempty soa kept, promised.2, promised.1⟩
  | get question => simp [Op.lifetime] at kept
  | evict question => simp [Op.lifetime] at kept

theorem wellformed_nonempty (entry : CacheEntry) (ttl : Nat) (valid : WellFormed entry) :
    ((entry.toResponse ttl).answers.isEmpty && (entry.toResponse ttl).authority.isEmpty) =
      false := by
  rcases valid with ⟨answers, _, _⟩ | ⟨_, authority, _, _⟩
  · simp [CacheEntry.toResponse, stampTtl, answers]
  · simp [CacheEntry.toResponse, stampTtl, authority]

theorem stamped_ttl (entry : CacheEntry) (ttl : Nat) (record : Record)
    (member : record ∈ (entry.toResponse ttl).answers ++ (entry.toResponse ttl).authority) :
    record.ttl = ttl := by
  simp only [CacheEntry.toResponse, stampTtl, List.mem_append, List.mem_map] at member
  rcases member with ⟨original, _, same⟩ | ⟨original, _, same⟩
  · rw [← same]
  · rw [← same]

theorem secs_as_secs (duration : Nat) : secs (asSecs duration) ≤ duration :=
  Nat.div_mul_le_self duration 1000000000

/-! The three zones of a lookup, by the distance to the end of freshness. -/

def Call.validUntil (call : Call Tag) : Nat := call.now + secs call.op.lifetime

theorem lookup_fresh (call : Call Tag) (window : Nat) (now : Nat)
    (within : now ≤ call.validUntil) :
    call.entry.lookup window now =
      some (.fresh (call.entry.toResponse (asSecs (call.validUntil - now)))
        (prefetchDue (call.validUntil - now) (call.validUntil - call.now))) := by
  simp only [CacheEntry.lookup, Call.entry, Call.validUntil] at within ⊢
  simp [within]

theorem lookup_stale (call : Call Tag) (window : Nat) (now : Nat)
    (expired : call.validUntil < now) (inside : now ≤ call.validUntil + window) :
    call.entry.lookup window now = some (.stale (call.entry.toResponse staleServeTtl)) := by
  simp only [CacheEntry.lookup, Call.entry, Call.validUntil] at expired inside ⊢
  simp [Nat.not_le_of_gt expired, inside]

theorem lookup_beyond (call : Call Tag) (window : Nat) (now : Nat)
    (beyond : call.validUntil + window < now) : call.entry.lookup window now = none := by
  have expired : ¬ now ≤ call.entry.validUntil := by
    simp only [Call.entry, Call.validUntil] at beyond ⊢
    omega
  have outside : ¬ now ≤ call.entry.validUntil + window := by
    simp only [Call.entry, Call.validUntil] at beyond ⊢
    omega
  simp [CacheEntry.lookup, expired, outside]

/-- What a lookup at `now` owes the call whose entry it found. -/
def Served (window now : Nat) (call : Call Tag) : CacheLookup → Prop
  | .fresh response _ =>
      now ≤ call.validUntil ∧
      response = call.entry.toResponse (asSecs (call.validUntil - now)) ∧
      (∀ record ∈ response.answers ++ response.authority,
        record.ttl = asSecs (call.validUntil - now)) ∧
      ∀ original ∈ call.op.answers ++ call.op.authority,
        secs (asSecs (call.validUntil - now)) + (now - call.now) ≤ secs original.ttl
  | .stale response =>
      call.validUntil < now ∧ now ≤ call.validUntil + window ∧
      response = call.entry.toResponse staleServeTtl ∧
      ∀ record ∈ response.answers ++ response.authority, record.ttl = staleServeTtl

/-- The whole contract of a lookup of `question` at `now` after a history. -/
structure LookupContract (encodes : Message → Bool) (window : Nat) (history : List (Call Tag))
    (question : Query) (now : Nat) : Prop where
  served : ∀ found tag, (cacheAfter window history).get question now = some (found, tag) →
    ∃ call, lastStored question.key history = some call ∧ call.op.tag? = some tag ∧
      0 < call.op.lifetime ∧ Served window now call found
  missed : (cacheAfter window history).get question now = none →
    (cacheAfter window history).cache question.key = none ∨
      ∃ call, lastStored question.key history = some call ∧ call.validUntil + window < now
  neverStale : window = 0 → ∀ response tag,
    (cacheAfter window history).get question now ≠ some (.stale response, tag)
  wellFormed : ∀ key entry tag,
    (cacheAfter window history).cache key = some (entry, tag) → WellFormed entry
  rebuilds : ∀ found tag, (cacheAfter window history).get question now = some (found, tag) →
    buildCachedResponse encodes question found.response =
      if encodes (rebuilt question found.response) then some (rebuilt question found.response)
      else none
  retained : ∀ key entry tag, (cacheAfter window history).cache key = some (entry, tag) →
    ∀ stamped, ∃ life, StaleExpiry.expireAfterCreate ⟨window⟩ entry stamped = some life ∧
      StaleExpiry.expireAfterUpdate ⟨window⟩ entry stamped = some life ∧
      entry.validUntil + window ≤ stamped + life ∧
      (stamped ≤ entry.validUntil → stamped + life = entry.validUntil + window)

theorem served_of_lookup (window now : Nat) (call : Call Tag) (promised : call.op.Promised)
    (later : call.now ≤ now) (found : CacheLookup)
    (answered : call.entry.lookup window now = some found) : Served window now call found := by
  by_cases within : now ≤ call.validUntil
  · rw [lookup_fresh call window now within, Option.some.injEq] at answered
    subst found
    refine ⟨within, rfl, fun record member => stamped_ttl _ _ record member, ?_⟩
    intro original member
    -- Rounding to whole seconds only shortens what is promised.
    have rounded := secs_as_secs (call.validUntil - now)
    have longer : secs call.op.lifetime ≤ secs original.ttl :=
      Nat.mul_le_mul_right _ (lifetime_le_ttl call.op promised original member)
    have stop : call.validUntil = call.now + secs call.op.lifetime := rfl
    omega
  · have expired : call.validUntil < now := Nat.lt_of_not_ge within
    by_cases inside : now ≤ call.validUntil + window
    · rw [lookup_stale call window now expired inside, Option.some.injEq] at answered
      subst found
      exact ⟨expired, inside, rfl, fun record member => stamped_ttl _ _ record member⟩
    · rw [lookup_beyond call window now (Nat.lt_of_not_ge inside)] at answered
      cases answered

/-- `held_last_stored` seen through a lookup: a present entry is looked up as
the entry of the last call, and an absent one gives nothing. -/
theorem get_last_stored (window : Nat) (history : List (Call Tag)) (question : Query)
    (now : Nat) :
    ((cacheAfter window history).cache question.key = none ∧
      (cacheAfter window history).get question now = none) ∨
    ∃ call tag, lastStored question.key history = some call ∧ call.op.tag? = some tag ∧
      (cacheAfter window history).get question now =
        (call.entry.lookup window now).map fun found => (found, tag) := by
  cases held : (cacheAfter window history).cache question.key with
  | none => exact Or.inl ⟨rfl, by simp [StaleCache.get, held]⟩
  | some stored =>
      obtain ⟨entry, tag⟩ := stored
      obtain ⟨call, last, same, tagged⟩ := held_last_stored window history _ entry tag held
      have kept : (cacheAfter window history).staleWindow = window := replay_window history _
      exact Or.inr ⟨call, tag, last, tagged, by simp [StaleCache.get, held, kept, same]⟩

theorem lookup_contract (encodes : Message → Bool) (window : Nat) (history : List (Call Tag))
    (promised : ∀ call ∈ history, call.op.Promised) (question : Query) (now : Nat)
    (later : ∀ call ∈ history, call.now ≤ now) :
    LookupContract encodes window history question now := by
  have kept : ∀ key entry tag, (cacheAfter window history).cache key = some (entry, tag) →
      WellFormed entry := by
    intro key entry tag held
    obtain ⟨call, last, same, _⟩ := held_last_stored window history key entry tag held
    obtain ⟨member, _, positive⟩ := last_stored_spec key history call last
    rw [same]
    exact call_entry_wellformed call (promised call member) positive
  have answered : ∀ found tag,
      (cacheAfter window history).get question now = some (found, tag) →
      ∃ call, lastStored question.key history = some call ∧ call.op.tag? = some tag ∧
        0 < call.op.lifetime ∧ Served window now call found := by
    intro found tag hit
    rcases get_last_stored window history question now with
      ⟨_, nothing⟩ | ⟨call, stored, last, tagged, looked⟩
    · rw [nothing] at hit
      cases hit
    · rw [looked] at hit
      obtain ⟨answer, lookup, same⟩ := Option.map_eq_some_iff.mp hit
      cases same
      obtain ⟨member, _, positive⟩ := last_stored_spec question.key history call last
      exact ⟨call, last, tagged, positive,
        served_of_lookup window now call (promised call member) (later call member) _ lookup⟩
  constructor
  · exact answered
  · intro nothing
    rcases get_last_stored window history question now with
      ⟨absent, _⟩ | ⟨call, stored, last, tagged, looked⟩
    · exact Or.inl absent
    · rw [looked, Option.map_eq_none_iff] at nothing
      right
      refine ⟨call, last, ?_⟩
      by_contra inside
      by_cases within : now ≤ call.validUntil
      · rw [lookup_fresh call window now within] at nothing
        cases nothing
      · rw [lookup_stale call window now (by omega) (by omega)] at nothing
        cases nothing
  · intro none response tag hit
    obtain ⟨call, _, _, _, expired, inside, _⟩ := answered _ _ hit
    omega
  · exact kept
  · intro found tag hit
    obtain ⟨call, last, _, positive, served⟩ := answered found tag hit
    obtain ⟨member, _, _⟩ := last_stored_spec question.key history call last
    have valid := call_entry_wellformed call (promised call member) positive
    cases found with
    | fresh response prefetch =>
        obtain ⟨_, same, _⟩ := served
        simp [buildCachedResponse, CacheLookup.response, same, wellformed_nonempty _ _ valid]
    | stale response =>
        obtain ⟨_, _, same, _⟩ := served
        simp [buildCachedResponse, CacheLookup.response, same, wellformed_nonempty _ _ valid]
  · intro key entry tag _ stamped
    -- Both lifetimes are one term, cut at zero once the entry has expired.
    refine ⟨entry.validUntil - stamped + window, rfl, rfl, ?_, ?_⟩
    · omega
    · intro early
      omega

/-- The A question `a.` and a positive answer to it, for concrete runs. -/
def sampleQuestion : Query := ⟨⟨[[97]], true⟩, .A, .IN⟩

def sampleAnswer (ttl : Nat) : Record := .fromRdata ⟨[[97]], true⟩ ttl (.A 0x01020304)

theorem lookup_contract_hundred_seconds :
    (cacheAfter staleMaxWindow [⟨0, .insert sampleQuestion [sampleAnswer 300] ()⟩]).get
        sampleQuestion (secs 100) =
      some (.fresh ⟨.NoError, false, [sampleAnswer 200], []⟩ false, ()) ∧
    LookupContract (fun _ => true) staleMaxWindow
      [⟨0, .insert sampleQuestion [sampleAnswer 300] ()⟩] sampleQuestion (secs 100) :=
  ⟨by decide, lookup_contract _ _ _ (by simp [Op.Promised]) _ _ (by simp)⟩

end Dnsix.CacheHistory
