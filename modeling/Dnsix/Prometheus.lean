import Dnsix.ChainContract
import Dnsix.Exposition
import Dnsix.RequestRuns

/-!
The metrics endpoint: all counters of `metrics.rs`, the snapshot the dashboard takes of
them and the text that is scraped. Both show the same numbers. A synthesizer id that is
configured twice is accepted, and its series then stands in the text twice.
-/

namespace Dnsix.Prometheus
open Address Ascii Counters Dns Exposition Synth SynthChain

variable {text : NameText}

/-! The counters. -/
section Metrics

/-- The counters that the handler and the chain bump, and those of the pool. -/
structure Shared where
  handler : Metrics
  pool : Pool.Metrics
  deriving DecidableEq

def Shared.new (enabled : List String) : Shared := ⟨.new enabled, ⟨0, 0, 0, 0, 0, 0⟩⟩

inductive Increment where
  | handler (bump : RequestRuns.Bump)
  | cacheHit | cacheMiss | negativeCacheHit | servedStale | prefetch | upstreamFailed
  deriving DecidableEq

def Shared.bump (m : Shared) : Increment → Shared
  | .handler bump => { m with handler := bump.apply m.handler }
  | .cacheHit => { m with pool := m.pool.incCacheHit }
  | .cacheMiss => { m with pool := m.pool.incCacheMiss }
  | .negativeCacheHit => { m with pool := m.pool.incNegative true }
  | .servedStale => { m with pool := m.pool.incServedStale }
  | .prefetch => { m with pool := m.pool.incPrefetch }
  | .upstreamFailed => { m with pool := m.pool.incUpstreamFailed }

/-- The counters after a history of increments. -/
def Shared.after (enabled : List String) (history : List Increment) : Shared :=
  history.foldl Shared.bump (.new enabled)

/-- The query-type buckets, in render order; `qtypeIndex` points into them. -/
def qtypeLabels : List String :=
  ["A", "AAAA", "CNAME", "MX", "TXT", "NS", "PTR", "SOA", "SRV", "CAA", "HTTPS", "SVCB", "DS",
   "DNSKEY", "NAPTR", "ANY", "other"]

end Metrics

/-! The snapshot. -/
section Snapshot

structure MetricsSnapshot where
  queriesDns64 : Nat
  queriesPassthrough : Nat
  blocked : Nat
  upstreamFailed : Nat
  cacheHits : Nat
  cacheMisses : Nat
  negativeCacheHits : Nat
  servedStale : Nat
  prefetches : Nat
  nativeAaaa : Nat
  nxdomain64 : Nat
  nodata : Nat
  synthesized : Nat
  empty : Nat
  rcode : List (String × Nat)
  qtype : List (String × Nat)
  synth : List (String × Nat)
  deriving DecidableEq

def Shared.snapshot (m : Shared) : MetricsSnapshot :=
  { queriesDns64 := m.handler.queriesDns64
    queriesPassthrough := m.handler.queriesPassthrough
    blocked := m.handler.blocked
    upstreamFailed := m.pool.upstreamFailed
    cacheHits := m.pool.cacheHits
    cacheMisses := m.pool.cacheMisses
    negativeCacheHits := m.pool.negativeCacheHits
    servedStale := m.pool.servedStale
    prefetches := m.pool.prefetches
    nativeAaaa := m.handler.nativeAaaa
    nxdomain64 := m.handler.nxdomain64
    nodata := m.handler.nodata
    synthesized := m.handler.synthesized
    empty := m.handler.empty
    rcode :=
      [("noerror", m.handler.rcode.noerror), ("nxdomain", m.handler.rcode.nxdomain),
       ("servfail", m.handler.rcode.servfail), ("notimp", m.handler.rcode.notimp),
       ("formerr", m.handler.rcode.formerr), ("refused", m.handler.rcode.refused),
       ("other", m.handler.rcode.other)]
    qtype := qtypeLabels.zip m.handler.qtypeCounts
    synth := m.handler.synthIds.zip m.handler.synthHits }

end Snapshot

/-! The text. -/
section Rendering

def described (name help : String) : Text :=
  writeln ("# HELP " ++ name ++ " " ++ help).toList ++
    writeln ("# TYPE " ++ name ++ " counter").toList

def labelled (name label value : String) (count : Nat) : Text :=
  writeln (name.toList ++ '{' :: label.toList ++ '=' :: quote :: value.toList ++
    quote :: '}' :: ' ' :: Nat.toDigits 10 count)

/-- The counters that are a family each, with their help. -/
def Shared.scalars (m : Shared) : List (String × String × Nat) :=
  [("dns_upstream_failed_total",
    "Queries where every upstream failed (client got SERVFAIL).", m.pool.upstreamFailed),
   ("dns_cache_hits_total",
    "Response-cache hits (all pool lookups, incl. internal reference resolutions).",
    m.pool.cacheHits),
   ("dns_cache_misses_total",
    "Response-cache misses for cacheable queries.", m.pool.cacheMisses),
   ("dns_negative_cache_hits_total",
    "Cache hits served from a negative (NXDOMAIN/NODATA) entry (RFC 2308).",
    m.pool.negativeCacheHits),
   ("dns_served_stale_total",
    "Answers served from expired cache (RFC 8767 serve-stale).", m.pool.servedStale),
   ("dns_prefetch_total",
    "Background refreshes triggered by a cache hit near TTL expiry.", m.pool.prefetches),
   ("dns64_native_aaaa_total",
    "AAAA queries relayed because a native AAAA existed.", m.handler.nativeAaaa),
   ("dns64_nxdomain_total",
    "AAAA queries that resolved to NXDOMAIN.", m.handler.nxdomain64),
   ("dns64_nodata_total",
    "AAAA-NODATA queries that entered the synthesizer chain.", m.handler.nodata),
   ("dns64_synthesized_total",
    "AAAA-NODATA queries where the chain produced records.", m.handler.synthesized),
   ("dns64_empty_total",
    "AAAA-NODATA queries where the chain produced nothing (honest empty answer).",
    m.handler.empty)]

def Shared.renderPrometheus (m : Shared) : Text :=
  described "dns_queries_total" "DNS queries handled, by processing kind." ++
  labelled "dns_queries_total" "kind" "dns64" m.handler.queriesDns64 ++
  labelled "dns_queries_total" "kind" "passthrough" m.handler.queriesPassthrough ++
  labelled "dns_queries_total" "kind" "blocked" m.handler.blocked ++
  described "dns_queries_by_qtype_total" "DNS queries handled, by query type." ++
  ((qtypeLabels.zip m.handler.qtypeCounts).flatMap fun (label, a) =>
    labelled "dns_queries_by_qtype_total" "qtype" label a) ++
  described "dns_responses_total" "Responses sent to clients, by RCODE." ++
  ([("noerror", m.handler.rcode.noerror), ("nxdomain", m.handler.rcode.nxdomain),
    ("servfail", m.handler.rcode.servfail), ("notimp", m.handler.rcode.notimp),
    ("formerr", m.handler.rcode.formerr), ("refused", m.handler.rcode.refused),
    ("other", m.handler.rcode.other)].flatMap fun (label, a) =>
      labelled "dns_responses_total" "rcode" label a) ++
  (m.scalars.flatMap fun (name, help, a) =>
    described name help ++ writeln (name.toList ++ ' ' :: Nat.toDigits 10 a)) ++
  described "synth_hits_total" "Records synthesized, by the synthesizer that produced them." ++
  (m.handler.synthIds.zip m.handler.synthHits).flatMap fun (id, a) =>
    labelled "synth_hits_total" "synthesizer" id a

end Rendering

/-! What the snapshot says, as families of samples. -/
section Families

def counterFamily (name help label : String) (points : List (String × Nat)) : Family :=
  ⟨name.toList, help.toList, points.map fun point => ([(label.toList, point.1.toList)], point.2)⟩

def scalarFamily (name help : String) (value : Nat) : Family :=
  ⟨name.toList, help.toList, [([], value)]⟩

def MetricsSnapshot.scalars (s : MetricsSnapshot) : List Family :=
  [scalarFamily "dns_upstream_failed_total"
    "Queries where every upstream failed (client got SERVFAIL)." s.upstreamFailed,
   scalarFamily "dns_cache_hits_total"
    "Response-cache hits (all pool lookups, incl. internal reference resolutions)." s.cacheHits,
   scalarFamily "dns_cache_misses_total"
    "Response-cache misses for cacheable queries." s.cacheMisses,
   scalarFamily "dns_negative_cache_hits_total"
    "Cache hits served from a negative (NXDOMAIN/NODATA) entry (RFC 2308)." s.negativeCacheHits,
   scalarFamily "dns_served_stale_total"
    "Answers served from expired cache (RFC 8767 serve-stale)." s.servedStale,
   scalarFamily "dns_prefetch_total"
    "Background refreshes triggered by a cache hit near TTL expiry." s.prefetches,
   scalarFamily "dns64_native_aaaa_total"
    "AAAA queries relayed because a native AAAA existed." s.nativeAaaa,
   scalarFamily "dns64_nxdomain_total"
    "AAAA queries that resolved to NXDOMAIN." s.nxdomain64,
   scalarFamily "dns64_nodata_total"
    "AAAA-NODATA queries that entered the synthesizer chain." s.nodata,
   scalarFamily "dns64_synthesized_total"
    "AAAA-NODATA queries where the chain produced records." s.synthesized,
   scalarFamily "dns64_empty_total"
    "AAAA-NODATA queries where the chain produced nothing (honest empty answer)." s.empty]

def MetricsSnapshot.families (s : MetricsSnapshot) : List Family :=
  [counterFamily "dns_queries_total" "DNS queries handled, by processing kind." "kind"
    [("dns64", s.queriesDns64), ("passthrough", s.queriesPassthrough), ("blocked", s.blocked)],
   counterFamily "dns_queries_by_qtype_total" "DNS queries handled, by query type." "qtype" s.qtype,
   counterFamily "dns_responses_total" "Responses sent to clients, by RCODE." "rcode" s.rcode] ++
  s.scalars ++
  [counterFamily "synth_hits_total" "Records synthesized, by the synthesizer that produced them."
    "synthesizer" s.synth]

theorem described_lines (name help : String) :
    described name help = writeln (helpLine name.toList help.toList) ++
      writeln (typeLine name.toList) := by
  have help_ : "# HELP ".toList = helpMark := rfl
  have type_ : "# TYPE ".toList = typeMark := rfl
  have counter : " counter".toList = counterMark := rfl
  have blank : " ".toList = [' '] := rfl
  simp only [described, helpLine, typeLine, String.toList_append, help_, type_, counter, blank,
    List.append_assoc, List.cons_append, List.nil_append]

theorem counter_text (name help label : String) (points : List (String × Nat)) :
    (counterFamily name help label points).text =
      described name help ++ points.flatMap fun (value, a) => labelled name label value a := by
  have lines : (counterFamily name help label points).samples.map Sample.text =
      points.map fun point => name.toList ++ '{' :: label.toList ++ '=' :: quote ::
        point.1.toList ++ quote :: '}' :: ' ' :: Nat.toDigits 10 point.2 := by
    simp [counterFamily, Family.samples, Sample.text, labelsText, labelText, join]
  rw [Family.text, Family.lines, lines, described_lines]
  simp only [counterFamily, labelled, List.flatMap_cons, List.flatMap_map, List.append_assoc]

theorem scalar_text (name help : String) (value : Nat) :
    (scalarFamily name help value).text =
      described name help ++ writeln (name.toList ++ ' ' :: Nat.toDigits 10 value) := by
  rw [Family.text, Family.lines, described_lines]
  simp [scalarFamily, Family.samples, Sample.text, labelsText]

/-- The text is the families of the snapshot, written one after the other. -/
theorem render_families (m : Shared) :
    m.renderPrometheus = m.snapshot.families.flatMap Family.text := by
  have scalars : (m.scalars.flatMap fun (name, help, a) =>
      described name help ++ writeln (name.toList ++ ' ' :: Nat.toDigits 10 a)) =
      m.snapshot.scalars.flatMap Family.text := by
    simp only [Shared.scalars, MetricsSnapshot.scalars, List.flatMap_cons, List.flatMap_nil,
      scalar_text]
    rfl
  rw [Shared.renderPrometheus, scalars, MetricsSnapshot.families]
  simp only [List.flatMap_append, List.flatMap_cons, List.flatMap_nil, counter_text]
  generalize m.snapshot.scalars.flatMap Family.text = written
  simp only [Shared.snapshot, List.flatMap_cons, List.flatMap_nil, List.append_assoc,
    List.append_nil]

end Families

/-! Both renderings stay well formed. -/
section WellFormed

/-- A name and a help that can be written. -/
def Written (name help : String) : Prop :=
  name.toList ≠ [] ∧ name.toList.all nameChar = true ∧ help.toList.all (· != '\n') = true

theorem written (nameChars helpChars : Text) (name help : String)
    (named : name = String.ofList nameChars) (helped : help = String.ofList helpChars)
    (checked : (!nameChars.isEmpty && nameChars.all nameChar && helpChars.all (· != '\n')) = true) :
    Written name help := by
  subst named helped
  rw [Bool.and_eq_true, Bool.and_eq_true] at checked
  obtain ⟨⟨present, plain⟩, line⟩ := checked
  unfold Written
  rw [String.toList_ofList, String.toList_ofList]
  exact ⟨by simpa using present, plain, line⟩

theorem scalar_proper (name help : String) (value : Nat) (fit : Written name help) :
    (scalarFamily name help value).Proper := by
  refine ⟨fit.1, fit.2.1, fit.2.2, fun point listed label inside => ?_⟩
  rw [List.mem_singleton.mp listed] at inside
  cases inside

theorem counter_proper (name help label : String) (points : List (String × Nat))
    (fit : Written name help) (key : label.toList.all nameChar = true)
    (values : ∀ point ∈ points, point.1.toList.all bareChar = true) :
    (counterFamily name help label points).Proper := by
  refine ⟨fit.1, fit.2.1, fit.2.2, fun point listed label inside => ?_⟩
  obtain ⟨source, within, rfl⟩ := List.mem_map.mp listed
  rw [List.mem_singleton.mp inside]
  exact ⟨key, values source within⟩

theorem qtype_bare (label : String) (listed : label ∈ qtypeLabels) :
    label.toList.all bareChar = true :=
  List.all_eq_true.mp (rfl : (qtypeLabels.all fun label => label.toList.all bareChar) = true)
    label listed

theorem known_bare (id : String) (known : knownIds.contains id = true) :
    id.toList.all bareChar = true :=
  List.all_eq_true.mp (rfl : (knownIds.all fun id => id.toList.all bareChar) = true) id
    (List.contains_iff_mem.mp known)

theorem families_proper (m : Shared) (known : ∀ id ∈ m.handler.synthIds, knownIds.contains id) :
    ∀ family ∈ m.snapshot.families, family.Proper := by
  have kinds : ∀ point ∈ [("dns64", m.handler.queriesDns64),
      ("passthrough", m.handler.queriesPassthrough), ("blocked", m.handler.blocked)],
      point.1.toList.all bareChar = true := by
    simp only [List.forall_mem_cons]
    exact ⟨rfl, rfl, rfl, nofun⟩
  have rcodes : ∀ point ∈ m.snapshot.rcode, point.1.toList.all bareChar = true := by
    simp only [Shared.snapshot, List.forall_mem_cons]
    exact ⟨rfl, rfl, rfl, rfl, rfl, rfl, rfl, nofun⟩
  have qtypes : ∀ point ∈ m.snapshot.qtype, point.1.toList.all bareChar = true :=
    fun point listed => qtype_bare point.1 (List.of_mem_zip listed).1
  have synths : ∀ point ∈ m.snapshot.synth, point.1.toList.all bareChar = true :=
    fun point listed => known_bare point.1 (known point.1 (List.of_mem_zip listed).1)
  intro family listed
  rw [MetricsSnapshot.families, List.mem_append, List.mem_append] at listed
  rcases listed with (labelled | scalar) | last
  · revert family
    simp only [List.forall_mem_cons]
    exact ⟨counter_proper _ _ _ _ (written _ _ _ _ rfl rfl rfl) rfl kinds,
      counter_proper _ _ _ _ (written _ _ _ _ rfl rfl rfl) rfl qtypes,
      counter_proper _ _ _ _ (written _ _ _ _ rfl rfl rfl) rfl rcodes, nofun⟩
  · revert family
    simp only [MetricsSnapshot.scalars, List.forall_mem_cons]
    refine ⟨?_, ?_, ?_, ?_, ?_, ?_, ?_, ?_, ?_, ?_, ?_, nofun⟩ <;>
      exact scalar_proper _ _ _ (written _ _ _ _ rfl rfl rfl)
  · rw [List.mem_singleton.mp last]
    exact counter_proper _ _ _ _ (written _ _ _ _ rfl rfl rfl) rfl synths

/-- The scraped text reads back as what the snapshot says. -/
theorem rendering_read (m : Shared) (known : ∀ id ∈ m.handler.synthIds, knownIds.contains id) :
    Exposition.read m.renderPrometheus = some m.snapshot.families := by
  rw [render_families]
  exact families_read _ (families_proper m known)

end WellFormed

/-! Each series once, and each hit in its series. -/
section Counting

theorem to_list_injective : Function.Injective String.toList :=
  fun _ _ same => String.toList_inj.mp same

theorem zip_sublist (labels : List String) (counts : List Nat) :
    ((labels.zip counts).map Prod.fst).Sublist labels := by
  induction labels generalizing counts with
  | nil => exact List.Sublist.slnil
  | cons label rest ih =>
      cases counts with
      | nil => exact List.nil_sublist _
      | cons count more => exact (ih more).cons_cons label

theorem counter_nodup (name help label : String) (points : List (String × Nat)) :
    ((counterFamily name help label points).points.map Prod.fst).Nodup ↔
      (points.map Prod.fst).Nodup := by
  have labels : (counterFamily name help label points).points.map Prod.fst =
      (points.map Prod.fst).map fun value => [(label.toList, value.toList)] := by
    simp [counterFamily, Function.comp_def]
  rw [labels]
  refine List.nodup_map_iff fun left right same => ?_
  exact to_list_injective (Prod.mk.inj (List.cons.inj same).1).2

theorem names_nodup (s : MetricsSnapshot) : (s.families.map Family.name).Nodup := by
  have names : s.families.map Family.name =
      ["dns_queries_total", "dns_queries_by_qtype_total", "dns_responses_total",
       "dns_upstream_failed_total", "dns_cache_hits_total", "dns_cache_misses_total",
       "dns_negative_cache_hits_total", "dns_served_stale_total", "dns_prefetch_total",
       "dns64_native_aaaa_total", "dns64_nxdomain_total", "dns64_nodata_total",
       "dns64_synthesized_total", "dns64_empty_total", "synth_hits_total"].map String.toList := rfl
  rw [names]
  exact List.Nodup.map to_list_injective (by decide)

/-- Only the ids that were configured can make a series repeat. -/
theorem series_once (m : Shared) :
    (seriesOf m.snapshot.families).Nodup ↔ m.handler.synthIds.Nodup := by
  have synths : m.snapshot.synth.map Prod.fst = m.handler.synthIds :=
    List.map_fst_zip (Nat.le_of_eq m.handler.parallel.symm)
  have qtypes : (m.snapshot.qtype.map Prod.fst).Nodup := by
    exact List.Nodup.sublist (zip_sublist qtypeLabels m.handler.qtypeCounts) (by decide)
  rw [series_nodup_iff _ (names_nodup _)]
  constructor
  · intro each
    have last := each _ (List.mem_append_right _ (List.mem_singleton_self _))
    rwa [counter_nodup, synths] at last
  · intro apart family listed
    rw [MetricsSnapshot.families, List.mem_append, List.mem_append] at listed
    rcases listed with (labelled | scalar) | last
    · revert family
      simp only [List.forall_mem_cons, counter_nodup]
      exact ⟨(by decide : ["dns64", "passthrough", "blocked"].Nodup), qtypes,
        (by decide : ["noerror", "nxdomain", "servfail", "notimp", "formerr", "refused",
          "other"].Nodup), nofun⟩
    · revert family
      simp only [MetricsSnapshot.scalars, List.forall_mem_cons]
      refine ⟨?_, ?_, ?_, ?_, ?_, ?_, ?_, ?_, ?_, ?_, ?_, nofun⟩ <;> exact List.nodup_singleton _
    · rw [List.mem_singleton.mp last, counter_nodup, synths]
      exact apart

def hitOf (id : String) : Increment := .handler (.synthHit id)

def hitSeries (id : String) : Series :=
  ⟨"synth_hits_total".toList, [("synthesizer".toList, id.toList)]⟩

theorem bump_ids (m : Shared) (increment : Increment) :
    (m.bump increment).handler.synthIds = m.handler.synthIds := by
  cases increment with
  | handler bump =>
      cases bump with
      | synthHit id => exact synth_hit_ids m.handler id
      | _ => rfl
  | _ => rfl

theorem bump_hits (m : Shared) (increment : Increment) (id : String)
    (enabled : id ∈ m.handler.synthIds) :
    (m.bump increment).handler.hits id =
      m.handler.hits id + if increment = hitOf id then 1 else 0 := by
  cases increment with
  | handler bump =>
      cases bump with
      | synthHit other =>
          simp only [Shared.bump, RequestRuns.Bump.apply, hitOf, Increment.handler.injEq,
            RequestRuns.Bump.synthHit.injEq]
          by_cases counted : other ∈ m.handler.synthIds
          · rw [synth_hit_hits m.handler other id counted]
            simp only [eq_comm]
          · have none : m.handler.synthIds.idxOf? other = none :=
              List.idxOf?_eq_none_iff.mpr counted
            have apart : other ≠ id := fun same => counted (same ▸ enabled)
            rw [Metrics.synthHit, none, if_neg apart, Nat.add_zero]
      | _ => rfl
  | _ => rfl

theorem after_append (enabled : List String) (front : List Increment) (increment : Increment) :
    Shared.after enabled (front ++ [increment]) = (Shared.after enabled front).bump increment :=
  List.foldl_append

theorem after_ids (enabled : List String) (history : List Increment) :
    (Shared.after enabled history).handler.synthIds = (Metrics.new enabled).synthIds := by
  induction history using List.reverseRecOn with
  | nil => rfl
  | append_singleton front increment ih =>
      rw [after_append, bump_ids]
      exact ih

/-- Every hit of an enabled id is counted, once. -/
theorem after_hits (enabled : List String) (history : List Increment) (id : String)
    (counted : id ∈ (Metrics.new enabled).synthIds) :
    (Shared.after enabled history).handler.hits id = history.count (hitOf id) := by
  induction history using List.reverseRecOn with
  | nil =>
      have zeros : ∀ entry ∈ (Metrics.new enabled).synthIds.zip (Metrics.new enabled).synthHits,
          entry.2 = 0 := by
        intro entry listed
        obtain ⟨_, _, zero⟩ := List.mem_map.mp (List.of_mem_zip listed).2
        exact zero.symm
      refine List.sum_eq_zero fun hit listed => ?_
      obtain ⟨entry, within, rfl⟩ := List.mem_map.mp listed
      exact zeros entry (List.mem_of_mem_filter within)
  | append_singleton front increment ih =>
      have enabledNow : id ∈ (Shared.after enabled front).handler.synthIds := by
        rw [after_ids]
        exact counted
      rw [after_append, bump_hits _ increment id enabledNow, ih, List.count_append,
        List.count_singleton]
      simp only [beq_iff_eq]

/-- Where no id repeats, the number of an id is all its hits. -/
theorem hits_listed (m : Metrics) (apart : m.synthIds.Nodup) (id : String)
    (enabled : id ∈ m.synthIds) : (id, m.hits id) ∈ m.synthIds.zip m.synthHits := by
  have ids : (m.synthIds.zip m.synthHits).map Prod.fst = m.synthIds :=
    List.map_fst_zip (Nat.le_of_eq m.parallel.symm)
  rw [← ids] at enabled
  obtain ⟨entry, listed, rfl⟩ := List.mem_map.mp enabled
  have only := filter_key Prod.fst _ (ids.symm ▸ apart) entry listed
  have same : m.hits entry.1 = entry.2 := by
    have filtered : ((m.synthIds.zip m.synthHits).filter fun other => other.1 == entry.1) =
        [entry] := by
      rw [← only]
      exact List.filter_congr fun other _ => beq_eq_decide _ _
    rw [Metrics.hits, filtered]
    exact Nat.add_zero _
  rw [same]
  exact listed

end Counting

/-! What is scraped after a history of increments. -/
section Scraped

structure Exposed (enabled : List String) (history : List Increment) : Prop where
  values : Exposition.read (Shared.after enabled history).renderPrometheus =
    some (Shared.after enabled history).snapshot.families
  once : (seriesOf (Shared.after enabled history).snapshot.families).Nodup
  counted : ∀ id ∈ enabled,
    ((Shared.after enabled history).snapshot.families.flatMap Family.samples).filter
      (fun sample => decide (sample.series = hitSeries id)) =
        [⟨hitSeries id, history.count (hitOf id)⟩]

theorem exposed_hits (enabled : List String) (history : List Increment)
    (known : (Metrics.new enabled).synthIds = enabled) (apart : enabled.Nodup) (id : String)
    (listed : id ∈ enabled) :
    ((Shared.after enabled history).snapshot.families.flatMap Family.samples).filter
      (fun sample => decide (sample.series = hitSeries id)) =
        [⟨hitSeries id, history.count (hitOf id)⟩] := by
  have ids := (after_ids enabled history).trans known
  have distinct : (Shared.after enabled history).handler.synthIds.Nodup := ids.symm ▸ apart
  have once := (series_once (Shared.after enabled history)).mpr distinct
  have entry := hits_listed _ distinct id (ids.symm ▸ listed)
  rw [after_hits enabled history id (known.symm ▸ listed)] at entry
  refine filter_key Sample.series _ once ⟨hitSeries id, history.count (hitOf id)⟩ ?_
  refine List.mem_flatMap.mpr ⟨_, List.mem_append_right _ (List.mem_singleton_self _), ?_⟩
  exact List.mem_map.mpr ⟨_, List.mem_map_of_mem entry, rfl⟩

theorem exposition_exact_iff (ids : List String) (nat64Prefix : Ipv6Addr)
    (ttlCap : Option Nat) (nat64Fallback : Bool) (chain : Chain text)
    (accepted : Chain.build text ids nat64Prefix ttlCap nat64Fallback = .ok chain)
    (history : List Increment) :
    Exposition.read (Shared.after ids history).renderPrometheus =
        some (Shared.after ids history).snapshot.families ∧
      (∀ id ∈ ids, (Shared.after ids history).handler.hits id = history.count (hitOf id)) ∧
      (Exposed ids history ↔ ids.Nodup) := by
  have built := ChainContract.build_built ids nat64Prefix ttlCap nat64Fallback chain accepted
  have counted := ChainContract.built_counted ids nat64Prefix ttlCap nat64Fallback chain built
  have enabled := (after_ids ids history).trans counted
  have known : ∀ id ∈ (Shared.after ids history).handler.synthIds, knownIds.contains id := by
    intro id listed
    rw [after_ids] at listed
    exact (List.mem_filter.mp listed).2
  have values := rendering_read (Shared.after ids history) known
  refine ⟨values, fun id listed => after_hits ids history id (counted.symm ▸ listed), ?_⟩
  constructor
  · intro exposed
    rw [← enabled]
    exact (series_once _).mp exposed.once
  · intro apart
    refine ⟨values, (series_once _).mpr (enabled.symm ▸ apart), ?_⟩
    exact exposed_hits ids history counted apart

/-! Two synthesizers, the first hit twice and one hit of an id that is not enabled; and one
synthesizer configured twice, hit once. -/
def sampleHistory : List Increment :=
  [hitOf "fastly", hitOf "fastly", hitOf "nat64", hitOf "akamai"]

theorem exposition_exact_two : Exposed ["fastly", "nat64"] sampleHistory :=
  (exposition_exact_iff ["fastly", "nat64"] 0 none false _
    (rfl : Chain.build plainText ["fastly", "nat64"] 0 none false = .ok _) sampleHistory).2.2.mpr
    (by decide)

theorem repeated_id_exposed_twice :
    (∃ chain, Chain.build plainText ["fastly", "fastly"] 0 none false = .ok chain) ∧
      (Shared.after ["fastly", "fastly"] [hitOf "fastly"]).snapshot.synth =
        [("fastly", 1), ("fastly", 0)] ∧
      ¬Exposed ["fastly", "fastly"] [hitOf "fastly"] := by
  refine ⟨⟨_, rfl⟩, by decide, fun exposed => ?_⟩
  have ids : (Shared.after ["fastly", "fastly"] [hitOf "fastly"]).handler.synthIds =
      ["fastly", "fastly"] := by decide
  have apart := (series_once _).mp exposed.once
  rw [ids] at apart
  exact absurd apart (by decide)

end Scraped

end Dnsix.Prometheus
