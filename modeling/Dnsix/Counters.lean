import Dnsix.Synth

/-!
The counters of `metrics.rs` that the handler and the synthesizer chain bump. The
cache counters are kept with the pool. Every counter is a natural number.
-/

namespace Dnsix.Counters
open Dns Synth

structure RcodeCounters where
  noerror : Nat
  nxdomain : Nat
  servfail : Nat
  notimp : Nat
  formerr : Nat
  refused : Nat
  other : Nat
  deriving DecidableEq

def RcodeCounters.record (r : RcodeCounters) : ResponseCode → RcodeCounters
  | .NoError => { r with noerror := r.noerror + 1 }
  | .NXDomain => { r with nxdomain := r.nxdomain + 1 }
  | .ServFail => { r with servfail := r.servfail + 1 }
  | .NotImp => { r with notimp := r.notimp + 1 }
  | .FormErr => { r with formerr := r.formerr + 1 }
  | .Refused => { r with refused := r.refused + 1 }
  | .other _ => { r with other := r.other + 1 }

def RcodeCounters.total (r : RcodeCounters) : Nat :=
  r.noerror + r.nxdomain + r.servfail + r.notimp + r.formerr + r.refused + r.other

def qtypeIndex : RecordType → Nat
  | .A => 0
  | .AAAA => 1
  | .CNAME => 2
  | .MX => 3
  | .TXT => 4
  | .NS => 5
  | .PTR => 6
  | .SOA => 7
  | .SRV => 8
  | .CAA => 9
  | .HTTPS => 10
  | .SVCB => 11
  | .DS => 12
  | .DNSKEY => 13
  | .NAPTR => 14
  | .ANY => 15
  | .other _ => 16

/-- `synthHits` runs parallel to `synthIds`, the enabled ids in config order. -/
structure Metrics where
  queriesDns64 : Nat
  queriesPassthrough : Nat
  blocked : Nat
  rcode : RcodeCounters
  nativeAaaa : Nat
  nxdomain64 : Nat
  nodata : Nat
  synthesized : Nat
  empty : Nat
  synthIds : List String
  synthHits : List Nat
  qtypeCounts : List Nat
  parallel : synthHits.length = synthIds.length
  deriving DecidableEq

/-- Ids that are not known are skipped. -/
def Metrics.new (enabled : List String) : Metrics :=
  let synthIds := enabled.filter fun id => knownIds.contains id
  { queriesDns64 := 0, queriesPassthrough := 0, blocked := 0, rcode := ⟨0, 0, 0, 0, 0, 0, 0⟩
    nativeAaaa := 0, nxdomain64 := 0, nodata := 0, synthesized := 0, empty := 0, synthIds
    synthHits := synthIds.map fun _ => 0
    qtypeCounts := List.replicate 17 0
    parallel := List.length_map _ }

def Metrics.incQueriesDns64 (m : Metrics) : Metrics :=
  { m with queriesDns64 := m.queriesDns64 + 1 }

def Metrics.incQueriesPassthrough (m : Metrics) : Metrics :=
  { m with queriesPassthrough := m.queriesPassthrough + 1 }

def Metrics.incBlocked (m : Metrics) : Metrics := { m with blocked := m.blocked + 1 }

def Metrics.incNativeAaaa (m : Metrics) : Metrics := { m with nativeAaaa := m.nativeAaaa + 1 }

def Metrics.incNxdomain64 (m : Metrics) : Metrics := { m with nxdomain64 := m.nxdomain64 + 1 }

def Metrics.incNodata (m : Metrics) : Metrics := { m with nodata := m.nodata + 1 }

def Metrics.incSynthesized (m : Metrics) : Metrics := { m with synthesized := m.synthesized + 1 }

def Metrics.incEmpty (m : Metrics) : Metrics := { m with empty := m.empty + 1 }

def Metrics.recordQtype (m : Metrics) (rt : RecordType) : Metrics :=
  { m with qtypeCounts := m.qtypeCounts.modify (qtypeIndex rt) (· + 1) }

def Metrics.recordRcode (m : Metrics) (code : ResponseCode) : Metrics :=
  { m with rcode := m.rcode.record code }

/-- Counted at the first place the id stands, and not at all when it stands nowhere. -/
def Metrics.synthHit (m : Metrics) (id : String) : Metrics :=
  match m.synthIds.idxOf? id with
  | some i =>
      { m with
        synthHits := m.synthHits.modify i (· + 1)
        parallel := (List.length_modify _ _ _).trans m.parallel }
  | none => m

/-- The hits counted for an id, over every place it stands at. -/
def Metrics.hits (m : Metrics) (id : String) : Nat :=
  (((m.synthIds.zip m.synthHits).filter fun entry => entry.1 == id).map Prod.snd).sum

theorem record_total (r : RcodeCounters) (code : ResponseCode) :
    (r.record code).total = r.total + 1 := by
  cases code <;> simp only [RcodeCounters.record, RcodeCounters.total] <;> omega

theorem synth_hit_ids (m : Metrics) (id : String) : (m.synthHit id).synthIds = m.synthIds := by
  unfold Metrics.synthHit
  split <;> rfl

/-- One place of a list of counted ids moves by one. -/
theorem sum_modified (ids : List String) (counts : List Nat) (place : Nat) (id other : String)
    (parallel : counts.length = ids.length) (located : ids[place]? = some id) :
    (((ids.zip (counts.modify place (· + 1))).filter fun entry => entry.1 == other).map
        Prod.snd).sum =
      (((ids.zip counts).filter fun entry => entry.1 == other).map Prod.snd).sum +
        if other = id then 1 else 0 := by
  induction ids generalizing counts place with
  | nil => cases located
  | cons first rest ih =>
      cases counts with
      | nil => cases parallel
      | cons count more =>
          have shorter : more.length = rest.length := Nat.succ.inj parallel
          cases place with
          | zero =>
              have same : first = id := Option.some.inj located
              by_cases chosen : other = id
              · simp [same, chosen, List.modify_zero_cons]
                omega
              · have apart : ¬id = other := fun agree => chosen agree.symm
                simp [same, chosen, apart, List.modify_zero_cons]
          | succ place =>
              have tail := ih more place shorter located
              by_cases chosen : first = other
              · simp [chosen, List.modify_succ_cons, tail]
                omega
              · simp [chosen, List.modify_succ_cons, tail]

theorem synth_hit_hits (m : Metrics) (id other : String) (enabled : id ∈ m.synthIds) :
    (m.synthHit id).hits other = m.hits other + if other = id then 1 else 0 := by
  cases found : m.synthIds.idxOf? id with
  | none => exact absurd enabled (List.idxOf?_eq_none_iff.mp found)
  | some place =>
      have located : m.synthIds[place]? = some id := by
        rcases List.findIdx?_eq_some_iff_getElem.mp found with ⟨inside, same, _⟩
        rw [List.getElem?_eq_getElem inside, beq_iff_eq.mp same]
      have counted : (m.synthHit id).synthHits = m.synthHits.modify place (· + 1) := by
        unfold Metrics.synthHit
        rw [found]
      unfold Metrics.hits
      rw [synth_hit_ids, counted]
      exact sum_modified m.synthIds m.synthHits place id other m.parallel located

/-- A hit of an enabled id is one hit more among all of them. -/
theorem synth_hit_sum (m : Metrics) (id : String) (enabled : id ∈ m.synthIds) :
    (m.synthHit id).synthHits.sum = m.synthHits.sum + 1 := by
  have bumped : ∀ (counts : List Nat) (place : Nat), place < counts.length →
      (counts.modify place (· + 1)).sum = counts.sum + 1 := by
    intro counts
    induction counts with
    | nil => intro place inside; exact absurd inside (Nat.not_lt_zero place)
    | cons count rest ih =>
        intro place inside
        cases place with
        | zero => simp [List.modify_zero_cons]; omega
        | succ place =>
            have tail := ih place (Nat.lt_of_succ_lt_succ inside)
            simp [List.modify_succ_cons, tail]
            omega
  cases found : m.synthIds.idxOf? id with
  | none => exact absurd enabled (List.idxOf?_eq_none_iff.mp found)
  | some place =>
      obtain ⟨inside, _⟩ := List.findIdx?_eq_some_iff_getElem.mp found
      simp only [Metrics.synthHit, found]
      exact bumped m.synthHits place (m.parallel ▸ inside)

end Dnsix.Counters
