import Dnsix.Dns
import Dnsix.LastWrite

/-!
The response cache of `upstream.rs`: positive answers are stored whole, negative
ones as their RCODE and authority SOA, and an expired entry stays readable for a
stale window. Instants and durations are nanoseconds. Every entry carries a
`Tag` that no operation reads; it only travels with the entry it was stored with.
-/

namespace Dnsix.ResponseCache
open Dns

def secs (seconds : Nat) : Nat := seconds * 1000000000

def asSecs (duration : Nat) : Nat := duration / 1000000000

def maxTtl : Nat := 86400

def negMaxTtl : Nat := 3600

def staleServeTtl : Nat := 30

def staleMaxWindow : Nat := secs 86400

def stampTtl (answers : List Record) (ttl : Nat) : List Record :=
  answers.map fun record => { record with ttl := ttl }

/-- A cache entry rendered back into the pieces a response is rebuilt from. -/
structure CachedResponse where
  responseCode : ResponseCode
  negative : Bool
  answers : List Record
  authority : List Record
  deriving DecidableEq

structure CacheEntry where
  answers : List Record
  authority : List Record
  responseCode : ResponseCode
  fetchedAt : Nat
  validUntil : Nat
  deriving DecidableEq

def CacheEntry.toResponse (entry : CacheEntry) (ttl : Nat) : CachedResponse :=
  { responseCode := entry.responseCode
    negative := entry.answers.isEmpty
    answers := stampTtl entry.answers ttl
    authority := stampTtl entry.authority ttl }

inductive CacheLookup where
  | fresh (response : CachedResponse) (prefetch : Bool)
  | stale (response : CachedResponse)
  deriving DecidableEq

def CacheLookup.response : CacheLookup → CachedResponse
  | .fresh response _ => response
  | .stale response => response

/-- Within the last tenth of a non-zero life. The comparison is the source's
floating-point one: a life is a whole number of seconds up to `maxTtl`, and for
those the rounded product separates the same nanoseconds as the exact one. -/
def prefetchDue (remaining total : Nat) : Bool :=
  decide (total ≠ 0) && decide (remaining * 10 ≤ total)

/-- The part of `StaleCache::get` after the entry has been found. -/
def CacheEntry.lookup (entry : CacheEntry) (staleWindow : Nat) (now : Nat) :
    Option CacheLookup :=
  if now ≤ entry.validUntil then
    let remaining := entry.validUntil - now
    let total := entry.validUntil - entry.fetchedAt
    some (.fresh (entry.toResponse (asSecs remaining)) (prefetchDue remaining total))
  else if now ≤ entry.validUntil + staleWindow then
    some (.stale (entry.toResponse staleServeTtl))
  else none

/-- The minimum answer TTL, capped; zero for an empty answer section. -/
def positiveTtl (answers : List Record) : Nat :=
  min ((answers.map Record.ttl).min?.getD 0) maxTtl

def soaTtl (record : Record) : Option Nat :=
  match record.data with
  | .SOA soa => some (min record.ttl soa.minimum)
  | _ => none

/-- The minimum of SOA TTL and SOA MINIMUM over the SOA records, capped. -/
def negativeTtl (soa : List Record) : Nat :=
  min ((soa.filterMap soaTtl).min?.getD 0) negMaxTtl

variable {Tag : Type}

structure StaleCache (Tag : Type) where
  cache : Query → Option (CacheEntry × Tag)
  staleWindow : Nat

def StaleCache.new (staleWindow : Nat) : StaleCache Tag := ⟨fun _ => none, staleWindow⟩

def StaleCache.store (cache : StaleCache Tag) (question : Query) (entry : CacheEntry)
    (tag : Tag) : StaleCache Tag :=
  { cache with cache := Function.update cache.cache question.key (some (entry, tag)) }

def StaleCache.insert (cache : StaleCache Tag) (question : Query) (answers : List Record)
    (now : Nat) (tag : Tag) : StaleCache Tag :=
  let ttl := positiveTtl answers
  if ttl = 0 then cache
  else
    cache.store question
      { answers, authority := [], responseCode := .NoError, fetchedAt := now,
        validUntil := now + secs ttl } tag

def StaleCache.insertNegative (cache : StaleCache Tag) (question : Query)
    (responseCode : ResponseCode) (soa : List Record) (now : Nat) (tag : Tag) :
    StaleCache Tag :=
  let ttl := negativeTtl soa
  if ttl = 0 then cache
  else
    cache.store question
      { answers := [], authority := soa, responseCode, fetchedAt := now,
        validUntil := now + secs ttl } tag

/-- The eviction of a key by the underlying cache, which may happen at any time. -/
def StaleCache.evict (cache : StaleCache Tag) (question : Query) : StaleCache Tag :=
  { cache with cache := Function.update cache.cache question.key none }

def StaleCache.get (cache : StaleCache Tag) (question : Query) (now : Nat) :
    Option (CacheLookup × Tag) :=
  match cache.cache question.key with
  | none => none
  | some (entry, tag) => (entry.lookup cache.staleWindow now).map fun found => (found, tag)

/-- What a lookup finds: the entry under the key, while it is fresh or still inside
the stale window. -/
theorem get_found (cache : StaleCache Tag) (question : Query) (now : Nat) (found : CacheLookup)
    (tag : Tag) (looked : cache.get question now = some (found, tag)) :
    ∃ entry, cache.cache question.key = some (entry, tag) ∧
      ((now ≤ entry.validUntil ∧ ∃ prefetch,
          found = .fresh (entry.toResponse (asSecs (entry.validUntil - now))) prefetch) ∨
        (entry.validUntil < now ∧ now ≤ entry.validUntil + cache.staleWindow ∧
          found = .stale (entry.toResponse staleServeTtl))) := by
  unfold StaleCache.get at looked
  cases held : cache.cache question.key with
  | none =>
      rw [held] at looked
      cases looked
  | some pair =>
      rcases pair with ⟨entry, stored⟩
      rw [held] at looked
      rcases Option.map_eq_some_iff.mp looked with ⟨answer, lookup, same⟩
      cases same
      refine ⟨entry, rfl, ?_⟩
      unfold CacheEntry.lookup at lookup
      split at lookup
      · rename_i within
        cases lookup
        exact Or.inl ⟨within, _, rfl⟩
      · rename_i expired
        split at lookup
        · rename_i inside
          cases lookup
          exact Or.inr ⟨Nat.lt_of_not_ge expired, inside, rfl⟩
        · cases lookup

def negativeSoa (response : Message) : List Record :=
  response.nameServers.filter Record.isSoa

/-- The rebuilt message, before it is encoded. -/
def rebuilt (question : Query) (response : CachedResponse) : Message :=
  { Message.new with
    header := { Header.new with
      messageType := .Response
      opCode := .Query
      responseCode := response.responseCode
      recursionAvailable := true }
    queries := [question]
    answers := response.answers
    nameServers := response.authority }

/-- `encodes` stands for the encoder behind `DnsResponse::from_message`, which
refuses the messages it cannot encode and keeps the others as they are. -/
def buildCachedResponse (encodes : Message → Bool) (question : Query)
    (response : CachedResponse) : Option Message :=
  if response.answers.isEmpty && response.authority.isEmpty then none
  else if encodes (rebuilt question response) then some (rebuilt question response)
  else none

/-! The expiry policy handed to the underlying cache. -/
structure StaleExpiry where
  staleWindow : Nat

def StaleExpiry.expireAfterCreate (expiry : StaleExpiry) (entry : CacheEntry)
    (createdAt : Nat) : Option Nat :=
  some (entry.validUntil - createdAt + expiry.staleWindow)

def StaleExpiry.expireAfterUpdate (expiry : StaleExpiry) (entry : CacheEntry)
    (updatedAt : Nat) : Option Nat :=
  some (entry.validUntil - updatedAt + expiry.staleWindow)

end Dnsix.ResponseCache
