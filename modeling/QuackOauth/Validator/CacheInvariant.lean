import QuackOauth.Jwks.Recency
import QuackOauth.Validator.Contents
import QuackOauth.Validator.Document
import QuackOauth.Validator.Operations

/-!
# The invariant of the cache

In every reachable state the maps and the recency lists of the cache belong together, a
full map loses exactly its oldest entry, and each entry holds between one and four
usable signing keys of its kid, no two of the same material.
-/

namespace QuackOauth
namespace Validator

open Lib Jwks Jwt Distinct

/-- A recency list holds each key of its map once, and each entry points to its own key. -/
structure Mirrors
    {Value : Type}
    (node : Value → Nat)
    (lru : LinkedList String)
    (map : UnorderedMap String Value) : Prop where
  nodup : lru.values.Nodup
  mem_iff : ∀ key, key ∈ lru.values ↔ (map.lookup key).isSome = true
  own : ∀ key value, map.lookup key = some value → lru.get? (node value) = some key

/-- The keys that an entry of a kid may hold. -/
structure WellStocked (backend : Backend) (kid : String) (keys : List Jwk) : Prop where
  nonempty : 1 ≤ keys.length
  length_le : keys.length ≤ kMaxKeysPerKid
  distinct : DistinctMaterial keys
  usable : ∀ k ∈ keys, isUsableSigningKey backend k = true
  use_eq : ∀ k ∈ keys, k.use = "" ∨ k.use = "sig"
  kid_eq : ∀ k ∈ keys, k.kid = kid

theorem mirrors_of_indexed
    {Value : Type}
    {node : Value → Nat}
    {lru : LinkedList String}
    {map : UnorderedMap String Value}
    (indexed : Lru.Indexed node lru map) :
    Mirrors node lru map where
  nodup := indexed.nodup_values
  mem_iff := fun _ => indexed.mem_values_iff
  own := fun _ _ stored => LinkedList.get?_eq_some_iff.mpr (indexed.node_mem stored)

/-! ## How many keys, and which -/

/-- What an entry holds: not none, not too many, no two of one material, and each
certified for the key of the entry. -/
structure Stocked (backend : Backend) (key : String) (keys : List Jwk) : Prop where
  nonempty : keys ≠ []
  length_le : keys.length ≤ kMaxKeysPerKid
  distinct : DistinctMaterial keys
  certified : ∀ k ∈ keys, Certified backend key k

/-- Keys are offered for a key of the cache: no two of one material, each certified. -/
structure Offered (backend : Backend) (key : String) (keys : List Jwk) : Prop where
  distinct : DistinctMaterial keys
  certified : ∀ k ∈ keys, Certified backend key k

/-- An operation offers such keys. -/
def Offers (backend : Backend) : Operation → Prop
  | .commitRefresh kid _ keys _ jwksUri => Offered backend (cacheKey jwksUri kid) keys
  | .onFetchSuccess kid keys _ jwksUri => Offered backend (cacheKey jwksUri kid) keys
  | .onPassiveFetchSuccess kid keys _ jwksUri =>
      Offered backend (cacheKey jwksUri kid) keys
  | _ => True

/-- Every entry is stocked. -/
def AllStocked (backend : Backend) (cache : JwksCache) : Prop :=
  ∀ key hit, cache.hits.lookup key = some hit → Stocked backend key hit.keys

variable {backend : Backend} {cache : JwksCache} {key : String} {operation : Operation}
variable {keys old : List Jwk}

theorem stocked_trimToCap
    (nonempty : keys ≠ [])
    (offered : Offered backend key keys) :
    Stocked backend key (JwksCache.trimToCap keys) := by
  rw [trimToCap_eq_take]
  refine ⟨?_, List.length_take_le _ _, offered.distinct.sublist (List.take_sublist _ _), ?_⟩
  · cases keys with
    | nil => exact absurd rfl nonempty
    | cons k rest => exact List.cons_ne_nil _ _
  · intro k member
    exact offered.certified k (List.mem_of_mem_take member)

theorem stocked_dropOldest
    (stocked : Stocked backend key old)
    (offered : Offered backend key keys) :
    Stocked backend key (JwksCache.dropOldest (JwksCache.unionKeys old keys)) where
  nonempty := by
    have some := List.length_pos_of_ne_nil stocked.nonempty
    apply List.ne_nil_of_length_pos
    rw [unionKeys_eq_append offered.distinct, JwksCache.dropOldest, List.length_drop,
      List.length_append, kMaxKeysPerKid]
    omega
  length_le := length_dropOldest_le _
  distinct :=
    (distinctMaterial_unionKeys stocked.distinct offered.distinct).sublist
      (dropOldest_sublist _)
  certified := by
    intro k member
    rcases JwksCache.mem_of_mem_unionKeys ((dropOldest_sublist _).subset member) with
      known | new
    · exact stocked.certified k known
    · exact offered.certified k new

theorem stocked_entryAfter
    {entry : Entry}
    (stocked : AllStocked backend cache)
    (offers : Offers backend operation)
    (after : JwksCache.entryAfter cache key (cache.hits.lookup key) operation =
      some entry) :
    Stocked backend key entry.keys := by
  have successor := JwksCache.successor_of_entryAfter after
  generalize found : cache.hits.lookup key = previous at successor
  cases successor with
  | untouched operation => exact stocked key entry found
  | @reserved _ _ _ hit isKey isDue => exact stocked key hit found
  | @committed _ _ _ keys _ _ isKey accepts =>
      have nonempty : keys ≠ [] := by
        simp only [JwksCache.acceptsCommit, Bool.and_eq_true, decide_eq_true_eq] at accepts
        exact accepts.1.1.2
      rw [isKey]
      exact stocked_trimToCap nonempty offers
  | @marked _ _ _ _ hit isKey counts => exact stocked key hit found
  | reconciled presentKids jwksUri excludeKid hit =>
      rw [JwksCache.countAbsence_keys]
      exact stocked key hit found
  | stored isKey nonempty =>
      rw [isKey]
      cases previous <;> exact stocked_trimToCap nonempty offers
  | extended isKey nonempty =>
      subst isKey
      cases previous with
      | none => exact stocked_trimToCap nonempty offers
      | some hit => exact stocked_dropOldest (stocked _ hit found) offers

theorem apply_allStocked
    (consistent : cache.Consistent)
    (offers : Offers backend operation)
    (stocked : AllStocked backend cache) :
    AllStocked backend (cache.apply operation) := by
  intro key entry stored
  rw [(JwksCache.apply_applied consistent operation).lookup_hits,
    Option.ite_none_left_eq_some] at stored
  exact stocked_entryAfter stocked offers stored.2

/-- Entries stay stocked over operations that offer certified keys. -/
theorem applyAll_allStocked
    {operations : List Operation}
    (consistent : cache.Consistent)
    (offers : ∀ operation ∈ operations, Offers backend operation)
    (stocked : AllStocked backend cache) :
    AllStocked backend (cache.applyAll operations) := by
  induction operations generalizing cache with
  | nil => exact stocked
  | cons operation operations inductionHypothesis =>
      exact inductionHypothesis (JwksCache.apply_applied consistent operation).consistent
        (fun other member => offers other (List.mem_cons_of_mem _ member))
        (apply_allStocked consistent (offers operation List.mem_cons_self) stocked)

/-- The usable keys of a document, in any order, are offered for their kid. -/
theorem offered_of_perm
    {response : Option Response}
    {kid : String}
    (read : readResponse backend response = .keys keys)
    (perm : old.Perm (usableKeys backend keys kid))
    (jwksUri : String) :
    Offered backend (cacheKey jwksUri kid) old where
  distinct := by
    have distinct : DistinctMaterial (usableKeys backend keys kid) :=
      distinctMaterial_screenUsableKeys _
    exact distinct.perm sameKeyMaterial_sameness perm.symm
  certified := by
    intro k member
    have usable := perm.subset member
    have listed := (mem_of_mem_screenUsableKeys usable).1
    have grouped := lookup_groupSigningKeysByKid_eq_some.mpr
      ⟨rfl, List.ne_nil_of_mem listed⟩
    exact (published_of_mem_group read grouped usable).certified jwksUri

theorem beginOperations_offer
    {call : Call}
    (member : operation ∈ beginOperations backend call cache) :
    Offers backend operation := by
  cases mem_beginOperations member <;> trivial

theorem finishOperations_offer
    {parked : Parked}
    {response : Option Response}
    {order : IterationOrder String (List Jwk)}
    (member : operation ∈ finishOperations backend parked response order cache) :
    Offers backend operation := by
  cases mem_finishOperations member with
  | commit keys candidates reservationId cachedResult read route arranged =>
      exact offered_of_perm read arranged _
  | ingest keys kid ingested read listed arranged => exact offered_of_perm read arranged _
  | _ => trivial

/-- What a cache holds for a kid. -/
theorem AllStocked.wellStocked
    {jwksUri kid : String}
    {hit : Entry}
    (stocked : AllStocked backend cache)
    (printable : '\n' ∉ kid.toList)
    (found : cache.findHit jwksUri kid = some hit) :
    WellStocked backend kid hit.keys := by
  obtain ⟨nonempty, length_le, distinct, certified⟩ := stocked _ hit found
  refine ⟨List.length_pos_of_ne_nil nonempty, length_le, distinct,
    fun k member => (certified k member).usable, fun k member => ?_, fun k member => ?_⟩
  · have signing := (certified k member).signing
    simpa [isSigningKey] using signing
  · obtain ⟨uri, key_eq⟩ := (certified k member).key_eq
    exact (cacheKey_inj printable (certified k member).printable key_eq).2.symm

namespace System

variable {system : System}

theorem stepOperations_offer
    {label : Label}
    (member : operation ∈ stepOperations backend system label) :
    Offers backend operation := by
  cases label with
  | begin call => exact beginOperations_offer member
  | resume request response order =>
      rw [stepOperations] at member
      split at member
      · cases member
      · exact finishOperations_offer member

theorem runOperations_offer
    {labels : List Label}
    (member : operation ∈ runOperations backend system labels) :
    Offers backend operation := by
  induction labels generalizing system with
  | nil => cases member
  | cons label labels inductionHypothesis =>
      rcases List.mem_append.mp member with now | later
      · exact stepOperations_offer now
      · exact inductionHypothesis later

theorem run_allStocked
    (backend : Backend)
    (minRefreshS : Int)
    (maxEntries : Nat)
    (labels : List Label) :
    AllStocked backend (run backend (initial minRefreshS maxEntries) labels).cache := by
  rw [run_cache]
  apply applyAll_allStocked (JwksCache.create_consistent minRefreshS maxEntries)
  · intro operation member
    exact runOperations_offer member
  · intro key hit impossible
    cases impossible

/-- In every reachable state, whatever the interleaving, the clocks and the documents: the
recency lists mirror their maps, which are within the limit; an insertion that overflows
removed exactly the entry created or committed longest ago, or the miss recorded longest
ago; and every entry is stored under an issuer and a kid, and is well stocked for it. -/
theorem run_cacheInvariant
    (backend : Backend)
    (minRefreshS : Int)
    (maxEntries : Nat)
    (labels : List Label) :
    let cache := (run backend (initial minRefreshS maxEntries) labels).cache
    let start := JwksCache.create minRefreshS maxEntries
    (Mirrors Entry.lruIt cache.hitLru cache.hits ∧
      Mirrors MissEntry.lruIt cache.missLru cache.misses ∧
      UnorderedMap.size cache.hits ≤ (entryLimit maxEntries).1 ∧
      UnorderedMap.size cache.misses ≤ (entryLimit maxEntries).1) ∧
    (∀ before operation after,
      runOperations backend (initial minRefreshS maxEntries) labels =
        before ++ operation :: after →
      ((start.applyAll before).Overflows operation →
        ∃ victim, JwksCache.DropsOldest JwksCache.hits JwksCache.renewedHit start before
          operation victim) ∧
      ((start.applyAll before).OverflowsMisses operation →
        ∃ victim, JwksCache.DropsOldest JwksCache.misses JwksCache.renewedMiss start before
          operation victim)) ∧
    (∀ key hit, cache.hits.lookup key = some hit →
      ∃ jwksUri kid, key = cacheKey jwksUri kid ∧ '\n' ∉ kid.toList) ∧
    ∀ jwksUri kid hit, '\n' ∉ kid.toList → cache.findHit jwksUri kid = some hit →
      WellStocked backend kid hit.keys := by
  intro cache start
  have consistent := run_consistent backend minRefreshS maxEntries labels
  have limit_eq : cache.maxEntries = entryLimit maxEntries := by
    have bounds := JwksCache.applyAll_bounds
      (runOperations backend (initial minRefreshS maxEntries) labels)
      (JwksCache.create_consistent minRefreshS maxEntries)
    change (run backend (initial minRefreshS maxEntries) labels).cache.maxEntries = _
    rw [run_cache]
    exact bounds.2
  refine ⟨⟨mirrors_of_indexed consistent.hits, mirrors_of_indexed consistent.misses, ?_, ?_⟩,
    ?_, ?_, ?_⟩
  · rw [← limit_eq]
    exact consistent.hits_le
  · rw [← limit_eq]
    exact consistent.misses_le
  · intro before operation after _
    exact ⟨JwksCache.overflow_dropsOldest, JwksCache.overflowMisses_dropsOldest⟩
  · intro key hit stored
    have stocked := run_allStocked backend minRefreshS maxEntries labels key hit stored
    obtain ⟨k, member⟩ := List.exists_mem_of_ne_nil _ stocked.nonempty
    obtain ⟨jwksUri, key_eq⟩ := (stocked.certified k member).key_eq
    exact ⟨jwksUri, k.kid, key_eq, (stocked.certified k member).printable⟩
  · intro jwksUri kid hit printable found
    exact (run_allStocked backend minRefreshS maxEntries labels).wellStocked printable found

end System
end Validator
end QuackOauth
