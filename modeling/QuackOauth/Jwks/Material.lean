import QuackOauth.Jwks.Evolution
import QuackOauth.Lib.Distinct

/-!
# Key material

Keys of the same material are the same for the cache.  The lists that it stores have no
two keys of one material, and the union of a passive fetch is the stored list followed
by the keys whose material is new.  From this follows what such a fetch preserves.
-/

namespace QuackOauth
namespace Jwks

open Lib Distinct

variable {a b k : Jwk} {keys old fresh after : List Jwk}

/-- What keys of the same material agree in. -/
theorem sameKeyMaterial_iff :
    sameKeyMaterial a b = true ↔
      (a.kty = b.kty ∧ a.alg = b.alg ∧ a.use = b.use) ∧
        (a.kty = "RSA" ∧ a.n = b.n ∧ a.e = b.e ∨
          (a.kty = "EC" ∨ a.kty = "OKP") ∧ a.crv = b.crv ∧ a.x = b.x ∧ a.y = b.y) := by
  unfold sameKeyMaterial
  by_cases sameHeader : a.kty ≠ b.kty ∨ a.alg ≠ b.alg ∨ a.use ≠ b.use
  · rw [if_pos sameHeader]
    tauto
  · have header : a.kty = b.kty ∧ a.alg = b.alg ∧ a.use = b.use := by tauto
    rw [if_neg sameHeader, and_iff_right header]
    by_cases isRsa : a.kty = "RSA"
    · simp [isRsa]
    · by_cases isCurve : a.kty = "EC" ∨ a.kty = "OKP"
      · simp [isRsa, isCurve, and_assoc]
      · simp [isRsa, isCurve]

/-- Having the same material is symmetric and transitive. -/
theorem sameKeyMaterial_sameness : Sameness sameKeyMaterial where
  symm := by
    intro a b same
    rw [sameKeyMaterial_iff] at same ⊢
    obtain ⟨⟨kty, alg, use⟩, material⟩ := same
    rw [← kty, ← alg, ← use]
    refine ⟨⟨rfl, rfl, rfl⟩, ?_⟩
    rcases material with ⟨isRsa, n, e⟩ | ⟨isCurve, crv, x, y⟩
    · exact .inl ⟨isRsa, n.symm, e.symm⟩
    · exact .inr ⟨isCurve, crv.symm, x.symm, y.symm⟩
  trans := by
    intro a b c first second
    rw [sameKeyMaterial_iff] at first second ⊢
    obtain ⟨⟨kty, alg, use⟩, material⟩ := first
    rw [← kty, ← alg, ← use] at second
    obtain ⟨header, otherMaterial⟩ := second
    refine ⟨header, ?_⟩
    rcases material with ⟨isRsa, n, e⟩ | ⟨isCurve, crv, x, y⟩
    · rcases otherMaterial with ⟨-, otherN, otherE⟩ | ⟨isCurve, -⟩
      · exact .inl ⟨isRsa, n.trans otherN, e.trans otherE⟩
      · simp [isRsa] at isCurve
    · rcases otherMaterial with ⟨isRsa, -⟩ | ⟨-, otherCrv, otherX, otherY⟩
      · simp [isRsa] at isCurve
      · exact .inr ⟨isCurve, crv.trans otherCrv, x.trans otherX, y.trans otherY⟩

theorem holdsMaterial_eq : holdsMaterial keys k = holds sameKeyMaterial keys k := rfl

/-- No two keys have the same material. -/
abbrev DistinctMaterial (keys : List Jwk) : Prop :=
  AllDistinct sameKeyMaterial keys

/-- The keys whose material is not there yet. -/
abbrev newMaterial (old fresh : List Jwk) : List Jwk :=
  newcomers sameKeyMaterial old fresh

theorem unionKeys_eq_union (old fresh : List Jwk) :
    JwksCache.unionKeys old fresh = union sameKeyMaterial old fresh := by
  induction fresh generalizing old with
  | nil => rfl
  | cons key rest inductionHypothesis =>
      rw [JwksCache.unionKeys, union, inductionHypothesis, inductionHypothesis]
      rfl

/-- The union of a passive fetch. -/
theorem unionKeys_eq_append (distinct : DistinctMaterial fresh) :
    JwksCache.unionKeys old fresh = old ++ newMaterial old fresh := by
  rw [unionKeys_eq_union, union_eq_append distinct]

theorem distinctMaterial_unionKeys
    (oldDistinct : DistinctMaterial old)
    (distinct : DistinctMaterial fresh) :
    DistinctMaterial (JwksCache.unionKeys old fresh) := by
  rw [unionKeys_eq_union]
  exact oldDistinct.union distinct

theorem dropOldest_sublist (keys : List Jwk) : (JwksCache.dropOldest keys).Sublist keys :=
  List.drop_sublist _ _

theorem length_dropOldest_le (keys : List Jwk) :
    (JwksCache.dropOldest keys).length ≤ kMaxKeysPerKid := by
  rw [JwksCache.dropOldest, List.length_drop]
  omega

theorem trimToCap_eq_take (keys : List Jwk) :
    JwksCache.trimToCap keys = keys.take kMaxKeysPerKid := by
  unfold JwksCache.trimToCap
  split
  · rfl
  · next fits => exact (List.take_of_length_le (Nat.le_of_not_lt fits)).symm

/-! ## What a passive fetch preserves -/

/-- The oldest keys of an entry, as many as give way to new material. -/
def crowdedOut (old fresh : List Jwk) : List Jwk :=
  old.take (old.length + (newMaterial old fresh).length - kMaxKeysPerKid)

/-- What is kept of an entry and of keys observed for it. -/
structure Preserves (old fresh after : List Jwk) : Prop where
  observed : ∀ k ∈ fresh, k ∈ after ∨ holdsMaterial after k = true
  distinct : DistinctMaterial after
  length_le : after.length ≤ kMaxKeysPerKid
  known : ∀ k ∈ after, k ∈ old ∨ k ∈ fresh
  kept : old.length + (newMaterial old fresh).length ≤ kMaxKeysPerKid →
    ∀ k ∈ old, k ∈ after

variable (old) in
/-- A passive fetch keeps the newer keys of the entry, and all new material. -/
theorem dropOldest_unionKeys
    (distinct : DistinctMaterial fresh)
    (length_le : fresh.length ≤ kMaxKeysPerKid) :
    JwksCache.dropOldest (JwksCache.unionKeys old fresh) =
      old.drop (old.length + (newMaterial old fresh).length - kMaxKeysPerKid) ++
        newMaterial old fresh := by
  have few : (newMaterial old fresh).length ≤ kMaxKeysPerKid :=
    le_trans (List.length_filter_le _ _) length_le
  rw [unionKeys_eq_append distinct, JwksCache.dropOldest, List.length_append,
    List.drop_append_of_le_length (by omega)]

/-- Observed material is lost exactly with an entry's oldest keys. -/
theorem preserves_iff
    (oldDistinct : DistinctMaterial old)
    (distinct : DistinctMaterial fresh)
    (length_le : fresh.length ≤ kMaxKeysPerKid) :
    Preserves old fresh (JwksCache.dropOldest (JwksCache.unionKeys old fresh)) ↔
      ∀ k ∈ fresh, holdsMaterial (crowdedOut old fresh) k = false := by
  have after_eq := dropOldest_unionKeys old distinct length_le
  have halves : DistinctMaterial (crowdedOut old fresh ++
      old.drop (old.length + (newMaterial old fresh).length - kMaxKeysPerKid)) := by
    rw [crowdedOut, List.take_append_drop]
    exact oldDistinct
  have apart := (List.pairwise_append.mp halves).2.2
  constructor
  · intro preserves k member
    rw [Bool.eq_false_iff]
    intro crowded
    obtain ⟨lost, lostMember, isSame⟩ := holdsMaterial_iff.mp crowded
    have lostOld : lost ∈ old := List.mem_of_mem_take lostMember
    have notSame : ∀ kept ∈ JwksCache.dropOldest (JwksCache.unionKeys old fresh),
        sameKeyMaterial lost kept = false := by
      rw [after_eq]
      intro kept keptMember
      rcases List.mem_append.mp keptMember with keptOld | keptNew
      · exact apart lost lostMember kept keptOld
      · exact holds_eq_false_iff.mp (mem_newcomers.mp keptNew).2 lost lostOld
    rcases preserves.observed k member with kept | held
    · rw [notSame k kept] at isSame
      cases isSame
    · obtain ⟨kept, keptMember, keptSame⟩ := holdsMaterial_iff.mp held
      have both := sameKeyMaterial_sameness.trans isSame
        (sameKeyMaterial_sameness.symm keptSame)
      rw [notSame kept keptMember] at both
      cases both
  · intro spared
    refine ⟨?_, ?_, length_dropOldest_le _, ?_, ?_⟩
    · intro k member
      rw [after_eq]
      by_cases known : holdsMaterial old k = true
      · right
        obtain ⟨stored, storedMember, isSame⟩ := holdsMaterial_iff.mp known
        rw [← List.take_append_drop
          (old.length + (newMaterial old fresh).length - kMaxKeysPerKid) old,
          List.mem_append] at storedMember
        rcases storedMember with lost | kept
        · have notSame := holds_eq_false_iff.mp (spared k member) stored lost
          rw [notSame] at isSame
          cases isSame
        · exact holdsMaterial_iff.mpr ⟨stored, List.mem_append_left _ kept, isSame⟩
      · left
        exact List.mem_append_right _ (mem_newcomers.mpr
          ⟨member, Bool.eq_false_iff.mpr known⟩)
    · exact (distinctMaterial_unionKeys oldDistinct distinct).sublist (dropOldest_sublist _)
    · intro k member
      rw [after_eq] at member
      rcases List.mem_append.mp member with kept | new
      · exact .inl (List.mem_of_mem_drop kept)
      · exact .inr (mem_newcomers.mp new).1
    · intro fits k member
      rw [after_eq, Nat.sub_eq_zero_of_le fits]
      exact List.mem_append_left _ member

namespace JwksCache

variable {cache : JwksCache} {hit : Entry} {jwksUri kid : String} {nowS : Int}

/-- A passive fetch for a cached kid extends the keys of its entry. -/
theorem findHit_onPassiveFetchSuccess
    (found : cache.findHit jwksUri kid = some hit)
    (nonempty : fresh ≠ []) :
    (onPassiveFetchSuccess kid fresh nowS jwksUri cache).findHit jwksUri kid =
      some { hit with
        keys := dropOldest (unionKeys hit.keys fresh)
        consecutiveAbsentCount := 0 } := by
  unfold onPassiveFetchSuccess
  rw [if_neg nonempty, found]
  exact AList.lookup_insert _

/-- A passive fetch for a cached kid keeps everything it observed, and old keys as far as
there is room, exactly if none of the oldest keys that give way to new material was
observed again. -/
theorem onPassiveFetchSuccess_preserves_iff
    (found : cache.findHit jwksUri kid = some hit)
    (storedDistinct : DistinctMaterial hit.keys)
    (stored_le : hit.keys.length ≤ kMaxKeysPerKid)
    (distinct : DistinctMaterial fresh)
    (length_le : fresh.length ≤ kMaxKeysPerKid) :
    (∃ entry, (onPassiveFetchSuccess kid fresh nowS jwksUri cache).findHit jwksUri kid =
        some entry ∧ Preserves hit.keys fresh entry.keys) ↔
      ∀ k ∈ fresh, holdsMaterial (crowdedOut hit.keys fresh) k = false := by
  rw [← preserves_iff storedDistinct distinct length_le]
  by_cases nothing : fresh = []
  · subst nothing
    have unchanged : onPassiveFetchSuccess kid [] nowS jwksUri cache = cache := if_pos rfl
    have same : dropOldest (unionKeys hit.keys []) = hit.keys := by
      rw [unionKeys, dropOldest, Nat.sub_eq_zero_of_le stored_le, List.drop_zero]
    rw [unchanged, found, same]
    simp
  · rw [findHit_onPassiveFetchSuccess found nothing]
    simp

/-- An OKP key that is its x coordinate. -/
def sampleKey (x : String) : Jwk := { kid := "a", kty := "OKP", crv := "Ed25519", x }

/-- An entry at its cap. -/
def sampleFull : JwksCache :=
  (create 60 8).onFetchSuccess "a" (["1", "2", "3", "4"].map sampleKey) 100
    "https://idp.test/jwks"

theorem onPassiveFetchSuccess_loses_observed :
    ∃ hit, sampleFull.findHit "https://idp.test/jwks" "a" = some hit ∧
      DistinctMaterial hit.keys ∧ hit.keys.length ≤ kMaxKeysPerKid ∧
      DistinctMaterial (["1", "5"].map sampleKey) ∧
      ¬∃ entry, (onPassiveFetchSuccess "a" (["1", "5"].map sampleKey) 200
          "https://idp.test/jwks" sampleFull).findHit "https://idp.test/jwks" "a" =
          some entry ∧ Preserves hit.keys (["1", "5"].map sampleKey) entry.keys := by
  refine ⟨_, rfl, by decide, by decide, by decide, ?_⟩
  rintro ⟨entry, stored, preserves⟩
  cases stored
  have observed := preserves.observed (sampleKey "1") (by decide)
  revert observed
  decide

theorem onPassiveFetchSuccess_preserves_sample :
    ∃ entry, (onPassiveFetchSuccess "a" (["4", "5"].map sampleKey) 200
        "https://idp.test/jwks" sampleFull).findHit "https://idp.test/jwks" "a" =
        some entry ∧
      Preserves (["1", "2", "3", "4"].map sampleKey) (["4", "5"].map sampleKey)
        entry.keys :=
  (onPassiveFetchSuccess_preserves_iff
    (show sampleFull.findHit "https://idp.test/jwks" "a" = some {
      keys := ["1", "2", "3", "4"].map sampleKey
      fetchedAtS := 100
      lastRefreshAttemptS := 100
      lruIt := 0 } from rfl)
    (by decide) (by decide) (by decide) (by decide)).mpr (by decide)

end JwksCache
end Jwks
end QuackOauth
