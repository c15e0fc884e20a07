import QuackOauth.Jwks.Material
import QuackOauth.Lib.Matching

/-!
# Lists of keys of the same material

The comparison of two lists of keys removes the first key that fits, for one key after
the other.  It finds out whether the lists are the same up to their order, and with that
whether a pending reservation survives new keys.
-/

namespace QuackOauth
namespace Jwks

open Lib Matching

variable {a b c : List Jwk}

/-- A key of one of the families whose material is compared. -/
def KnownFamily (k : Jwk) : Prop :=
  k.kty = "RSA" ∨ k.kty = "EC" ∨ k.kty = "OKP"

instance (k : Jwk) : Decidable (KnownFamily k) :=
  inferInstanceAs (Decidable (_ ∨ _))

/-- A key has its own material, unless nothing is known of its family. -/
theorem sameKeyMaterial_self_iff (k : Jwk) :
    sameKeyMaterial k k = true ↔ KnownFamily k := by
  rw [sameKeyMaterial_iff, KnownFamily]
  simp

theorem sameKeyMaterialRemaining_eq (a rem : List Jwk) :
    sameKeyMaterialRemaining a rem = removeEach sameKeyMaterial a rem := by
  induction a generalizing rem with
  | nil => rfl
  | cons ka rest inductionHypothesis =>
      rw [sameKeyMaterialRemaining, removeEach]
      cases rem.find? (sameKeyMaterial ka) with
      | none => rfl
      | some kb => exact inductionHypothesis _

/-- The comparison decides whether the lists match, whatever keys they have. -/
theorem sameKeyMaterialList_iff :
    sameKeyMaterialList a b = true ↔ Matched sameKeyMaterial a b := by
  unfold sameKeyMaterialList
  by_cases length_eq : a.length = b.length
  · rw [if_neg (not_not.mpr length_eq), sameKeyMaterialRemaining_eq]
    exact removeEach_iff_matched sameKeyMaterial_sameness length_eq
  · rw [if_pos length_eq]
    exact iff_of_false Bool.false_ne_true fun matched => length_eq matched.length_eq

theorem sameKeyMaterialList_self
    (known : ∀ k ∈ a, KnownFamily k) :
    sameKeyMaterialList a a = true :=
  sameKeyMaterialList_iff.mpr
    (Matched.refl fun k member => (sameKeyMaterial_self_iff k).mpr (known k member))

theorem sameKeyMaterialList_comm (a b : List Jwk) :
    sameKeyMaterialList a b = sameKeyMaterialList b a := by
  rw [Bool.eq_iff_iff, sameKeyMaterialList_iff, sameKeyMaterialList_iff]
  exact ⟨Matched.symm sameKeyMaterial_sameness, Matched.symm sameKeyMaterial_sameness⟩

theorem sameKeyMaterialList_trans
    (first : sameKeyMaterialList a b = true)
    (second : sameKeyMaterialList b c = true) :
    sameKeyMaterialList a c = true := by
  rw [sameKeyMaterialList_iff] at first second ⊢
  exact first.trans sameKeyMaterial_sameness second

/-- The order of the lists does not matter. -/
theorem sameKeyMaterialList_perm
    {reordered otherReordered : List Jwk}
    (perm : a.Perm reordered)
    (otherPerm : b.Perm otherReordered) :
    sameKeyMaterialList a b = sameKeyMaterialList reordered otherReordered := by
  rw [Bool.eq_iff_iff, sameKeyMaterialList_iff, sameKeyMaterialList_iff]
  constructor
  · intro matched
    exact (matched.perm_left perm).perm_right otherPerm
  · intro matched
    exact (matched.perm_left perm.symm).perm_right otherPerm.symm

/-- An authoritative fetch for a cached kid keeps a pending reservation if the keys are
the same up to their order, and voids it if they are not. -/
theorem currentReservationId_onFetchSuccess
    {cache : JwksCache}
    {hit : Entry}
    {kid jwksUri : String}
    {keys : List Jwk}
    (nowS : Int)
    (nonempty : keys ≠ [])
    (found : cache.findHit jwksUri kid = some hit) :
    ∃ entry, (cache.onFetchSuccess kid keys nowS jwksUri).findHit jwksUri kid = some entry ∧
      entry.currentReservationId =
        if sameKeyMaterialList hit.keys keys then hit.currentReservationId else 0 := by
  have stored : cache.hits.lookup (cacheKey jwksUri kid) = some hit := found
  unfold JwksCache.onFetchSuccess
  rw [if_neg nonempty]
  simp only [JwksCache.hits_dropMiss, JwksCache.hits_recordJwksFetchSuccess, stored]
  exact ⟨_, AList.lookup_insert _, rfl⟩

/-- The comparison is equality up to material and order, which is reflexive on keys of
the known families, and by it an authoritative fetch decides about a pending reservation. -/
theorem sameKeyMaterialList_multiset :
    (∀ a b : List Jwk, sameKeyMaterialList a b = true ↔
      ∃ reordered, reordered.Perm b ∧
        List.Forall₂ (fun k l => sameKeyMaterial k l = true) a reordered) ∧
    (∀ a : List Jwk, (∀ k ∈ a, KnownFamily k) → sameKeyMaterialList a a = true) ∧
    (∀ a b, sameKeyMaterialList a b = true → sameKeyMaterialList b a = true) ∧
    (∀ a b c, sameKeyMaterialList a b = true → sameKeyMaterialList b c = true →
      sameKeyMaterialList a c = true) ∧
    (∀ a b reordered otherReordered : List Jwk, a.Perm reordered → b.Perm otherReordered →
      sameKeyMaterialList a b = sameKeyMaterialList reordered otherReordered) ∧
    ∀ (cache : JwksCache) (hit : Entry) (kid jwksUri : String) (keys : List Jwk)
        (nowS : Int), keys ≠ [] → cache.findHit jwksUri kid = some hit →
      ∃ entry,
        (cache.onFetchSuccess kid keys nowS jwksUri).findHit jwksUri kid = some entry ∧
          entry.currentReservationId =
            if sameKeyMaterialList hit.keys keys then hit.currentReservationId else 0 := by
  refine ⟨fun _ _ => sameKeyMaterialList_iff, fun _ => sameKeyMaterialList_self, ?_,
    fun _ _ _ => sameKeyMaterialList_trans, fun _ _ _ _ => sameKeyMaterialList_perm, ?_⟩
  · intro a b same
    rw [sameKeyMaterialList_comm]
    exact same
  · intro cache hit kid jwksUri keys nowS nonempty found
    exact currentReservationId_onFetchSuccess nowS nonempty found

/-- A list with a key that is there twice, in other orders, and an entry whose keys are
replaced. -/
theorem sameKeyMaterialList_multiset_sample :
    sameKeyMaterialList (["1", "2", "1"].map JwksCache.sampleKey)
        (["1", "2", "1"].map JwksCache.sampleKey) = true ∧
    sameKeyMaterialList (["2", "1", "1"].map JwksCache.sampleKey)
        (["1", "2", "1"].map JwksCache.sampleKey) = true ∧
    sameKeyMaterialList (["1", "2", "1"].map JwksCache.sampleKey)
        (["1", "1", "2"].map JwksCache.sampleKey) = true ∧
    sameKeyMaterialList (["1", "2", "1"].map JwksCache.sampleKey)
        (["1", "2", "2"].map JwksCache.sampleKey) =
      sameKeyMaterialList (["2", "1", "1"].map JwksCache.sampleKey)
        (["2", "1", "2"].map JwksCache.sampleKey) ∧
    ∃ entry, (JwksCache.sampleFull.onFetchSuccess "a" (["4", "5"].map JwksCache.sampleKey)
        200 "https://idp.test/jwks").findHit "https://idp.test/jwks" "a" = some entry ∧
      entry.currentReservationId = 0 := by
  obtain ⟨-, reflexive, symmetric, transitive, independent, ingests⟩ :=
    sameKeyMaterialList_multiset
  refine ⟨reflexive _ (by decide), symmetric _ _ (by decide), ?_,
    independent _ _ _ _ (by decide) (by decide), ?_⟩
  · exact transitive _ (["2", "1", "1"].map JwksCache.sampleKey) _ (by decide) (by decide)
  · exact ingests JwksCache.sampleFull {
      keys := ["1", "2", "3", "4"].map JwksCache.sampleKey
      fetchedAtS := 100
      lastRefreshAttemptS := 100
      lruIt := 0 } _ _ _ _ (by decide) rfl

end Jwks
end QuackOauth
