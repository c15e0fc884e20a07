import QuackOauth.Jwks.Material
import QuackOauth.Validator.Pieces

/-!
# What a document says about a kid

The signing keys that a document lists for a kid, and those of them that can be
used, as the loops over its groups see them.
-/

namespace QuackOauth
namespace Validator

open Lib Jwks Jwt

/-- The signing keys that a document lists for a kid. -/
def listedKeys (keys : List Jwk) (kid : String) : List Jwk :=
  (keys.filter isSigningKey).filter fun k => k.kid = kid

/-- The usable ones among them. -/
def usableKeys (backend : Backend) (keys : List Jwk) (kid : String) : List Jwk :=
  screenUsableKeys backend (listedKeys keys kid)

variable {backend : Backend} {keys group : List Jwk} {kid : String} {k : Jwk}

theorem mem_listedKeys :
    k ∈ listedKeys keys kid ↔ k ∈ keys ∧ isSigningKey k = true ∧ k.kid = kid := by
  simp only [listedKeys, List.mem_filter, decide_eq_true_eq, and_assoc]

theorem addToGroup_ne_nil
    {keysByKid : UnorderedMap String (List Jwk)}
    (nonempty : ∀ kid group, keysByKid.lookup kid = some group → group ≠ [])
    (k : Jwk) :
    ∀ kid group, (addToGroup keysByKid k).lookup kid = some group → group ≠ [] := by
  intro kid group found
  rw [addToGroup, UnorderedMap.lookup_insert_eq_ite] at found
  split at found
  · cases found
    simp
  · exact nonempty kid group found

/-- Grouping leaves no empty group. -/
theorem groupSigningKeysByKid_ne_nil
    (found : (groupSigningKeysByKid keys).lookup kid = some group) :
    group ≠ [] := by
  have grouped : ∀ (rest : List Jwk) (keysByKid : UnorderedMap String (List Jwk)),
      (∀ kid group, keysByKid.lookup kid = some group → group ≠ []) →
      ∀ kid group, (rest.foldl addToGroup keysByKid).lookup kid = some group →
        group ≠ [] := by
    intro rest
    induction rest with
    | nil => exact fun _ nonempty => nonempty
    | cons k rest inductionHypothesis =>
        exact fun _ nonempty => inductionHypothesis _ (addToGroup_ne_nil nonempty k)
  exact grouped _ _ (fun kid group impossible => by cases impossible) kid group found

/-- The groups of a document are the nonempty lists of keys of a kid. -/
theorem lookup_groupSigningKeysByKid_eq_some :
    (groupSigningKeysByKid keys).lookup kid = some group ↔
      group = listedKeys keys kid ∧ group ≠ [] := by
  have sameGroup := lookup_groupSigningKeysByKid keys kid
  constructor
  · intro found
    rw [found, Option.getD_some] at sameGroup
    exact ⟨sameGroup, groupSigningKeysByKid_ne_nil found⟩
  · rintro ⟨rfl, nonempty⟩
    cases found : (groupSigningKeysByKid keys).lookup kid with
    | none =>
        rw [found, Option.getD_none] at sameGroup
        exact absurd sameGroup.symm nonempty
    | some group =>
        rw [found, Option.getD_some] at sameGroup
        rw [sameGroup]
        rfl

theorem lookup_groupSigningKeysByKid_eq_none :
    (groupSigningKeysByKid keys).lookup kid = none ↔ listedKeys keys kid = [] := by
  rw [Option.eq_none_iff_forall_ne_some]
  constructor
  · intro absent
    by_contra nonempty
    exact absent _ (lookup_groupSigningKeysByKid_eq_some.mpr ⟨rfl, nonempty⟩)
  · intro empty group found
    obtain ⟨rfl, nonempty⟩ := lookup_groupSigningKeysByKid_eq_some.mp found
    exact nonempty empty

theorem listedKeys_ne_nil_of_usable
    (usable : usableKeys backend keys kid ≠ []) :
    listedKeys keys kid ≠ [] := by
  intro empty
  rw [usableKeys, empty] at usable
  exact usable rfl

/-- The group of a kid that a document lists is visited. -/
theorem mem_visit_of_listed
    (order : IterationOrder String (List Jwk))
    (listed : listedKeys keys kid ≠ []) :
    (⟨kid, listedKeys keys kid⟩ : (_ : String) × List Jwk) ∈
      order.visit (groupSigningKeysByKid keys) :=
  IterationOrder.mem_visit.mpr (lookup_groupSigningKeysByKid_eq_some.mpr ⟨rfl, listed⟩)

/-- A document with a key that parses is read. -/
theorem readResponse_eq_keys
    {document : Response}
    (isOk : document.statusCode = 200)
    (parses : parseJwksJson backend document.body ≠ []) :
    readResponse backend (some document) =
      .keys (parseJwksJson backend document.body) := by
  unfold readResponse
  dsimp only
  rw [if_neg (not_not.mpr isOk)]
  split
  · next empty => exact absurd empty parses
  · next k rest same => rw [same]

/-- A kid that a document lists holds no newline. -/
theorem printable_of_listed
    {response : Option Response}
    (read : readResponse backend response = .keys keys)
    (nonempty : listedKeys keys kid ≠ []) :
    '\n' ∉ kid.toList := by
  obtain ⟨document, -, -, rfl⟩ := readResponse_keys read
  obtain ⟨k, member⟩ := List.exists_mem_of_ne_nil _ nonempty
  obtain ⟨parsed, -, rfl⟩ := mem_listedKeys.mp member
  exact newline_notMem_of_kidAcceptable (kidAcceptable_of_mem_parseJwksJson parsed)

/-! ## Keys of the same material -/

/-- A usable key has the material of itself. -/
theorem sameKeyMaterial_self
    (usable : isUsableSigningKey backend k = true) :
    sameKeyMaterial k k = true := by
  have family : k.kty = "RSA" ∨ k.kty = "EC" ∨ k.kty = "OKP" := by
    unfold isUsableSigningKey at usable
    split at usable
    · exact .inl ‹_›
    · split at usable
      · exact .inr (.inl ‹_›)
      · split at usable
        · exact .inr (.inr ‹_›)
        · cases usable
  rcases family with isRsa | isEc | isOkp
  · simp [sameKeyMaterial, isRsa]
  · simp [sameKeyMaterial, isEc]
  · simp [sameKeyMaterial, isOkp]

/-- Keys of the same material convert to the same PEM form. -/
theorem jwkToPem_eq_of_sameKeyMaterial
    {other : Jwk}
    (same : sameKeyMaterial k other = true) :
    jwkToPem backend k = jwkToPem backend other := by
  unfold sameKeyMaterial at same
  split at same
  · cases same
  · next sameHeader =>
      rw [not_or, not_not] at sameHeader
      have sameKty : other.kty = k.kty := sameHeader.1.symm
      split at same
      · next isRsa =>
          simp only [Bool.and_eq_true, decide_eq_true_eq] at same
          obtain ⟨sameN, sameE⟩ := same
          simp only [jwkToPem, sameKty, if_pos isRsa, jwkRsaToPem, sameN, sameE]
      · next notRsa =>
          split at same
          · simp only [Bool.and_eq_true, decide_eq_true_eq] at same
            obtain ⟨⟨sameCrv, sameX⟩, sameY⟩ := same
            simp [jwkToPem, jwkEcToPem, jwkOkpToPem, sameKty, notRsa, sameCrv, sameX, sameY]
          · cases same

/-- Keys of the same material give the same verdict. -/
theorem verifyJwt_eq_of_sameKeyMaterial
    {other : Jwk}
    (same : sameKeyMaterial k other = true)
    (token : String)
    (opts : VerifyOptions) :
    verifyJwt backend token k opts = verifyJwt backend token other opts := by
  unfold verifyJwt
  rw [jwkToPem_eq_of_sameKeyMaterial same]

/-- Keys of the same material are meant by the same headers. -/
theorem jwkMatchesTokenHeader_eq_of_sameKeyMaterial
    {other : Jwk}
    (same : sameKeyMaterial k other = true)
    (alg : String) :
    jwkMatchesTokenHeader k alg = jwkMatchesTokenHeader other alg := by
  unfold sameKeyMaterial at same
  split at same
  · cases same
  · next sameHeader =>
      simp only [ne_eq, not_or, not_not] at sameHeader
      unfold jwkMatchesTokenHeader isSigningKey
      rw [sameHeader.2.1, sameHeader.2.2]

/-- Screening keeps a key of each usable material. -/
theorem holdsMaterial_screenUsableKeys
    {rawKeys : List Jwk}
    (member : k ∈ rawKeys)
    (usable : isUsableSigningKey backend k = true) :
    holdsMaterial (screenUsableKeys backend rawKeys) k = true := by
  have screened : ∀ (rest valid : List Jwk),
      k ∈ rest ∨ holdsMaterial valid k = true →
      holdsMaterial (rest.foldl
        (fun valid cand =>
          if isUsableSigningKey backend cand && !holdsMaterial valid cand then
            valid ++ [cand]
          else valid) valid) k = true := by
    intro rest
    induction rest with
    | nil =>
        rintro valid (impossible | held)
        · cases impossible
        · exact held
    | cons cand rest inductionHypothesis =>
        intro valid known
        rw [List.foldl_cons]
        apply inductionHypothesis
        rcases known with listed | held
        · rcases List.mem_cons.mp listed with rfl | later
          · right
            split
            · have self := sameKeyMaterial_self usable
              simp [holdsMaterial, self]
            · next skipped => simpa [usable] using skipped
          · exact .inl later
        · right
          split
          · rw [holdsMaterial, List.any_append, Bool.or_eq_true]
            exact .inl held
          · exact held
  exact screened rawKeys [] (.inl member)

/-- Screening leaves no two keys of the same material. -/
theorem distinctMaterial_screenUsableKeys (rawKeys : List Jwk) :
    DistinctMaterial (screenUsableKeys backend rawKeys) := by
  have screened : ∀ (rest valid : List Jwk), DistinctMaterial valid →
      DistinctMaterial (rest.foldl
        (fun valid cand =>
          if isUsableSigningKey backend cand && !holdsMaterial valid cand then
            valid ++ [cand]
          else valid) valid) := by
    intro rest
    induction rest with
    | nil => exact fun valid distinct => distinct
    | cons cand rest inductionHypothesis =>
        intro valid distinct
        rw [List.foldl_cons]
        apply inductionHypothesis
        split
        · next passes =>
            apply Distinct.AllDistinct.append distinct (List.pairwise_singleton _ _)
            intro added member
            rw [List.mem_singleton.mp member]
            rw [Bool.and_eq_true, Bool.not_eq_true'] at passes
            exact passes.2
        · exact distinct
  exact screened rawKeys [] List.Pairwise.nil

/-- Usable keys without two of one material are no key twice. -/
theorem nodup_of_distinctMaterial
    (distinct : DistinctMaterial keys)
    (usable : ∀ k ∈ keys, isUsableSigningKey backend k = true) :
    keys.Nodup := by
  refine List.Pairwise.imp_of_mem ?_ distinct
  rintro k other member - different rfl
  rw [sameKeyMaterial_self (usable k member)] at different
  cases different

/-- Keys whose material is there already add nothing. -/
theorem unionKeys_eq_self
    {existing added : List Jwk}
    (held : ∀ k ∈ added, holdsMaterial existing k = true) :
    JwksCache.unionKeys existing added = existing := by
  induction added with
  | nil => rfl
  | cons key rest inductionHypothesis =>
      rw [JwksCache.unionKeys, if_pos (held key List.mem_cons_self)]
      exact inductionHypothesis fun other member => held other (List.mem_cons_of_mem _ member)

/-! ## Orders -/

theorem prioritizeNewKeys_perm (candidates existingKeys : List Jwk) :
    (prioritizeNewKeys candidates existingKeys).Perm candidates := by
  unfold prioritizeNewKeys
  split
  · exact List.Perm.refl _
  · refine List.perm_append_comm.trans ?_
    exact List.filter_append_perm _ candidates

end Validator
end QuackOauth
