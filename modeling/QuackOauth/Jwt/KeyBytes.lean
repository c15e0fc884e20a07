import QuackOauth.Jwt.Verify
import QuackOauth.Lib.Base64

/-!
# The bytes of a key

The numbers of a key come as base64url.  The decoder shifts six bits after six into a
word of 32 bits and never clears it; what it reads out are the lowest bits only.
-/

namespace QuackOauth
namespace Jwt

open Jwks Lib.Base64

theorem base64UrlValue_symbol :
    ∀ value < 64, base64UrlValue (symbol value) = some (UInt32.ofNat value) := by
  decide

theorem symbol_ne_equals : ∀ value < 64, symbol value ≠ 61 := by
  decide

/-- What a character stands for is where it is in the alphabet. -/
theorem symbol_of_base64UrlValue
    {c : UInt8}
    {value : UInt32}
    (stands : base64UrlValue c = some value) :
    value.toNat < 64 ∧ symbol value.toNat = c := by
  have each :
      ∀ n < 256, (base64UrlValue (UInt8.ofNat n)).all (fun value =>
        decide (value.toNat < 64 ∧ symbol value.toNat = UInt8.ofNat n)) = true := by
    decide +kernel
  have this := each c.toNat c.toNat_lt
  rw [UInt8.ofNat_toNat, stands] at this
  exact of_decide_eq_true this

theorem base64UrlValue_eq_none_iff (c : UInt8) :
    base64UrlValue c = none ↔ c ∉ alphabet := by
  rw [alphabet, List.mem_map]
  constructor
  · rintro outside ⟨value, member, rfl⟩
    rw [base64UrlValue_symbol value (List.mem_range.mp member)] at outside
    cases outside
  · intro outside
    by_contra stands
    obtain ⟨value, stands⟩ := Option.ne_none_iff_exists'.mp stands
    have ⟨value_lt, spelled⟩ := symbol_of_base64UrlValue stands
    exact outside ⟨value.toNat, List.mem_range.mpr value_lt, spelled⟩

/-- The word after six more bits, which pushes six bits out at the top. -/
theorem toNat_shiftLeft_or
    (buffer : UInt32)
    {value : Nat}
    (value_lt : value < 64) :
    (buffer <<< 6 ||| UInt32.ofNat value).toNat = join buffer.toNat value % 2 ^ 32 := by
  have shifted : (buffer <<< 6).toNat = (buffer.toNat % 2 ^ 26) <<< 6 := by
    rw [UInt32.toNat_shiftLeft, Nat.shiftLeft_eq, Nat.shiftLeft_eq]
    show buffer.toNat * 64 % 4294967296 = buffer.toNat % 67108864 * 64
    omega
  have bits : (UInt32.ofNat value).toNat = value := by
    rw [UInt32.toNat_ofNat']
    omega
  have low : value < 2 ^ 6 := value_lt
  rw [UInt32.toNat_or, shifted, bits, ← Nat.shiftLeft_add_eq_or_of_lt low,
    Nat.shiftLeft_eq]
  unfold join
  omega

/-- The byte that is read out, from the bits that are pending. -/
theorem toUInt8_shiftRight_and
    (buffer : UInt32)
    {bits : Nat}
    (few : bits < 32) :
    ((buffer >>> UInt32.ofNat bits) &&& 0xFF).toUInt8 =
      UInt8.ofNat (buffer.toNat % 2 ^ (bits + 8) / 2 ^ bits) := by
  apply UInt8.toNat_inj.mp
  have count : (UInt32.ofNat bits).toNat % 32 = bits := by
    rw [UInt32.toNat_ofNat']
    omega
  have mask : (0xFF : UInt32).toNat = 2 ^ 8 - 1 := rfl
  rw [UInt32.toNat_toUInt8, UInt32.toNat_and, UInt32.toNat_shiftRight, count, mask,
    Nat.and_two_pow_sub_one_eq_mod, Nat.shiftRight_eq_div_pow, UInt8.toNat_ofNat',
    Nat.pow_add, Nat.mod_mul_right_div_self]

/-- The loop with its unbounded buffer does as the one that keeps what is pending. -/
theorem base64UrlLoop_map_symbol
    {values : List Nat}
    {rest : List UInt8}
    {buffer : UInt32}
    {bits pending : Nat}
    {out : List UInt8}
    (values_lt : ∀ value ∈ values, value < 64)
    (few : bits < 8)
    (keeps : buffer.toNat % 2 ^ bits = pending)
    (stops : ∀ buffer bits out, base64UrlLoop rest buffer bits out = some out) :
    base64UrlLoop (values.map symbol ++ rest) buffer bits out =
      some (out ++ regroup pending bits values) := by
  induction values generalizing buffer bits pending out with
  | nil =>
      rw [List.map_nil, List.nil_append, stops, regroup, List.append_nil]
  | cons value values inductionHypothesis =>
      have value_lt := values_lt value List.mem_cons_self
      have later_lt : ∀ value ∈ values, value < 64 := fun value member =>
        values_lt value (List.mem_cons_of_mem _ member)
      have next :
          (buffer <<< 6 ||| UInt32.ofNat value).toNat % 2 ^ (bits + 6) =
            join pending value := by
        rw [toNat_shiftLeft_or buffer value_lt, join_mod (by omega) value_lt, keeps]
      rw [List.map_cons, List.cons_append, base64UrlLoop,
        if_neg (symbol_ne_equals value value_lt), base64UrlValue_symbol value value_lt]
      dsimp only
      rw [regroup]
      by_cases whole : bits + 6 ≥ 8
      · have read : bits + 6 - 8 < 32 := by omega
        have byte := toUInt8_shiftRight_and (buffer <<< 6 ||| UInt32.ofNat value) read
        have split : bits + 6 - 8 + 8 = bits + 6 := by omega
        rw [split, next] at byte
        have below : (2 : Nat) ^ (bits + 6 - 8) ∣ 2 ^ (bits + 6) :=
          Nat.pow_dvd_pow 2 (by omega)
        have left :
            (buffer <<< 6 ||| UInt32.ofNat value).toNat % 2 ^ (bits + 6 - 8) =
              join pending value % 2 ^ (bits + 6 - 8) := by
          rw [← next, Nat.mod_mod_of_dvd _ below]
        rw [if_pos whole, if_pos whole, byte,
          inductionHypothesis later_lt (by omega) left, List.append_assoc,
          List.singleton_append]
      · rw [if_neg whole, if_neg whole, inductionHypothesis later_lt (by omega) next]

/-- The loop ends at an equals sign, or at the end. -/
theorem base64UrlLoop_replicate_equals
    (padding : Nat)
    (buffer : UInt32)
    (bits : Nat)
    (out : List UInt8) :
    base64UrlLoop (List.replicate padding 61) buffer bits out = some out := by
  cases padding with
  | zero => rfl
  | succ padding =>
      rw [List.replicate_succ, base64UrlLoop, if_pos rfl]

/-- What is encoded is decoded, with and without padding. -/
theorem base64UrlDecode_encode_append
    {bytes : List UInt8}
    (nonempty : bytes ≠ [])
    (padding : Nat) :
    base64UrlDecode (encode bytes ++ List.replicate padding 61) = some bytes := by
  have input_nonempty : encode bytes ++ List.replicate padding 61 ≠ [] :=
    List.append_ne_nil_of_left_ne_nil (encode_ne_nil nonempty) _
  have decoded :
      base64UrlLoop (encode bytes ++ List.replicate padding 61) 0 0 [] =
        some ([] ++ regroup 0 0 (sextets bytes)) :=
    base64UrlLoop_map_symbol (sextets_lt bytes) (by omega) rfl
      (base64UrlLoop_replicate_equals padding)
  rw [base64UrlDecode, if_neg input_nonempty, decoded, regroup_sextets, List.nil_append]

/-- Before the first equals sign every character has to be one of the alphabet. -/
theorem base64UrlLoop_eq_none_iff
    (input : List UInt8)
    (buffer : UInt32)
    (bits : Nat)
    (out : List UInt8) :
    base64UrlLoop input buffer bits out = none ↔
      ∃ c ∈ input.takeWhile (· ≠ 61), c ∉ alphabet := by
  induction input generalizing buffer bits out with
  | nil => simp [base64UrlLoop]
  | cons c rest inductionHypothesis =>
      rw [base64UrlLoop]
      by_cases padding : c = 61
      · simp [padding]
      · rw [if_neg padding, List.takeWhile_cons_of_pos (by simpa using padding),
          List.exists_mem_cons_iff, ← base64UrlValue_eq_none_iff c]
        cases base64UrlValue c with
        | none => simp
        | some value =>
            simp only [reduceCtorEq, false_or]
            split
            · exact inductionHypothesis _ _ _
            · exact inductionHypothesis _ _ _

theorem base64UrlDecode_encode
    {bytes : List UInt8}
    (nonempty : bytes ≠ []) :
    base64UrlDecode (encode bytes) = some bytes := by
  have decoded := base64UrlDecode_encode_append nonempty 0
  rwa [List.replicate_zero, List.append_nil] at decoded

/-- What is refused is nothing, or has a foreign character before the padding. -/
theorem base64UrlDecode_eq_none_iff (input : List UInt8) :
    base64UrlDecode input = none ↔
      input = [] ∨ ∃ c ∈ input.takeWhile (· ≠ 61), c ∉ alphabet := by
  unfold base64UrlDecode
  split
  · simp [*]
  · next nonempty =>
      rw [base64UrlLoop_eq_none_iff]
      simp [nonempty]

/-- Decoding takes every encoded text back, however long and however padded, and refuses
every text with a foreign character. -/
theorem base64UrlDecode_inverts_encode :
    (∀ bytes : List UInt8, bytes ≠ [] →
      base64UrlDecode (encode bytes) = some bytes ∧
        ∀ padding,
          base64UrlDecode (encode bytes ++ List.replicate padding 61) = some bytes) ∧
      ∀ input : List UInt8,
        (∃ c ∈ input.takeWhile (· ≠ 61), c ∉ alphabet) →
          base64UrlDecode input = none := by
  constructor
  · intro bytes nonempty
    exact ⟨base64UrlDecode_encode nonempty, base64UrlDecode_encode_append nonempty⟩
  · intro input foreign
    exact (base64UrlDecode_eq_none_iff input).mpr (.inr foreign)

/-- Seven bytes are more bits than the buffer has. -/
theorem base64UrlDecode_inverts_encode_seven :
    (base64UrlDecode (encode [255, 0, 1, 128, 77, 254, 9]) =
        some [255, 0, 1, 128, 77, 254, 9] ∧
      ∀ padding,
        base64UrlDecode
            (encode [255, 0, 1, 128, 77, 254, 9] ++ List.replicate padding 61) =
          some [255, 0, 1, 128, 77, 254, 9]) ∧
      base64UrlDecode [65, 43, 65, 61] = none :=
  ⟨base64UrlDecode_inverts_encode.1 _ (by decide),
    base64UrlDecode_inverts_encode.2 _ ⟨43, by decide, by decide⟩⟩

/-! ## What the keys are made of -/

theorem ne_empty_of_bytesOf
    {text : String}
    {bytes : List UInt8}
    (nonempty : bytes ≠ [])
    (spelled : bytesOf text = encode bytes) :
    text ≠ "" := by
  rw [Ne, ← bytesOf_eq_nil_iff, spelled]
  exact encode_ne_nil nonempty

/-- An RSA key is made of the numbers that were encoded. -/
theorem jwkRsaToPem_of_encode
    (backend : Backend)
    {jwk : Jwk}
    {n e : List UInt8}
    (n_nonempty : n ≠ [])
    (e_nonempty : e ≠ [])
    (n_spelled : bytesOf jwk.n = encode n)
    (e_spelled : bytesOf jwk.e = encode e) :
    jwkRsaToPem backend jwk = rsaPublicKeyToPem backend n e := by
  have given : ¬(jwk.n = "" ∨ jwk.e = "") :=
    not_or.mpr
      ⟨ne_empty_of_bytesOf n_nonempty n_spelled, ne_empty_of_bytesOf e_nonempty e_spelled⟩
  unfold jwkRsaToPem
  rw [if_neg given, n_spelled, e_spelled, base64UrlDecode_encode n_nonempty,
    base64UrlDecode_encode e_nonempty]

/-- A key on a supported curve is made of the coordinates that were encoded. -/
theorem jwkEcToPem_of_encode
    (backend : Backend)
    {jwk : Jwk}
    {x y : List UInt8}
    (supported : jwk.crv = "P-256" ∨ jwk.crv = "P-384")
    (x_nonempty : x ≠ [])
    (y_nonempty : y ≠ [])
    (x_spelled : bytesOf jwk.x = encode x)
    (y_spelled : bytesOf jwk.y = encode y) :
    jwkEcToPem backend jwk = ecPublicKeyToPem backend jwk.crv x y := by
  have curve : jwk.crv ≠ "" := by
    rcases supported with small | large
    · rw [small]
      decide
    · rw [large]
      decide
  have given : ¬(jwk.x = "" ∨ jwk.y = "" ∨ jwk.crv = "") :=
    not_or.mpr
      ⟨ne_empty_of_bytesOf x_nonempty x_spelled,
        not_or.mpr ⟨ne_empty_of_bytesOf y_nonempty y_spelled, curve⟩⟩
  unfold jwkEcToPem
  rw [if_neg given, if_pos supported, x_spelled, y_spelled,
    base64UrlDecode_encode x_nonempty, base64UrlDecode_encode y_nonempty]
  rfl

/-- An Ed25519 key is made of the bytes that were encoded. -/
theorem jwkOkpToPem_of_encode
    (backend : Backend)
    {jwk : Jwk}
    {x : List UInt8}
    (supported : jwk.crv = "Ed25519")
    (x_nonempty : x ≠ [])
    (x_spelled : bytesOf jwk.x = encode x) :
    jwkOkpToPem backend jwk = okpPublicKeyToPem backend "ED25519" x := by
  have given : ¬(jwk.x = "" ∨ jwk.crv = "") := by
    rw [supported]
    exact not_or.mpr ⟨ne_empty_of_bytesOf x_nonempty x_spelled, by decide⟩
  unfold jwkOkpToPem
  rw [if_neg given, if_neg (not_not.mpr supported), x_spelled,
    base64UrlDecode_encode x_nonempty, Option.bind_some]

end Jwt
end QuackOauth
