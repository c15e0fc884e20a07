import Mathlib.Data.List.Basic

/-!
# Strings, bytes and letter case

Strings of the source are byte strings.  Where single bytes matter they are read
off a string here, and letters are folded in ASCII only.
-/

namespace QuackOauth

/-- The bytes of a string. -/
def bytesOf (text : String) : List UInt8 :=
  text.toUTF8.data.toList

theorem bytesOf_append (a b : String) : bytesOf (a ++ b) = bytesOf a ++ bytesOf b := by
  unfold bytesOf
  simp

theorem bytesOf_eq_nil_iff {text : String} : bytesOf text = [] ↔ text = "" := by
  rw [← String.toByteArray_inj]
  unfold bytesOf
  rw [String.toUTF8_eq_toByteArray, Array.toList_eq_nil_iff, ByteArray.ext_iff]
  rfl

/-- An ASCII letter in lower case; any other byte as it is. -/
def lowerByte (c : UInt8) : UInt8 :=
  if 65 ≤ c ∧ c ≤ 90 then c + 32 else c

/-! ## Letter case of characters -/

theorem toLower_of_upper
    {c : Char}
    (isUpper : 65 ≤ c.toNat ∧ c.toNat ≤ 90) :
    c.toLower.toNat = c.toNat + 32 := by
  have lowered : (c.val + ('a'.val - 'A'.val)).toNat = c.val.toNat + 32 := by
    have bounds : 65 ≤ c.val.toNat ∧ c.val.toNat ≤ 90 := isUpper
    rw [UInt32.toNat_add]
    change (c.val.toNat + 32) % 2 ^ 32 = _
    omega
  have folds : c.val ≥ 'A'.val ∧ c.val ≤ 'Z'.val := isUpper
  unfold Char.toLower
  rw [dif_pos folds]
  exact lowered

theorem toLower_of_notUpper
    {c : Char}
    (notUpper : ¬ (65 ≤ c.toNat ∧ c.toNat ≤ 90)) :
    c.toLower = c :=
  dif_neg notUpper

theorem toLower_toLower (c : Char) : c.toLower.toLower = c.toLower := by
  by_cases isUpper : 65 ≤ c.toNat ∧ c.toNat ≤ 90
  · have lowered := toLower_of_upper isUpper
    exact toLower_of_notUpper (by omega)
  · rw [toLower_of_notUpper isUpper, toLower_of_notUpper isUpper]

/-- Folding changes a letter only, and into a small one. -/
theorem toLower_eq_self
    {c : Char}
    (noLetter : ¬ (97 ≤ c.toLower.toNat ∧ c.toLower.toNat ≤ 122)) :
    c.toLower = c := by
  by_cases isUpper : 65 ≤ c.toNat ∧ c.toNat ≤ 90
  · have lowered := toLower_of_upper isUpper
    omega
  · exact toLower_of_notUpper isUpper

/-- A text without letters is the folding of no other. -/
theorem eq_of_map_toLower_eq
    {text folded : List Char}
    (same : text.map Char.toLower = folded)
    (noLetters : ∀ c ∈ folded, ¬ (97 ≤ c.toNat ∧ c.toNat ≤ 122)) :
    text = folded := by
  have unchanged : ∀ c ∈ text, c.toLower = id c := by
    intro c member
    have lowered : c.toLower ∈ folded := same ▸ List.mem_map_of_mem member
    exact toLower_eq_self (noLetters _ lowered)
  calc text
      = text.map id := (List.map_id _).symm
    _ = text.map Char.toLower := (List.map_congr_left unchanged).symm
    _ = folded := same

/-! ## Letter case of encoded text -/

theorem bytesOf_ofList (chars : List Char) :
    bytesOf (String.ofList chars) = chars.flatMap String.utf8EncodeChar := by
  unfold bytesOf
  rw [String.toUTF8_eq_toByteArray, String.toByteArray_ofList, List.utf8Encode,
    List.data_toByteArray]

theorem bytesOf_eq_flatMap (text : String) :
    bytesOf text = text.toList.flatMap String.utf8EncodeChar := by
  rw [← bytesOf_ofList, String.ofList_toList]

theorem lowerByte_eq_self
    {c : UInt8}
    (notLetter : ¬ (65 ≤ c.toNat ∧ c.toNat ≤ 90)) :
    lowerByte c = c :=
  if_neg notLetter

theorem lowerByte_lowerByte (c : UInt8) : lowerByte (lowerByte c) = lowerByte c := by
  by_cases isLetter : 65 ≤ c ∧ c ≤ 90
  · have folded : lowerByte c = c + 32 := if_pos isLetter
    have bounds : 65 ≤ c.toNat ∧ c.toNat ≤ 90 := isLetter
    have code : (c + 32).toNat = c.toNat + 32 := by
      rw [UInt8.toNat_add]
      change (c.toNat + 32) % 2 ^ 8 = _
      omega
    rw [folded]
    exact lowerByte_eq_self (by omega)
  · have kept : lowerByte c = c := if_neg isLetter
    rw [kept, kept]

/-- Beyond ASCII, every byte of an encoded character has its high bit set. -/
theorem high_of_mem_utf8EncodeChar
    {c : Char}
    {byte : UInt8}
    (notAscii : ¬ c.val.toNat ≤ 127)
    (member : byte ∈ String.utf8EncodeChar c) :
    128 ≤ byte.toNat := by
  have valid := c.val.toNat_lt
  unfold String.utf8EncodeChar at member
  dsimp only at member
  rw [if_neg notAscii] at member
  split at member
  · simp only [List.mem_cons, List.not_mem_nil, or_false] at member
    rcases member with rfl | rfl <;> simp only [UInt8.toNat_ofNat'] <;> omega
  · split at member
    · simp only [List.mem_cons, List.not_mem_nil, or_false] at member
      rcases member with rfl | rfl | rfl <;> simp only [UInt8.toNat_ofNat'] <;> omega
    · simp only [List.mem_cons, List.not_mem_nil, or_false] at member
      rcases member with rfl | rfl | rfl | rfl <;>
        simp only [UInt8.toNat_ofNat'] <;> omega

/-- Folding a character and folding its bytes come to the same. -/
theorem utf8EncodeChar_toLower (c : Char) :
    String.utf8EncodeChar c.toLower = (String.utf8EncodeChar c).map lowerByte := by
  by_cases isUpper : 65 ≤ c.val.toNat ∧ c.val.toNat ≤ 90
  · have lowered : c.toLower.val.toNat = c.val.toNat + 32 := toLower_of_upper isUpper
    have code : (UInt8.ofNat c.val.toNat).toNat = c.val.toNat := by
      rw [UInt8.toNat_ofNat']
      omega
    unfold String.utf8EncodeChar
    dsimp only
    rw [lowered, if_pos (by omega), if_pos (by omega), List.map_singleton, UInt8.ofNat_add]
    congr 1
    refine (if_pos ?_).symm
    rw [UInt8.le_iff_toNat_le, UInt8.le_iff_toNat_le, code]
    exact isUpper
  · have fixed : ∀ byte ∈ String.utf8EncodeChar c, byte = lowerByte byte := by
      intro byte member
      refine (lowerByte_eq_self fun isLetter => ?_).symm
      by_cases ascii : c.val.toNat ≤ 127
      · unfold String.utf8EncodeChar at member
        dsimp only at member
        rw [if_pos ascii] at member
        rw [List.mem_singleton.mp member, UInt8.toNat_ofNat',
          Nat.mod_eq_of_lt (by omega)] at isLetter
        exact isUpper isLetter
      · have high := high_of_mem_utf8EncodeChar ascii member
        omega
    rw [toLower_of_notUpper isUpper]
    calc String.utf8EncodeChar c
        = (String.utf8EncodeChar c).map id := (List.map_id _).symm
      _ = (String.utf8EncodeChar c).map lowerByte := List.map_congr_left fixed

end QuackOauth
