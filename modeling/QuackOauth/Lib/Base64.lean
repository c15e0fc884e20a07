import Mathlib.Algebra.Group.Nat.Defs
import Mathlib.Data.List.Basic
import Mathlib.Data.Nat.Basic

/-!
# Bytes as a text of sixty-four characters

Base64 in the alphabet that is safe in a URL, without padding.  Three bytes are four
groups of six bits, and what is left over at the end is filled up with zeros.  The
inverse takes the groups one by one and gives a byte whenever it has eight bits.
-/

namespace Lib
namespace Base64

/-- The character for six bits. -/
def symbol (value : Nat) : UInt8 :=
  if value < 26 then UInt8.ofNat (65 + value)
  else if value < 52 then UInt8.ofNat (97 + (value - 26))
  else if value < 62 then UInt8.ofNat (48 + (value - 52))
  else if value = 62 then 45
  else 95

/-- The sixty-four characters, in the order of what they stand for. -/
def alphabet : List UInt8 :=
  (List.range 64).map symbol

/-- The bits of the bytes, six at a time. -/
def sextets : List UInt8 → List Nat
  | [] => []
  | [a] => [a.toNat / 4, a.toNat % 4 * 16]
  | [a, b] =>
      [a.toNat / 4, a.toNat % 4 * 16 + b.toNat / 16, b.toNat % 16 * 4]
  | a :: b :: c :: rest =>
      a.toNat / 4 ::
        (a.toNat % 4 * 16 + b.toNat / 16) ::
        (b.toNat % 16 * 4 + c.toNat / 64) ::
        c.toNat % 64 ::
        sextets rest

/-- The text for the bytes. -/
def encode (bytes : List UInt8) : List UInt8 :=
  (sextets bytes).map symbol

example : encode [251, 255] = ['-'.toUInt8, '_'.toUInt8, '8'.toUInt8] := by decide

/-- The bits still pending, after six more. -/
def join (pending value : Nat) : Nat :=
  pending * 64 + value

/-- Bytes from groups of six bits, with so many bits of an earlier group pending. -/
def regroup (pending bits : Nat) : List Nat → List UInt8
  | [] => []
  | value :: rest =>
      if 8 ≤ bits + 6 then
        UInt8.ofNat (join pending value / 2 ^ (bits + 6 - 8)) ::
          regroup (join pending value % 2 ^ (bits + 6 - 8)) (bits + 6 - 8) rest
      else regroup (join pending value) (bits + 6) rest

theorem sextets_lt (bytes : List UInt8) : ∀ value ∈ sextets bytes, value < 64 := by
  induction bytes using sextets.induct with
  | case1 => simp [sextets]
  | case2 a =>
      have bound := a.toNat_lt
      simp only [sextets, List.mem_cons, List.not_mem_nil, or_false]
      omega
  | case3 a b =>
      have bound_a := a.toNat_lt
      have bound_b := b.toNat_lt
      simp only [sextets, List.mem_cons, List.not_mem_nil, or_false]
      omega
  | case4 a b c rest inductionHypothesis =>
      intro value member
      have bound_a := a.toNat_lt
      have bound_b := b.toNat_lt
      have bound_c := c.toNat_lt
      simp only [sextets, List.mem_cons] at member
      rcases member with first | second | third | fourth | later
      · omega
      · omega
      · omega
      · omega
      · exact inductionHypothesis value later

theorem sextets_ne_nil
    {bytes : List UInt8}
    (nonempty : bytes ≠ []) :
    sextets bytes ≠ [] := by
  unfold sextets
  split
  · exact absurd rfl nonempty
  all_goals exact List.cons_ne_nil _ _

theorem encode_ne_nil
    {bytes : List UInt8}
    (nonempty : bytes ≠ []) :
    encode bytes ≠ [] := by
  unfold encode
  rw [Ne, List.map_eq_nil_iff]
  exact sextets_ne_nil nonempty

/-- Two groups give the first byte, and the top of the second is pending. -/
theorem regroup_first
    (a : UInt8)
    {top : Nat}
    (top_lt : top < 16)
    (rest : List Nat) :
    regroup 0 0 (a.toNat / 4 :: (a.toNat % 4 * 16 + top) :: rest) =
      a :: regroup top 4 rest := by
  have joined : a.toNat / 4 * 64 + (a.toNat % 4 * 16 + top) = a.toNat * 16 + top := by
    omega
  have byte : (a.toNat * 16 + top) / 16 = a.toNat := by omega
  have pending : (a.toNat * 16 + top) % 16 = top := by omega
  simp [regroup, join, joined, byte, pending]

/-- The third group gives the second byte, and the top of the third is pending. -/
theorem regroup_second
    (b : UInt8)
    {top : Nat}
    (top_lt : top < 4)
    (rest : List Nat) :
    regroup (b.toNat / 16) 4 ((b.toNat % 16 * 4 + top) :: rest) =
      b :: regroup top 2 rest := by
  have joined : b.toNat / 16 * 64 + (b.toNat % 16 * 4 + top) = b.toNat * 4 + top := by
    omega
  have byte : (b.toNat * 4 + top) / 4 = b.toNat := by omega
  have pending : (b.toNat * 4 + top) % 4 = top := by omega
  simp [regroup, join, joined, byte, pending]

/-- The fourth group gives the third byte, and nothing is pending. -/
theorem regroup_third (c : UInt8) (rest : List Nat) :
    regroup (c.toNat / 64) 2 (c.toNat % 64 :: rest) = c :: regroup 0 0 rest := by
  have joined : c.toNat / 64 * 64 + c.toNat % 64 = c.toNat := by omega
  simp [regroup, join, joined, Nat.mod_one]

/-- The bytes come back from their groups of six bits. -/
theorem regroup_sextets (bytes : List UInt8) : regroup 0 0 (sextets bytes) = bytes := by
  induction bytes using sextets.induct with
  | case1 => rfl
  | case2 a =>
      have first := regroup_first a (show 0 < 16 by omega) []
      rwa [Nat.add_zero] at first
  | case3 a b =>
      have bound := b.toNat_lt
      have second := regroup_second b (show 0 < 4 by omega) []
      rw [Nat.add_zero] at second
      rw [sextets, regroup_first a (by omega), second]
      rfl
  | case4 a b c rest inductionHypothesis =>
      have bound_b := b.toNat_lt
      have bound_c := c.toNat_lt
      rw [sextets, regroup_first a (by omega), regroup_second b (by omega),
        regroup_third, inductionHypothesis]

/-- A machine word that takes in six bits keeps the lowest bits of it, whatever is lost
at the top. -/
theorem join_mod
    {width bits buffer value : Nat}
    (fits : bits + 6 ≤ width)
    (value_lt : value < 64) :
    join buffer value % 2 ^ width % 2 ^ (bits + 6) =
      join (buffer % 2 ^ bits) value := by
  have divides : (2 : Nat) ^ (bits + 6) ∣ 2 ^ width := Nat.pow_dvd_pow 2 fits
  have power : (2 : Nat) ^ (bits + 6) = 64 * 2 ^ bits := by
    rw [Nat.pow_add, Nat.mul_comm]
  rw [Nat.mod_mod_of_dvd _ divides]
  unfold join
  rw [power, Nat.mod_mul]
  have low : (buffer * 64 + value) % 64 = value := by omega
  have high : (buffer * 64 + value) / 64 = buffer := by omega
  rw [low, high]
  omega

end Base64
end Lib
