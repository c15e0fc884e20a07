import Mathlib.Data.List.Basic

/-!
# Numbers as decimal digits

Numbers written in decimal digits, which are bytes, with a sign for negative ones, and
read back.
-/

namespace Lib
namespace Decimal

/-- A decimal digit. -/
def isDigit (c : UInt8) : Bool :=
  decide (48 ≤ c.toNat ∧ c.toNat ≤ 57)

/-- The number spelt by digits, going on from another number. -/
def valueFrom (number : Nat) (digits : List UInt8) : Nat :=
  digits.foldl (fun number digit => 10 * number + (digit.toNat - 48)) number

/-- The number spelt by digits. -/
def value (digits : List UInt8) : Nat :=
  valueFrom 0 digits

/-- The digits of a number. -/
def digits (number : Nat) : List UInt8 :=
  (Nat.toDigits 10 number).map Char.toUInt8

/-- A number with its sign, if negative. -/
def writeInt (number : Int) : List UInt8 :=
  if number < 0 then '-'.toUInt8 :: digits number.natAbs else digits number.natAbs

/-- The number of one or more digits. -/
def readNat (text : List UInt8) : Option Nat :=
  if text ≠ [] ∧ text.all isDigit = true then some (value text) else none

/-- The number of one or more digits, with a sign if negative. -/
def readInt : List UInt8 → Option Int
  | [] => none
  | c :: text =>
      if c = '-'.toUInt8 then (readNat text).map fun number : Nat => -Int.ofNat number
      else (readNat (c :: text)).map Int.ofNat

variable {c : UInt8} {number : Nat} {text : List UInt8}

theorem toNat_toUInt8_of_isDigit
    {c : Char}
    (digit : c.isDigit = true) :
    c.toUInt8.toNat = c.toNat ∧ 48 ≤ c.toNat ∧ c.toNat ≤ 57 := by
  have bounds : 48 ≤ c.toNat ∧ c.toNat ≤ 57 := by
    simpa [Char.isDigit, UInt32.le_iff_toNat_le] using digit
  refine ⟨?_, bounds⟩
  change c.toNat % 2 ^ 8 = c.toNat
  omega

theorem isDigit_of_mem_digits
    (member : c ∈ digits number) :
    isDigit c = true := by
  obtain ⟨digit, isDigit, rfl⟩ := List.mem_map.mp member
  have decimal := Nat.isDigit_of_mem_toDigits (by decide) (by decide) isDigit
  obtain ⟨code, bounds⟩ := toNat_toUInt8_of_isDigit decimal
  exact decide_eq_true (by omega)

theorem digits_ne_nil : digits number ≠ [] := by
  unfold digits
  rw [ne_eq, List.map_eq_nil_iff]
  exact Nat.toDigits_ne_nil

theorem valueFrom_map_toUInt8
    {chars : List Char}
    (decimal : ∀ c ∈ chars, c.isDigit = true) :
    valueFrom number (chars.map Char.toUInt8) = Nat.ofDigitChars 10 chars number := by
  induction chars generalizing number with
  | nil => rfl
  | cons c chars inductionHypothesis =>
      obtain ⟨code, -⟩ := toNat_toUInt8_of_isDigit (decimal c List.mem_cons_self)
      have later :
          ∀ number, valueFrom number (chars.map Char.toUInt8) =
            Nat.ofDigitChars 10 chars number := fun number =>
        inductionHypothesis fun d member => decimal d (List.mem_cons_of_mem _ member)
      rw [Nat.ofDigitChars_cons, ← later, ← code]
      rfl

/-- The digits of a number spell it. -/
theorem value_digits (number : Nat) : value (digits number) = number := by
  unfold value digits
  rw [valueFrom_map_toUInt8 fun c member =>
    Nat.isDigit_of_mem_toDigits (by decide) (by decide) member]
  exact Nat.ofDigitChars_ten_toDigits

theorem readNat_digits (number : Nat) : readNat (digits number) = some number := by
  unfold readNat
  rw [if_pos ⟨digits_ne_nil, List.all_eq_true.mpr fun c => isDigit_of_mem_digits⟩,
    value_digits]

/-- A number that is written is read back. -/
theorem readInt_writeInt (number : Int) : readInt (writeInt number) = some number := by
  unfold writeInt
  by_cases negative : number < 0
  · rw [if_pos negative, readInt, if_pos rfl, readNat_digits, Option.map_some]
    congr 1
    have magnitude := Int.ofNat_natAbs_of_nonpos (Int.le_of_lt negative)
    change -(number.natAbs : Int) = number
    omega
  · rw [if_neg negative]
    cases written : digits number.natAbs with
    | nil => exact absurd written digits_ne_nil
    | cons c text =>
        have digit : isDigit c = true := isDigit_of_mem_digits (by
          rw [written]
          exact List.mem_cons_self)
        have unsigned : c ≠ '-'.toUInt8 := by
          rintro rfl
          cases digit
        rw [readInt, if_neg unsigned, ← written, readNat_digits, Option.map_some]
        congr 1
        exact Int.natAbs_of_nonneg (by omega)

/-- A written number has digits, and perhaps a sign. -/
theorem mem_writeInt
    {number : Int}
    (member : c ∈ writeInt number) :
    c = '-'.toUInt8 ∨ isDigit c = true := by
  unfold writeInt at member
  split_ifs at member
  · rcases List.mem_cons.mp member with isSign | inDigits
    · exact .inl isSign
    · exact .inr (isDigit_of_mem_digits inDigits)
  · exact .inr (isDigit_of_mem_digits member)

theorem writeInt_ne_nil {number : Int} : writeInt number ≠ [] := by
  unfold writeInt
  split_ifs
  · exact List.cons_ne_nil _ _
  · exact digits_ne_nil

end Decimal
end Lib
