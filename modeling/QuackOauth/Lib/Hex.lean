import Mathlib.Data.List.Basic

/-!
# Bytes as two hexadecimal digits

The digits come from a table, in either case of the letters, and are read in both.
-/

namespace Lib
namespace Hex

/-- The number that a hexadecimal digit stands for. -/
def value (digit : UInt8) : Option Nat :=
  if 48 ≤ digit.toNat ∧ digit.toNat ≤ 57 then some (digit.toNat - 48)
  else if 65 ≤ digit.toNat ∧ digit.toNat ≤ 70 then some (digit.toNat - 55)
  else if 97 ≤ digit.toNat ∧ digit.toNat ≤ 102 then some (digit.toNat - 87)
  else none

/-- The byte that two hexadecimal digits stand for. -/
def byteOf (high low : UInt8) : Option UInt8 :=
  match value high, value low with
  | some high, some low => some (UInt8.ofNat (16 * high + low))
  | _, _ => none

/-- A table of the sixteen digits in order. -/
def IsTable (table : List UInt8) : Prop :=
  ∀ number < 16, value (table.getD number 0) = some number

instance (table : List UInt8) : Decidable (IsTable table) :=
  inferInstanceAs (Decidable (∀ number < 16, _))

variable {table : List UInt8}

/-- A byte written in two digits is read back. -/
theorem byteOf_getD
    (isTable : IsTable table)
    (c : UInt8) :
    byteOf (table.getD (c.toNat / 16) 0) (table.getD (c.toNat % 16) 0) = some c := by
  have small := c.toNat_lt
  unfold byteOf
  rw [isTable _ (by omega), isTable _ (by omega)]
  dsimp only
  rw [Nat.div_add_mod, UInt8.ofNat_toNat]

/-- A digit is a digit or a letter. -/
theorem bounds_of_value
    {digit : UInt8}
    {number : Nat}
    (isDigit : value digit = some number) :
    48 ≤ digit.toNat ∧ digit.toNat ≤ 57 ∨ 65 ≤ digit.toNat ∧ digit.toNat ≤ 70 ∨
      97 ≤ digit.toNat ∧ digit.toNat ≤ 102 := by
  unfold value at isDigit
  split_ifs at isDigit with decimal upper lower
  · exact .inl decimal
  · exact .inr (.inl upper)
  · exact .inr (.inr lower)

theorem bounds_getD
    (isTable : IsTable table)
    {number : Nat}
    (small : number < 16) :
    48 ≤ (table.getD number 0).toNat ∧ (table.getD number 0).toNat ≤ 57 ∨
      65 ≤ (table.getD number 0).toNat ∧ (table.getD number 0).toNat ≤ 70 ∨
      97 ≤ (table.getD number 0).toNat ∧ (table.getD number 0).toNat ≤ 102 :=
  bounds_of_value (isTable number small)

end Hex
end Lib
