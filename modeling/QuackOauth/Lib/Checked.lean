import Mathlib.Algebra.Ring.Int.Defs
import Mathlib.Data.Int.Order.Basic
import Mathlib.Tactic.ByContra

/-!
# Signed integers of bounded width

Addition and subtraction as a machine defines them: the result is that of the integers
if it fits the width, and there is none if it does not.
-/

namespace Lib
namespace Checked

/-- A value of the signed integer type of so many bits. -/
def InRange (width : Nat) (value : Int) : Prop :=
  -2 ^ (width - 1) ≤ value ∧ value < 2 ^ (width - 1)

instance (width : Nat) (value : Int) : Decidable (InRange width value) :=
  inferInstanceAs (Decidable (_ ∧ _))

/-- A result, unless it overflows. -/
def checked (width : Nat) (value : Int) : Option Int :=
  if InRange width value then some value else none

def add (width : Nat) (a b : Int) : Option Int :=
  checked width (a + b)

def sub (width : Nat) (a b : Int) : Option Int :=
  checked width (a - b)

variable {width : Nat} {a b value : Int}

theorem add_of_inRange
    (inRange : InRange width (a + b)) :
    add width a b = some (a + b) :=
  if_pos inRange

theorem sub_of_inRange
    (inRange : InRange width (a - b)) :
    sub width a b = some (a - b) :=
  if_pos inRange

/-- A sum that exists did not overflow. -/
theorem inRange_of_add_isSome
    (isSome : (add width a b).isSome = true) :
    InRange width (a + b) := by
  by_contra overflows
  have undefined : add width a b = none := if_neg overflows
  rw [undefined] at isSome
  cases isSome

/-- A difference that exists did not overflow. -/
theorem inRange_of_sub_isSome
    (isSome : (sub width a b).isSome = true) :
    InRange width (a - b) := by
  by_contra overflows
  have undefined : sub width a b = none := if_neg overflows
  rw [undefined] at isSome
  cases isSome

/-- What is computed from a sum is right if the sum does not overflow, and otherwise is
not there. -/
theorem map_add_eq_some_iff {Result : Type} (compute : Int → Result) :
    (add width a b).map compute = some (compute (a + b)) ↔ InRange width (a + b) := by
  constructor
  · intro defined
    apply inRange_of_add_isSome
    rw [← Option.isSome_map, defined]
    rfl
  · intro inRange
    rw [add_of_inRange inRange, Option.map_some]

theorem inRange_64_iff :
    InRange 64 value ↔
      -9223372036854775808 ≤ value ∧ value ≤ 9223372036854775807 := by
  unfold InRange
  omega

/-- Values with the same sign differ by no more than they are. -/
theorem inRange_sub_of_nonneg
    (left : InRange width a)
    (right : InRange width b)
    (left_nonneg : 0 ≤ a)
    (right_nonneg : 0 ≤ b) :
    InRange width (a - b) := by
  obtain ⟨-, left_lt⟩ := left
  obtain ⟨-, right_lt⟩ := right
  exact ⟨by omega, by omega⟩

end Checked
end Lib
