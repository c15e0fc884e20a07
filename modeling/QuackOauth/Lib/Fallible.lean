import Mathlib.Tactic.Basic

/-!
# Computations that may fail

A sequence of steps, each of which may raise, succeeds exactly if every step does.
-/

namespace Lib
namespace Fallible

universe u v

variable {Error : Type u} {α β : Type v}
variable {first : Except Error α} {next : α → Except Error β}

theorem bind_eq_ok_iff {result : β} :
    (first >>= next) = .ok result ↔
      ∃ value, first = .ok value ∧ next value = .ok result := by
  cases first with
  | error failure =>
      constructor
      · intro succeeds
        cases succeeds
      · rintro ⟨value, succeeds, -⟩
        cases succeeds
  | ok value =>
      constructor
      · exact fun succeeds => ⟨value, rfl, succeeds⟩
      · rintro ⟨other, ⟨⟩, succeeds⟩
        exact succeeds

end Fallible
end Lib
