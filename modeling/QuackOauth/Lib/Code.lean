import Mathlib.Data.List.Basic
import Mathlib.Tactic.TypeStar

/-!
# Codes that are read word by word

A code has a word for each symbol, and the first word of a text is read off again
whatever follows it.  Then a text is read back up to the place where no word begins: the
end, or a mark that no word starts with.
-/

namespace Lib
namespace Code

variable {α β : Type*} {word : α → List β} {readWord : List β → Option (α × List β)}

/-- Read words as long as there are any, but at most so many. -/
def readWords (readWord : List β → Option (α × List β)) : Nat → List β → List α × List β
  | 0, input => ([], input)
  | words + 1, input =>
      match readWord input with
      | none => ([], input)
      | some (a, rest) =>
          (a :: (readWords readWord words rest).1, (readWords readWord words rest).2)

/-- Read words as long as there are any. -/
def readText
    (readWord : List β → Option (α × List β))
    (input : List β) : List α × List β :=
  readWords readWord input.length input

/-- The words are not empty, and the reader takes the first word off a text. -/
structure IsCode
    (word : α → List β)
    (readWord : List β → Option (α × List β)) : Prop where
  word_ne_nil : ∀ a, word a ≠ []
  readWord_append : ∀ a rest, readWord (word a ++ rest) = some (a, rest)

theorem IsCode.length_le
    (isCode : IsCode word readWord)
    (text : List α) :
    text.length ≤ (text.flatMap word).length := by
  induction text with
  | nil => exact Nat.le_refl _
  | cons a text inductionHypothesis =>
      have nonempty := List.length_pos_iff.mpr (isCode.word_ne_nil a)
      rw [List.flatMap_cons, List.length_append, List.length_cons]
      omega

theorem IsCode.readWords_append
    {words : Nat}
    {text : List α}
    {rest : List β}
    (isCode : IsCode word readWord)
    (enough : text.length ≤ words)
    (stops : readWord rest = none) :
    readWords readWord words (text.flatMap word ++ rest) = (text, rest) := by
  induction text generalizing words with
  | nil =>
      rw [List.flatMap_nil, List.nil_append]
      cases words with
      | zero => rfl
      | succ words => rw [readWords, stops]
  | cons a text inductionHypothesis =>
      rw [List.length_cons] at enough
      cases words with
      | zero => omega
      | succ words =>
          have later : readWords readWord words (text.flatMap word ++ rest) = (text, rest) :=
            inductionHypothesis (by omega)
          rw [List.flatMap_cons, List.append_assoc, readWords, isCode.readWord_append]
          dsimp only
          rw [later]

/-- A text is read back up to where no word begins. -/
theorem IsCode.readText_append
    (isCode : IsCode word readWord)
    (text : List α)
    {rest : List β}
    (stops : readWord rest = none) :
    readText readWord (text.flatMap word ++ rest) = (text, rest) := by
  refine isCode.readWords_append ?_ stops
  have bound := isCode.length_le text
  rw [List.length_append]
  omega

/-- A text is read back to the end. -/
theorem IsCode.readText_flatMap
    (isCode : IsCode word readWord)
    (stops : readWord [] = none)
    (text : List α) :
    readText readWord (text.flatMap word) = (text, []) := by
  have whole := isCode.readText_append text stops
  rwa [List.append_nil] at whole

end Code
end Lib
