import QuackOauth.Lib.Code

/-!
# Delimited names

Names between quotes, in which a quote is written twice, and lists of them with a
separator between two.  The names come back, whatever they are made of.
-/

namespace Lib
namespace Delimited

variable {α : Type*} [DecidableEq α] (quote separator : α)

/-- A letter of a name: a quote is doubled. -/
def doubled (c : α) : List α :=
  if c = quote then [quote, quote] else [c]

/-- A name between quotes. -/
def delimit (name : List α) : List α :=
  quote :: name.flatMap (doubled quote) ++ [quote]

/-- Names between quotes, with separators between them. -/
def qualify (names : List (List α)) : List α :=
  [separator].intercalate (names.map (delimit quote))

/-- The first letter between quotes; none at the closing quote. -/
def readInside : List α → Option (α × List α)
  | [] => none
  | c :: rest =>
      if c = quote then
        match rest with
        | [] => none
        | next :: rest => if next = quote then some (quote, rest) else none
      else some (c, rest)

/-- The name at the start of a text, and the rest. -/
def readName : List α → Option (List α × List α)
  | [] => none
  | c :: rest =>
      if c = quote then
        match Code.readText (readInside quote) rest with
        | (_, []) => none
        | (name, closing :: rest) => if closing = quote then some (name, rest) else none
      else none

/-- So many names at most, up to where no separator follows. -/
def readNames : Nat → List α → Option (List (List α) × List α)
  | 0, _ => none
  | names + 1, input =>
      match readName quote input with
      | none => none
      | some (name, []) => some ([name], [])
      | some (name, c :: rest) =>
          if c = separator then
            (readNames names rest).map fun (names, rest) => (name :: names, rest)
          else some ([name], c :: rest)

/-- The names at the start of a text, and the rest. -/
def readQualified (input : List α) : Option (List (List α) × List α) :=
  readNames quote separator input.length input

/-- A text that goes on with something else than a name. -/
def Leaves (rest : List α) : Prop :=
  quote ∉ rest.head? ∧ separator ∉ rest.head?

instance (rest : List α) : Decidable (Leaves quote separator rest) :=
  inferInstanceAs (Decidable (_ ∧ _))

variable {quote separator} {name rest : List α} {names : List (List α)}

/-- What is doubled can be read back. -/
theorem isCode_doubled : Code.IsCode (doubled quote) (readInside quote) where
  word_ne_nil := by
    intro c
    unfold doubled
    split <;> exact List.cons_ne_nil _ _
  readWord_append := by
    intro c rest
    unfold doubled
    by_cases isQuote : c = quote
    · rw [if_pos isQuote, isQuote]
      simp [readInside]
    · rw [if_neg isQuote, List.singleton_append]
      exact if_neg isQuote

theorem readInside_closing
    (noQuote : quote ∉ rest.head?) :
    readInside quote (quote :: rest) = none := by
  cases rest with
  | nil => simp [readInside]
  | cons c rest =>
      have different : c ≠ quote := by simpa using noQuote
      simp [readInside, different]

/-- A name between quotes is read back. -/
theorem readName_delimit
    (noQuote : quote ∉ rest.head?) :
    readName quote (delimit quote name ++ rest) = some (name, rest) := by
  have inside :
      Code.readText (readInside quote) (name.flatMap (doubled quote) ++ quote :: rest) =
        (name, quote :: rest) :=
    isCode_doubled.readText_append name (readInside_closing noQuote)
  rw [delimit, List.cons_append, List.cons_append, List.append_assoc,
    List.singleton_append, readName, if_pos rfl, inside]
  exact if_pos rfl

theorem qualify_singleton (name : List α) :
    qualify quote separator [name] = delimit quote name :=
  List.intercalate_singleton

theorem qualify_cons
    (name : List α)
    (nonempty : names ≠ []) :
    qualify quote separator (name :: names) =
      delimit quote name ++ separator :: qualify quote separator names := by
  unfold qualify
  rw [List.map_cons, List.intercalate_cons_of_ne_nil (by simpa using nonempty)]
  simp

/-- Each name takes up at least its quotes. -/
theorem length_le_length_qualify (names : List (List α)) :
    names.length ≤ (qualify quote separator names).length := by
  induction names with
  | nil => exact Nat.le_refl _
  | cons name names inductionHypothesis =>
      by_cases last : names = []
      · subst last
        rw [qualify_singleton]
        simp [delimit]
      · rw [qualify_cons name last, List.length_append, List.length_cons, List.length_cons]
        omega

theorem readNames_qualify
    (apart : separator ≠ quote)
    (nonempty : names ≠ [])
    (leaves : Leaves quote separator rest)
    {many : Nat}
    (enough : names.length ≤ many) :
    readNames quote separator many (qualify quote separator names ++ rest) =
      some (names, rest) := by
  induction names generalizing many with
  | nil => exact absurd rfl nonempty
  | cons name names inductionHypothesis =>
      obtain ⟨many, rfl⟩ := Nat.exists_eq_add_one_of_ne_zero
        (show many ≠ 0 by rw [List.length_cons] at enough; omega)
      rw [List.length_cons] at enough
      rw [readNames]
      by_cases last : names = []
      · subst last
        rw [qualify_singleton, readName_delimit leaves.1]
        cases rest with
        | nil => rfl
        | cons c rest =>
            have different : c ≠ separator := by simpa using leaves.2
            exact if_neg different
      · have noQuote : quote ∉ (separator :: (qualify quote separator names ++ rest)).head? := by
          simpa using apart
        have later := inductionHypothesis last (show names.length ≤ many by omega)
        rw [qualify_cons name last, List.append_assoc, List.cons_append,
          readName_delimit noQuote]
        dsimp only
        rw [if_pos rfl, later, Option.map_some]

/-- Names are read back up to where something else begins. -/
theorem readQualified_qualify_append
    (apart : separator ≠ quote)
    (nonempty : names ≠ [])
    (leaves : Leaves quote separator rest) :
    readQualified quote separator (qualify quote separator names ++ rest) =
      some (names, rest) := by
  refine readNames_qualify apart nonempty leaves ?_
  have bound : names.length ≤ (qualify quote separator names).length :=
    length_le_length_qualify names
  rw [List.length_append]
  omega

/-- Names are read back to the end. -/
theorem readQualified_qualify
    (apart : separator ≠ quote)
    (nonempty : names ≠ []) :
    readQualified quote separator (qualify quote separator names) = some (names, []) := by
  have whole :=
    readQualified_qualify_append apart nonempty
      (show Leaves quote separator [] from ⟨by simp, by simp⟩)
  rwa [List.append_nil] at whole

end Delimited
end Lib
