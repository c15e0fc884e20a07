import Mathlib.Data.List.Forall2
import Mathlib.Tactic.Linarith

/-!
# Matching with stars

Patterns over any alphabet in which one symbol, the star, stands for any sequence
and every other symbol for the symbols it is alike to.  The matcher is the usual
greedy one: it remembers the last star it met and, when the rest fails, lets that
star take one symbol more.  The main results say that it always ends and that it
decides the pattern's language.
-/

namespace Lib
namespace Glob

variable {α : Type*} (star : α) (alike : α → α → Bool)

/-- The language of a pattern. -/
inductive Matches : List α → List α → Prop
  | nil : Matches [] []
  /-- The star takes nothing more. -/
  | release {pattern value : List α} :
      Matches pattern value → Matches (star :: pattern) value
  /-- The star takes a symbol. -/
  | absorb {pattern value : List α} {c : α} :
      Matches (star :: pattern) value → Matches (star :: pattern) (c :: value)
  | symbol {pattern value : List α} {x c : α} :
      x ≠ star → alike x c = true → Matches pattern value →
        Matches (x :: pattern) (c :: value)

section Language

variable {star : α} {alike : α → α → Bool} {pattern value : List α} {x c : α}

theorem matches_nil_iff :
    Matches star alike [] value ↔ value = [] := by
  constructor
  · intro accepted
    cases accepted
    rfl
  · rintro rfl
    exact .nil

/-- A star takes nothing, or the first symbol and then goes on. -/
theorem matches_star_iff :
    Matches star alike (star :: pattern) value ↔
      Matches star alike pattern value ∨
        Matches star alike (star :: pattern) value.tail := by
  constructor
  · intro accepted
    cases accepted with
    | release accepted => exact .inl accepted
    | absorb accepted => exact .inr accepted
    | symbol notStar _ _ => exact absurd rfl notStar
  · rintro (accepted | accepted)
    · exact .release accepted
    · cases value with
      | nil => exact accepted
      | cons c value => exact .absorb accepted

theorem matches_symbol_iff
    (notStar : x ≠ star) :
    Matches star alike (x :: pattern) (c :: value) ↔
      alike x c = true ∧ Matches star alike pattern value := by
  constructor
  · intro accepted
    cases accepted with
    | release _ => exact absurd rfl notStar
    | absorb _ => exact absurd rfl notStar
    | symbol _ same accepted => exact ⟨same, accepted⟩
  · rintro ⟨same, accepted⟩
    exact .symbol notStar same accepted

theorem not_matches_symbol_nil
    (notStar : x ≠ star) :
    ¬ Matches star alike (x :: pattern) [] := by
  intro accepted
  cases accepted
  exact notStar rfl

/-- The empty value needs a pattern of stars. -/
theorem matches_empty_iff :
    Matches star alike pattern [] ↔ ∀ x ∈ pattern, x = star := by
  induction pattern with
  | nil => simp [matches_nil_iff]
  | cons x pattern inductionHypothesis =>
      by_cases isStar : x = star
      · subst isStar
        rw [matches_star_iff, List.tail_nil, List.forall_mem_cons, inductionHypothesis]
        constructor
        · rintro (rest | accepted)
          · exact ⟨rfl, rest⟩
          · cases accepted with
            | release accepted => exact ⟨rfl, inductionHypothesis.mp accepted⟩
        · exact fun stars => .inl stars.2
      · simp [not_matches_symbol_nil isStar, isStar]

/-- A star may take any prefix. -/
theorem Matches.absorb_append
    (skipped : List α)
    (accepted : Matches star alike (star :: pattern) value) :
    Matches star alike (star :: pattern) (skipped ++ value) := by
  induction skipped with
  | nil => exact accepted
  | cons c skipped inductionHypothesis => exact .absorb inductionHypothesis

/-- A star takes a prefix and leaves the rest to the pattern after it. -/
theorem matches_star_iff_exists :
    Matches star alike (star :: pattern) value ↔
      ∃ skipped rest, value = skipped ++ rest ∧ Matches star alike pattern rest := by
  constructor
  · intro accepted
    induction value with
    | nil =>
        rw [matches_empty_iff, List.forall_mem_cons] at accepted
        exact ⟨[], [], rfl, matches_empty_iff.mpr accepted.2⟩
    | cons c value inductionHypothesis =>
        rcases matches_star_iff.mp accepted with rest | accepted
        · exact ⟨[], c :: value, rfl, rest⟩
        · obtain ⟨skipped, rest, rfl, rest_accepted⟩ := inductionHypothesis accepted
          exact ⟨c :: skipped, rest, rfl, rest_accepted⟩
  · rintro ⟨skipped, rest, rfl, accepted⟩
    exact (Matches.release accepted).absorb_append skipped

/-- Symbols that are no stars take one symbol each. -/
theorem matches_append_of_notStar
    {front : List α}
    (notStar : ∀ x ∈ front, x ≠ star)
    (accepted : Matches star alike (front ++ pattern) value) :
    ∃ taken rest, value = taken ++ rest ∧ taken.length = front.length ∧
      Matches star alike pattern rest := by
  induction front generalizing value with
  | nil => exact ⟨[], value, rfl, rfl, accepted⟩
  | cons x front inductionHypothesis =>
      have headNotStar := notStar x List.mem_cons_self
      cases value with
      | nil => exact absurd accepted (not_matches_symbol_nil headNotStar)
      | cons c value =>
          have tailAccepted := ((matches_symbol_iff headNotStar).mp accepted).2
          obtain ⟨taken, rest, rfl, sameLength, rest_accepted⟩ := inductionHypothesis
            (fun y member => notStar y (List.mem_cons_of_mem _ member)) tailAccepted
          exact ⟨c :: taken, rest, rfl, by simp [sameLength], rest_accepted⟩

/-- A value of one symbol that only stars are alike to needs a pattern of stars. -/
theorem all_star_of_matches_singleton
    (unlike : ∀ x, alike x c = true → x = star)
    (accepted : Matches star alike pattern [c]) :
    pattern ≠ [] ∧ ∀ x ∈ pattern, x = star := by
  induction pattern with
  | nil => cases matches_nil_iff.mp accepted
  | cons x pattern inductionHypothesis =>
      refine ⟨List.cons_ne_nil _ _, ?_⟩
      by_cases isStar : x = star
      · subst isStar
        rcases matches_star_iff.mp accepted with rest | accepted
        · exact List.forall_mem_cons.mpr ⟨rfl, (inductionHypothesis rest).2⟩
        · exact matches_empty_iff.mp accepted
      · obtain ⟨same, -⟩ := (matches_symbol_iff isStar).mp accepted
        exact absurd (unlike x same) isStar

/-- A pattern of stars takes everything. -/
theorem matches_of_all_star
    (nonempty : pattern ≠ [])
    (stars : ∀ x ∈ pattern, x = star) :
    Matches star alike pattern value := by
  cases pattern with
  | nil => exact absurd rfl nonempty
  | cons x pattern =>
      obtain ⟨rfl, stars⟩ := List.forall_mem_cons.mp stars
      have onEmpty : Matches x alike (x :: pattern) [] :=
        .release (matches_empty_iff.mpr stars)
      have onValue := onEmpty.absorb_append value
      rwa [List.append_nil] at onValue

/-- Folding the symbols of a pattern keeps its language, if it keeps the stars apart
and likeness. -/
theorem matches_map_iff
    {fold : α → α}
    (star_iff : ∀ x, fold x = star ↔ x = star)
    (alike_fold : ∀ x c, alike (fold x) c = alike x c) :
    Matches star alike (pattern.map fold) value ↔ Matches star alike pattern value := by
  induction pattern generalizing value with
  | nil => rfl
  | cons x pattern inductionHypothesis =>
      rw [List.map_cons]
      by_cases isStar : x = star
      · rw [(star_iff x).mpr isStar, isStar, matches_star_iff_exists,
          matches_star_iff_exists]
        simp only [inductionHypothesis]
      · have foldNotStar : fold x ≠ star := fun folded => isStar ((star_iff x).mp folded)
        cases value with
        | nil => simp only [not_matches_symbol_nil isStar, not_matches_symbol_nil foldNotStar]
        | cons c value =>
            rw [matches_symbol_iff isStar, matches_symbol_iff foldNotStar, alike_fold,
              inductionHypothesis]

/-- What a symbol of a pattern takes of a value: a star any piece, every other symbol
one that it is alike to. -/
def Takes (star : α) (alike : α → α → Bool) (x : α) (piece : List α) : Prop :=
  x = star ∨ ∃ c, piece = [c] ∧ alike x c = true

/-- A pattern matches the values that can be cut into a piece for each of its
symbols. -/
theorem matches_iff_exists_pieces :
    Matches star alike pattern value ↔
      ∃ pieces, value = pieces.flatten ∧ List.Forall₂ (Takes star alike) pattern pieces := by
  induction pattern generalizing value with
  | nil => simp [matches_nil_iff]
  | cons x pattern inductionHypothesis =>
      simp only [List.forall₂_cons_left_iff]
      by_cases isStar : x = star
      · subst isStar
        rw [matches_star_iff_exists]
        constructor
        · rintro ⟨skipped, rest, rfl, accepted⟩
          obtain ⟨pieces, rfl, takes⟩ := inductionHypothesis.mp accepted
          exact ⟨skipped :: pieces, rfl, skipped, pieces, .inl rfl, takes, rfl⟩
        · rintro ⟨_, rfl, skipped, pieces, -, takes, rfl⟩
          have accepted := inductionHypothesis.mpr ⟨pieces, rfl, takes⟩
          exact ⟨skipped, pieces.flatten, rfl, accepted⟩
      · constructor
        · intro accepted
          cases value with
          | nil => exact absurd accepted (not_matches_symbol_nil isStar)
          | cons c value =>
              obtain ⟨same, accepted⟩ := (matches_symbol_iff isStar).mp accepted
              obtain ⟨pieces, rfl, takes⟩ := inductionHypothesis.mp accepted
              exact ⟨[c] :: pieces, rfl, [c], pieces, .inr ⟨c, rfl, same⟩, takes, rfl⟩
        · rintro ⟨_, rfl, piece, pieces, taken, takes, rfl⟩
          obtain ⟨c, rfl, same⟩ := taken.resolve_left isStar
          have accepted := inductionHypothesis.mpr ⟨pieces, rfl, takes⟩
          exact (matches_symbol_iff isStar).mpr ⟨same, accepted⟩

end Language

/-! ## Backtracking points -/

/-- What the loop knows of its backtracking point: since then it has matched plain
symbols only. -/
def SinceStar
    (pattern value : List α) : Option (List α × List α) → Prop
  | none => True
  | some (afterStar, from') =>
      ∃ front taken, afterStar = front ++ pattern ∧ from' = taken ++ value ∧
        taken.length = front.length ∧ ∀ x ∈ front, x ≠ star

/-- The value is matched if the last star takes at least one symbol more. -/
def Retries : Option (List α × List α) → Prop
  | none => False
  | some (afterStar, from') => Matches star alike (star :: afterStar) from'.tail

section Backtracking

variable {star : α} {alike : α → α → Bool}

/-- Right after a star nothing has been matched since. -/
theorem sinceStar_self
    (pattern value : List α) :
    SinceStar star pattern value (some (pattern, value)) :=
  ⟨[], [], rfl, rfl, rfl, fun _ member => absurd member List.not_mem_nil⟩

/-- A plain symbol that fits moves on from the backtracking point. -/
theorem SinceStar.extend
    {pattern value : List α}
    {x c : α}
    {lastStar : Option (List α × List α)}
    (since : SinceStar star (x :: pattern) (c :: value) lastStar)
    (notStar : x ≠ star) :
    SinceStar star pattern value lastStar := by
  cases lastStar with
  | none => trivial
  | some point =>
      obtain ⟨front, taken, afterStar_eq, from_eq, sameLength, plain⟩ := since
      refine ⟨front ++ [x], taken ++ [c], ?_, ?_, ?_, ?_⟩
      · rw [afterStar_eq, List.append_assoc, List.singleton_append]
      · rw [from_eq, List.append_assoc, List.singleton_append]
      · rw [List.length_append, List.length_append, sameLength]
        rfl
      · intro y member
        rcases List.mem_append.mp member with member | member
        · exact plain y member
        · rw [List.mem_singleton.mp member]
          exact notStar

/-- A retry of the last star leaves less than the loop has left. -/
theorem exists_suffix_of_retries
    {pattern value : List α}
    {lastStar : Option (List α × List α)}
    (since : SinceStar star pattern value lastStar)
    (retries : Retries star alike lastStar) :
    ∃ skipped rest, value = skipped ++ rest ∧ Matches star alike pattern rest := by
  cases lastStar with
  | none => exact retries.elim
  | some point =>
      obtain ⟨front, taken, afterStar_eq, from_eq, sameLength, notStar⟩ := since
      obtain ⟨skipped, rest, tail_eq, accepted⟩ := matches_star_iff_exists.mp retries
      rw [afterStar_eq] at accepted
      obtain ⟨taken', rest', rfl, sameLength', accepted'⟩ :=
        matches_append_of_notStar notStar accepted
      refine ⟨value.take (value.length - rest'.length), rest', ?_, accepted'⟩
      have isSuffix : rest' <:+ taken ++ value := by
        rw [← from_eq]
        refine List.IsSuffix.trans ⟨skipped ++ taken', ?_⟩ (List.tail_suffix _)
        rw [tail_eq, List.append_assoc]
      have shorter : rest'.length ≤ value.length := by
        have lengths := congrArg List.length tail_eq
        rw [from_eq] at lengths
        simp only [List.length_tail, List.length_append] at lengths
        omega
      have inValue : rest' <:+ value :=
        List.suffix_of_suffix_length_le isSuffix (List.suffix_append taken value) shorter
      exact (List.suffix_iff_eq_append.mp inValue).symm

/-- On an empty value a retry can only take nothing. -/
theorem matches_empty_of_retries
    {pattern : List α}
    {lastStar : Option (List α × List α)}
    (since : SinceStar star pattern [] lastStar)
    (retries : Retries star alike lastStar) :
    Matches star alike pattern [] := by
  obtain ⟨skipped, rest, whole, accepted⟩ := exists_suffix_of_retries since retries
  obtain ⟨-, rfl⟩ := List.nil_eq_append_iff.mp whole
  exact accepted

end Backtracking

/-! ## The matcher -/

variable [DecidableEq α]

/-- Let the last star take one symbol more, if there is a last star. -/
def retry
    (goOn : List α → List α → Option Bool) :
    Option (List α × List α) → Option Bool
  | none => some false
  | some (afterStar, from') => goOn afterStar from'.tail

/-- The loop.  The pattern and the value are what is left of them; the backtracking
point is the pattern after the last star and the value from which it goes on. -/
def globLoop :
    Nat → List α → List α → Option (List α × List α) → Option Bool
  | 0, _, _, _ => none
  | _ + 1, pattern, [], _ => some (pattern.all fun x => x = star)
  | fuel + 1, pattern, c :: value, lastStar =>
      let backtrack := retry
        (fun afterStar from' => globLoop fuel afterStar from' (some (afterStar, from')))
        lastStar
      match pattern with
      | [] => backtrack
      | x :: rest =>
          if x = star then globLoop fuel rest (c :: value) (some (rest, c :: value))
          else if alike x c then globLoop fuel rest value lastStar
          else backtrack

/-- Steps that suffice for a pattern and a value. -/
def globFuel (pattern value : List α) : Nat :=
  (pattern.length + 1) * (value.length + 1) * (pattern.length + 1) +
    pattern.length + 1

/-- Match a value against a pattern. -/
def globMatch (pattern value : List α) : Bool :=
  (globLoop star alike (globFuel pattern value) pattern value none).getD false

section Correctness

variable {star : α} {alike : α → α → Bool}

/-- When the loop ends, it has decided whether the rest matches, or would after a
retry of the last star. -/
theorem globLoop_correct
    {fuel : Nat}
    {pattern value : List α}
    {lastStar : Option (List α × List α)}
    {result : Bool}
    (since : SinceStar star pattern value lastStar)
    (ends : globLoop star alike fuel pattern value lastStar = some result) :
    result = true ↔
      Matches star alike pattern value ∨
        Retries star alike lastStar := by
  induction fuel generalizing pattern value lastStar with
  | zero => cases ends
  | succ fuel inductionHypothesis =>
      cases value with
      | nil =>
          unfold globLoop at ends
          cases ends
          have stars : (pattern.all fun x => decide (x = star)) = true ↔
              Matches star alike pattern [] := by
            simp [matches_empty_iff]
          rw [stars]
          constructor
          · exact .inl
          · rintro (accepted | retries)
            · exact accepted
            · exact matches_empty_of_retries since retries
      | cons c value =>
          -- Where the symbol does not fit, the last star has to take one more.
          have backtracks : ¬ Matches star alike pattern (c :: value) →
              retry (fun afterStar from' =>
                globLoop star alike fuel afterStar from' (some (afterStar, from')))
                lastStar = some result →
              (result = true ↔
                Matches star alike pattern (c :: value) ∨
                  Retries star alike lastStar) := by
            intro noMatch backtrack
            cases lastStar with
            | none =>
                cases backtrack
                simp [noMatch, Retries]
            | some point =>
                rw [inductionHypothesis (sinceStar_self point.1 point.2.tail) backtrack]
                simp only [noMatch, false_or, Retries]
                exact matches_star_iff.symm
          unfold globLoop at ends
          dsimp only at ends
          cases pattern with
          | nil =>
              exact backtracks (fun accepted => by cases matches_nil_iff.mp accepted) ends
          | cons x rest =>
              dsimp only at ends
              split at ends
              · next isStar =>
                  subst isStar
                  rw [inductionHypothesis (sinceStar_self rest (c :: value)) ends]
                  simp only [Retries]
                  rw [← matches_star_iff]
                  constructor
                  · exact .inl
                  · rintro (accepted | retries)
                    · exact accepted
                    · obtain ⟨skipped, suffix, value_eq, accepted⟩ :=
                        exists_suffix_of_retries since retries
                      rw [value_eq]
                      exact accepted.absorb_append skipped
              · next notStar =>
                  split at ends
                  · next same =>
                      rw [inductionHypothesis (since.extend notStar) ends,
                        matches_symbol_iff notStar]
                      simp [same]
                  · next different =>
                      refine backtracks (fun accepted => different ?_) ends
                      exact ((matches_symbol_iff notStar).mp accepted).1

/-! ## The matcher ends -/

/-- Pairs in lexicographic order, the second below a bound, as one number. -/
theorem lex_lt
    {high high' low' bound : Nat}
    (low : Nat)
    (higher : high' < high)
    (bounded : low' ≤ bound) :
    high' * (bound + 1) + low' < high * (bound + 1) + low := by
  have above : (high' + 1) * (bound + 1) ≤ high * (bound + 1) :=
    Nat.mul_le_mul_right _ higher
  rw [Nat.succ_mul] at above
  omega

/-- Progress of the last star: its place in the pattern, then the value it goes on
from. -/
def starRank (patternBound valueBound : Nat) :
    Option (List α × List α) → Nat
  | none => (patternBound + 1) * (valueBound + 1)
  | some (afterStar, from') =>
      afterStar.length * (valueBound + 1) + from'.length

/-- The backtracking point is a rest of the pattern and a rest of the value. -/
def PointWithin (patternBound valueBound : Nat) :
    Option (List α × List α) → Prop
  | none => True
  | some (afterStar, from') =>
      afterStar.length ≤ patternBound ∧ from'.length ≤ valueBound

theorem globLoop_isSome
    {patternBound valueBound fuel : Nat}
    {pattern value : List α}
    {lastStar : Option (List α × List α)}
    (since : SinceStar star pattern value lastStar)
    (patternWithin : pattern.length ≤ patternBound)
    (valueWithin : value.length ≤ valueBound)
    (pointWithin : PointWithin patternBound valueBound lastStar)
    (enough : starRank patternBound valueBound lastStar * (patternBound + 1) +
      pattern.length < fuel) :
    (globLoop star alike fuel pattern value lastStar).isSome = true := by
  induction fuel generalizing pattern value lastStar with
  | zero => omega
  | succ fuel inductionHypothesis =>
      cases value with
      | nil =>
          unfold globLoop
          rfl
      | cons c value =>
          -- A retry moves the point on, and the pattern starts anew behind the star.
          have backtracks : (retry (fun afterStar from' =>
              globLoop star alike fuel afterStar from' (some (afterStar, from')))
              lastStar).isSome = true := by
            cases lastStar with
            | none => rfl
            | some point =>
                obtain ⟨front, taken, -, from_eq, -, -⟩ := since
                obtain ⟨afterWithin, fromWithin⟩ := pointWithin
                have moved : point.2.tail.length + 1 = point.2.length := by
                  rw [from_eq, List.length_tail]
                  simp only [List.length_append, List.length_cons]
                  omega
                refine inductionHypothesis (sinceStar_self _ _) afterWithin
                  (by omega) ⟨afterWithin, by omega⟩ ?_
                have lower := lex_lt pattern.length
                  (show starRank patternBound valueBound (some (point.1, point.2.tail)) <
                    starRank patternBound valueBound (some point) by
                      simp only [starRank]
                      omega) afterWithin
                omega
          unfold globLoop
          dsimp only
          cases pattern with
          | nil => exact backtracks
          | cons x rest =>
              rw [List.length_cons] at patternWithin enough
              dsimp only
              split
              · next isStar =>
                  subst isStar
                  refine inductionHypothesis (sinceStar_self _ _) (by omega)
                    valueWithin ⟨by omega, valueWithin⟩ ?_
                  have advanced : starRank patternBound valueBound
                      (some (rest, c :: value)) <
                        starRank patternBound valueBound lastStar := by
                    cases lastStar with
                    | none =>
                        exact lex_lt 0 (show rest.length < patternBound + 1 by omega)
                          valueWithin
                    | some point =>
                        obtain ⟨front, taken, afterStar_eq, -, -, -⟩ := since
                        refine lex_lt point.2.length ?_ valueWithin
                        rw [afterStar_eq, List.length_append, List.length_cons]
                        omega
                  have lower := lex_lt (rest.length + 1) advanced
                    (show rest.length ≤ patternBound by omega)
                  omega
              · next notStar =>
                  split
                  · rw [List.length_cons] at valueWithin
                    refine inductionHypothesis (since.extend notStar) (by omega)
                      (by omega) pointWithin (by omega)
                  · exact backtracks

variable (star alike) in
/-- The matcher always ends. -/
theorem globLoop_globFuel_isSome (pattern value : List α) :
    (globLoop star alike (globFuel pattern value) pattern value none).isSome = true := by
  refine globLoop_isSome trivial (le_refl _) (le_refl _) trivial ?_
  simp only [starRank, globFuel]
  omega

/-- The matcher decides the language of its pattern. -/
theorem globMatch_iff (pattern value : List α) :
    globMatch star alike pattern value = true ↔ Matches star alike pattern value := by
  obtain ⟨result, ends⟩ := Option.isSome_iff_exists.mp
    (globLoop_globFuel_isSome star alike pattern value)
  have since : SinceStar star pattern value none := trivial
  rw [globMatch, ends, Option.getD_some, globLoop_correct since ends]
  simp only [Retries, or_false]

end Correctness

end Glob
end Lib
