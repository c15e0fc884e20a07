import Mathlib.Data.List.TakeWhile
import QuackOauth.Policy.Evaluate

/-!
# The cursors of the matcher

The matcher of patterns walks two cursors over the bytes of the pattern and of the
value, and remembers the last star with the place in the value from which it goes on.
Here it is as written, and simulated round by round by the matcher on lists, from which
it takes that it ends and what it decides.
-/

namespace QuackOauth
namespace Policy

open Lib Glob

/-- Where the matcher is. -/
structure GlobCursor where
  /-- In the pattern. -/
  pi : Nat := 0
  /-- In the value. -/
  vi : Nat := 0
  /-- The last star met, if any. -/
  starP : Option Nat := none
  /-- From where that star goes on. -/
  starV : Nat := 0
  deriving DecidableEq, Repr

/-- Go back behind the last star, which takes one byte more; none if there is no star. -/
def GlobCursor.backtrack (cursor : GlobCursor) : Option GlobCursor :=
  cursor.starP.map fun starP => { cursor with
    pi := starP + 1
    vi := cursor.starV + 1
    starV := cursor.starV + 1 }

/-- One round of the loop at a byte `c` of the value; none where it gives up. -/
def GlobCursor.advance
    (pattern : List UInt8)
    (c : UInt8)
    (cursor : GlobCursor) : Option GlobCursor :=
  match pattern[cursor.pi]? with
  | none => cursor.backtrack
  | some x =>
      if x = starByte then
        some { cursor with
          pi := cursor.pi + 1
          starP := some cursor.pi
          starV := cursor.vi }
      else if lowerByte x = lowerByte c then
        some { cursor with pi := cursor.pi + 1, vi := cursor.vi + 1 }
      else cursor.backtrack

/-- The loop, for at most so many rounds; none if these do not suffice.  Behind it, what
is left of the pattern must be stars. -/
def runGlobMatch
    (pattern value : List UInt8) : Nat → GlobCursor → Option Bool
  | 0, _ => none
  | rounds + 1, cursor =>
      match value[cursor.vi]? with
      | none => some (((pattern.drop cursor.pi).dropWhile fun x => x = starByte).isEmpty)
      | some c =>
          match cursor.advance pattern c with
          | none => some false
          | some cursor => runGlobMatch pattern value rounds cursor

/-! ## Simulation -/

/-- The backtracking point of a cursor, as what is left behind it. -/
def GlobCursor.lastStar
    (pattern value : List UInt8)
    (cursor : GlobCursor) : Option (List UInt8 × List UInt8) :=
  cursor.starP.map fun starP => (pattern.drop (starP + 1), value.drop cursor.starV)

theorem isEmpty_dropWhile_eq_all (pattern : List UInt8) :
    (pattern.dropWhile fun x => x = starByte).isEmpty =
      pattern.all fun x => x = starByte := by
  rw [Bool.eq_iff_iff, List.isEmpty_iff, List.dropWhile_eq_nil_iff, List.all_eq_true]

/-- Round by round, the cursors do what the matcher does on the rests of the lists. -/
theorem runGlobMatch_eq_globLoop
    (pattern value : List UInt8)
    (rounds : Nat)
    (cursor : GlobCursor) :
    runGlobMatch pattern value rounds cursor =
      globLoop starByte alikeByte rounds (pattern.drop cursor.pi) (value.drop cursor.vi)
        (cursor.lastStar pattern value) := by
  induction rounds generalizing cursor with
  | zero => rfl
  | succ rounds inductionHypothesis =>
      unfold runGlobMatch
      cases valueByte : value[cursor.vi]? with
      | none =>
          rw [List.drop_eq_nil_iff.mpr (List.getElem?_eq_none_iff.mp valueByte)]
          unfold globLoop
          rw [isEmpty_dropWhile_eq_all]
      | some c =>
          have valueRest : value.drop cursor.vi = c :: value.drop (cursor.vi + 1) := by
            obtain ⟨inside, rfl⟩ := List.getElem?_eq_some_iff.mp valueByte
            exact List.drop_eq_getElem_cons inside
          -- Both go back behind the same star.
          have backtracks : (match cursor.backtrack with
              | none => some false
              | some cursor => runGlobMatch pattern value rounds cursor) =
              retry (fun afterStar from' =>
                globLoop starByte alikeByte rounds afterStar from' (some (afterStar, from')))
                (cursor.lastStar pattern value) := by
            unfold GlobCursor.backtrack GlobCursor.lastStar
            cases starAt : cursor.starP with
            | none => rfl
            | some starP =>
                simp only [Option.map_some, retry, List.tail_drop]
                rw [inductionHypothesis]
                simp only [GlobCursor.lastStar, Option.map_some]
          rw [valueRest]
          unfold globLoop GlobCursor.advance
          dsimp only
          cases patternByte : pattern[cursor.pi]? with
          | none =>
              rw [List.drop_eq_nil_iff.mpr (List.getElem?_eq_none_iff.mp patternByte)]
              exact backtracks
          | some x =>
              have patternRest : pattern.drop cursor.pi =
                  x :: pattern.drop (cursor.pi + 1) := by
                obtain ⟨inside, rfl⟩ := List.getElem?_eq_some_iff.mp patternByte
                exact List.drop_eq_getElem_cons inside
              rw [patternRest]
              dsimp only
              by_cases isStar : x = starByte
              · rw [if_pos isStar, if_pos isStar]
                dsimp only
                rw [inductionHypothesis]
                simp only [GlobCursor.lastStar, Option.map_some, valueRest]
              · rw [if_neg isStar, if_neg isStar]
                by_cases same : lowerByte x = lowerByte c
                · have alike : alikeByte x c = true := decide_eq_true same
                  rw [if_pos same, if_pos alike]
                  exact inductionHypothesis _
                · have unlike : ¬ alikeByte x c = true := by
                    unfold alikeByte
                    rwa [decide_eq_true_iff]
                  rw [if_neg same, if_neg unlike]
                  exact backtracks

/-- The matcher of the evaluation is this loop on the bytes of its strings. -/
theorem runGlobMatch_bytesOf (pattern value : String) :
    runGlobMatch (bytesOf pattern) (bytesOf value)
        (globFuel (bytesOf pattern) (bytesOf value)) {} =
      some (globMatch pattern value) := by
  rw [runGlobMatch_eq_globLoop]
  obtain ⟨result, ends⟩ := Option.isSome_iff_exists.mp
    (globLoop_globFuel_isSome starByte alikeByte (bytesOf pattern) (bytesOf value))
  unfold globMatch Glob.globMatch
  rw [ends]
  exact ends

/-! ## What the matcher decides -/

/-- A piece of the value for a byte of the pattern: any for `*`, one byte that is equal
up to ASCII case otherwise. -/
def PieceFor (x : UInt8) (piece : List UInt8) : Prop :=
  if x = starByte then True else ∃ c, piece = [c] ∧ lowerByte x = lowerByte c

theorem takes_eq_pieceFor : Takes starByte alikeByte = PieceFor := by
  funext x piece
  unfold Takes PieceFor alikeByte
  by_cases isStar : x = starByte
  · simp [isStar]
  · simp [isStar]

/-- The loop ends on every input, and decides whether the value can be cut into a piece
for each byte of the pattern. -/
theorem runGlobMatch_decides (pattern value : List UInt8) :
    ∃ enough, ∀ rounds ≥ enough, ∃ result,
      runGlobMatch pattern value rounds {} = some result ∧
        (result = true ↔
          ∃ pieces, value = pieces.flatten ∧ List.Forall₂ PieceFor pattern pieces) := by
  refine ⟨globFuel pattern value, fun rounds atLeast => ?_⟩
  have since : SinceStar starByte pattern value none := trivial
  have ends : (runGlobMatch pattern value rounds {}).isSome = true := by
    rw [runGlobMatch_eq_globLoop]
    refine globLoop_isSome since (Nat.le_refl _) (Nat.le_refl _) trivial ?_
    simp only [GlobCursor.lastStar, starRank, globFuel, Option.map_none,
      List.drop_zero] at atLeast ⊢
    omega
  obtain ⟨result, ends⟩ := Option.isSome_iff_exists.mp ends
  refine ⟨result, ends, ?_⟩
  rw [runGlobMatch_eq_globLoop] at ends
  rw [globLoop_correct since ends, ← takes_eq_pieceFor, ← matches_iff_exists_pieces]
  simp only [Retries, or_false]

example : runGlobMatch (bytesOf "*.A*t") (bytesOf "main.audit") 20 {} = some true := by
  decide

end Policy
end QuackOauth
