import Mathlib.Algebra.Order.Ring.Int
import Mathlib.Tactic.Ring

/-!
# Retries with doubling delays

A call is repeated while its answer is worth another attempt, up to a number of retries, and
each delay in between is twice the one before.  The answer that comes back is that of the
first attempt which is not worth another, or that of the last one allowed.
-/

namespace Lib
namespace Retry

variable {World Answer : Type*}
variable {call : World → Answer × World} {sleep : Nat → World → World}
variable {retryable : Answer → Bool} {initialDelay delay : Nat} {world : World}
variable {result : Answer × World}

/-- The loop behind the first attempt: how many retries are left, the next delay, and what
the last attempt came to. -/
def retryLoop
    (call : World → Answer × World)
    (sleep : Nat → World → World)
    (retryable : Answer → Bool) : Nat → Nat → Answer × World → Answer × World
  | 0, _, result => result
  | retries + 1, delay, result =>
      if retryable result.1 then
        retryLoop call sleep retryable retries (2 * delay) (call (sleep delay result.2))
      else result

/-- What the attempts after a first one come to, if each is made. -/
def attemptFrom
    (call : World → Answer × World)
    (sleep : Nat → World → World)
    (delay : Nat)
    (result : Answer × World) : Nat → Answer × World
  | 0 => result
  | k + 1 =>
      call (sleep (delay * 2 ^ k) (attemptFrom call sleep delay result k).2)

/-- The attempts, if each is made; the first is without a delay. -/
abbrev attempt
    (call : World → Answer × World)
    (sleep : Nat → World → World)
    (initialDelay : Nat)
    (world : World) : Nat → Answer × World :=
  attemptFrom call sleep initialDelay (call world)

/-- The attempts after the second one, seen from there. -/
theorem attemptFrom_succ (k : Nat) :
    attemptFrom call sleep (2 * delay) (call (sleep delay result.2)) k =
      attemptFrom call sleep delay result (k + 1) := by
  induction k with
  | zero =>
      change _ = call (sleep (delay * 2 ^ 0) result.2)
      rw [pow_zero, mul_one]
      rfl
  | succ k inductionHypothesis =>
      have doubled : 2 * delay * 2 ^ k = delay * 2 ^ (k + 1) := by ring
      rw [attemptFrom, inductionHypothesis, doubled]
      rfl

/-- An attempt whose answer is taken: those before it were worth another, and it is not, or
it is the last. -/
structure Settles
    (retryable : Answer → Bool)
    (answers : Nat → Answer)
    (retries k : Nat) : Prop where
  le : k ≤ retries
  before : ∀ earlier < k, retryable (answers earlier) = true
  last : k < retries → retryable (answers k) = false

/-- There is only one such attempt. -/
theorem Settles.unique
    {answers : Nat → Answer}
    {retries first second : Nat}
    (settles : Settles retryable answers retries first)
    (otherSettles : Settles retryable answers retries second) :
    first = second := by
  have notLess {k l : Nat} (atK : Settles retryable answers retries k)
      (atL : Settles retryable answers retries l) : ¬k < l := by
    intro less
    have worth := atL.before k less
    rw [atK.last (lt_of_lt_of_le less atL.le)] at worth
    cases worth
  have := notLess settles otherSettles
  have := notLess otherSettles settles
  omega

/-- The loop stops at the attempt that settles. -/
theorem retryLoop_settles
    (retries delay : Nat)
    (result : Answer × World) :
    ∃ k, retryLoop call sleep retryable retries delay result =
        attemptFrom call sleep delay result k ∧
      Settles retryable (fun k => (attemptFrom call sleep delay result k).1) retries k := by
  induction retries generalizing delay result with
  | zero =>
      exact ⟨0, rfl, le_refl 0, fun earlier less => absurd less (Nat.not_lt_zero earlier),
        fun less => absurd less (Nat.lt_irrefl 0)⟩
  | succ retries inductionHypothesis =>
      unfold retryLoop
      split
      · next worth =>
          obtain ⟨k, stops, settles⟩ :=
            inductionHypothesis (2 * delay) (call (sleep delay result.2))
          simp only [attemptFrom_succ] at stops settles
          refine ⟨k + 1, stops, Nat.succ_le_succ settles.le, ?_, ?_⟩
          · intro earlier less
            cases earlier with
            | zero => exact worth
            | succ earlier => exact settles.before earlier (Nat.lt_of_succ_lt_succ less)
          · intro less
            exact settles.last (Nat.lt_of_succ_lt_succ less)
      · next notWorth =>
          exact ⟨0, rfl, Nat.zero_le _, fun earlier less => absurd less (Nat.not_lt_zero earlier),
            fun _ => Bool.eq_false_iff.mpr notWorth⟩

/-- Up to an attempt the delays have doubled, if a sleep takes its time and a call does not
turn the clock back. -/
theorem clock_attemptFrom
    (clock : World → Nat)
    (sleeps : ∀ delay world, clock world + delay ≤ clock (sleep delay world))
    (calls : ∀ world, clock world ≤ clock (call world).2)
    (k : Nat) :
    clock result.2 + delay * (2 ^ k - 1) ≤
      clock (attemptFrom call sleep delay result k).2 := by
  induction k with
  | zero => simp [attemptFrom]
  | succ k inductionHypothesis =>
      have slept := sleeps (delay * 2 ^ k) (attemptFrom call sleep delay result k).2
      have called := calls (sleep (delay * 2 ^ k) (attemptFrom call sleep delay result k).2)
      have doubled : delay * (2 ^ (k + 1) - 1) = delay * (2 ^ k - 1) + delay * 2 ^ k := by
        have positive : 1 ≤ 2 ^ k := Nat.one_le_two_pow
        rw [← Nat.mul_add, pow_succ]
        congr 1
        omega
      rw [attemptFrom, doubled]
      omega

end Retry
end Lib
