import Mathlib.Data.List.Chain
import QuackOauth.Validator.Operations

/-!
# The process-wide fetch budget

The budget is checked and charged by the piece of a call that ends with a request,
in one go under the mutex.  Its stamp is therefore that of the last request, and
whatever the clocks of the calls do, the next request comes a window later or after
a clock reset.
-/

namespace QuackOauth
namespace Validator

open Lib Jwks Jwt

variable {backend : Backend}

/-! ## The stamp -/

theorem lastGlobalFetchS_recordJwksFetchSuccess
    (nowS : Int)
    (jwksUri : String)
    (cache : JwksCache) :
    (cache.recordJwksFetchSuccess nowS jwksUri).lastGlobalFetchS =
      cache.lastGlobalFetchS := by
  unfold JwksCache.recordJwksFetchSuccess
  split <;> rfl

theorem lastGlobalFetchS_dropMiss (key : String) (cache : JwksCache) :
    (cache.dropMiss key).lastGlobalFetchS = cache.lastGlobalFetchS := by
  unfold JwksCache.dropMiss
  split <;> rfl

theorem lastGlobalFetchS_onFetchSuccess
    (kid : String)
    (keys : List Jwk)
    (nowS : Int)
    (jwksUri : String)
    (cache : JwksCache) :
    (cache.onFetchSuccess kid keys nowS jwksUri).lastGlobalFetchS =
      cache.lastGlobalFetchS := by
  unfold JwksCache.onFetchSuccess
  split
  · rfl
  · have recorded := lastGlobalFetchS_recordJwksFetchSuccess nowS jwksUri cache
    dsimp only
    split
    · exact (lastGlobalFetchS_dropMiss _ _).trans recorded
    · exact (lastGlobalFetchS_dropMiss _ _).trans recorded

/-- An operation that is no charge leaves the stamp of the budget alone. -/
theorem lastGlobalFetchS_apply
    {operation : Operation}
    (noCharge : ∀ nowS, operation ≠ .recordJwksFetch nowS)
    (cache : JwksCache) :
    (cache.apply operation).lastGlobalFetchS = cache.lastGlobalFetchS := by
  cases operation with
  | tryReserveRefresh kid nowS jwksUri =>
      simp only [JwksCache.apply, JwksCache.tryReserveRefresh]
      repeat' split
      all_goals rfl
  | commitRefresh kid reservationId keys nowS jwksUri =>
      simp only [JwksCache.apply, JwksCache.commitRefresh]
      repeat' split
      all_goals rfl
  | recordKidAbsent kid reservationId nowS jwksUri =>
      simp only [JwksCache.apply, JwksCache.recordKidAbsent]
      repeat' split
      all_goals rfl
  | onFetchSuccess kid keys nowS jwksUri =>
      exact lastGlobalFetchS_onFetchSuccess kid keys nowS jwksUri cache
  | onPassiveFetchSuccess kid keys nowS jwksUri =>
      simp only [JwksCache.apply, JwksCache.onPassiveFetchSuccess]
      split
      · rfl
      · split
        · rfl
        · exact lastGlobalFetchS_onFetchSuccess kid keys nowS jwksUri cache
  | onFetchMiss kid nowS jwksUri => exact lastGlobalFetchS_dropMiss (cacheKey jwksUri kid) cache
  | recordJwksFetch nowS => exact absurd rfl (noCharge nowS)
  | recordJwksFetchSuccess nowS jwksUri =>
      exact lastGlobalFetchS_recordJwksFetchSuccess nowS jwksUri cache
  | _ => rfl

theorem lastGlobalFetchS_applyAll
    {operations : List Operation}
    (noCharge : ∀ operation ∈ operations, ∀ nowS, operation ≠ .recordJwksFetch nowS)
    (cache : JwksCache) :
    (cache.applyAll operations).lastGlobalFetchS = cache.lastGlobalFetchS := by
  induction operations generalizing cache with
  | nil => rfl
  | cons operation operations inductionHypothesis =>
      rw [JwksCache.applyAll, Machine.run_cons,
        ← lastGlobalFetchS_apply (noCharge operation List.mem_cons_self) cache]
      exact inductionHypothesis
        (fun other member => noCharge other (List.mem_cons_of_mem _ member)) _

/-- The response to a request is processed without charge. -/
theorem lastGlobalFetchS_finishValidation
    (parked : Parked)
    (response : Option Response)
    (order : IterationOrder String (List Jwk))
    (cache : JwksCache) :
    (finishValidation backend parked response order cache).cache.lastGlobalFetchS =
      cache.lastGlobalFetchS := by
  rw [finishValidation_cache]
  apply lastGlobalFetchS_applyAll
  intro operation member nowS isCharge
  subst isCharge
  cases mem_finishOperations member

/-! ## Requests -/

/-- A request within the budget charges it with its own time. -/
theorem lastGlobalFetchS_recordJwksFetch
    {cache : JwksCache}
    {nowS : Int}
    (positive : 0 < nowS)
    (allowed : cache.canFetchJwks nowS = true) :
    (cache.recordJwksFetch nowS).lastGlobalFetchS = nowS := by
  unfold JwksCache.canFetchJwks at allowed
  unfold JwksCache.recordJwksFetch
  split
  · rfl
  · next noReset =>
      have later : cache.lastGlobalFetchS ≤ nowS := by
        split at allowed
        · omega
        · next charged =>
            dsimp only at allowed
            rw [not_and] at noReset
            rw [if_neg (noReset (by omega))] at allowed
            split at allowed
            · cases allowed
            · next inWindow =>
                unfold kGlobalFetchBudgetWindowSeconds at inWindow
                omega
      exact Int.max_eq_right later

/-- The budget allows a request a window after the last, or after a clock reset. -/
theorem apart_of_canFetchJwks
    {cache : JwksCache}
    {nowS : Int}
    (charged : 0 < cache.lastGlobalFetchS)
    (allowed : cache.canFetchJwks nowS = true) :
    cache.lastGlobalFetchS + kGlobalFetchBudgetWindowSeconds ≤ nowS ∨
      nowS < cache.lastGlobalFetchS - kClockResetThresholdSeconds := by
  unfold JwksCache.canFetchJwks at allowed
  rw [if_neg (by omega)] at allowed
  dsimp only at allowed
  split at allowed
  · next isReset =>
      unfold relateClock at isReset
      split_ifs at isReset
      omega
  · split at allowed
    · cases allowed
    · omega

namespace System

variable {system : System}

/-- The time stamp of the request that a step sends. -/
def requestedAt
    (backend : Backend)
    (system : System) : Label → Option Int
  | .begin call =>
      match beginValidation backend call system.cache with
      | .finished _ => none
      | .fetching parked _ => some parked.call.opts.nowS
  | .resume .. => none

/-- Time stamps that the budget admits one after the other. -/
def WindowApart (earlierS laterS : Int) : Prop :=
  earlierS + kGlobalFetchBudgetWindowSeconds ≤ laterS ∨
    laterS < earlierS - kClockResetThresholdSeconds

/-- The clock of a call shows a positive time. -/
def PositiveClock : Label → Prop
  | .begin call => 0 < call.opts.nowS
  | .resume .. => True

/-- A step that sends a request was within the budget and charges it; any other step
leaves the stamp alone. -/
theorem step_lastGlobalFetchS
    (backend : Backend)
    (system : System)
    (label : Label) :
    match requestedAt backend system label with
    | none => (step backend system label).cache.lastGlobalFetchS =
        system.cache.lastGlobalFetchS
    | some nowS => system.cache.canFetchJwks nowS = true ∧
        (PositiveClock label → 0 < nowS ∧
          (step backend system label).cache.lastGlobalFetchS = nowS) := by
  cases label with
  | begin call =>
      have reserved : ∀ kid,
          (system.cache.tryReserveRefresh kid call.opts.nowS
            call.jwksUri).2.lastGlobalFetchS = system.cache.lastGlobalFetchS := by
        intro kid
        have noCharge : ∀ nowS,
            Operation.tryReserveRefresh kid call.opts.nowS call.jwksUri ≠
              .recordJwksFetch nowS := by
          rintro nowS ⟨⟩
        exact lastGlobalFetchS_apply noCharge system.cache
      have begun := beginValidation_begun backend call system.cache
      simp only [requestedAt, step]
      generalize beginValidation backend call system.cache = progress at begun
      cases begun with
      | refused => rfl
      | cached => rfl
      | budgetThrottled => rfl
      | reserveThrottled parsed => exact reserved parsed.kid
      | coldThrottled => rfl
      | refreshing parsed hit cachedResult admitted found calls rejected allowed granted =>
          refine ⟨allowed, fun positive => ⟨positive, ?_⟩⟩
          refine lastGlobalFetchS_recordJwksFetch positive ?_
          rw [← allowed]
          unfold JwksCache.canFetchJwks
          rw [reserved]
      | cold parsed admitted absent missing allowed =>
          exact ⟨allowed, fun positive =>
            ⟨positive, lastGlobalFetchS_recordJwksFetch positive allowed⟩⟩
  | resume request response order =>
      simp only [requestedAt, step]
      split
      · rfl
      · exact lastGlobalFetchS_finishValidation _ _ _ _

/-- After a charge at a positive time, all requests are apart from it and from each
other. -/
theorem requests_apart_of_charged
    (backend : Backend)
    {labels : List Label}
    (positive : ∀ label ∈ labels, PositiveClock label)
    (charged : 0 < system.cache.lastGlobalFetchS) :
    (system.cache.lastGlobalFetchS ::
      Machine.observations (step backend) (requestedAt backend) system labels).IsChain
        WindowApart := by
  induction labels generalizing system with
  | nil => exact List.isChain_singleton _
  | cons label labels inductionHypothesis =>
      have charges := step_lastGlobalFetchS backend system label
      have positiveRest : ∀ label ∈ labels, PositiveClock label :=
        fun other member => positive other (List.mem_cons_of_mem _ member)
      rw [Machine.observations]
      cases requests : requestedAt backend system label with
      | none =>
          simp only [requests] at charges
          rw [← charges] at charged ⊢
          exact inductionHypothesis positiveRest charged
      | some nowS =>
          simp only [requests] at charges
          obtain ⟨allowed, stamps⟩ := charges
          obtain ⟨later, stamped⟩ := stamps (positive label List.mem_cons_self)
          refine List.isChain_cons_cons.mpr ⟨apart_of_canFetchJwks charged allowed, ?_⟩
          rw [← stamped] at later ⊢
          exact inductionHypothesis positiveRest later

/-- Requests sent one after the other are a window apart, or the clock was reset. -/
theorem requests_apart
    (backend : Backend)
    (system : System)
    (labels : List Label)
    (positive : ∀ label ∈ labels, PositiveClock label) :
    (Machine.observations (step backend) (requestedAt backend) system labels).IsChain
      WindowApart := by
  induction labels generalizing system with
  | nil => exact List.isChain_nil
  | cons label labels inductionHypothesis =>
      have charges := step_lastGlobalFetchS backend system label
      have positiveRest : ∀ label ∈ labels, PositiveClock label :=
        fun other member => positive other (List.mem_cons_of_mem _ member)
      rw [Machine.observations]
      cases requests : requestedAt backend system label with
      | none => exact inductionHypothesis _ positiveRest
      | some nowS =>
          simp only [requests] at charges
          obtain ⟨later, stamped⟩ := charges.2 (positive label List.mem_cons_self)
          rw [← stamped] at later
          have rest := requests_apart_of_charged backend positiveRest later
          rwa [stamped] at rest

/-- Three calls, the second within the window of the first. -/
def sampleRequests : List Label :=
  [.begin (sampleCall "a-old" 1000), .begin (sampleCall "b-old" 1001),
    .begin (sampleCall "b-old" 1002)]

theorem requests_apart_sample :
    Machine.observations (step sampleBackend) (requestedAt sampleBackend)
        (initial 300 1000) sampleRequests = [1000, 1002] ∧
      (Machine.observations (step sampleBackend) (requestedAt sampleBackend)
        (initial 300 1000) sampleRequests).IsChain WindowApart :=
  ⟨by decide, requests_apart sampleBackend (initial 300 1000) sampleRequests
    (by simp [sampleRequests, PositiveClock, sampleCall])⟩

end System
end Validator
end QuackOauth
