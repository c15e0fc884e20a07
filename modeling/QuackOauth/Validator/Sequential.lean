import QuackOauth.Validator.CacheInvariant
import QuackOauth.Validator.RateLimit

/-!
# Calls one after the other

When calls do not overlap and the clock does not run backwards, a call finds a cache
whose entries were all fetched before it, so that nothing comes between its reservation
and its commit.
-/

namespace QuackOauth
namespace Validator

open Lib Jwks Jwt

/-- Validate a token while no other call runs. -/
def present (backend : Backend) (cache : JwksCache) (presentation : Presentation) : JwksCache :=
  (validateToken backend (answering presentation.response) presentation.order
    presentation.call cache).cache

/-- A cache that calls up to a time have left. -/
structure Seasoned (backend : Backend) (untilS : Int) (cache : JwksCache) : Prop where
  consistent : cache.Consistent
  stocked : AllStocked backend cache
  past : ∀ key hit, cache.hits.lookup key = some hit → hit.fetchedAtS ≤ untilS

variable {backend : Backend} {cache : JwksCache} {key : String} {operation : Operation}
variable {untilS nowS : Int} {presentation : Presentation}

/-- An entry was fetched before, or is now. -/
theorem fetchedAtS_entryAfter_le
    {entry : Entry}
    (past : ∀ hit, cache.hits.lookup key = some hit → hit.fetchedAtS ≤ nowS)
    (stamped : ∀ stamp ∈ operation.nowS?, stamp = nowS)
    (after : JwksCache.entryAfter cache key (cache.hits.lookup key) operation =
      some entry) :
    entry.fetchedAtS ≤ nowS := by
  have successor := JwksCache.successor_of_entryAfter after
  generalize found : cache.hits.lookup key = previous at successor
  cases successor with
  | untouched operation => exact past entry found
  | @reserved _ _ _ hit isKey isDue => exact past hit found
  | committed isKey accepts => exact Int.le_of_eq (stamped _ rfl)
  | @marked _ _ _ _ hit isKey counts => exact past hit found
  | reconciled presentKids jwksUri excludeKid hit =>
      have same : (JwksCache.countAbsence
          (JwksCache.kidPresence presentKids jwksUri excludeKid key) hit).fetchedAtS =
            hit.fetchedAtS := by
        unfold JwksCache.countAbsence
        split <;> rfl
      rw [same]
      exact past hit found
  | stored isKey nonempty =>
      have isNow := Int.le_of_eq (stamped _ rfl)
      cases previous with
      | none => exact isNow
      | some hit => exact Int.max_le.mpr ⟨past hit found, isNow⟩
  | extended isKey nonempty =>
      cases previous with
      | none => exact Int.le_of_eq (stamped _ rfl)
      | some hit => exact past hit found

theorem Seasoned.mono
    (seasoned : Seasoned backend untilS cache)
    (forward : untilS ≤ nowS) :
    Seasoned backend nowS cache where
  consistent := seasoned.consistent
  stocked := seasoned.stocked
  past := fun key hit found => Int.le_trans (seasoned.past key hit found) forward

theorem Seasoned.apply
    (seasoned : Seasoned backend nowS cache)
    (offers : Offers backend operation)
    (stamped : ∀ stamp ∈ operation.nowS?, stamp = nowS) :
    Seasoned backend nowS (cache.apply operation) where
  consistent := (JwksCache.apply_applied seasoned.consistent operation).consistent
  stocked := apply_allStocked seasoned.consistent offers seasoned.stocked
  past := by
    intro key entry stored
    rw [(JwksCache.apply_applied seasoned.consistent operation).lookup_hits,
      Option.ite_none_left_eq_some] at stored
    exact fetchedAtS_entryAfter_le (seasoned.past key) stamped stored.2

theorem Seasoned.applyAll
    {operations : List Operation}
    (seasoned : Seasoned backend nowS cache)
    (issued : ∀ operation ∈ operations,
      Offers backend operation ∧ ∀ stamp ∈ operation.nowS?, stamp = nowS) :
    Seasoned backend nowS (cache.applyAll operations) := by
  induction operations generalizing cache with
  | nil => exact seasoned
  | cons operation operations inductionHypothesis =>
      obtain ⟨offers, stamped⟩ := issued operation List.mem_cons_self
      exact inductionHypothesis (seasoned.apply offers stamped)
        fun other member => issued other (List.mem_cons_of_mem _ member)

theorem callOperations_offer
    {response : Option Response}
    {order : IterationOrder String (List Jwk)}
    {call : Call}
    (member : operation ∈ callOperations backend response order call cache) :
    Offers backend operation := by
  rcases mem_callOperations member with begins | ⟨parked, requesting, -, finishes⟩
  · exact beginOperations_offer begins
  · exact finishOperations_offer finishes

/-- What one call preserves. -/
theorem Seasoned.present
    (seasoned : Seasoned backend untilS cache)
    (forward : untilS ≤ presentation.call.opts.nowS) :
    Seasoned backend presentation.call.opts.nowS (present backend cache presentation) := by
  unfold Validator.present
  rw [validateToken_cache]
  refine (seasoned.mono forward).applyAll fun operation member => ?_
  exact ⟨callOperations_offer member, callOperations_nowS member⟩

theorem create_seasoned (minRefreshS : Int) (maxEntries : Nat) (untilS : Int) :
    Seasoned backend untilS (JwksCache.create minRefreshS maxEntries) where
  consistent := JwksCache.create_consistent minRefreshS maxEntries
  stocked := by
    intro key hit impossible
    cases impossible
  past := by
    intro key hit impossible
    cases impossible

/-- The cache after calls made one after the other. -/
abbrev presentAll
    (backend : Backend)
    (minRefreshS : Int)
    (maxEntries : Nat)
    (presentations : List Presentation) : JwksCache :=
  Machine.run (Validator.present backend) (JwksCache.create minRefreshS maxEntries)
    presentations

theorem maxEntries_presentAll
    (backend : Backend)
    (minRefreshS : Int)
    (maxEntries : Nat)
    (presentations : List Presentation) :
    (presentAll backend minRefreshS maxEntries presentations).maxEntries =
      entryLimit maxEntries := by
  let Kept := fun cache : JwksCache =>
    cache.Consistent ∧ cache.maxEntries = entryLimit maxEntries
  have preserved : ∀ cache presentation, Kept cache →
      Kept (Validator.present backend cache presentation) := by
    rintro cache presentation ⟨consistent, limit_eq⟩
    unfold Validator.present
    rw [validateToken_cache]
    exact ⟨JwksCache.applyAll_consistent _ consistent,
      (JwksCache.applyAll_bounds _ consistent).2.trans limit_eq⟩
  have kept : Kept (presentAll backend minRefreshS maxEntries presentations) :=
    Machine.run_invariant _ preserved presentations
      ⟨JwksCache.create_consistent minRefreshS maxEntries, rfl⟩
  exact kept.2

/-- The clock does not run backwards. -/
abbrev Chronological (presentations : List Presentation) : Prop :=
  presentations.Pairwise fun earlier later => earlier.call.opts.nowS ≤ later.call.opts.nowS

/-- What a chronological run of calls leaves for the next one. -/
theorem run_seasoned
    (backend : Backend)
    (minRefreshS : Int)
    (maxEntries : Nat)
    {presentations : List Presentation}
    {next : Presentation}
    (chronological : Chronological (presentations ++ [next])) :
    Seasoned backend next.call.opts.nowS
      (presentAll backend minRefreshS maxEntries presentations) := by
  induction presentations using List.reverseRecOn generalizing next with
  | nil => exact create_seasoned minRefreshS maxEntries _
  | append_singleton presentations last inductionHypothesis =>
      obtain ⟨before, -, forward⟩ := List.pairwise_append.mp chronological
      rw [presentAll, Machine.run_append, Machine.run_cons, Machine.run_nil]
      exact ((inductionHypothesis before).present (Int.le_refl _)).mono
        (forward last (by simp) next (by simp))

end Validator
end QuackOauth
