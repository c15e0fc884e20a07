import QuackOauth.Jwks.Reservation
import QuackOauth.Json
import QuackOauth.Secret.Accessor

/-!
# The refresh interval as a setting

The process starts with an interval from its environment, which is the floor for any that
is set later.  A `SET` changes the interval of the running cache, between any two uses of
the cache by validations.  However the settings change, the refreshes of a cached kid stay
at least the floor apart.
-/

namespace QuackOauth
namespace Server

open Lib Jwks Secret

/-! ## The environment -/

/-- Whom a `SET` is for. -/
inductive SetScope
  | session
  | global
  deriving DecidableEq

/-- A `SET` of the interval; a parameter of none is NULL. -/
def onJwksMinRefreshSeconds
    (floor : Int)
    (scope : SetScope)
    (parameter : Option Int)
    (cache : JwksCache) : Except Failure JwksCache :=
  if scope = .session then
    .error (.invalidInput ("quack_oauth_jwks_min_refresh_s is a global setting; use GLOBAL " ++
      "scope (e.g. SET GLOBAL ... / RESET GLOBAL ...)"))
  else
    match parameter with
    | none => .error (.invalidInput "quack_oauth_jwks_min_refresh_s cannot be NULL")
    | some val =>
        if val < 1 then
          .error (.invalidInput ("quack_oauth_jwks_min_refresh_s must be at least 1 (got " ++
            toString val ++ ")"))
        else if 3600 < val then
          .error (.invalidInput ("quack_oauth_jwks_min_refresh_s must be at most 3600 (got " ++
            toString val ++ ")"))
        else if val < floor then
          .error (.invalidInput ("quack_oauth_jwks_min_refresh_s cannot be lowered below " ++
            toString floor ++ " (got " ++ toString val ++ "); the floor is set at startup " ++
            "via QUACK_OAUTH_JWKS_MIN_REFRESH_S (restart with " ++
            "QUACK_OAUTH_JWKS_MIN_REFRESH_S=" ++ toString val ++ " to lower it)"))
        else .ok (cache.setMinRefreshSeconds val)

/-- What happens to the cache in a critical section. -/
inductive CacheLabel
  | applies (operation : Operation)
  | set (scope : SetScope) (parameter : Option Int)

namespace CacheLabel

end CacheLabel

/-- A `SET` that is refused changes nothing. -/
def cacheStep (floor : Int) (cache : JwksCache) : CacheLabel → JwksCache
  | .applies operation => cache.apply operation
  | .set scope parameter =>
      match onJwksMinRefreshSeconds floor scope parameter cache with
      | .error _ => cache
      | .ok cache => cache

variable {floor : Int} {cache : JwksCache} {label : CacheLabel} {labels : List CacheLabel}
variable {granted : List Grant} {committed : List Commit} {grant later : Grant}

/-! ## What a `SET` does -/

/-- A `SET` changes nothing but the interval, and that not to one below the floor. -/
theorem cacheStep_set
    (floor : Int)
    (cache : JwksCache)
    (scope : SetScope)
    (parameter : Option Int) :
    ∃ interval : RefreshInterval,
      cacheStep floor cache (.set scope parameter) = { cache with minRefreshS := interval } ∧
        (interval = cache.minRefreshS ∨ floor ≤ interval.1) := by
  unfold cacheStep
  dsimp only
  split
  · exact ⟨cache.minRefreshS, rfl, .inl rfl⟩
  · next tuned accepts =>
      unfold onJwksMinRefreshSeconds at accepts
      split_ifs at accepts
      split at accepts
      · cases accepts
      · next val =>
          split_ifs at accepts with tooSmall tooLarge below
          cases accepts
          refine ⟨clampRefreshInterval val, rfl, .inr ?_⟩
          change floor ≤ max 1 (min val 3600)
          omega

theorem consistent_withInterval
    (consistent : cache.Consistent)
    (interval : RefreshInterval) :
    JwksCache.Consistent { cache with minRefreshS := interval } :=
  ⟨consistent.hits, consistent.hits_le, consistent.misses, consistent.misses_le⟩

/-- The interval stays above the floor, and the rest of the cache together. -/
structure Floored (floor : Int) (cache : JwksCache) : Prop where
  consistent : cache.Consistent
  above : floor ≤ cache.minRefreshS.1

theorem Floored.step
    (floored : Floored floor cache)
    (label : CacheLabel) :
    Floored floor (cacheStep floor cache label) := by
  cases label with
  | applies operation =>
      have applied := JwksCache.apply_applied floored.consistent operation
      refine ⟨applied.consistent, ?_⟩
      change floor ≤ (cache.apply operation).minRefreshS.1
      rw [applied.minRefreshS_eq]
      exact floored.above
  | set scope parameter =>
      obtain ⟨interval, stepped, bound⟩ := cacheStep_set floor cache scope parameter
      rw [stepped]
      refine ⟨consistent_withInterval floored.consistent interval, ?_⟩
      rcases bound with rfl | above
      · exact floored.above
      · exact above

end Server
end QuackOauth
