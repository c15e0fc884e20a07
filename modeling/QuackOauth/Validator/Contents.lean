import QuackOauth.Validator.System

/-!
# What the cache holds

Whatever documents arrive, and in whatever order calls take their turns, each key in
the cache is a usable signing key of the kid that it is cached for.
-/

namespace QuackOauth
namespace Validator

open Lib Jwks Jwt

/-- A key belongs under a key of the cache. -/
structure Certified (backend : Backend) (key : String) (k : Jwk) : Prop where
  signing : isSigningKey k = true
  usable : isUsableSigningKey backend k = true
  printable : '\n' ∉ k.kid.toList
  key_eq : ∃ jwksUri, key = cacheKey jwksUri k.kid

/-- Every cached key is certified. -/
def HoldsCertified (backend : Backend) (cache : JwksCache) : Prop :=
  ∀ key hit, cache.hits.lookup key = some hit → ∀ k ∈ hit.keys, Certified backend key k

variable {backend : Backend} {cache : JwksCache} {jwksUri kid : String} {k : Jwk}

/-- What is cached for a kid is certified for this kid. -/
theorem HoldsCertified.of_storedFor
    (holds : HoldsCertified backend cache)
    (printable : '\n' ∉ kid.toList)
    (stored : StoredFor cache jwksUri kid k) :
    k.kid = kid ∧ isSigningKey k = true ∧ isUsableSigningKey backend k = true := by
  obtain ⟨hit, found, member⟩ := stored
  obtain ⟨signing, usable, kidPrintable, uri, key_eq⟩ := holds _ hit found k member
  exact ⟨(cacheKey_inj printable kidPrintable key_eq).2.symm, signing, usable⟩

/-- A published key is certified for its issuer. -/
theorem Published.certified
    {response : Option Response}
    (published : Published backend response kid k)
    (jwksUri : String) :
    Certified backend (cacheKey jwksUri kid) k where
  signing := published.signing
  usable := published.usable
  printable := by
    rw [published.kid_eq]
    exact published.printable
  key_eq := ⟨jwksUri, by rw [published.kid_eq]⟩

namespace System

variable {system : System}

theorem publishedByStep_certified
    {label : Label}
    {key : String}
    (published : publishedByStep backend system label key k) :
    Certified backend key k := by
  cases label with
  | begin call => cases published
  | resume request response order =>
      cases waiting : system.inFlight.lookup request with
      | none =>
          simp only [publishedByStep, waiting] at published
          cases published
      | some parked =>
          simp only [publishedByStep, waiting] at published
          obtain ⟨kid, rfl, published, -⟩ := published
          exact published.certified _

theorem step_holdsCertified
    (well : WellFormed backend system)
    (label : Label)
    (holds : HoldsCertified backend system.cache) :
    HoldsCertified backend (step backend system label).cache :=
  (step_evolves well label).forall_keys
    (fun _ _ published => publishedByStep_certified published) holds

/-- All keys are certified in every reachable state. -/
theorem run_holdsCertified
    (backend : Backend)
    (minRefreshS : Int)
    (maxEntries : Nat)
    (labels : List Label) :
    HoldsCertified backend (run backend (initial minRefreshS maxEntries) labels).cache := by
  have both := Machine.run_invariant (step backend)
    (fun system label (holds : WellFormed backend system ∧
        HoldsCertified backend system.cache) =>
      ⟨step_wellFormed label holds.1, step_holdsCertified holds.1 label holds.2⟩)
    labels ⟨initial_wellFormed minRefreshS maxEntries, fun key hit absent => by cases absent⟩
  exact both.2

end System
end Validator
end QuackOauth
