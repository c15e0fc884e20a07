import QuackOauth.Lib.Machine
import QuackOauth.Validator.Soundness

/-!
# Interleaved validations

Any number of calls share one cache.  A call takes the mutex twice: to begin, and,
if it sent a request, to go on when the response is there.  Requests are numbered
in the order in which they are sent, so that of two documents the one with the
smaller number was asked for earlier.
-/

namespace QuackOauth
namespace Validator

open Lib Jwks Jwt

/-- The shared cache and the calls that wait for a response. -/
structure System where
  cache : JwksCache
  inFlight : UnorderedMap Nat Parked := ∅
  /-- The number of the next request. -/
  nextRequest : Nat := 0

/-- One step under the mutex. -/
inductive Label
  | begin (call : Call)
  /-- The response to a request arrives.  The document's kids are visited in some
  order. -/
  | resume
      (request : Nat)
      (response : Option Response)
      (order : IterationOrder String (List Jwk))

namespace System

/-- No call yet, and an empty cache. -/
def initial (minRefreshS : Int) (maxEntries : Nat) : System where
  cache := JwksCache.create minRefreshS maxEntries

/-- Take a step.  A response nobody waits for does nothing. -/
def step (backend : Backend) (system : System) : Label → System
  | .begin call =>
      match beginValidation backend call system.cache with
      | .finished outcome => { system with cache := outcome.cache }
      | .fetching parked cache => {
          cache
          inFlight := system.inFlight.insert system.nextRequest parked
          nextRequest := system.nextRequest + 1 }
  | .resume request response order =>
      match system.inFlight.lookup request with
      | none => system
      | some parked => { system with
          cache := (finishValidation backend parked response order system.cache).cache
          inFlight := system.inFlight.erase request }

/-- The state after a list of steps. -/
abbrev run (backend : Backend) : System → List Label → System :=
  Machine.run (step backend)

/-- What is known of a call that waits. -/
structure WellParked
    (backend : Backend)
    (cache : JwksCache)
    (parked : Parked) : Prop where
  admitted : HeaderAdmitted backend parked.call parked.parsed
  reserved : ∀ reservationId cachedResult,
    parked.route = .refresh reservationId cachedResult →
      reservationId ≠ 0 ∧ reservationId < cache.nextReservationId ∧ cachedResult ≠ .ok

/-- Waiting calls are numbered, and hold reservations that were issued. -/
def WellFormed (backend : Backend) (system : System) : Prop :=
  ∀ request parked, system.inFlight.lookup request = some parked →
    request < system.nextRequest ∧ WellParked backend system.cache parked

variable {backend : Backend} {system : System}

theorem WellParked.mono
    {before after : JwksCache}
    {parked : Parked}
    (well : WellParked backend before parked)
    (later : before.nextReservationId ≤ after.nextReservationId) :
    WellParked backend after parked where
  admitted := well.admitted
  reserved := fun reservationId cachedResult route => by
    obtain ⟨granted, issued, rejected⟩ := well.reserved reservationId cachedResult route
    exact ⟨granted, lt_of_lt_of_le issued later, rejected⟩

/-- What a response publishes into the cache: for its own kid a refresh publishes
only by a commit. -/
def publishedBy
    (backend : Backend)
    (parked : Parked)
    (response : Option Response)
    (before : JwksCache) : String → Jwk → Prop :=
  publishesWhere backend response parked.call.jwksUri fun kid =>
    ∀ reservationId cachedResult, parked.route = .refresh reservationId cachedResult →
      kid = parked.parsed.kid →
        (refreshCommits backend parked reservationId response before).isSome

/-- A waiting call that goes on evolves the cache by what it publishes. -/
theorem finishValidation_evolves
    {parked : Parked}
    (well : WellParked backend system.cache parked)
    (response : Option Response)
    (order : IterationOrder String (List Jwk)) :
    Evolves (publishedBy backend parked response system.cache) system.cache
      (finishValidation backend parked response order system.cache).cache := by
  unfold finishValidation
  cases route : parked.route with
  | refresh reservationId cachedResult =>
      have rejected := (well.reserved _ _ route).2.2
      refine (finishRefresh_spec rejected).evolves.mono ?_
      rintro key k ⟨kid, rfl, published, commits⟩
      refine ⟨kid, rfl, published, ?_⟩
      intro reservationId' cachedResult' route' target
      rw [route] at route'
      cases route'
      exact commits target
  | cold =>
      refine (finishCold_spec route).evolves.mono ?_
      rintro key k ⟨kid, rfl, published, -⟩
      refine ⟨kid, rfl, published, ?_⟩
      intro reservationId cachedResult route'
      rw [route] at route'
      cases route'

/-- What any step publishes. -/
def publishedByStep
    (backend : Backend)
    (system : System) : Label → String → Jwk → Prop
  | .begin _ => publishesNothing
  | .resume request response _ =>
      match system.inFlight.lookup request with
      | none => publishesNothing
      | some parked => publishedBy backend parked response system.cache

theorem step_evolves
    (well : WellFormed backend system)
    (label : Label) :
    Evolves (publishedByStep backend system label) system.cache
      (step backend system label).cache := by
  cases label with
  | begin call =>
      have spec := beginValidation_spec backend call system.cache
      cases begun : beginValidation backend call system.cache with
      | finished outcome =>
          simp only [step, begun]
          exact (spec.1 outcome begun).evolves
      | fetching parked cache =>
          simp only [step, begun]
          exact (spec.2 parked cache begun).evolves
  | resume request response order =>
      cases waiting : system.inFlight.lookup request with
      | none =>
          simp only [step, publishedByStep, waiting]
          exact Evolves.refl _
      | some parked =>
          simp only [step, publishedByStep, waiting]
          exact finishValidation_evolves (well request parked waiting).2 response order

/-- A step adds at most the waiting call it begins. -/
theorem step_inFlight
    {label : Label}
    {request : Nat}
    {parked : Parked}
    (waiting : (step backend system label).inFlight.lookup request = some parked) :
    system.inFlight.lookup request = some parked ∨
      ∃ call, label = .begin call ∧ request = system.nextRequest ∧
        beginValidation backend call system.cache =
          .fetching parked (step backend system label).cache := by
  cases label with
  | begin call =>
      cases begun : beginValidation backend call system.cache with
      | finished outcome =>
          simp only [step, begun] at waiting
          exact .inl waiting
      | fetching begun' cache =>
          simp only [step, begun, UnorderedMap.lookup_insert_eq_ite] at waiting
          split at waiting
          · next newest =>
              cases waiting
              exact .inr ⟨call, rfl, newest, by simp only [step, begun]⟩
          · exact .inl waiting
  | resume resumed response order =>
      cases found : system.inFlight.lookup resumed with
      | none =>
          simp only [step, found] at waiting
          exact .inl waiting
      | some other =>
          simp only [step, found, UnorderedMap.lookup_erase_eq_ite] at waiting
          split at waiting
          · cases waiting
          · exact .inl waiting

variable (backend) in
theorem nextRequest_le_step (label : Label) :
    system.nextRequest ≤ (step backend system label).nextRequest := by
  unfold step
  split
  · split
    · exact le_refl _
    · exact Nat.le_succ _
  · split <;> exact le_refl _

theorem step_wellFormed
    (label : Label)
    (well : WellFormed backend system) :
    WellFormed backend (step backend system label) := by
  intro request parked waiting
  have evolves := step_evolves well label
  rcases step_inFlight waiting with earlier | ⟨call, rfl, rfl, begun⟩
  · obtain ⟨numbered, wellParked⟩ := well request parked earlier
    exact ⟨lt_of_lt_of_le numbered (nextRequest_le_step backend label),
      wellParked.mono evolves.next_le⟩
  · obtain ⟨rfl, admitted, -, reserved⟩ :=
      (beginValidation_spec backend call system.cache).2 _ _ begun
    refine ⟨?_, admitted, fun reservationId cachedResult route => ?_⟩
    · rw [step, begun]
      exact Nat.lt_succ_self _
    · obtain ⟨granted, -, issued, rejected⟩ := reserved _ _ route
      exact ⟨granted, issued, rejected⟩

theorem initial_wellFormed (minRefreshS : Int) (maxEntries : Nat) :
    WellFormed backend (initial minRefreshS maxEntries) := by
  intro request parked waiting
  cases waiting

variable (backend) in
theorem run_wellFormed
    (labels : List Label)
    (well : WellFormed backend system) :
    WellFormed backend (run backend system labels) :=
  Machine.run_invariant (step backend)
    (fun _ label => step_wellFormed label) labels well

/-! ## Superseded refreshes -/

/-- Whether the entry of a kid holds a key of the given material. -/
def holdsKey (cache : JwksCache) (jwksUri kid : String) (k : Jwk) : Bool :=
  match cache.findHit jwksUri kid with
  | some hit => holdsMaterial hit.keys k
  | none => false

theorem holdsKey_iff
    {cache : JwksCache}
    {jwksUri kid : String}
    {k : Jwk} :
    holdsKey cache jwksUri kid k = true ↔
      ∃ other, StoredFor cache jwksUri kid other ∧ sameKeyMaterial other k = true := by
  unfold holdsKey StoredFor
  cases cache.findHit jwksUri kid with
  | none => simp
  | some hit => simp [holdsMaterial_iff]

/-- Whether a response publishes a usable signing key of the given material. -/
def publishesKey
    (backend : Backend)
    (response : Option Response)
    (kid : String)
    (k : Jwk) : Bool :=
  match response with
  | none => false
  | some document =>
      document.statusCode = 200 &&
        (parseJwksJson backend document.body).any fun other =>
          other.kid = kid && isSigningKey other && isUsableSigningKey backend other &&
            sameKeyMaterial other k

theorem publishesKey_of_published
    {response : Option Response}
    {kid : String}
    {k other : Jwk}
    (published : Published backend response kid other)
    (same : sameKeyMaterial other k = true) :
    publishesKey backend response kid k = true := by
  obtain ⟨⟨document, rfl, success, member⟩, kid_eq, signing, usable⟩ := published
  simp only [publishesKey, success, decide_true, Bool.true_and, List.any_eq_true]
  exact ⟨other, member, by simp [kid_eq, signing, usable, same]⟩

/-- Whether a response makes a refresh of the kid commit. -/
def commitsFor
    (backend : Backend)
    (system : System)
    (request : Nat)
    (response : Option Response)
    (jwksUri kid : String) : Bool :=
  match system.inFlight.lookup request with
  | none => false
  | some parked =>
      match parked.route with
      | .cold => false
      | .refresh reservationId _ =>
          parked.call.jwksUri = jwksUri && parked.parsed.kid = kid &&
            (refreshCommits backend parked reservationId response system.cache).isSome

theorem commitsFor_iff
    {request : Nat}
    {response : Option Response}
    {jwksUri kid : String} :
    commitsFor backend system request response jwksUri kid = true ↔
      ∃ parked reservationId cachedResult,
        system.inFlight.lookup request = some parked ∧
        parked.route = .refresh reservationId cachedResult ∧
        parked.call.jwksUri = jwksUri ∧ parked.parsed.kid = kid ∧
        (refreshCommits backend parked reservationId response
          system.cache).isSome = true := by
  unfold commitsFor
  cases system.inFlight.lookup request with
  | none => simp
  | some parked => cases route : parked.route <;> simp [route, and_assoc]

/-- A kid that is refreshed holds no newline. -/
theorem printable_of_commitsFor
    {request : Nat}
    {response : Option Response}
    {jwksUri kid : String}
    (well : WellFormed backend system)
    (commits : commitsFor backend system request response jwksUri kid = true) :
    '\n' ∉ kid.toList := by
  obtain ⟨parked, _, _, waiting, -, -, rfl, -⟩ := commitsFor_iff.mp commits
  exact (well request parked waiting).2.admitted.printable

/-- A key that a step brings into an entry was published by the response, for an
entry of the waiting call's issuer, and a refresh brings keys of its own kid in by a
commit only. -/
theorem published_of_learnt
    {request : Nat}
    {response : Option Response}
    {order : IterationOrder String (List Jwk)}
    {parked : Parked}
    {jwksUri kid : String}
    {k : Jwk}
    (well : WellFormed backend system)
    (printable : '\n' ∉ kid.toList)
    (waiting : system.inFlight.lookup request = some parked)
    (before : holdsKey system.cache jwksUri kid k = false)
    (after : holdsKey (step backend system (.resume request response order)).cache
      jwksUri kid k = true) :
    parked.call.jwksUri = jwksUri ∧
      publishesKey backend response kid k = true ∧
      (parked.route ≠ .cold → parked.parsed.kid = kid →
        commitsFor backend system request response jwksUri kid = true) := by
  obtain ⟨other, ⟨hit, found, member⟩, same⟩ := holdsKey_iff.mp after
  have evolves := step_evolves well (.resume request response order)
  simp only [publishedByStep, waiting] at evolves
  rcases (evolves.entries _ hit found).keys other member with
    ⟨publishedKid, key_eq, published, admits⟩ | ⟨previous, stored, member⟩
  · obtain ⟨uri_eq, kid_eq⟩ := cacheKey_inj printable published.printable key_eq
    subst uri_eq kid_eq
    refine ⟨rfl, publishesKey_of_published published same, fun notCold target => ?_⟩
    cases route : parked.route with
    | cold => exact absurd route notCold
    | refresh reservationId cachedResult =>
        exact commitsFor_iff.mpr ⟨parked, reservationId, cachedResult, waiting, route,
          rfl, target, admits _ _ route target.symm⟩
  · have held := holdsKey_iff.mpr ⟨other, ⟨previous, stored, member⟩, same⟩
    rw [before] at held
    cases held

/-- No refresh of the kid whose request is older still holds the reservation that
the kid's entry waits for. -/
structure Superseded
    (backend : Backend)
    (older : Nat)
    (jwksUri kid : String)
    (system : System) : Prop where
  wellFormed : WellFormed backend system
  numbered : older ≤ system.nextRequest
  unawaited : ∀ request parked reservationId cachedResult, request < older →
    system.inFlight.lookup request = some parked →
    parked.route = .refresh reservationId cachedResult →
    parked.call.jwksUri = jwksUri → parked.parsed.kid = kid →
      ∀ hit, system.cache.findHit jwksUri kid = some hit →
        hit.currentReservationId ≠ reservationId

variable {older : Nat} {jwksUri kid : String}

/-- A superseded refresh stays superseded. -/
theorem Superseded.step
    (superseded : Superseded backend older jwksUri kid system)
    (label : Label) :
    Superseded backend older jwksUri kid (step backend system label) where
  wellFormed := step_wellFormed label superseded.wellFormed
  numbered := le_trans superseded.numbered (nextRequest_le_step backend label)
  unawaited := by
    intro request parked reservationId cachedResult isOlder waiting route uri_eq kid_eq
    rcases step_inFlight waiting with earlier | ⟨call, -, newest, -⟩
    · obtain ⟨-, wellParked⟩ := superseded.wellFormed request parked earlier
      obtain ⟨granted, issued, -⟩ := wellParked.reserved reservationId cachedResult route
      exact (step_evolves superseded.wellFormed label).reservation_ne granted issued
        (superseded.unawaited request parked reservationId cachedResult isOlder earlier
          route uri_eq kid_eq)
    · have := superseded.numbered
      omega

/-- A refresh that commits supersedes all older ones of its kid. -/
theorem superseded_of_commitsFor
    {request : Nat}
    {response : Option Response}
    {order : IterationOrder String (List Jwk)}
    (well : WellFormed backend system)
    (commits : commitsFor backend system request response jwksUri kid = true) :
    Superseded backend request jwksUri kid
      (step backend system (.resume request response order)) := by
  obtain ⟨parked, reservationId, cachedResult, waiting, route, rfl, rfl, committed⟩ :=
    commitsFor_iff.mp commits
  obtain ⟨numbered, wellParked⟩ := well request parked waiting
  refine ⟨step_wellFormed _ well, le_trans (le_of_lt numbered)
    (nextRequest_le_step backend _), ?_⟩
  intro other otherParked otherId otherResult _ otherWaiting otherRoute _ _
  have finished : RefreshFinished backend parked reservationId response system.cache
      (finishRefresh backend parked reservationId cachedResult response order
        system.cache) :=
    finishRefresh_spec (wellParked.reserved _ _ route).2.2
  obtain ⟨keys, committed⟩ := Option.isSome_iff_exists.mp committed
  rcases step_inFlight otherWaiting with earlier | ⟨call, impossible, -⟩
  · obtain ⟨-, otherWell⟩ := well other otherParked earlier
    obtain ⟨granted, issued, -⟩ := otherWell.reserved otherId otherResult otherRoute
    have released := (finished.commits keys committed).2.2 otherId granted issued
    simp only [step, waiting, finishValidation, route]
    exact released
  · cases impossible

/-- A superseded refresh commits nothing. -/
theorem Superseded.not_commitsFor
    (superseded : Superseded backend older jwksUri kid system)
    {request : Nat}
    (isOlder : request < older)
    (response : Option Response) :
    commitsFor backend system request response jwksUri kid = false := by
  rw [← Bool.not_eq_true]
  intro commits
  obtain ⟨parked, reservationId, cachedResult, waiting, route, uri_eq, kid_eq, committed⟩ :=
    commitsFor_iff.mp commits
  obtain ⟨-, wellParked⟩ := superseded.wellFormed request parked waiting
  obtain ⟨keys, committed⟩ := Option.isSome_iff_exists.mp committed
  have finished : RefreshFinished backend parked reservationId response system.cache
      (finishRefresh backend parked reservationId cachedResult response .stored
        system.cache) :=
    finishRefresh_spec (wellParked.reserved _ _ route).2.2
  obtain ⟨-, ⟨hit, found, awaited⟩, -⟩ := finished.commits keys committed
  rw [uri_eq, kid_eq] at found
  exact superseded.unawaited request parked reservationId cachedResult isOlder waiting
    route uri_eq kid_eq hit found awaited

/-! ## A rotation at the sample issuer -/

/-- The URI of the sample issuer. -/
def sampleUri : String := "https://idp.test/jwks"

/-- The key of kid `a` before it is replaced. -/
def sampleOldKey : Jwk := { kid := "a", kty := "OKP", crv := "Ed25519", x := "AQ" }

/-- The key that replaces it. -/
def sampleNewKey : Jwk := { kid := "a", kty := "OKP", crv := "Ed25519", x := "Ag" }

/-- Kid `a` is cached by request 0; requests 1 and 2 are sent for the two tokens. -/
def sampleOverlap (first second : String) : List Label :=
  [.begin (sampleCall "a-old" 1000),
    .resume 0 (sampleResponse "first") .stored,
    .begin (sampleCall first 1010),
    .begin (sampleCall second 1012)]

end System
end Validator
end QuackOauth
