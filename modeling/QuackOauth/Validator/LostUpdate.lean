import QuackOauth.Validator.System

/-!
# Newer keys and older commits

A key has been learnt from a document.  A refresh whose document was asked for
earlier must not commit over it.  The reservation that guards the commit is voided
when an entry is replaced or created, but not when a key is added to it in passing:
an older refresh that is pending at that moment still commits.
-/

namespace QuackOauth
namespace Validator
namespace System

open Lib Jwks Jwt

/-- Whether a step brings a key into the entry of its kid. -/
def learns
    (backend : Backend)
    (jwksUri kid : String)
    (k : Jwk)
    (system : System)
    (label : Label) : Bool :=
  !holdsKey system.cache jwksUri kid k &&
    holdsKey (step backend system label).cache jwksUri kid k

/-- Whether a refresh whose request is older than `newer` commits, for an entry that
holds the key, a document that removes it. -/
def overwrites
    (backend : Backend)
    (newer : Nat)
    (jwksUri kid : String)
    (k : Jwk)
    (system : System) : Label → Bool
  | .begin _ => false
  | .resume request response _ =>
      match system.inFlight.lookup request with
      | none => false
      | some parked =>
          match parked.route with
          | .cold => false
          | .refresh reservationId _ =>
              decide (request < newer) &&
                commitsFor backend system request response jwksUri kid &&
                holdsKey system.cache jwksUri kid k &&
                !holdsKey
                  (cacheAfterCommit backend parked reservationId response system.cache)
                  jwksUri kid k

/-- Whether a refresh of the kid whose request is older than `newer` waits, and the
entry waits for it. -/
def awaitsOlderRefresh
    (newer : Nat)
    (jwksUri kid : String)
    (system : System) : Bool :=
  system.inFlight.entries.any fun waiting =>
    decide (waiting.1 < newer) && waiting.2.call.jwksUri = jwksUri &&
      waiting.2.parsed.kid = kid &&
      match waiting.2.route, system.cache.findHit jwksUri kid with
      | .refresh reservationId _, some hit => hit.currentReservationId = reservationId
      | _, _ => false

/-- Whether a step adds the key in passing to an entry that waits for an older
refresh: the document publishes the key, and the call is no refresh of the kid. -/
def addsUnderOlderRefresh
    (backend : Backend)
    (jwksUri kid : String)
    (k : Jwk)
    (system : System) : Label → Bool
  | .begin _ => false
  | .resume request response _ =>
      match system.inFlight.lookup request with
      | none => false
      | some parked =>
          parked.call.jwksUri = jwksUri && publishesKey backend response kid k &&
            (parked.route = .cold || parked.parsed.kid ≠ kid) &&
            awaitsOlderRefresh request jwksUri kid system

variable {backend : Backend} {system : System} {jwksUri kid : String} {k : Jwk}

theorem awaitsOlderRefresh_of_waiting
    {newer request reservationId : Nat}
    {parked : Parked}
    {cachedResult : VerifyResult}
    {hit : Entry}
    (isOlder : request < newer)
    (waiting : system.inFlight.lookup request = some parked)
    (route : parked.route = .refresh reservationId cachedResult)
    (uri_eq : parked.call.jwksUri = jwksUri)
    (kid_eq : parked.parsed.kid = kid)
    (found : system.cache.findHit jwksUri kid = some hit)
    (awaited : hit.currentReservationId = reservationId) :
    awaitsOlderRefresh newer jwksUri kid system = true := by
  refine List.any_eq_true.mpr ⟨⟨request, parked⟩, AList.mem_lookup_iff.mp waiting, ?_⟩
  simp [isOlder, uri_eq, kid_eq, route, found, awaited]

/-- Learning a key supersedes the older refreshes of its kid, unless it is added in
passing under one of them. -/
theorem superseded_of_learns
    {request : Nat}
    {response : Option Response}
    {order : IterationOrder String (List Jwk)}
    (well : WellFormed backend system)
    (printable : '\n' ∉ kid.toList)
    (learnt : learns backend jwksUri kid k system (.resume request response order) = true)
    (notUnder : addsUnderOlderRefresh backend jwksUri kid k system
      (.resume request response order) = false) :
    Superseded backend request jwksUri kid
      (step backend system (.resume request response order)) := by
  simp only [learns, Bool.and_eq_true, Bool.not_eq_true'] at learnt
  obtain ⟨before, after⟩ := learnt
  cases waiting : system.inFlight.lookup request with
  | none =>
      simp only [step, waiting, before] at after
      cases after
  | some parked =>
      obtain ⟨uri_eq, published, commits⟩ :=
        published_of_learnt well printable waiting before after
      by_cases own : parked.route ≠ .cold ∧ parked.parsed.kid = kid
      · exact superseded_of_commitsFor well (commits own.1 own.2)
      · have numbered := (well request parked waiting).1
        refine ⟨step_wellFormed _ well,
          le_trans (le_of_lt numbered) (nextRequest_le_step backend _), ?_⟩
        intro other otherParked otherId otherResult isOlder otherWaiting route
          otherUri otherKid hit found awaited
        have passive : parked.route = .cold ∨ parked.parsed.kid ≠ kid := by
          rwa [not_and_or, not_not] at own
        rcases step_inFlight otherWaiting with earlier | ⟨call, impossible, -⟩
        · obtain ⟨granted, issued, -⟩ :=
            (well other otherParked earlier).2.reserved otherId otherResult route
          have notAwaited := (step_evolves well
            (.resume request response order)).reservation_ne granted issued
            (fun entry stored same => by
              have waits := awaitsOlderRefresh_of_waiting isOlder earlier route otherUri
                otherKid stored same
              simp [addsUnderOlderRefresh, waiting, uri_eq, published, waits] at notUnder
              exact absurd notUnder.2 (passive.resolve_left notUnder.1))
          exact notAwaited hit found awaited
        · cases impossible

/-- Only a refresh that commits overwrites a key. -/
theorem not_overwrites
    {newer : Nat}
    (noCommit : ∀ request response, request < newer →
      commitsFor backend system request response jwksUri kid = false)
    (label : Label) :
    overwrites backend newer jwksUri kid k system label = false := by
  cases label with
  | begin call => rfl
  | resume request response order =>
      cases waiting : system.inFlight.lookup request with
      | none => simp only [overwrites, waiting]
      | some parked =>
          cases route : parked.route with
          | cold => simp only [overwrites, waiting, route]
          | refresh reservationId cachedResult =>
              simp only [overwrites, waiting, route]
              by_cases isOlder : request < newer
              · simp [noCommit request response isOlder]
              · simp [isOlder]

/-- No older refresh commits over a key learnt from a document, in every run in
which the key was not added in passing to an entry that waits for an older
refresh. -/
theorem no_lost_update_of_not_addsUnderOlderRefresh
    (backend : Backend)
    (minRefreshS : Int)
    (maxEntries : Nat)
    (before after : List Label)
    (request : Nat)
    (response : Option Response)
    (order : IterationOrder String (List Jwk))
    (jwksUri kid : String)
    (k : Jwk)
    (learnt : learns backend jwksUri kid k
      (run backend (initial minRefreshS maxEntries) before)
      (.resume request response order) = true)
    (notUnder : addsUnderOlderRefresh backend jwksUri kid k
      (run backend (initial minRefreshS maxEntries) before)
      (.resume request response order) = false) :
    Machine.AllSteps (step backend)
      (fun system label => overwrites backend request jwksUri kid k system label = false)
      (step backend (run backend (initial minRefreshS maxEntries) before)
        (.resume request response order))
      after := by
  have well := run_wellFormed backend before
    (initial_wellFormed minRefreshS maxEntries)
  by_cases printable : '\n' ∉ kid.toList
  · exact Machine.allSteps_of_invariant (step backend)
      (fun _ label _ (superseded : Superseded backend request jwksUri kid _) =>
        superseded.step label)
      (fun _ label _ superseded => not_overwrites
        (fun _ response isOlder => superseded.not_commitsFor isOlder response) label)
      (Machine.allSteps_true (step backend) _ after)
      (superseded_of_learns well printable learnt notUnder)
  -- No call names such a kid, so no refresh commits for it.
  · exact Machine.allSteps_of_invariant (step backend)
      (fun _ label _ (well : WellFormed backend _) => step_wellFormed label well)
      (fun _ label _ well => not_overwrites
        (fun _ _ _ => Bool.eq_false_iff.mpr fun commits =>
          printable (printable_of_commitsFor well commits)) label)
      (Machine.allSteps_true (step backend) _ after)
      (step_wellFormed _ well)

/-- Two refreshes of kid `a` overlap: the newer one commits the new key, and the older
one does not remove it. -/
theorem no_lost_update_sample :
    Machine.AllSteps (step sampleBackend)
      (fun system label =>
        overwrites sampleBackend 2 sampleUri "a" sampleNewKey system label = false)
      (step sampleBackend
        (run sampleBackend (initial 1 1000) (sampleOverlap "a-new" "a-new"))
        (.resume 2 (sampleResponse "both") .stored))
      [.resume 1 (sampleResponse "before") .stored] :=
  no_lost_update_of_not_addsUnderOlderRefresh sampleBackend 1 1000
    (sampleOverlap "a-new" "a-new") [.resume 1 (sampleResponse "before") .stored] 2
    (sampleResponse "both") .stored sampleUri "a" sampleNewKey (by decide) (by decide)

/-- The refresh of kid `a` and then the cold fetch of kid `b` are sent. -/
def sampleRotation : System :=
  run sampleBackend (initial 1 1000) (sampleOverlap "a-new" "b-old")

/-- The newer cold fetch adds the new key; the older refresh, answered last with the
document from before the rotation, removes it. -/
theorem lost_update_sample :
    learns sampleBackend sampleUri "a" sampleNewKey sampleRotation
        (.resume 2 (sampleResponse "both") .stored) = true ∧
      ¬ Machine.AllSteps (step sampleBackend)
        (fun system label =>
          overwrites sampleBackend 2 sampleUri "a" sampleNewKey system label = false)
        (step sampleBackend sampleRotation (.resume 2 (sampleResponse "both") .stored))
        [.resume 1 (sampleResponse "before") .stored] :=
  ⟨by decide, fun steps => absurd steps.1 (by decide)⟩

end System
end Validator
end QuackOauth
