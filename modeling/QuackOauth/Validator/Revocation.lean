import QuackOauth.Validator.System

/-!
# Revoked keys and older documents

A refresh commits a document that no longer lists a key.  The key is revoked, and
documents asked for earlier must not bring it back.  A reservation protects the
entry against older refreshes of its own kid.  It does not protect it against an
older document that is ingested in passing, by a cold fetch or by the refresh of
another kid: that is the one way back.
-/

namespace QuackOauth
namespace Validator
namespace System

open Lib Jwks Jwt

/-- Whether a document lists a key of the given material, usable or not. -/
def listsKey
    (backend : Backend)
    (response : Option Response)
    (kid : String)
    (k : Jwk) : Bool :=
  match response with
  | none => false
  | some document =>
      (parseJwksJson backend document.body).any fun other =>
        other.kid = kid && sameKeyMaterial other k

/-- Whether a call accepts its token under a key that its own document supplied. -/
def acceptsFromDocument
    (backend : Backend)
    (parked : Parked)
    (response : Option Response)
    (order : IterationOrder String (List Jwk))
    (cache : JwksCache)
    (k : Jwk) : Bool :=
  (finishValidation backend parked response order cache).verdict = .ok &&
    (documentKey backend parked response).any fun other => sameKeyMaterial other k

/-- Whether a step brings a key back from a document older than request `older`:
into the entry of its kid, or as the ground of a positive verdict. -/
def resurrects
    (backend : Backend)
    (older : Nat)
    (jwksUri kid : String)
    (k : Jwk)
    (system : System) : Label → Bool
  | .begin _ => false
  | .resume request response order =>
      match system.inFlight.lookup request with
      | none => false
      | some parked =>
          decide (request < older) &&
            ((!holdsKey system.cache jwksUri kid k &&
                holdsKey (step backend system (.resume request response order)).cache
                  jwksUri kid k) ||
              (parked.call.jwksUri = jwksUri && parked.parsed.kid = kid &&
                acceptsFromDocument backend parked response order system.cache k))

/-- Whether a step ingests the key in passing from a document older than request
`older`: the document publishes the key, the call is no refresh of the kid, and the
key is not cached or the token is one that the key signed. -/
def relearnsInPassing
    (backend : Backend)
    (older : Nat)
    (jwksUri kid : String)
    (k : Jwk)
    (system : System) : Label → Bool
  | .begin _ => false
  | .resume request response _ =>
      match system.inFlight.lookup request with
      | none => false
      | some parked =>
          decide (request < older) && parked.call.jwksUri = jwksUri &&
            publishesKey backend response kid k &&
            (parked.route = .cold || parked.parsed.kid ≠ kid) &&
            (!holdsKey system.cache jwksUri kid k ||
              (documentKey backend parked response).any fun other =>
                sameKeyMaterial other k)

/-- A refresh of the kid commits a document without the key. -/
def revokes
    (backend : Backend)
    (system : System)
    (request : Nat)
    (response : Option Response)
    (jwksUri kid : String)
    (k : Jwk) : Bool :=
  commitsFor backend system request response jwksUri kid &&
    !listsKey backend response kid k

variable {backend : Backend} {system : System} {older : Nat} {jwksUri kid : String}
variable {k : Jwk}

/-- A step that does not ingest the key in passing does not bring it back. -/
theorem not_resurrects
    (printable : '\n' ∉ kid.toList)
    (superseded : Superseded backend older jwksUri kid system)
    {label : Label}
    (notInPassing : relearnsInPassing backend older jwksUri kid k system label = false) :
    resurrects backend older jwksUri kid k system label = false := by
  cases label with
  | begin call => rfl
  | resume request response order =>
      cases waiting : system.inFlight.lookup request with
      | none => simp only [resurrects, waiting]
      | some parked =>
          rw [← Bool.not_eq_true]
          intro resurrected
          simp only [resurrects, waiting, Bool.and_eq_true, Bool.or_eq_true,
            decide_eq_true_eq, Bool.not_eq_true'] at resurrected
          obtain ⟨isOlder, cause⟩ := resurrected
          have noCommit := superseded.not_commitsFor isOlder response
          simp only [relearnsInPassing, waiting, isOlder, decide_true,
            Bool.true_and] at notInPassing
          rcases cause with ⟨before, after⟩ | ⟨⟨uri_eq, kid_eq⟩, accepts⟩
          · obtain ⟨uri_eq, published, commits⟩ :=
              published_of_learnt superseded.wellFormed printable waiting before after
            simp only [uri_eq, published, before, decide_true, Bool.true_and,
              Bool.not_false, Bool.true_or, Bool.and_true, Bool.or_eq_false_iff,
              decide_eq_false_iff_not, not_not] at notInPassing
            rw [commits notInPassing.1 notInPassing.2] at noCommit
            cases noCommit
          · have decided := (Bool.and_eq_true _ _ ▸ accepts).2
            obtain ⟨other, decides, same⟩ := (Option.any_eq_true _ _).mp decided
            obtain ⟨isCold, published⟩ := documentKey_some decides
            rw [kid_eq] at published
            simp [uri_eq, publishesKey_of_published published same, isCold,
              decided] at notInPassing

/-- Once revoked, a key stays away from documents that were asked for earlier, in
every run in which none of them is ingested in passing with the key. -/
theorem no_resurrection_of_not_relearnsInPassing
    (backend : Backend)
    (minRefreshS : Int)
    (maxEntries : Nat)
    (before after : List Label)
    (request : Nat)
    (response : Option Response)
    (order : IterationOrder String (List Jwk))
    (jwksUri kid : String)
    (k : Jwk)
    (revoked : revokes backend (run backend (initial minRefreshS maxEntries) before)
      request response jwksUri kid k = true)
    (guarded : Machine.AllSteps (step backend)
      (fun system label =>
        relearnsInPassing backend request jwksUri kid k system label = false)
      (step backend (run backend (initial minRefreshS maxEntries) before)
        (.resume request response order))
      after) :
    Machine.AllSteps (step backend)
      (fun system label => resurrects backend request jwksUri kid k system label = false)
      (step backend (run backend (initial minRefreshS maxEntries) before)
        (.resume request response order))
      after := by
  have commits := (Bool.and_eq_true _ _ ▸ revoked).1
  have well := run_wellFormed backend before
    (initial_wellFormed minRefreshS maxEntries)
  have printable := printable_of_commitsFor well commits
  exact Machine.allSteps_of_invariant (step backend)
    (fun _ label _ (superseded : Superseded backend request jwksUri kid _) =>
      superseded.step label)
    (fun _ _ notInPassing superseded => not_resurrects printable superseded notInPassing)
    guarded (superseded_of_commitsFor well commits)

/-- The cold fetch of kid `b` and then the refresh of kid `a` are sent, and the
refresh revokes the old key of `a`. -/
def sampleRevocation : System :=
  step sampleBackend
    (run sampleBackend (initial 1 1000) (sampleOverlap "b-old" "a-new"))
    (.resume 2 (sampleResponse "after") .stored)

/-- The older cold fetch may return the new document. -/
theorem no_resurrection_sample :
    Machine.AllSteps (step sampleBackend)
      (fun system label =>
        resurrects sampleBackend 2 sampleUri "a" sampleOldKey system label = false)
      sampleRevocation [.resume 1 (sampleResponse "after") .stored] :=
  no_resurrection_of_not_relearnsInPassing sampleBackend 1 1000
    (sampleOverlap "b-old" "a-new") [.resume 1 (sampleResponse "after") .stored] 2
    (sampleResponse "after") .stored sampleUri "a" sampleOldKey (by decide)
    ⟨by decide, trivial⟩

/-- If it returns the old document, the revoked key is back in the entry. -/
theorem resurrection_sample :
    revokes sampleBackend
        (run sampleBackend (initial 1 1000) (sampleOverlap "b-old" "a-new")) 2
        (sampleResponse "after") sampleUri "a" sampleOldKey = true ∧
      ¬ Machine.AllSteps (step sampleBackend)
        (fun system label =>
          resurrects sampleBackend 2 sampleUri "a" sampleOldKey system label = false)
        sampleRevocation [.resume 1 (sampleResponse "before") .stored] :=
  ⟨by decide, fun steps => absurd steps.1 (by decide)⟩

end System
end Validator
end QuackOauth
