import QuackOauth.Lib.Component
import QuackOauth.Validator.System

/-!
# Keys and the documents that delivered them

However calls overlap, a key that is cached was listed in a document that arrived before,
in answer to a request to the issuer it is cached for.  So a token that is accepted
verifies under a key that the issuer its call names has delivered in the run.
-/

namespace QuackOauth
namespace Validator

open Lib Jwks Jwt

namespace System

variable {backend : Backend} {start : System}

/-- A step is the arrival of a document, asked of an issuer, that publishes a key. -/
def delivers
    (backend : Backend)
    (jwksUri kid : String)
    (k : Jwk)
    (system : System) : Label → Prop
  | .begin _ => False
  | .resume request response _ =>
      ∃ parked, system.inFlight.lookup request = some parked ∧
        parked.url = jwksUri ∧ Published backend response kid k

/-- Some step of a run delivers a key. -/
abbrev DeliveredIn
    (backend : Backend)
    (start : System)
    (jwksUri kid : String)
    (k : Jwk) : List Label → Prop :=
  Machine.Occurs (step backend) (delivers backend jwksUri kid k) start

variable {labels : List Label} {label : Label} {jwksUri kid : String} {k : Jwk}

/-- What is cached under a key of the cache was delivered for it. -/
def Accounted
    (backend : Backend)
    (start : System)
    (labels : List Label)
    (key : String)
    (k : Jwk) : Prop :=
  ∃ jwksUri kid, key = cacheKey jwksUri kid ∧ '\n' ∉ kid.toList ∧
    DeliveredIn backend start jwksUri kid k labels

/-- What a step publishes, it delivers. -/
theorem accounted_of_publishedByStep
    {key : String}
    (published : publishedByStep backend (run backend start labels) label key k) :
    Accounted backend start (labels ++ [label]) key k := by
  cases label with
  | begin call => cases published
  | resume request response order =>
      cases waiting : (run backend start labels).inFlight.lookup request with
      | none =>
          simp only [publishedByStep, waiting] at published
          cases published
      | some parked =>
          simp only [publishedByStep, waiting] at published
          obtain ⟨kid, key_eq, published, -⟩ := published
          exact ⟨parked.call.jwksUri, kid, key_eq, published.printable,
            Machine.Occurs.last ⟨parked, waiting, rfl, published⟩⟩

variable {minRefreshS : Int} {maxEntries : Nat}

/-- Every cached key is accounted for. -/
theorem run_accounted
    (labels : List Label) :
    ∀ key hit,
      (run backend (initial minRefreshS maxEntries) labels).cache.hits.lookup key =
          some hit →
        ∀ k ∈ hit.keys, Accounted backend (initial minRefreshS maxEntries) labels key k := by
  induction labels using List.reverseRecOn with
  | nil =>
      intro key hit absent
      cases absent
  | append_singleton labels label inductionHypothesis =>
      have well := run_wellFormed backend labels (initial_wellFormed minRefreshS maxEntries)
      rw [run, Machine.run_append]
      exact (step_evolves well label).forall_keys
        (fun key k published => accounted_of_publishedByStep published)
        (fun key hit stored k member => by
          obtain ⟨jwksUri, kid, key_eq, printable, delivered⟩ :=
            inductionHypothesis key hit stored k member
          exact ⟨jwksUri, kid, key_eq, printable, delivered.append [label]⟩)

/-- A key that is cached for a kid of an issuer was delivered by the issuer for the
kid. -/
theorem delivered_of_storedFor
    (printable : '\n' ∉ kid.toList)
    (stored : StoredFor (run backend (initial minRefreshS maxEntries) labels).cache jwksUri
      kid k) :
    DeliveredIn backend (initial minRefreshS maxEntries) jwksUri kid k labels := by
  obtain ⟨hit, found, member⟩ := stored
  obtain ⟨uri, other, key_eq, otherPrintable, delivered⟩ :=
    run_accounted labels _ hit found k member
  obtain ⟨rfl, rfl⟩ := cacheKey_inj printable otherPrintable key_eq
  exact delivered

/-! ## Accepted tokens -/

/-- A token is accepted under a key that its call's issuer delivered. -/
def Vouched
    (backend : Backend)
    (start : System)
    (call : Call)
    (labels : List Label) : Prop :=
  ∃ parsed, HeaderAdmitted backend call parsed ∧
    ∃ k, AcceptedBy backend call.token parsed.alg call.opts .ok k ∧
      DeliveredIn backend start call.jwksUri parsed.kid k labels

/-- A call that returns without a request accepts under a delivered key. -/
theorem vouched_of_begin
    {call : Call}
    {outcome : Outcome}
    (begun : beginValidation backend call
      (run backend (initial minRefreshS maxEntries) labels).cache = .finished outcome)
    (accepts : outcome.verdict = .ok) :
    Vouched backend (initial minRefreshS maxEntries) call labels := by
  obtain ⟨parsed, admitted, k, stored, accepted⟩ :=
    ((beginValidation_spec backend call _).1 outcome begun).accepted accepts
  exact ⟨parsed, admitted, k, accepted, delivered_of_storedFor admitted.printable stored⟩

/-- What is cached right after a commit attempt was cached before or is published. -/
theorem stored_cacheAfterCommit
    {parked : Parked}
    {reservationId : Nat}
    {response : Option Response}
    {cache : JwksCache}
    (printable : '\n' ∉ parked.parsed.kid.toList)
    (stored : StoredFor (cacheAfterCommit backend parked reservationId response cache)
      parked.call.jwksUri parked.parsed.kid k) :
    StoredFor cache parked.call.jwksUri parked.parsed.kid k ∨
      Published backend response parked.parsed.kid k := by
  unfold cacheAfterCommit at stored
  split at stored
  · next keys read =>
      obtain ⟨hit, found, member⟩ := stored
      have recorded := recordJwksFetchSuccess_evolves parked.call.opts.nowS
        parked.call.jwksUri cache
      have attempt := commitTargetKid_spec parked reservationId read
        (cache.recordJwksFetchSuccess parked.call.opts.nowS parked.call.jwksUri)
      have evolves := recorded.of_nothing.trans attempt.evolves
      rcases (evolves.entries _ hit found).keys k member with
        ⟨kid, key_eq, published, -⟩ | ⟨previous, present, old⟩
      · obtain ⟨-, rfl⟩ := cacheKey_inj printable published.printable key_eq
        exact .inr published
      · exact .inl ⟨previous, present, old⟩
  · exact .inl stored

/-- A call that goes on with a response accepts under a delivered key. -/
theorem vouched_of_resume
    {request : Nat}
    {parked : Parked}
    {response : Option Response}
    {order : IterationOrder String (List Jwk)}
    (waiting : (run backend (initial minRefreshS maxEntries) labels).inFlight.lookup request =
      some parked)
    (accepts : (finishValidation backend parked response order
      (run backend (initial minRefreshS maxEntries) labels).cache).verdict = .ok) :
    Vouched backend (initial minRefreshS maxEntries) parked.call
      (labels ++ [.resume request response order]) := by
  have well := run_wellFormed backend labels (initial_wellFormed minRefreshS maxEntries)
  obtain ⟨admitted, reserved⟩ := (well request parked waiting).2
  have printable := admitted.printable
  have after : (run backend (initial minRefreshS maxEntries)
      (labels ++ [.resume request response order])).cache =
      (finishValidation backend parked response order
        (run backend (initial minRefreshS maxEntries) labels).cache).cache := by
    rw [run, Machine.run_append]
    simp only [Machine.run_cons, Machine.run_nil, step, waiting]
  have listed : ∀ k, Published backend response parked.parsed.kid k →
      DeliveredIn backend (initial minRefreshS maxEntries) parked.call.jwksUri
        parked.parsed.kid k (labels ++ [.resume request response order]) :=
    fun k published => Machine.Occurs.last ⟨parked, waiting, rfl, published⟩
  have kept : ∀ k, StoredFor (finishValidation backend parked response order
        (run backend (initial minRefreshS maxEntries) labels).cache).cache
        parked.call.jwksUri parked.parsed.kid k →
      DeliveredIn backend (initial minRefreshS maxEntries) parked.call.jwksUri
        parked.parsed.kid k (labels ++ [.resume request response order]) := by
    intro k stored
    rw [← after] at stored
    exact delivered_of_storedFor printable stored
  refine ⟨parked.parsed, admitted, ?_⟩
  unfold finishValidation at accepts kept
  cases route : parked.route with
  | refresh reservationId cachedResult =>
      simp only [route] at accepts kept
      obtain ⟨k, accepted, provenance⟩ :=
        (finishRefresh_spec (reserved _ _ route).2.2).accepted accepts
      refine ⟨k, accepted, ?_⟩
      rcases provenance with atCommit | atEnd
      · rcases stored_cacheAfterCommit printable atCommit with before | published
        · exact (delivered_of_storedFor printable before).append _
        · exact listed k published
      · exact kept k atEnd
  | cold =>
      simp only [route] at accepts kept
      obtain ⟨k, accepted, provenance⟩ := (finishCold_spec route).accepted accepts
      refine ⟨k, accepted, ?_⟩
      rcases provenance with ⟨-, published⟩ | atEnd
      · exact listed k published
      · exact kept k atEnd

end System
end Validator
end QuackOauth
