import QuackOauth.Opaque.Delivery
import QuackOauth.Server.Waiting
import QuackOauth.Validator.Soundness

/-!
# What an allowed query rests on

However the rows of tokens and of queries are interleaved, a query is allowed only on
behalf of the principal whose token was the last to be accepted for its session.  That
token was signed under a key that the configured issuer had delivered, or a provider had
vouched for it.
-/

namespace QuackOauth
namespace Server

open Lib Jwks Jwt Policy Session Audit
open Validator (Response TrustedHeader VerifyingKey)
open Opaque (OpaqueSystem TrustContext)

namespace System

/-- A step accepts the token of a row and stores its principal for a session. -/
def Authenticates
    (libraries : Libraries)
    (row : TokenRow)
    (sid : String)
    (principal : Principal)
    (system : System)
    (label : Label) : Prop :=
  ∃ validation order,
    system.verdictOf libraries label = some (.token row validation order) ∧
      storesSession row validation = some (sid, principal)

/-- A step is the arrival of a document, asked of the issuer of a row, that publishes a
key. -/
def delivers
    (libraries : Libraries)
    (jwksUri kid : String)
    (k : Jwk)
    (system : System) : Label → Prop
  | .jwksResponse request response _ _ =>
      ∃ asking parked, system.signedRows.lookup request = some asking ∧
        asking.config.jwksUri = jwksUri ∧
        system.validations.inFlight.lookup request = some parked ∧ parked.url = jwksUri ∧
        Validator.Published libraries.backend response kid k
  | _ => False

/-- A step is the arrival of a provider's answer that shows a principal for the token of
a row. -/
def shows
    (libraries : Libraries)
    (decisionTtlS : Int)
    (row : TokenRow)
    (principal : Principal)
    (system : System) : Label → Prop
  | .providerResponse request response _ =>
      ∃ asking context, system.opaqueRows.lookup request = some asking ∧
        asking.trustContext = some context ∧
        libraries.keyOf asking.token = libraries.keyOf row.token ∧
        context.judge libraries.backend asking.opts response = .ok principal ∧
        (asking.nowS = row.nowS ∨ row.nowS < asking.nowS + decisionTtlS)
  | _ => False

/-- What stands behind the principal of a row. -/
inductive Backed
    (libraries : Libraries)
    (startup : Startup)
    (labels : List Label)
    (row : TokenRow)
    (principal : Principal) : Prop
  /-- The principal is read from the token, and a key that the issuer delivered signs
  it. -/
  | signed
      (parsed : JwtParsed)
      (k : Jwk)
      (unasked : row.trustContext = none)
      (parses : parseJwt libraries.backend row.token = some parsed)
      (isRead : principal = principalFromJwt parsed)
      (header : TrustedHeader libraries.backend row.signedCall parsed.kid parsed.alg)
      (key : VerifyingKey libraries.backend row.signedCall parsed.alg k)
      (delivered : Machine.Occurs (step libraries)
        (delivers libraries row.config.jwksUri parsed.kid k) (initial startup) labels)
  /-- A provider has shown the principal. -/
  | asked
      (context : TrustContext)
      (isAsked : row.trustContext = some context)
      (shown : Machine.Occurs (step libraries)
        (shows libraries startup.decisionTtlS row principal) (initial startup) labels)

variable {libraries : Libraries} {startup : Startup} {labels : List Label} {label : Label}
variable {row : TokenRow} {validation : RowValidation}
variable {order : IterationOrder String SessionPrincipal}

/-! ## Signed tokens -/

/-- A document that reaches the key cache answers a row. -/
theorem delivers_of_validations
    {system : System}
    {jwksUri kid : String}
    {k : Jwk}
    {handed : Validator.Label}
    (waits : Waits system)
    (hands : system.validationLabel label = some handed)
    (arrives : Validator.System.delivers libraries.backend jwksUri kid k system.validations
      handed) :
    delivers libraries jwksUri kid k system label := by
  cases label with
  | checkToken row order =>
      simp only [validationLabel] at hands
      split at hands
      · cases hands
        cases arrives
      · cases hands
  | jwksResponse request response kids order =>
      simp only [validationLabel] at hands
      split at hands
      · next isWaiting =>
          cases hands
          obtain ⟨asking, waiting⟩ := Option.isSome_iff_exists.mp isWaiting
          obtain ⟨-, parked, parkedFor, own⟩ := waits.signed request asking waiting
          obtain ⟨other, sameParked, asked, published⟩ := arrives
          rw [parkedFor] at sameParked
          obtain rfl := Option.some.inj sameParked
          have jwksUri_eq := asked
          rw [Validator.Parked.url, own] at jwksUri_eq
          exact ⟨asking, parked, waiting, jwksUri_eq, parkedFor, asked, published⟩
      · cases hands
  | providerResponse request response order => cases hands
  | checkAuthorization row => cases hands
  | proceed number => cases hands

/-- A call vouched for in the run of the key cache is vouched for in the run of the
server. -/
theorem backed_of_vouched
    (unasked : row.trustContext = none)
    (vouched : Validator.System.Vouched libraries.backend (initial startup).validations
      row.signedCall
      (Machine.observations (step libraries) validationLabel (initial startup) labels)) :
    ∃ principal, (parseJwt libraries.backend row.token).map principalFromJwt =
        some principal ∧
      Backed libraries startup labels row principal := by
  obtain ⟨parsed, admitted, k, accepted, delivered⟩ := vouched
  refine ⟨principalFromJwt parsed, ?_, ?_⟩
  · have parses : parseJwt libraries.backend row.token = some parsed := admitted.parses
    rw [parses, Option.map_some]
  · refine .signed parsed k unasked admitted.parses rfl admitted.trusted
      accepted.verifyingKey ?_
    obtain ⟨before, label, after, split, handed, hands, arrives⟩ :=
      drives_validations.occurs delivered
    have waits := run_waits libraries startup before
    exact ⟨before, label, after, split, delivers_of_validations waits hands arrives⟩

/-! ## Tokens that a provider is asked about -/

/-- An answer that reaches the decision cache answers a row. -/
theorem shows_of_decisions
    {system : System}
    {context : TrustContext}
    {principal : Principal}
    {decisionTtlS : Int}
    {handed : Opaque.OpaqueLabel}
    (waits : Waits system)
    (hands : system.decisionLabel label = some handed)
    (arrives : OpaqueSystem.shows libraries.backend libraries.keyOf decisionTtlS
      (row.opaqueCall context) principal system.decisions handed) :
    shows libraries decisionTtlS row principal system label := by
  cases label with
  | checkToken row order =>
      obtain ⟨context, -, rfl⟩ := Option.map_eq_some_iff.mp hands
      cases arrives
  | jwksResponse request response kids order => cases hands
  | providerResponse request response order =>
      simp only [decisionLabel] at hands
      split at hands
      · next isWaiting =>
          cases hands
          obtain ⟨asking, waiting⟩ := Option.isSome_iff_exists.mp isWaiting
          obtain ⟨asked, isAsked, askedFor⟩ := waits.asked request asking waiting
          obtain ⟨other, sameCall, sameKey, judged, recent⟩ := arrives
          rw [askedFor] at sameCall
          obtain rfl := Option.some.inj sameCall
          refine ⟨asking, asked, waiting, isAsked, sameKey, judged, ?_⟩
          exact recent.imp_left fun same =>
            congrArg (fun call : Opaque.OpaqueCall => call.opts.nowS) same
      · cases hands
  | checkAuthorization row => cases hands
  | proceed number => cases hands

theorem backed_of_shown
    {context : TrustContext}
    {principal : Principal}
    (isAsked : row.trustContext = some context)
    (shown : Machine.Occurs (OpaqueSystem.step libraries.backend libraries.keyOf)
      (OpaqueSystem.shows libraries.backend libraries.keyOf startup.decisionTtlS
        (row.opaqueCall context) principal)
      (initial startup).decisions
      (Machine.observations (step libraries) decisionLabel (initial startup) labels)) :
    Backed libraries startup labels row principal := by
  refine .asked context isAsked ?_
  obtain ⟨before, label, after, split, handed, hands, arrives⟩ :=
    drives_decisions.occurs shown
  have waits := run_waits libraries startup before
  exact ⟨before, label, after, split, shows_of_decisions waits hands arrives⟩

/-! ## Accepted rows -/

theorem validations_run (start : System) (labels : List Label) :
    (run libraries start labels).validations =
      Validator.System.run libraries.backend start.validations
        (Machine.observations (step libraries) validationLabel start labels) :=
  drives_validations.run start labels

theorem decisions_run (start : System) (labels : List Label) :
    (run libraries start labels).decisions =
      OpaqueSystem.run libraries.backend libraries.keyOf start.decisions
        (Machine.observations (step libraries) decisionLabel start labels) :=
  drives_decisions.run start labels

/-- The principal of a signed row that is accepted. -/
theorem principal_signedValidation
    {outcome : Validator.Outcome}
    (accepts : outcome.verdict = .ok) :
    (signedValidation libraries.backend row.signedCall outcome).principal =
      (parseJwt libraries.backend row.token).map principalFromJwt :=
  if_pos accepts

/-- The principal of an opaque row that is accepted. -/
theorem principal_opaqueValidation
    {outcome : Opaque.OpaqueOutcome}
    {principal : Principal}
    (accepts : outcome.verdict = .ok)
    (found : outcome.principal = some principal) :
    (opaqueValidation outcome).principal = some principal := by
  unfold opaqueValidation
  dsimp only
  rw [if_pos accepts, found, Option.getD_some]

/-- What stands behind a principal stays there. -/
theorem Backed.append
    {principal : Principal}
    (backed : Backed libraries startup labels row principal)
    (later : List Label) :
    Backed libraries startup (labels ++ later) row principal := by
  cases backed with
  | signed parsed k unasked parses isRead header key delivered =>
      exact .signed parsed k unasked parses isRead header key (delivered.append later)
  | asked context isAsked shown => exact .asked context isAsked (shown.append later)

theorem backed_of_checkToken
    {taken : TokenRow}
    {taking : IterationOrder String SessionPrincipal}
    (decides : (run libraries (initial startup) labels).verdictOf libraries
      (.checkToken taken taking) = some (.token row validation order))
    (accepts : validation.outcome = .ok) :
    ∃ principal, validation.principal = some principal ∧
      Backed libraries startup labels row principal := by
  unfold verdictOf at decides
  dsimp only at decides
  split at decides
  · next unasked =>
      split at decides
      · next outcome begun =>
          cases decides
          rw [validations_run] at begun
          obtain ⟨principal, isRead, backed⟩ := backed_of_vouched unasked
            (Validator.System.vouched_of_begin begun accepts)
          exact ⟨principal, (principal_signedValidation accepts).trans isRead, backed⟩
      · cases decides
  · next context isAsked =>
      split at decides
      · next outcome begun =>
          cases decides
          rw [decisions_run] at begun
          obtain ⟨principal, found, shown⟩ := OpaqueSystem.shown_of_begin begun accepts
          exact ⟨principal, principal_opaqueValidation accepts found,
            backed_of_shown isAsked shown⟩
      · cases decides

theorem backed_of_jwksResponse
    {request : Nat}
    {response : Option Response}
    {kids : IterationOrder String (List Jwk)}
    {taking : IterationOrder String SessionPrincipal}
    (decides : (run libraries (initial startup) labels).verdictOf libraries
      (.jwksResponse request response kids taking) = some (.token row validation order))
    (accepts : validation.outcome = .ok) :
    ∃ principal, validation.principal = some principal ∧
      Backed libraries startup (labels ++ [.jwksResponse request response kids taking]) row
        principal := by
  unfold verdictOf at decides
  dsimp only at decides
  split at decides
  · next asking parked waiting parkedFor =>
      cases decides
      obtain ⟨unasked, other, sameParked, own⟩ :=
        (run_waits libraries startup labels).signed request row waiting
      rw [parkedFor] at sameParked
      obtain rfl := Option.some.inj sameParked
      have hands : (run libraries (initial startup) labels).validationLabel
          (.jwksResponse request response kids order) =
          some (.resume request response kids) := by
        rw [validationLabel, waiting, Option.isSome_some, if_pos rfl]
      rw [validations_run] at parkedFor accepts
      have vouched := Validator.System.vouched_of_resume parkedFor accepts
      rw [own] at vouched
      have observed : Machine.observations (step libraries) validationLabel (initial startup)
          (labels ++ [.jwksResponse request response kids order]) =
          Machine.observations (step libraries) validationLabel (initial startup) labels ++
            [.resume request response kids] := by
        rw [Machine.observations_append_singleton]
        exact congrArg (_ ++ ·) (congrArg Option.toList hands)
      rw [← observed] at vouched
      obtain ⟨principal, isRead, backed⟩ := backed_of_vouched unasked vouched
      refine ⟨principal, ?_, backed⟩
      rw [validations_run]
      exact (principal_signedValidation accepts).trans isRead
  · cases decides

theorem backed_of_providerResponse
    {request : Nat}
    {response : Option Response}
    {taking : IterationOrder String SessionPrincipal}
    (decides : (run libraries (initial startup) labels).verdictOf libraries
      (.providerResponse request response taking) = some (.token row validation order))
    (accepts : validation.outcome = .ok) :
    ∃ principal, validation.principal = some principal ∧
      Backed libraries startup (labels ++ [.providerResponse request response taking]) row
        principal := by
  unfold verdictOf at decides
  dsimp only at decides
  split at decides
  · next asking call waiting askedFor =>
      cases decides
      obtain ⟨context, isAsked, sameCall⟩ :=
        (run_waits libraries startup labels).asked request row waiting
      rw [askedFor] at sameCall
      obtain rfl := Option.some.inj sameCall
      have hands : (run libraries (initial startup) labels).decisionLabel
          (.providerResponse request response order) = some (.resume request response) := by
        rw [decisionLabel, waiting, Option.isSome_some, if_pos rfl]
      rw [decisions_run] at askedFor accepts
      obtain ⟨principal, found, shown⟩ := OpaqueSystem.shown_of_resume askedFor accepts
      have observed : Machine.observations (step libraries) decisionLabel (initial startup)
          (labels ++ [.providerResponse request response order]) =
          Machine.observations (step libraries) decisionLabel (initial startup) labels ++
            [.resume request response] := by
        rw [Machine.observations_append_singleton]
        exact congrArg (_ ++ ·) (congrArg Option.toList hands)
      rw [← observed] at shown
      refine ⟨principal, ?_, backed_of_shown isAsked shown⟩
      rw [decisions_run]
      exact principal_opaqueValidation accepts found
  · cases decides

/-- A row that is accepted has a principal with something behind it. -/
theorem backed_of_accepted
    (decides : (run libraries (initial startup) labels).verdictOf libraries label =
      some (.token row validation order))
    (accepts : validation.outcome = .ok) :
    ∃ principal, validation.principal = some principal ∧
      Backed libraries startup (labels ++ [label]) row principal := by
  cases label with
  | checkToken taken taking =>
      obtain ⟨principal, found, backed⟩ := backed_of_checkToken decides accepts
      exact ⟨principal, found, backed.append _⟩
  | jwksResponse request response kids taking => exact backed_of_jwksResponse decides accepts
  | providerResponse request response taking =>
      exact backed_of_providerResponse decides accepts
  | checkAuthorization authorized => cases decides
  | proceed number => cases decides

end System
end Server
end QuackOauth
