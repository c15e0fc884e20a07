import QuackOauth.Audit.Ring
import QuackOauth.Lib.Component
import QuackOauth.Opaque.TrustContext
import QuackOauth.Server.Row
import QuackOauth.Validator.System

/-!
# The server

Rows of tokens and rows of queries, from any number of threads, over the one state of the
process: the two caches, the session map and the ring of audit events.  A row of a token
decides when its response is there, or at once, and stores its session in the same
critical section.  A row of a query decides on the copy it reads.  What a row has decided
it reports in critical sections of its own, one audit event at a time, so that others come
in between.
-/

namespace QuackOauth
namespace Server

open Lib Jwks Jwt Policy Session Audit
open Validator (Response)
open Opaque (OpaqueSystem)

/-- A row that has decided and is on its way to return. -/
structure Report where
  /-- What the row returns. -/
  verdict : Bool
  /-- The number under which its expired session is to be erased. -/
  check : Option Nat := none
  /-- The events still to push. -/
  events : List AuditEvent
  deriving DecidableEq

/-- The event that a report pushes when it goes on.  First an expired session is erased. -/
def Report.pushes (report : Report) : Option AuditEvent :=
  match report.check with
  | some _ => none
  | none => report.events.head?

/-- The report after that.  With its last event the row returns. -/
def Report.next (report : Report) : Option Report :=
  match report.check with
  | some _ => some { report with check := none }
  | none =>
      match report.events.tail with
      | [] => none
      | rest => some { report with events := rest }

/-- The state of the process. -/
structure System where
  validations : Validator.System
  decisions : OpaqueSystem
  sessions : Session.System := {}
  auditRing : AuditRing
  /-- The rows whose keys are being fetched, by the number of the request. -/
  signedRows : UnorderedMap Nat TokenRow := ∅
  /-- The rows whose provider is being asked, by the number of the request. -/
  opaqueRows : UnorderedMap Nat TokenRow := ∅
  reports : UnorderedMap Nat Report := ∅
  /-- The number of the next report. -/
  nextReport : Nat := 0

/-- One critical section. -/
inductive Label
  /-- A row of a token is taken up.  If it stores a session, the map is scanned in some
  order. -/
  | checkToken (row : TokenRow) (order : IterationOrder String SessionPrincipal)
  /-- A JWKS document arrives. -/
  | jwksResponse
      (request : Nat)
      (response : Option Response)
      (kids : IterationOrder String (List Jwk))
      (order : IterationOrder String SessionPrincipal)
  /-- A provider's answer arrives. -/
  | providerResponse
      (request : Nat)
      (response : Option Response)
      (order : IterationOrder String SessionPrincipal)
  | checkAuthorization (row : AuthorizationRow)
  /-- A row goes on with its report. -/
  | proceed (report : Nat)

/-- What a row decides. -/
inductive Verdict
  | token
      (row : TokenRow)
      (validation : RowValidation)
      (order : IterationOrder String SessionPrincipal)
  | query (row : AuthorizationRow) (found : Option Principal) (outcome : PolicyOutcome)

namespace Verdict

/-- What the row returns. -/
def accepts : Verdict → Bool
  | .token _ validation _ => validation.outcome = .ok
  | .query _ _ outcome => outcome.decision = .allow

/-- The events that tell of a verdict. -/
def audits (redactSensitive : String → String) : Verdict → List AuditEvent
  | .token row validation _ => tokenAudits redactSensitive row validation
  | .query row found outcome => [authzAudit found row outcome]

end Verdict

/-- The functions of other libraries: those under the validators, the key of a decision,
and the digest of a token. -/
structure Libraries where
  backend : Backend
  keyOf : String → String
  redactSensitive : String → String

/-- What the process starts with. -/
structure Startup where
  minRefreshS : Int
  maxEntries : Nat
  decisionEntries : Nat
  decisionTtlS : Int
  auditRing : AuditRing

namespace System

/-- What the two caches and the session map do in a step. -/
def validationLabel (system : System) : Label → Option Validator.Label
  | .checkToken row _ =>
      if row.trustContext.isNone then some (.begin row.signedCall) else none
  | .jwksResponse request response kids _ =>
      if (system.signedRows.lookup request).isSome then some (.resume request response kids)
      else none
  | _ => none

def decisionLabel (system : System) : Label → Option Opaque.OpaqueLabel
  | .checkToken row _ => row.trustContext.map fun context => .begin (row.opaqueCall context)
  | .providerResponse request response _ =>
      if (system.opaqueRows.lookup request).isSome then some (.resume request response)
      else none
  | _ => none

/-- The verdict that a step comes to, if it comes to one. -/
def verdictOf (libraries : Libraries) (system : System) : Label → Option Verdict
  | .checkToken row order =>
      match row.trustContext with
      | none =>
          match Validator.beginValidation libraries.backend row.signedCall
              system.validations.cache with
          | .finished outcome => some (.token row
              (signedValidation libraries.backend row.signedCall outcome) order)
          | .fetching _ _ => none
      | some context =>
          match Opaque.beginOpaque libraries.backend libraries.keyOf (row.opaqueCall context)
              system.decisions.cache with
          | .finished outcome => some (.token row (opaqueValidation outcome) order)
          | .posting _ _ => none
  | .jwksResponse request response kids order =>
      match system.signedRows.lookup request, system.validations.inFlight.lookup request with
      | some row, some parked =>
          let outcome := Validator.finishValidation libraries.backend parked response kids
            system.validations.cache
          some (.token row (signedValidation libraries.backend row.signedCall outcome) order)
      | _, _ => none
  | .providerResponse request response order =>
      match system.opaqueRows.lookup request, system.decisions.inFlight.lookup request with
      | some row, some call =>
          let outcome := Opaque.finishOpaque libraries.backend libraries.keyOf call response
            system.decisions.cache
          some (.token row (opaqueValidation outcome) order)
      | _, _ => none
  | .checkAuthorization row =>
      let found := system.sessions.principalOf row.sid
      some (.query row found (authorize found row))
  | .proceed _ => none

/-- What happens to the session map. -/
def sessionLabel (libraries : Libraries) (system : System) (label : Label) :
    Option Session.Label :=
  match label with
  | .proceed report =>
      match system.reports.lookup report with
      | none => none
      | some report => report.check.map .erase
  | .checkAuthorization row => some (.read row)
  | _ =>
      match system.verdictOf libraries label with
      | some (.token row validation order) =>
          (storesSession row validation).map fun (sid, principal) =>
            .store sid principal row.nowS order
      | _ => none

/-- The rows that wait for keys. -/
def signedRowsAfter (libraries : Libraries) (system : System) : Label → UnorderedMap Nat TokenRow
  | .checkToken row _ =>
      match row.trustContext,
          Validator.beginValidation libraries.backend row.signedCall
            system.validations.cache with
      | none, .fetching _ _ => system.signedRows.insert system.validations.nextRequest row
      | _, _ => system.signedRows
  | .jwksResponse request _ _ _ => system.signedRows.erase request
  | _ => system.signedRows

/-- The rows that wait for a provider. -/
def opaqueRowsAfter (libraries : Libraries) (system : System) : Label → UnorderedMap Nat TokenRow
  | .checkToken row _ =>
      match row.trustContext with
      | none => system.opaqueRows
      | some context =>
          match Opaque.beginOpaque libraries.backend libraries.keyOf (row.opaqueCall context)
              system.decisions.cache with
          | .posting _ _ => system.opaqueRows.insert system.decisions.nextRequest row
          | .finished _ => system.opaqueRows
  | .providerResponse request _ _ => system.opaqueRows.erase request
  | _ => system.opaqueRows

/-- The event that a step pushes. -/
def pushes (system : System) : Label → Option AuditEvent
  | .proceed report => (system.reports.lookup report).bind Report.pushes
  | _ => none

/-- The expired session that a verdict leaves to be erased. -/
def expiredCheck (system : System) : Verdict → Option Nat
  | .token _ _ _ => none
  | .query row found _ =>
      match found with
      | none => none
      | some principal =>
          if isPrincipalExpired principal row.nowS row.skewS then some system.sessions.nextCheck
          else none

/-- The report of a verdict. -/
def reportOf (libraries : Libraries) (system : System) (verdict : Verdict) : Report where
  verdict := verdict.accepts
  check := system.expiredCheck verdict
  events := verdict.audits libraries.redactSensitive

/-- The reports on their way. -/
def reportsAfter (libraries : Libraries) (system : System) (label : Label) :
    UnorderedMap Nat Report :=
  match label with
  | .proceed number =>
      match system.reports.lookup number with
      | none => system.reports
      | some report =>
          match report.next with
          | none => system.reports.erase number
          | some next => system.reports.insert number next
  | _ =>
      match system.verdictOf libraries label with
      | none => system.reports
      | some verdict =>
          system.reports.insert system.nextReport (system.reportOf libraries verdict)

/-- Take a step.  A response nobody waits for does nothing, and neither does a report
that has returned. -/
def step (libraries : Libraries) (system : System) (label : Label) : System where
  validations := Machine.run (Validator.System.step libraries.backend) system.validations
    (system.validationLabel label).toList
  decisions := Machine.run (OpaqueSystem.step libraries.backend libraries.keyOf)
    system.decisions (system.decisionLabel label).toList
  sessions := Machine.run Session.System.step system.sessions
    (system.sessionLabel libraries label).toList
  auditRing := system.auditRing.pushAll (system.pushes label).toList
  signedRows := system.signedRowsAfter libraries label
  opaqueRows := system.opaqueRowsAfter libraries label
  reports := system.reportsAfter libraries label
  nextReport := system.nextReport + (system.verdictOf libraries label).toList.length

/-- The process as it starts. -/
def initial (startup : Startup) : System where
  validations := Validator.System.initial startup.minRefreshS startup.maxEntries
  decisions := OpaqueSystem.initial startup.decisionEntries startup.decisionTtlS
  auditRing := startup.auditRing

/-- The state after a list of steps. -/
abbrev run (libraries : Libraries) : System → List Label → System :=
  Machine.run (step libraries)

/-! ## A small server -/

/-- A server that keeps a single audit event. -/
def sampleStartup : Startup where
  minRefreshS := 30
  maxEntries := 1000
  decisionEntries := 1000
  decisionTtlS := 30
  auditRing := {
    ring := [{}]
    head := 0
    count := 0
    length_le := by decide
    head_lt := by decide
    count_le := by decide }

/-- It trusts the sample issuer. -/
def sampleLibraries : Libraries where
  backend := Validator.sampleBackend
  keyOf := id
  redactSensitive := id

/-- A client presents a token of the issuer. -/
def sampleRow : TokenRow where
  authString := " Bearer a-old"
  sid := some "s"
  config := { mode := "jwks", jwksUri := "https://idp.test/jwks" }
  nowS := 1000

/-- The keys are fetched, and the token is accepted. -/
def sampleAuthentication : List Label := [
  .checkToken sampleRow .stored,
  .jwksResponse 0 (Validator.sampleResponse "before") .stored .stored]

/-- The event of the verdict is pushed, and the row returns. -/
def sampleReturn : List Label :=
  sampleAuthentication ++ [.proceed 0]

/-- The token is presented twice more.  The event of the first time pushes the one before
out of the ring; the second row has not returned. -/
def sampleBusy : List Label :=
  sampleReturn ++ [.checkToken sampleRow .stored, .proceed 1, .checkToken sampleRow .stored]

end System
end Server
end QuackOauth
