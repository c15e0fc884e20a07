import QuackOauth.Server.System
import QuackOauth.Validator.Delivery

/-!
# The parts of the server

The two caches and the session map are machines of their own, which the server drives.  A
row that waits for a response waits for the answer to its own call.
-/

namespace QuackOauth
namespace Server

open Lib Jwks Jwt Policy Session Audit
open Opaque (OpaqueSystem)

namespace System

variable {libraries : Libraries} {system : System}

theorem drives_validations :
    Machine.Drives (step libraries) (Validator.System.step libraries.backend)
      validations validationLabel :=
  fun _ _ => rfl

theorem drives_decisions :
    Machine.Drives (step libraries) (OpaqueSystem.step libraries.backend libraries.keyOf)
      decisions decisionLabel :=
  fun _ _ => rfl

theorem drives_sessions :
    Machine.Drives (step libraries) Session.System.step
      sessions (sessionLabel libraries) :=
  fun _ _ => rfl

theorem drives_auditRing :
    Machine.Drives (step libraries) AuditRing.push auditRing pushes :=
  fun _ _ => rfl

/-- A row that waits waits for the answer to its call. -/
structure Waits (system : System) : Prop where
  signed : ∀ request row, system.signedRows.lookup request = some row →
    row.trustContext = none ∧
      ∃ parked, system.validations.inFlight.lookup request = some parked ∧
        parked.call = row.signedCall
  asked : ∀ request row, system.opaqueRows.lookup request = some row →
    ∃ context, row.trustContext = some context ∧
      system.decisions.inFlight.lookup request = some (row.opaqueCall context)

theorem waits_initial (startup : Startup) : Waits (initial startup) where
  signed := fun _ _ absent => by cases absent
  asked := fun _ _ absent => by cases absent

variable (libraries system) in
/-- A call that begins waits under the next number, or nothing about the waiting calls
changes. -/
theorem inFlight_begin
    (call : Validator.Call) :
    (∃ parked cache, Validator.beginValidation libraries.backend call
        system.validations.cache = .fetching parked cache ∧ parked.call = call ∧
      (Validator.System.step libraries.backend system.validations (.begin call)).inFlight =
        system.validations.inFlight.insert system.validations.nextRequest parked) ∨
    (∃ outcome, Validator.beginValidation libraries.backend call
        system.validations.cache = .finished outcome ∧
      (Validator.System.step libraries.backend system.validations (.begin call)).inFlight =
        system.validations.inFlight) := by
  cases begun : Validator.beginValidation libraries.backend call system.validations.cache with
  | finished outcome =>
      refine .inr ⟨outcome, rfl, ?_⟩
      simp only [Validator.System.step, begun]
  | fetching parked cache =>
      refine .inl ⟨parked, cache, rfl, ?_, ?_⟩
      · exact ((Validator.beginValidation_spec libraries.backend call _).2 _ _ begun).call_eq
      · simp only [Validator.System.step, begun]

/-- Erasing a request from both sides keeps the rows matched. -/
theorem lookup_of_lookup_erase
    {α : Type*}
    {map : UnorderedMap Nat α}
    {request erased : Nat}
    {value : α}
    (stored : (map.erase erased).lookup request = some value) :
    request ≠ erased ∧ map.lookup request = some value := by
  rw [UnorderedMap.lookup_erase_eq_ite] at stored
  split at stored
  · cases stored
  · next different => exact ⟨different, stored⟩

theorem signed_step
    (label : Label)
    (waits : Waits system) :
    ∀ request row, (step libraries system label).signedRows.lookup request = some row →
      row.trustContext = none ∧
        ∃ parked, (step libraries system label).validations.inFlight.lookup request =
            some parked ∧ parked.call = row.signedCall := by
  intro request row stored
  cases label with
  | checkToken taken order =>
      cases context : taken.trustContext with
      | some context' =>
          simp only [step, signedRowsAfter, validationLabel, context] at stored ⊢
          exact waits.signed request row stored
      | none =>
          have handed : (step libraries system (.checkToken taken order)).validations =
              Validator.System.step libraries.backend system.validations
                (.begin taken.signedCall) := by
            simp [step, validationLabel, context]
          rw [handed]
          rcases inFlight_begin libraries system taken.signedCall with
            ⟨parked, cache, begun, own, inFlight⟩ | ⟨outcome, begun, inFlight⟩
          · rw [inFlight]
            simp only [step, signedRowsAfter, context, begun,
              UnorderedMap.lookup_insert_eq_ite] at stored ⊢
            split at stored
            · next newest =>
                cases stored
                exact ⟨context, parked, if_pos newest, own⟩
            · next other =>
                rw [if_neg other]
                exact waits.signed request row stored
          · rw [inFlight]
            simp only [step, signedRowsAfter, context, begun] at stored
            exact waits.signed request row stored
  | jwksResponse answered response kids order =>
      simp only [step, signedRowsAfter] at stored
      obtain ⟨different, stored⟩ := lookup_of_lookup_erase stored
      obtain ⟨unasked, parked, waiting, own⟩ := waits.signed request row stored
      refine ⟨unasked, parked, ?_, own⟩
      simp only [step, validationLabel]
      split
      · simp only [Option.toList_some, Machine.run_cons, Machine.run_nil,
          Validator.System.step]
        split
        · exact waiting
        · rw [UnorderedMap.lookup_erase_eq_ite, if_neg different]
          exact waiting
      · exact waiting
  | providerResponse answered response order => exact waits.signed request row stored
  | checkAuthorization authorized => exact waits.signed request row stored
  | proceed number => exact waits.signed request row stored

theorem asked_step
    (label : Label)
    (waits : Waits system) :
    ∀ request row, (step libraries system label).opaqueRows.lookup request = some row →
      ∃ context, row.trustContext = some context ∧
        (step libraries system label).decisions.inFlight.lookup request =
          some (row.opaqueCall context) := by
  intro request row stored
  cases label with
  | checkToken taken order =>
      cases context : taken.trustContext with
      | none =>
          simp only [step, opaqueRowsAfter, decisionLabel, context] at stored ⊢
          exact waits.asked request row stored
      | some asked =>
          simp only [step, opaqueRowsAfter, decisionLabel, context, Option.map_some,
            Option.toList_some, Machine.run_cons, Machine.run_nil, OpaqueSystem.step]
            at stored ⊢
          cases begun : Opaque.beginOpaque libraries.backend libraries.keyOf
              (taken.opaqueCall asked) system.decisions.cache with
          | finished outcome =>
              simp only [begun] at stored ⊢
              exact waits.asked request row stored
          | posting posted cache =>
              simp only [begun, UnorderedMap.lookup_insert_eq_ite] at stored ⊢
              split at stored
              · next newest =>
                  cases stored
                  exact ⟨asked, context, if_pos newest⟩
              · next other =>
                  rw [if_neg other]
                  exact waits.asked request row stored
  | providerResponse answered response order =>
      simp only [step, opaqueRowsAfter] at stored
      obtain ⟨different, stored⟩ := lookup_of_lookup_erase stored
      obtain ⟨context, asked, waiting⟩ := waits.asked request row stored
      refine ⟨context, asked, ?_⟩
      simp only [step, decisionLabel]
      split
      · simp only [Option.toList_some, Machine.run_cons, Machine.run_nil, OpaqueSystem.step]
        split
        · exact waiting
        · rw [UnorderedMap.lookup_erase_eq_ite, if_neg different]
          exact waiting
      · exact waiting
  | jwksResponse answered response kids order => exact waits.asked request row stored
  | checkAuthorization authorized => exact waits.asked request row stored
  | proceed number => exact waits.asked request row stored

theorem step_waits
    (label : Label)
    (waits : Waits system) :
    Waits (step libraries system label) where
  signed := signed_step label waits
  asked := asked_step label waits

/-- In every run each row waits for the answer to its own call. -/
theorem run_waits
    (libraries : Libraries)
    (startup : Startup)
    (labels : List Label) :
    Waits (run libraries (initial startup) labels) :=
  Machine.run_invariant (step libraries) (fun _ => step_waits) labels (waits_initial startup)

end System
end Server
end QuackOauth
