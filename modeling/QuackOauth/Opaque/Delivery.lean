import QuackOauth.Lib.Component
import QuackOauth.Opaque.TrustContext

/-!
# Decisions and the answers that delivered them

However calls overlap, a principal that a call returns was shown by an answer that arrived
in the run: the call's own, or one to a call whose token has the same key and that is not
older than the cache keeps decisions.
-/

namespace QuackOauth
namespace Opaque

open Lib Jwt Policy
open Validator (Response)

namespace OpaqueSystem

/-- A step is the arrival of an answer that shows a principal for the token of a call. -/
def shows
    (backend : Backend)
    (keyOf : String → String)
    (defaultTtlS : Int)
    (call : OpaqueCall)
    (principal : Principal)
    (system : OpaqueSystem) : OpaqueLabel → Prop
  | .begin _ => False
  | .resume request response =>
      ∃ asking, system.inFlight.lookup request = some asking ∧
        keyOf asking.token = keyOf call.token ∧
        asking.context.judge backend asking.opts response = .ok principal ∧
        (asking = call ∨ call.opts.nowS < asking.opts.nowS + defaultTtlS)

variable {backend : Backend} {keyOf : String → String} {maxEntries : Nat}
variable {defaultTtlS : Int} {labels : List OpaqueLabel} {call : OpaqueCall}
variable {outcome : OpaqueOutcome}

/-- An unexpired entry for the key of a token was shown in the run. -/
theorem shown_of_mem
    {node : Nat × DecisionEntry}
    (member : node ∈ (run backend keyOf (initial maxEntries defaultTtlS)
      labels).cache.entries.nodes)
    (sameKey : node.2.key = keyOf call.token)
    (unexpired : call.opts.nowS < node.2.expiresAtS) :
    Machine.Occurs (step backend keyOf)
      (shows backend keyOf defaultTtlS call node.2.principal)
      (initial maxEntries defaultTtlS) labels := by
  obtain ⟨answer, answered, recordsKey, judged, expires⟩ := records_of_mem member
  obtain ⟨before, label, after, split, arrives⟩ :=
    (Machine.mem_observations (step backend keyOf)).mp answered
  refine ⟨before, label, after, split, ?_⟩
  cases label with
  | begin begun => cases arrives
  | resume request response =>
      obtain ⟨asking, waiting, rfl⟩ := Option.map_eq_some_iff.mp arrives
      exact ⟨asking, waiting, recordsKey.trans sameKey, judged,
        .inr (lt_of_lt_of_le unexpired expires)⟩

/-- A call that returns at once returns a principal that was shown before. -/
theorem shown_of_begin
    (begun : beginOpaque backend keyOf call
      (run backend keyOf (initial maxEntries defaultTtlS) labels).cache = .finished outcome)
    (accepts : outcome.verdict = .ok) :
    ∃ principal, outcome.principal = some principal ∧
      Machine.Occurs (step backend keyOf) (shows backend keyOf defaultTtlS call principal)
        (initial maxEntries defaultTtlS) labels := by
  rcases beginOpaque_finished begun with ⟨fails, -⟩ | ⟨principal, hit, own, -⟩
  · exact absurd accepts fails
  · obtain ⟨node, member, isKey, isPrincipal, unexpired⟩ :=
      DecisionCache.lookup_some run_wellFormed.indexed hit
    refine ⟨principal, own, ?_⟩
    rw [← isPrincipal]
    exact shown_of_mem member isKey unexpired

/-- A call that goes on with an answer returns the principal that the answer shows. -/
theorem shown_of_resume
    {start : OpaqueSystem}
    {request : Nat}
    {response : Option Response}
    (waiting : (run backend keyOf start labels).inFlight.lookup request = some call)
    (accepts : (finishOpaque backend keyOf call response
      (run backend keyOf start labels).cache).verdict = .ok) :
    ∃ principal, (finishOpaque backend keyOf call response
        (run backend keyOf start labels).cache).principal = some principal ∧
      Machine.Occurs (step backend keyOf) (shows backend keyOf defaultTtlS call principal)
        start (labels ++ [.resume request response]) := by
  obtain ⟨principal, judged, own⟩ := finishOpaque_ok accepts
  exact ⟨principal, own, Machine.Occurs.last ⟨call, waiting, rfl, judged, .inl rfl⟩⟩

end OpaqueSystem
end Opaque
end QuackOauth
