import Mathlib.Data.List.Induction
import QuackOauth.Lib.Machine
import QuackOauth.Session.Store

/-!
# Authentications and authorizations on one session map

An authentication stores its session in one critical section.  An authorization
reads the session in a critical section of its own, decides on the copy, and if the
copy is expired takes the mutex once more to erase the session.  Whatever is stored
in between is erased with it: a fresh principal is kept exactly as long as no erase
meets a principal that its authorization has not read.
-/

namespace QuackOauth
namespace Session

open Lib Policy

/-- A row of a chunk of queries to authorize, with what the chunk resolved for all
its rows. -/
structure AuthorizationRow where
  sid : String
  nowS : Int
  skewS : Int
  policy : Option PolicyDocument := none
  policyLoadFailed : Bool := false
  request : AuthzRequest := {}

/-- The verdict on a row, from the copy of the session's principal. -/
def authorize (found : Option Principal) (row : AuthorizationRow) : PolicyOutcome :=
  match found with
  | none => { decision := .deny, reason := "unknown session" }
  | some principal =>
      if isPrincipalExpired principal row.nowS row.skewS then
        { decision := .deny, reason := "principal expired" }
      else if row.policyLoadFailed then
        { decision := .deny, reason := "policy_table load failed" }
      else if row.request.isUnsafe then
        { decision := .deny, reason := "parse_error" }
      else
        match row.policy with
        | some policy => evaluatePolicy policy principal row.request
        | none => evaluateDefaultPolicy principal row.request.action

/-- An authorization that found its session expired and is about to erase it. -/
structure ExpiredCheck where
  sid : String
  /-- The copy that the authorization read. -/
  principal : Principal
  nowS : Int
  skewS : Int

/-- The session map and the authorizations between their two critical sections. -/
structure System where
  sessions : UnorderedMap String SessionPrincipal := ∅
  expiredChecks : UnorderedMap Nat ExpiredCheck := ∅
  /-- The number of the next check. -/
  nextCheck : Nat := 0

/-- One critical section. -/
inductive Label
  /-- An authentication succeeded.  The map is scanned in some order if it is full. -/
  | store
      (sid : String)
      (principal : Principal)
      (nowS : Int)
      (order : IterationOrder String SessionPrincipal)
  | read (row : AuthorizationRow)
  | erase (check : Nat)

namespace System

/-- The principal that an authorization finds. -/
def principalOf (system : System) (sid : String) : Option Principal :=
  (system.sessions.lookup sid).map (·.principal)

/-- Take a step.  An erase that no authorization asked for does nothing. -/
def step (system : System) : Label → System
  | .store sid principal nowS order => { system with
      sessions := storeSessionPrincipal order sid principal nowS system.sessions }
  | .read row =>
      match system.principalOf row.sid with
      | none => system
      | some principal =>
          if isPrincipalExpired principal row.nowS row.skewS then { system with
            expiredChecks := system.expiredChecks.insert system.nextCheck
              { sid := row.sid, principal, nowS := row.nowS, skewS := row.skewS }
            nextCheck := system.nextCheck + 1 }
          else system
  | .erase check =>
      match system.expiredChecks.lookup check with
      | none => system
      | some expired => { system with
          sessions := system.sessions.erase expired.sid
          expiredChecks := system.expiredChecks.erase check }

/-- The state after a list of steps, from an empty map. -/
abbrev run (labels : List Label) : System :=
  Machine.run step {} labels

/-- What may take a stored principal away: a later store for its session, a store for
another session that evicts it, or an erase once the principal itself is expired. -/
def excuses (sid : String) (principal : Principal) (system : System) : Label → Bool
  | .store other stored nowS order =>
      other = sid || evictedBy order other stored nowS system.sessions = some sid
  | .read _ => false
  | .erase check =>
      match system.expiredChecks.lookup check with
      | none => false
      | some expired =>
          expired.sid = sid && isPrincipalExpired principal expired.nowS expired.skewS

/-- Every principal stored in a run is in the map at every later step, unless a step
in between excuses its absence. -/
def KeepsFreshPrincipals (labels : List Label) : Prop :=
  ∀ before sid principal nowS order later rest,
    labels = before ++ .store sid principal nowS order :: (later ++ rest) →
    Machine.AllSteps step
      (fun system label => excuses sid principal system label = false)
      (run (before ++ [.store sid principal nowS order])) later →
    (run (before ++ .store sid principal nowS order :: later)).sessions.lookup sid =
      some { principal, updatedAtS := nowS }

/-- Whether a store evicts the session it is for. -/
def evictsItself (system : System) : Label → Bool
  | .store sid principal nowS order =>
      evictedBy order sid principal nowS system.sessions = some sid
  | _ => false

/-- Whether an erase is overtaken: the session holds by now a principal that the
authorization has not read, and that is not expired at its time. -/
def overtaken (system : System) : Label → Bool
  | .erase check =>
      match system.expiredChecks.lookup check with
      | none => false
      | some expired =>
          match system.principalOf expired.sid with
          | none => false
          | some principal => principal ≠ expired.principal &&
              !isPrincipalExpired principal expired.nowS expired.skewS
  | _ => false

/-- Checks rest on expired copies, and the map fits its capacity. -/
structure WellFormed (system : System) : Prop where
  fits : UnorderedMap.size system.sessions ≤ maxSessionPrincipals
  expired : ∀ check expired, system.expiredChecks.lookup check = some expired →
    isPrincipalExpired expired.principal expired.nowS expired.skewS = true

variable {system : System}

theorem step_wellFormed
    (label : Label)
    (well : WellFormed system) :
    WellFormed (step system label) := by
  cases label with
  | store sid principal nowS order =>
      exact ⟨size_storeSessionPrincipal_le, well.expired⟩
  | read row =>
      dsimp only [step]
      split
      · exact well
      · next principal found =>
          split
          · next isExpired =>
              refine ⟨well.fits, fun check expired waiting => ?_⟩
              rw [UnorderedMap.lookup_insert_eq_ite] at waiting
              split at waiting
              · cases waiting
                exact isExpired
              · exact well.expired check expired waiting
          · exact well
  | erase check =>
      dsimp only [step]
      split
      · exact well
      · next expired waiting =>
          refine ⟨le_trans (UnorderedMap.size_erase_le _ _) well.fits, ?_⟩
          intro other expired' waiting'
          rw [UnorderedMap.lookup_erase_eq_ite] at waiting'
          split at waiting'
          · cases waiting'
          · exact well.expired other expired' waiting'

theorem run_wellFormed (labels : List Label) : WellFormed (run labels) := by
  apply Machine.run_invariant step (fun _ label => step_wellFormed label)
  refine ⟨Nat.zero_le _, fun check expired waiting => ?_⟩
  cases waiting

/-! ## What a step leaves of a session -/

theorem sessions_read (row : AuthorizationRow) :
    (step system (.read row)).sessions = system.sessions := by
  dsimp only [step]
  split
  · rfl
  · split <;> rfl

theorem lookup_erase
    {check : Nat}
    {expired : ExpiredCheck}
    (waiting : system.expiredChecks.lookup check = some expired)
    (sid : String) :
    (step system (.erase check)).sessions.lookup sid =
      if sid = expired.sid then none else system.sessions.lookup sid := by
  simp only [step, waiting]
  exact UnorderedMap.lookup_erase_eq_ite _ _ _

/-- A session after a step is the one the step stored, or it was there before and
nothing excuses its absence. -/
theorem stored_or_held_of_step
    {label : Label}
    {sid : String}
    {current : SessionPrincipal}
    (well : WellFormed system)
    (held : (step system label).sessions.lookup sid = some current) :
    (∃ order, label = .store sid current.principal current.updatedAtS order) ∨
      (system.sessions.lookup sid = some current ∧
        excuses sid current.principal system label = false) := by
  cases label with
  | store other stored nowS order =>
      simp only [step, lookup_storeSessionPrincipal well.fits] at held
      split_ifs at held with evicted same
      · subst same
        cases held
        exact .inl ⟨order, rfl⟩
      · refine .inr ⟨held, ?_⟩
        simp [excuses, evicted, Ne.symm same]
  | read row =>
      rw [sessions_read] at held
      exact .inr ⟨held, rfl⟩
  | erase check =>
      right
      cases waiting : system.expiredChecks.lookup check with
      | none =>
          simp only [step, waiting] at held
          exact ⟨held, by simp only [excuses, waiting]⟩
      | some expired =>
          rw [lookup_erase waiting] at held
          split_ifs at held with other
          refine ⟨held, ?_⟩
          simp [excuses, waiting, Ne.symm other]

/-- A step that neither excuses the absence of a session nor is overtaken leaves the
session as it is. -/
theorem held_step
    {label : Label}
    {sid : String}
    {current : SessionPrincipal}
    (well : WellFormed system)
    (held : system.sessions.lookup sid = some current)
    (onTime : overtaken system label = false)
    (unexcused : excuses sid current.principal system label = false) :
    (step system label).sessions.lookup sid = some current := by
  cases label with
  | store other stored nowS order =>
      simp only [excuses, Bool.or_eq_false_iff, decide_eq_false_iff_not] at unexcused
      simp only [step, lookup_storeSessionPrincipal well.fits]
      rw [if_neg unexcused.2, if_neg (Ne.symm unexcused.1)]
      exact held
  | read row =>
      rw [sessions_read]
      exact held
  | erase check =>
      cases waiting : system.expiredChecks.lookup check with
      | none =>
          simp only [step, waiting]
          exact held
      | some expired =>
          rw [lookup_erase waiting]
          split_ifs with same
          · -- The copy is expired, so it is not the principal that is held.
            subst same
            have copyExpired := well.expired check expired waiting
            simp only [overtaken, excuses, principalOf, waiting, held, Option.map_some,
              decide_true, Bool.true_and, Bool.and_eq_false_iff,
              decide_eq_false_iff_not, not_not, Bool.not_eq_false']
              at onTime unexcused
            rcases onTime with unread | isExpired
            · rw [unread, copyExpired] at unexcused
              cases unexcused
            · rw [isExpired] at unexcused
              cases unexcused
          · exact held

/-- Whatever a session holds was stored for it, and nothing since excuses its
absence. -/
theorem stored_of_held
    {labels : List Label}
    {sid : String}
    {current : SessionPrincipal}
    (held : (run labels).sessions.lookup sid = some current) :
    ∃ before order later,
      labels = before ++ .store sid current.principal current.updatedAtS order :: later ∧
      Machine.AllSteps step
        (fun system label => excuses sid current.principal system label = false)
        (run (before ++ [.store sid current.principal current.updatedAtS order]))
        later := by
  induction labels using List.reverseRecOn with
  | nil => cases held
  | append_singleton labels label inductionHypothesis =>
      rw [run, Machine.run_append] at held
      rcases stored_or_held_of_step (run_wellFormed labels) held with
        ⟨order, rfl⟩ | ⟨earlier, unexcused⟩
      · exact ⟨labels, order, [], rfl, trivial⟩
      · obtain ⟨before, order, later, rfl, steps⟩ := inductionHypothesis earlier
        refine ⟨before, order, later ++ [label], by simp, ?_⟩
        rw [Machine.allSteps_append]
        refine ⟨steps, ?_, trivial⟩
        rw [← Machine.run_append, List.append_assoc]
        exact unexcused

/-! ## Fresh principals -/

theorem held_of_allSteps
    {later : List Label}
    {sid : String}
    {current : SessionPrincipal}
    (well : WellFormed system)
    (held : system.sessions.lookup sid = some current)
    (onTime : Machine.AllSteps step
      (fun system label => overtaken system label = false) system later)
    (unexcused : Machine.AllSteps step
      (fun system label => excuses sid current.principal system label = false)
      system later) :
    (Machine.run step system later).sessions.lookup sid = some current := by
  induction later generalizing system with
  | nil => exact held
  | cons label later inductionHypothesis =>
      exact inductionHypothesis (step_wellFormed label well)
        (held_step well held onTime.1 unexcused.1) onTime.2 unexcused.2

theorem held_store
    {sid : String}
    {principal : Principal}
    {nowS : Int}
    {order : IterationOrder String SessionPrincipal}
    (well : WellFormed system)
    (keepsOwn : evictsItself system (.store sid principal nowS order) = false) :
    (step system (.store sid principal nowS order)).sessions.lookup sid =
      some { principal, updatedAtS := nowS } := by
  dsimp only [step]
  rw [lookup_storeSessionPrincipal well.fits, if_neg (of_decide_eq_false keepsOwn),
    if_pos rfl]

variable {labels before after : List Label} {label : Label}

theorem evictsItself_eq_false
    (keeps : KeepsFreshPrincipals labels)
    (split : labels = before ++ label :: after) :
    evictsItself (run before) label = false := by
  cases label with
  | store sid principal nowS order =>
      rw [← Bool.not_eq_true]
      intro evicts
      have kept := keeps before sid principal nowS order [] after split trivial
      rw [run, Machine.run_append, Machine.run_cons, Machine.run_nil] at kept
      simp only [step, lookup_storeSessionPrincipal (run_wellFormed before).fits] at kept
      rw [if_pos (of_decide_eq_true evicts)] at kept
      cases kept
  | read row => rfl
  | erase check => rfl

theorem overtaken_eq_false
    (keeps : KeepsFreshPrincipals labels)
    (split : labels = before ++ label :: after) :
    overtaken (run before) label = false := by
  cases label with
  | store sid principal nowS order => rfl
  | read row => rfl
  | erase check =>
      rw [← Bool.not_eq_true]
      intro isOvertaken
      cases waiting : (run before).expiredChecks.lookup check with
      | none => simp [overtaken, waiting] at isOvertaken
      | some expired =>
          cases held : (run before).sessions.lookup expired.sid with
          | none => simp [overtaken, principalOf, waiting, held] at isOvertaken
          | some current =>
              simp only [overtaken, principalOf, waiting, held, Option.map_some,
                Bool.and_eq_true, Bool.not_eq_true'] at isOvertaken
              -- The principal was stored and, not being expired, should have stayed.
              obtain ⟨earlier, order, later, rfl, unexcused⟩ := stored_of_held held
              have kept := keeps earlier expired.sid current.principal
                current.updatedAtS order (later ++ [.erase check]) after
                (by simpa using split)
                ((Machine.allSteps_append step).mpr ⟨unexcused, by
                  rw [← Machine.run_append, List.append_assoc]
                  simp [Machine.AllSteps, excuses, waiting, isOvertaken.2]⟩)
              rw [← List.cons_append, ← List.append_assoc, run,
                Machine.run_append] at kept
              have erased := lookup_erase waiting expired.sid
              rw [if_pos rfl] at erased
              rw [Machine.run_cons, Machine.run_nil, erased] at kept
              cases kept

/-- A run keeps the fresh principals exactly if no store evicts its own session and
no erase is overtaken. -/
theorem keepsFreshPrincipals_iff (labels : List Label) :
    KeepsFreshPrincipals labels ↔
      Machine.AllSteps step
        (fun system label =>
          evictsItself system label = false ∧ overtaken system label = false)
        {} labels := by
  constructor
  · intro keeps
    rw [Machine.allSteps_iff_forall_split]
    intro before label after split
    exact ⟨evictsItself_eq_false keeps split, overtaken_eq_false keeps split⟩
  · rintro steps before sid principal nowS order later rest rfl unexcused
    rw [Machine.allSteps_append, Machine.AllSteps, Machine.allSteps_append] at steps
    obtain ⟨-, ⟨keepsOwn, -⟩, onTime, -⟩ := steps
    rw [run, Machine.run_append, Machine.run_cons, Machine.run_nil] at unexcused
    rw [run, Machine.run_append, Machine.run_cons]
    have stored : (step (run before) (.store sid principal nowS order)).sessions.lookup
        sid = some { principal, updatedAtS := nowS } :=
      held_store (run_wellFormed before) keepsOwn
    exact held_of_allSteps (step_wellFormed _ (run_wellFormed before)) stored
      (Machine.AllSteps.mono step (fun _ _ guarded => guarded.2) onTime) unexcused

/-- A session that expired at 100 authenticates again at 200, while an authorization
is between its two critical sections. -/
def reauthentication : List Label := [
  .store "s" { subject := "ada", exp := 100 } 0 .stored,
  .read { sid := "s", nowS := 200, skewS := 60 },
  .store "s" { subject := "ada", exp := 1000 } 200 .stored,
  .erase 0]

/-- The new principal is erased with the old one. -/
theorem reauthentication_loses_principal : ¬ KeepsFreshPrincipals reauthentication :=
  fun keeps => absurd
    (keeps [.store "s" { subject := "ada", exp := 100 } 0 .stored,
        .read { sid := "s", nowS := 200, skewS := 60 }]
      "s" { subject := "ada", exp := 1000 } 200 .stored [.erase 0] [] rfl
      ⟨by decide, trivial⟩)
    (by decide)

/-! ## Authorizations -/

/-- A query is authorized only on a principal that was stored for its session, is not
expired, and is allowed by the policy. -/
theorem stored_of_authorized
    {labels : List Label}
    {row : AuthorizationRow}
    (authorized :
      (authorize ((run labels).principalOf row.sid) row).decision = .allow) :
    ∃ before principal nowS order later,
      labels = before ++ .store row.sid principal nowS order :: later ∧
      isPrincipalExpired principal row.nowS row.skewS = false ∧
      (match row.policy with
        | some policy => evaluatePolicy policy principal row.request
        | none => evaluateDefaultPolicy principal row.request.action).decision =
        .allow := by
  unfold authorize at authorized
  split at authorized
  · cases authorized
  · next principal found =>
      obtain ⟨current, held, rfl⟩ := Option.map_eq_some_iff.mp found
      obtain ⟨before, order, later, split, -⟩ := stored_of_held held
      split_ifs at authorized with isExpired
      exact ⟨before, current.principal, current.updatedAtS, order, later, split,
        Bool.eq_false_iff.mpr isExpired, authorized⟩

end System
end Session
end QuackOauth
