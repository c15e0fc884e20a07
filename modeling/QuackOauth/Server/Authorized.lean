import QuackOauth.Server.Provenance

/-!
# Queries and the tokens behind them

A session changes hands only when a token is accepted for it.  So a query that is allowed
is allowed to the principal of the last token accepted for its session, on which everything
rests that the acceptance of that token rested on.
-/

namespace QuackOauth
namespace Server

open Lib Policy Session

namespace System

variable {libraries : Libraries} {system : System} {label : Label} {row : TokenRow}
variable {sid : String} {principal : Principal}

/-- A step that accepts a token for a session stores the principal there. -/
theorem sessionLabel_of_authenticates
    (authenticates : Authenticates libraries row sid principal system label) :
    ∃ order, system.sessionLabel libraries label =
      some (.store sid principal row.nowS order) := by
  obtain ⟨validation, order, decides, stores⟩ := authenticates
  refine ⟨order, ?_⟩
  cases label with
  | proceed number => cases decides
  | checkAuthorization authorized => cases decides
  | checkToken taken taking => simp only [sessionLabel, decides, stores, Option.map_some]
  | jwksResponse request response kids taking =>
      simp only [sessionLabel, decides, stores, Option.map_some]
  | providerResponse request response taking =>
      simp only [sessionLabel, decides, stores, Option.map_some]

/-- Nothing else stores one. -/
theorem authenticates_of_sessionLabel
    {nowS : Int}
    {order : IterationOrder String SessionPrincipal}
    (stored : system.sessionLabel libraries label = some (.store sid principal nowS order)) :
    ∃ row : TokenRow, Authenticates libraries row sid principal system label := by
  cases label with
  | proceed number =>
      simp only [sessionLabel] at stored
      split at stored
      · cases stored
      · obtain ⟨check, -, erases⟩ := Option.map_eq_some_iff.mp stored
        cases erases
  | checkAuthorization authorized => cases stored
  | _ =>
      simp only [sessionLabel] at stored
      split at stored
      · next row validation taking decides =>
          obtain ⟨kept, stores, same⟩ := Option.map_eq_some_iff.mp stored
          cases same
          exact ⟨row, validation, _, decides, stores⟩
      · cases stored

/-- A session that is there after a step belongs to the token that the step accepted for
it, or it was there before and the step accepted none for it. -/
theorem authenticated_or_held
    (well : Session.System.WellFormed system.sessions)
    (held : (step libraries system label).sessions.principalOf sid = some principal) :
    (∃ row, Authenticates libraries row sid principal system label) ∨
      system.sessions.principalOf sid = some principal ∧
        ∀ row other, ¬Authenticates libraries row sid other system label := by
  have stepped : (step libraries system label).sessions =
      Machine.run Session.System.step system.sessions
        (system.sessionLabel libraries label).toList :=
    drives_sessions system label
  obtain ⟨current, found, rfl⟩ := Option.map_eq_some_iff.mp held
  rw [stepped] at found
  cases handed : system.sessionLabel libraries label with
  | none =>
      rw [handed] at found
      refine .inr ⟨Option.map_eq_some_iff.mpr ⟨current, found, rfl⟩, ?_⟩
      intro row other authenticates
      obtain ⟨order, stores⟩ := sessionLabel_of_authenticates authenticates
      rw [handed] at stores
      cases stores
  | some sessionLabel =>
      rw [handed, Option.toList_some, Machine.run_cons, Machine.run_nil] at found
      rcases Session.System.stored_or_held_of_step well found with
        ⟨order, rfl⟩ | ⟨earlier, unexcused⟩
      · exact .inl (authenticates_of_sessionLabel handed)
      · refine .inr ⟨Option.map_eq_some_iff.mpr ⟨current, earlier, rfl⟩, ?_⟩
        intro row other authenticates
        obtain ⟨order, stores⟩ := sessionLabel_of_authenticates authenticates
        rw [handed] at stores
        cases stores
        simp [Session.System.excuses] at unexcused

/-- The session map of a run is well formed. -/
theorem sessions_wellFormed
    (startup : Startup)
    (labels : List Label) :
    Session.System.WellFormed (run libraries (initial startup) labels).sessions := by
  rw [drives_sessions.run]
  exact Session.System.run_wellFormed _

/-- The principal of a session is that of the last token accepted for it. -/
theorem since_authenticates
    {startup : Startup}
    {labels : List Label}
    (held : (run libraries (initial startup) labels).sessions.principalOf sid =
      some principal) :
    Machine.Since (step libraries)
      (fun system label => ∃ row, Authenticates libraries row sid principal system label)
      (fun system label => ∀ row other, ¬Authenticates libraries row sid other system label)
      (initial startup) labels := by
  have wellFormed : Machine.AllSteps (step libraries)
      (fun system _ => Session.System.WellFormed system.sessions) (initial startup)
      labels := by
    rw [Machine.allSteps_iff_forall_split]
    intro before label after split
    exact sessions_wellFormed startup before
  refine Machine.since_of_tracks (step libraries)
    (fun system => system.sessions.principalOf sid = some principal)
    (fun system label well tracked => authenticated_or_held well tracked) wellFormed ?_ held
  intro atStart
  cases atStart

/-- What the policy of a row grants to a principal. -/
structure Grants (row : AuthorizationRow) (principal : Principal) : Prop where
  fresh : isPrincipalExpired principal row.nowS row.skewS = false
  loaded : row.policyLoadFailed = false
  safe : row.request.isUnsafe = false
  allowed : (match row.policy with
    | some policy => evaluatePolicy policy principal row.request
    | none => evaluateDefaultPolicy principal row.request.action).decision = .allow

/-- A query is allowed to the principal of its session, if the policy grants it. -/
theorem grants_of_authorize
    {found : Option Principal}
    {row : AuthorizationRow}
    (allows : (authorize found row).decision = .allow) :
    ∃ principal, found = some principal ∧ Grants row principal := by
  unfold authorize at allows
  split at allows
  · cases allows
  · next principal =>
      split_ifs at allows with isExpired failed isUnsafe
      exact ⟨principal, rfl, {
        fresh := Bool.eq_false_iff.mpr isExpired
        loaded := Bool.eq_false_iff.mpr failed
        safe := Bool.eq_false_iff.mpr isUnsafe
        allowed := allows }⟩

/-- A query is decided on what the session map holds for it. -/
theorem query_of_verdictOf
    {row : AuthorizationRow}
    {found : Option Principal}
    {outcome : PolicyOutcome}
    (decides : system.verdictOf libraries label = some (.query row found outcome)) :
    found = system.sessions.principalOf row.sid ∧ outcome = authorize found row := by
  cases label with
  | checkAuthorization authorized =>
      cases decides
      exact ⟨rfl, rfl⟩
  | checkToken taken taking =>
      simp only [verdictOf] at decides
      split at decides
      · split at decides <;> cases decides
      · split at decides <;> cases decides
  | jwksResponse request response kids taking =>
      simp only [verdictOf] at decides
      split at decides <;> cases decides
  | providerResponse request response taking =>
      simp only [verdictOf] at decides
      split at decides <;> cases decides
  | proceed number => cases decides

/-- A query is allowed only to the principal of the last token accepted for its session,
and only with what the token's acceptance rested on behind it. -/
theorem authorized_backed
    (libraries : Libraries)
    (startup : Startup)
    (labels : List Label)
    (label : Label)
    (row : AuthorizationRow)
    (found : Option Principal)
    (outcome : PolicyOutcome)
    (decides : (run libraries (initial startup) labels).verdictOf libraries label =
      some (.query row found outcome))
    (allows : outcome.decision = .allow) :
    ∃ principal before authentication after tokenRow,
      found = some principal ∧
      labels = before ++ authentication :: after ∧
      Authenticates libraries tokenRow row.sid principal
        (run libraries (initial startup) before) authentication ∧
      Machine.AllSteps (step libraries)
        (fun system label => ∀ other stored,
          ¬Authenticates libraries other row.sid stored system label)
        (run libraries (initial startup) (before ++ [authentication])) after ∧
      Backed libraries startup (before ++ [authentication]) tokenRow principal ∧
      Grants row principal := by
  obtain ⟨isFound, isOutcome⟩ := query_of_verdictOf decides
  rw [isOutcome] at allows
  obtain ⟨principal, held, grants⟩ := grants_of_authorize allows
  obtain ⟨before, authentication, after, split, ⟨tokenRow, authenticates⟩, keeps⟩ :=
    Machine.since_iff_exists_split.mp (since_authenticates (isFound.symm.trans held))
  refine ⟨principal, before, authentication, after, tokenRow, held, split, authenticates,
    keeps, ?_, grants⟩
  obtain ⟨validation, order, accepted, stores⟩ := authenticates
  obtain ⟨-, -, accepts, isStored⟩ := storesSession_eq_some stores
  obtain ⟨known, isKnown, backed⟩ := backed_of_accepted accepted accepts
  rw [isStored] at isKnown
  obtain rfl := Option.some.inj isKnown
  exact backed

/-- A query of the session, under a policy without rules. -/
def sampleQuery : AuthorizationRow where
  sid := "s"
  nowS := 1001
  skewS := 60
  policy := some { defaultAllow := true }

theorem authorized_backed_sample :
    ∃ principal before authentication after tokenRow,
      some {} = some principal ∧
      sampleAuthentication = before ++ authentication :: after ∧
      Authenticates sampleLibraries tokenRow "s" principal
        (run sampleLibraries (initial sampleStartup) before) authentication ∧
      Machine.AllSteps (step sampleLibraries)
        (fun system label => ∀ other stored,
          ¬Authenticates sampleLibraries other "s" stored system label)
        (run sampleLibraries (initial sampleStartup) (before ++ [authentication])) after ∧
      Backed sampleLibraries sampleStartup (before ++ [authentication]) tokenRow principal ∧
      Grants sampleQuery principal :=
  authorized_backed sampleLibraries sampleStartup sampleAuthentication
    (.checkAuthorization sampleQuery) sampleQuery (some {})
    { decision := .allow, reason := "default allow" } (by rfl) rfl

end System
end Server
end QuackOauth
