import QuackOauth.Server.Trail

/-!
# What the operator is shown

The diagnosis counts the events of the audit ring by kind.  The counts are of verdicts:
together with the events that have left the ring and those still on their way they come to
what the rows of the run have decided, and every event in the ring is counted once.
-/

namespace QuackOauth
namespace Server

open Lib Jwks Jwt Policy Session Audit
open Validator (RefreshReason RefreshEvent Response refreshEvent)

/-- The counts of recent decisions. -/
@[ext]
structure RecentDecisions where
  accepts : Nat := 0
  rejects : Nat := 0
  allows : Nat := 0
  denies : Nat := 0
  refreshes : Nat := 0
  refreshNoops : Nat := 0
  refreshFailures : Nat := 0
  deriving DecidableEq, Repr

/-- Whether a reason is one of some. -/
def isReason (reason : List UInt8) (reasons : List RefreshReason) : Bool :=
  reasons.any fun known => reason = bytesOf known.toString

/-- Count a refresh by its reason. -/
def countRefresh (counts : RecentDecisions) (reason : List UInt8) : RecentDecisions :=
  if isReason reason [.rotated, .revoked, .kidAbsent, .kidEvicted] then
    { counts with refreshes := counts.refreshes + 1 }
  else if isReason reason [.noRotation, .superseded] then
    { counts with refreshNoops := counts.refreshNoops + 1 }
  else if !isReason reason [.throttled, .budgetThrottled] then
    { counts with refreshFailures := counts.refreshFailures + 1 }
  else counts

/-- Count one event. -/
def countEvent (counts : RecentDecisions) (e : AuditEvent) : RecentDecisions :=
  match e.eventType with
  | .tokenAccepted => { counts with accepts := counts.accepts + 1 }
  | .tokenRejected => { counts with rejects := counts.rejects + 1 }
  | .authzAllow => { counts with allows := counts.allows + 1 }
  | .authzDeny => { counts with denies := counts.denies + 1 }
  | .jwksRefresh => countRefresh counts e.reason

/-- Count the events of a snapshot. -/
def recentDecisions (snap : List AuditEvent) : RecentDecisions :=
  snap.foldl countEvent {}

/-! ## Counts add up -/

namespace RecentDecisions

instance : Zero RecentDecisions := ⟨{}⟩

instance : Add RecentDecisions where
  add first second := {
    accepts := first.accepts + second.accepts
    rejects := first.rejects + second.rejects
    allows := first.allows + second.allows
    denies := first.denies + second.denies
    refreshes := first.refreshes + second.refreshes
    refreshNoops := first.refreshNoops + second.refreshNoops
    refreshFailures := first.refreshFailures + second.refreshFailures }

instance : AddCommMonoid RecentDecisions where
  add_assoc first second third := by
    ext <;> exact Nat.add_assoc _ _ _
  zero_add counts := by
    ext <;> exact Nat.zero_add _
  add_zero counts := rfl
  add_comm first second := by
    ext <;> exact Nat.add_comm _ _
  nsmul := nsmulRec

/-- How many events the counts are of. -/
def total (counts : RecentDecisions) : Nat :=
  counts.accepts + counts.rejects + counts.allows + counts.denies + counts.refreshes +
    counts.refreshNoops + counts.refreshFailures

theorem total_add (first second : RecentDecisions) :
    (first + second).total = first.total + second.total := by
  change (_ + _) + (_ + _) + (_ + _) + (_ + _) + (_ + _) + (_ + _) + (_ + _) = _
  unfold total
  omega

end RecentDecisions

/-- What an event adds to the counts. -/
def eventTally (e : AuditEvent) : RecentDecisions :=
  countEvent {} e

theorem countRefresh_eq_add (counts : RecentDecisions) (reason : List UInt8) :
    countRefresh counts reason = counts + countRefresh {} reason := by
  unfold countRefresh
  split_ifs <;> rfl

theorem countEvent_eq_add (counts : RecentDecisions) (e : AuditEvent) :
    countEvent counts e = counts + eventTally e := by
  unfold eventTally countEvent
  cases e.eventType with
  | jwksRefresh => exact countRefresh_eq_add counts e.reason
  | _ => rfl

theorem recentDecisions_eq_tally (snap : List AuditEvent) :
    recentDecisions snap = tally eventTally snap := by
  rw [recentDecisions, foldl_eq_add_tally countEvent_eq_add]
  exact zero_add _

/-! ## What a verdict adds -/

/-- What a refresh adds to the counts. -/
def refreshTally : RefreshReason → RecentDecisions
  | .rotated | .revoked | .kidAbsent | .kidEvicted => { refreshes := 1 }
  | .noRotation | .superseded => { refreshNoops := 1 }
  | .fetchFailed | .parseFailed => { refreshFailures := 1 }
  | .throttled | .budgetThrottled | .none => {}

/-- What a verdict adds to the counts, with the refresh that it came with. -/
def verdictTally : Verdict → RecentDecisions
  | .token _ validation _ =>
      (if validation.outcome = .ok then { accepts := 1 } else { rejects := 1 }) +
        (if validation.refreshKid ≠ "" then refreshTally validation.refreshReasonEnum else 0)
  | .query _ _ outcome =>
      if outcome.decision = .allow then { allows := 1 } else { denies := 1 }

/-- The text of the reason is that of the reason. -/
def RowValidation.Told (validation : RowValidation) : Prop :=
  validation.refreshReason = validation.refreshReasonEnum.toString

def Verdict.Told : Verdict → Prop
  | .token _ validation _ => validation.Told
  | .query _ _ _ => True

variable {redactSensitive : String → String} {row : TokenRow} {validation : RowValidation}

/-- A refresh that is told of counts for its reason. -/
theorem countRefresh_toString
    {reason : RefreshReason}
    (isTold : shouldAudit reason = true) :
    countRefresh {} (bytesOf reason.toString) = refreshTally reason := by
  revert isTold
  cases reason <;> decide

/-- Refreshes that are not told of do not count. -/
theorem refreshTally_eq_zero
    {reason : RefreshReason}
    (untold : ¬shouldAudit reason = true) :
    refreshTally reason = 0 := by
  cases reason <;> first | rfl | exact absurd rfl untold

theorem tally_refreshAudit (told : validation.Told) :
    tally eventTally (refreshAudit redactSensitive row validation).toList =
      if validation.refreshKid ≠ "" then refreshTally validation.refreshReasonEnum
      else 0 := by
  unfold refreshAudit
  by_cases isTold : shouldAudit validation.refreshReasonEnum = true
  · by_cases named : validation.refreshKid ≠ ""
    · have counted := countRefresh_toString isTold
      rw [if_pos ⟨named, isTold⟩, if_pos named, ← counted, ← told]
      exact add_zero _
    · rw [if_neg fun both => named both.1, if_neg named]
      rfl
  · rw [if_neg fun both => isTold both.2, refreshTally_eq_zero isTold, ite_self]
    rfl

/-- The event of a verdict on a token counts for the verdict. -/
theorem eventTally_tokenAudit :
    eventTally (tokenAudit redactSensitive row validation) =
      if validation.outcome = .ok then { accepts := 1 } else { rejects := 1 } := by
  unfold eventTally countEvent tokenAudit
  by_cases accepted : validation.outcome = .ok
  · simp only [if_pos accepted]
  · simp only [if_neg accepted]

/-- The events of a verdict count for the verdict. -/
theorem tally_audits
    {verdict : Verdict}
    (told : verdict.Told) :
    tally eventTally (verdict.audits redactSensitive) = verdictTally verdict := by
  cases verdict with
  | token row validation order =>
      rw [Verdict.audits, tokenAudits, ← List.singleton_append, tally_append,
        tally_refreshAudit told, verdictTally, ← eventTally_tokenAudit]
      congr 1
  | query row found outcome =>
      rw [Verdict.audits, verdictTally]
      unfold tally
      rw [List.map_singleton, List.sum_singleton]
      unfold eventTally countEvent authzAudit
      by_cases allowed : outcome.decision = .allow
      · simp only [if_pos allowed]
      · simp only [if_neg allowed]

/-- A list of which every event counts once. -/
theorem total_recentDecisions
    {snap : List AuditEvent}
    (once : ∀ e ∈ snap, (eventTally e).total = 1) :
    (recentDecisions snap).total = snap.length := by
  rw [recentDecisions_eq_tally]
  induction snap with
  | nil => rfl
  | cons e snap inductionHypothesis =>
      have others := inductionHypothesis fun other member =>
        once other (List.mem_cons_of_mem e member)
      have split : tally eventTally (e :: snap) = eventTally e + tally eventTally snap := rfl
      rw [split, RecentDecisions.total_add, once e List.mem_cons_self, others,
        List.length_cons, Nat.add_comm]

theorem total_refreshTally
    {reason : RefreshReason}
    (isTold : shouldAudit reason = true) :
    (refreshTally reason).total = 1 := by
  revert isTold
  cases reason <;> decide

/-- Every event of a verdict counts once. -/
theorem total_eventTally
    {verdict : Verdict}
    {e : AuditEvent}
    (told : verdict.Told)
    (member : e ∈ verdict.audits redactSensitive) :
    (eventTally e).total = 1 := by
  cases verdict with
  | token row validation order =>
      rcases List.mem_cons.mp member with rfl | refresh
      · rw [eventTally_tokenAudit]
        split <;> rfl
      · rw [Option.mem_toList, refreshAudit] at refresh
        split at refresh
        · next isTold =>
            cases refresh
            have counted := countRefresh_toString isTold.2
            rw [← told] at counted
            change (countRefresh {} (bytesOf validation.refreshReason)).total = 1
            rw [counted]
            exact total_refreshTally isTold.2
        · cases refresh
  | query row found outcome =>
      rw [List.mem_singleton.mp member]
      unfold eventTally countEvent authzAudit
      by_cases allowed : outcome.decision = .allow
      · simp only [if_pos allowed]
        rfl
      · simp only [if_neg allowed]
        rfl

/-! ## Every verdict tells its reason -/

section Reasons

variable {backend : Backend} {call : Validator.Call} {cache : JwksCache}
variable {outcome : Validator.Outcome}

/-- What a call reports is what it was given to fill in, or a refresh with its reason. -/
def Reports (call : Validator.Call) (event : RefreshEvent) : Prop :=
  event = call.refresh ∨ ∃ kid reason, event = refreshEvent kid reason

theorem reports_beginRefresh
    {parsed : JwtParsed}
    {cachedResult : VerifyResult}
    (begun : Validator.beginRefresh call parsed cachedResult cache = .finished outcome) :
    Reports call outcome.refresh := by
  unfold Validator.beginRefresh at begun
  dsimp only at begun
  split_ifs at begun <;> cases begun <;> exact .inr ⟨_, _, rfl⟩

theorem reports_beginValidation
    (begun : Validator.beginValidation backend call cache = .finished outcome) :
    Reports call outcome.refresh := by
  unfold Validator.beginValidation at begun
  dsimp only at begun
  split at begun
  · cases begun
    exact .inl rfl
  · split at begun
    · cases begun
      exact .inl rfl
    split at begun
    · cases begun
      exact .inl rfl
    split at begun
    · -- The kid is cached.
      split at begun
      · split at begun
        · cases begun
          exact .inl rfl
        · exact reports_beginRefresh begun
      · exact reports_beginRefresh begun
    · cases begun
      exact .inr ⟨_, _, rfl⟩
    · split at begun
      · cases begun
        exact .inl rfl
      split at begun
      · cases begun
        exact .inr ⟨_, _, rfl⟩
      · cases begun

theorem reports_commitTargetKid
    (backend : Backend)
    (parked : Validator.Parked)
    (reservationId : Nat)
    (keysByKid : UnorderedMap String (List Jwk))
    (cache : JwksCache) :
    Reports parked.call
      (Validator.commitTargetKid backend parked reservationId keysByKid cache).2.1 := by
  unfold Validator.commitTargetKid
  dsimp only
  split
  · exact .inr ⟨_, _, rfl⟩
  · split
    · exact .inr ⟨_, _, rfl⟩
    · exact .inr ⟨_, _, rfl⟩

theorem reports_finishValidation
    (backend : Backend)
    (parked : Validator.Parked)
    (response : Option Response)
    (kids : IterationOrder String (List Jwk))
    (cache : JwksCache) :
    Reports parked.call
      (Validator.finishValidation backend parked response kids cache).refresh := by
  unfold Validator.finishValidation
  split
  · unfold Validator.finishRefresh
    dsimp only
    split
    · exact .inr ⟨_, _, rfl⟩
    · exact .inr ⟨_, _, rfl⟩
    · exact reports_commitTargetKid backend parked _ _ _
  · unfold Validator.finishCold
    dsimp only
    split
    · exact .inl rfl
    · exact .inl rfl
    · split
      · exact .inl rfl
      · split <;> exact .inl rfl

/-- A row is told the reason of its refresh. -/
theorem told_signedValidation
    (reports : Reports row.signedCall outcome.refresh) :
    (signedValidation backend row.signedCall outcome).Told := by
  unfold RowValidation.Told signedValidation
  dsimp only
  split
  · rfl
  · rcases reports with isDefault | ⟨kid, reason, isRefresh⟩
    · rw [isDefault]
      rfl
    · rw [isRefresh]
      rfl

end Reasons

namespace System

variable {libraries : Libraries} {system : System} {label : Label} {verdict : Verdict}

theorem told_of_verdictOf
    (waits : Waits system)
    (decides : system.verdictOf libraries label = some verdict) :
    verdict.Told := by
  cases label with
  | proceed number => cases decides
  | checkAuthorization authorized =>
      cases decides
      trivial
  | checkToken taken taking =>
      simp only [verdictOf] at decides
      split at decides
      · split at decides
        · next begun =>
            cases decides
            exact told_signedValidation (reports_beginValidation begun)
        · cases decides
      · split at decides
        · cases decides
          rfl
        · cases decides
  | jwksResponse request response kids taking =>
      simp only [verdictOf] at decides
      split at decides
      · next asking parked waiting parkedFor =>
          cases decides
          obtain ⟨-, other, sameParked, own⟩ := waits.signed request asking waiting
          rw [parkedFor] at sameParked
          obtain rfl := Option.some.inj sameParked
          have reports := reports_finishValidation libraries.backend parked response kids
            system.validations.cache
          rw [own] at reports
          exact told_signedValidation reports
      · cases decides
  | providerResponse request response taking =>
      simp only [verdictOf] at decides
      split at decides
      · cases decides
        rfl
      · cases decides

/-- Every verdict of a run tells the reason of its refresh. -/
theorem told_of_mem_verdicts
    {startup : Startup}
    {labels : List Label}
    (member : verdict ∈ verdicts libraries (initial startup) labels) :
    verdict.Told := by
  obtain ⟨before, label, after, -, decides⟩ :=
    (Machine.mem_observations (step libraries)).mp member
  exact told_of_verdictOf (run_waits libraries startup before) decides

/-- The events owed count for the verdicts. -/
theorem tally_owed (libraries : Libraries) (startup : Startup) (labels : List Label) :
    tally eventTally (owed libraries (initial startup) labels) =
      tally verdictTally (verdicts libraries (initial startup) labels) :=
  tally_flatMap fun _ member => tally_audits (told_of_mem_verdicts member)

/-- What the operator is shown, what has left the ring and what is on its way come to the
verdicts of the run. -/
theorem recentDecisions_conserved
    (libraries : Libraries)
    (startup : Startup)
    (allocMax : Nat)
    (capacity : UInt64)
    (created : AuditRing.create allocMax capacity = some startup.auditRing)
    (labels : List Label) :
    recentDecisions
        ((trail libraries (initial startup) labels).rdrop (max capacity.toNat 1)) +
      recentDecisions (run libraries (initial startup) labels).auditRing.snapshot +
      recentDecisions (backlog (run libraries (initial startup) labels)) =
    tally verdictTally (verdicts libraries (initial startup) labels) := by
  rw [snapshot_run created]
  simp only [recentDecisions_eq_tally]
  rw [← tally_append, ← tally_append, List.rdrop, List.rtake, List.take_append_drop,
    ← tally_owed]
  exact (tally_perm (owed_perm libraries startup labels)).symm

/-- One token that was accepted has left the ring, one is shown, and one is on its way. -/
theorem recentDecisions_conserved_sample :
    recentDecisions ((trail sampleLibraries (initial sampleStartup) sampleBusy).rdrop
        (max (1 : UInt64).toNat 1)) = { accepts := 1 } ∧
      recentDecisions (backlog (run sampleLibraries (initial sampleStartup) sampleBusy)) =
        { accepts := 1 } ∧
      recentDecisions ((trail sampleLibraries (initial sampleStartup) sampleBusy).rdrop
          (max (1 : UInt64).toNat 1)) +
        recentDecisions
          (run sampleLibraries (initial sampleStartup) sampleBusy).auditRing.snapshot +
        recentDecisions (backlog (run sampleLibraries (initial sampleStartup) sampleBusy)) =
      tally verdictTally (verdicts sampleLibraries (initial sampleStartup) sampleBusy) :=
  ⟨rfl, rfl, recentDecisions_conserved sampleLibraries sampleStartup 100 1 rfl sampleBusy⟩

/-- Every event that the operator is shown is counted once. -/
theorem total_shown
    (libraries : Libraries)
    (startup : Startup)
    (allocMax : Nat)
    (capacity : UInt64)
    (created : AuditRing.create allocMax capacity = some startup.auditRing)
    (labels : List Label) :
    (recentDecisions (run libraries (initial startup) labels).auditRing.snapshot).total =
      (run libraries (initial startup) labels).auditRing.snapshot.length := by
  apply total_recentDecisions
  intro e shown
  rw [snapshot_run created] at shown
  have pushed : e ∈ trail libraries (initial startup) labels :=
    List.mem_of_mem_drop shown
  have isOwed : e ∈ owed libraries (initial startup) labels :=
    (owed_perm libraries startup labels).mem_iff.mpr (List.mem_append_left _ pushed)
  obtain ⟨verdict, decided, member⟩ := List.mem_flatMap.mp isOwed
  exact total_eventTally (told_of_mem_verdicts decided) member

theorem total_shown_sample :
    (recentDecisions
        (run sampleLibraries (initial sampleStartup) sampleBusy).auditRing.snapshot).total =
      (run sampleLibraries (initial sampleStartup) sampleBusy).auditRing.snapshot.length :=
  total_shown sampleLibraries sampleStartup 100 1 rfl sampleBusy

end System
end Server
end QuackOauth
