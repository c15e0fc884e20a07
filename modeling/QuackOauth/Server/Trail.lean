import QuackOauth.Server.Waiting

/-!
# The audit trail

Rows push their audit events after they have decided, with others in between.  However
the rows are interleaved, the events pushed in a run and those still on their way are the
events of the run's verdicts: none is lost, none is made up, and none is told twice.
-/

namespace QuackOauth
namespace Server

open Lib Jwks Jwt Policy Session Audit

/-- A report pushes what it does not keep. -/
theorem Report.events_eq (report : Report) :
    report.events = report.pushes.toList ++ (report.next.elim [] Report.events) := by
  obtain ⟨verdict, check, events⟩ := report
  unfold Report.pushes Report.next
  cases check with
  | some check => rfl
  | none =>
      cases events with
      | nil => rfl
      | cons event rest =>
          cases rest with
          | nil => rfl
          | cons second rest => rfl

namespace System

variable {libraries : Libraries} {system : System}

/-- The events that rows are on their way to push. -/
def backlog (system : System) : List AuditEvent :=
  UnorderedMap.openItems Report.events system.reports

/-- No report has a number that is still to be given out. -/
def Numbered (system : System) : Prop :=
  ∀ number, system.nextReport ≤ number → system.reports.lookup number = none

theorem reportsAfter_proceed (number : Nat) :
    system.reportsAfter libraries (.proceed number) =
      match system.reports.lookup number with
      | none => system.reports
      | some report =>
          match report.next with
          | none => system.reports.erase number
          | some next => system.reports.insert number next := rfl

/-- Of the reports only the one that goes on changes, and none is new. -/
theorem lookup_reportsAfter_proceed
    {number other : Nat}
    (absent : system.reports.lookup other = none) :
    (system.reportsAfter libraries (.proceed number)).lookup other = none := by
  rw [reportsAfter_proceed]
  split
  · exact absent
  · next report waiting =>
      have different : other ≠ number := by
        rintro rfl
        rw [absent] at waiting
        cases waiting
      split
      · rw [UnorderedMap.lookup_erase_eq_ite, if_neg different]
        exact absent
      · rw [UnorderedMap.lookup_insert_eq_ite, if_neg different]
        exact absent

/-- A step other than of a report opens a report for its verdict. -/
theorem reportsAfter_eq
    {label : Label}
    (decides : ∀ number, label ≠ .proceed number) :
    system.reportsAfter libraries label =
      match system.verdictOf libraries label with
      | none => system.reports
      | some verdict =>
          system.reports.insert system.nextReport (system.reportOf libraries verdict) := by
  cases label with
  | proceed number => exact absurd rfl (decides number)
  | checkToken row order => rfl
  | jwksResponse request response kids order => rfl
  | providerResponse request response order => rfl
  | checkAuthorization row => rfl

theorem step_numbered
    (label : Label)
    (numbered : Numbered system) :
    Numbered (step libraries system label) := by
  intro number beyond
  have later : system.nextReport ≤ number :=
    le_trans (Nat.le_add_right _ _) beyond
  by_cases proceeds : ∃ report, label = .proceed report
  · obtain ⟨report, rfl⟩ := proceeds
    change (system.reportsAfter libraries (.proceed report)).lookup number = none
    exact lookup_reportsAfter_proceed (numbered number later)
  · change (system.reportsAfter libraries label).lookup number = none
    rw [reportsAfter_eq (not_exists.mp proceeds)]
    cases decided : system.verdictOf libraries label with
    | none => exact numbered number later
    | some verdict =>
        change system.nextReport + (system.verdictOf libraries label).toList.length ≤ number
          at beyond
        rw [decided] at beyond
        have different : number ≠ system.nextReport := Nat.ne_of_gt beyond
        dsimp only
        rw [UnorderedMap.lookup_insert_eq_ite, if_neg different]
        exact numbered number later

/-- A report goes on with what it pushes and what it keeps. -/
theorem backlog_proceed (number : Nat) :
    (backlog system).Perm
      ((system.pushes (.proceed number)).toList ++
        backlog (step libraries system (.proceed number))) := by
  have after : backlog (step libraries system (.proceed number)) =
      UnorderedMap.openItems Report.events (system.reportsAfter libraries (.proceed number)) :=
    rfl
  rw [after, reportsAfter_proceed, pushes]
  cases waiting : system.reports.lookup number with
  | none => exact List.Perm.refl _
  | some report =>
      have opened : (backlog system).Perm
          (report.events ++ UnorderedMap.openItems Report.events
            (system.reports.erase number)) :=
        UnorderedMap.openItems_of_lookup waiting
      rw [report.events_eq, List.append_assoc] at opened
      rw [Option.bind_some]
      refine opened.trans (List.Perm.append_left _ ?_)
      cases continued : report.next with
      | none =>
          dsimp only
          rw [continued]
          exact List.Perm.refl _
      | some next =>
          dsimp only
          rw [continued]
          exact List.Perm.refl _

/-- Every step balances the verdicts' events against those pushed. -/
theorem balances :
    Machine.Balances (step libraries) Numbered (verdictOf libraries)
      (Verdict.audits libraries.redactSensitive) pushes backlog := by
  intro system label numbered
  by_cases proceeds : ∃ report, label = .proceed report
  · obtain ⟨report, rfl⟩ := proceeds
    rw [verdictOf, Option.toList_none, List.flatMap_nil, List.append_nil]
    exact backlog_proceed report
  · have silent : system.pushes label = none := by
      cases label with
      | proceed report => exact absurd ⟨report, rfl⟩ proceeds
      | checkToken row order => rfl
      | jwksResponse request response kids order => rfl
      | providerResponse request response order => rfl
      | checkAuthorization row => rfl
    have after : backlog (step libraries system label) =
        UnorderedMap.openItems Report.events (system.reportsAfter libraries label) := rfl
    rw [silent, Option.toList_none, List.nil_append, after,
      reportsAfter_eq (not_exists.mp proceeds)]
    cases system.verdictOf libraries label with
    | none =>
        rw [Option.toList_none, List.flatMap_nil, List.append_nil]
        exact List.Perm.refl _
    | some verdict =>
        have opened : (UnorderedMap.openItems Report.events
            (system.reports.insert system.nextReport (system.reportOf libraries verdict))).Perm
            (backlog system ++ verdict.audits libraries.redactSensitive) :=
          UnorderedMap.openItems_insert_new (numbered system.nextReport (le_refl _))
        rw [Option.toList_some, List.flatMap_singleton]
        exact opened.symm

/-! ## Runs -/

/-- The verdicts of a run. -/
def verdicts (libraries : Libraries) : System → List Label → List Verdict :=
  Machine.observations (step libraries) (verdictOf libraries)

/-- The events that the verdicts of a run call for. -/
def owed (libraries : Libraries) (start : System) (labels : List Label) : List AuditEvent :=
  (verdicts libraries start labels).flatMap (Verdict.audits libraries.redactSensitive)

/-- The events pushed in a run, the oldest first. -/
def trail (libraries : Libraries) : System → List Label → List AuditEvent :=
  Machine.observations (step libraries) pushes

variable {startup : Startup} {labels : List Label}

theorem initial_numbered (startup : Startup) : Numbered (initial startup) :=
  fun _ _ => rfl

theorem run_numbered (labels : List Label) :
    Numbered (run libraries (initial startup) labels) :=
  Machine.run_invariant (step libraries) (fun _ => step_numbered) labels
    (initial_numbered startup)

/-- What is owed was pushed or is on its way. -/
theorem owed_perm (libraries : Libraries) (startup : Startup) (labels : List Label) :
    (owed libraries (initial startup) labels).Perm
      (trail libraries (initial startup) labels ++
        backlog (run libraries (initial startup) labels)) :=
  balances.run (fun _ => step_numbered) (initial_numbered startup) labels

/-- The ring has taken in the trail. -/
theorem auditRing_run (libraries : Libraries) (start : System) (labels : List Label) :
    (run libraries start labels).auditRing =
      start.auditRing.pushAll (trail libraries start labels) :=
  drives_auditRing.run start labels

/-- A ring shows the last of the events pushed. -/
theorem snapshot_run
    {allocMax : Nat}
    {capacity : UInt64}
    (created : AuditRing.create allocMax capacity = some startup.auditRing) :
    (run libraries (initial startup) labels).auditRing.snapshot =
      (trail libraries (initial startup) labels).rtake (max capacity.toNat 1) := by
  rw [auditRing_run, AuditRing.snapshot_eq_contents]
  exact (AuditRing.pushAll_represents created _).contents_eq

/-- The ring shows the last of the events pushed, and these are, with the events still on
their way, exactly the events that the run's verdicts call for. -/
theorem auditRing_tells
    (libraries : Libraries)
    (startup : Startup)
    (allocMax : Nat)
    (capacity : UInt64)
    (created : AuditRing.create allocMax capacity = some startup.auditRing)
    (labels : List Label) :
    (trail libraries (initial startup) labels ++
        backlog (run libraries (initial startup) labels)).Perm
      (owed libraries (initial startup) labels) ∧
      (run libraries (initial startup) labels).auditRing.snapshot =
        (trail libraries (initial startup) labels).rtake
          (min (trail libraries (initial startup) labels).length (max capacity.toNat 1)) := by
  refine ⟨(owed_perm libraries startup labels).symm, ?_⟩
  rw [BoundedQueue.rtake_min_length]
  exact snapshot_run created

/-- Of three events that are owed one has left the ring, one is shown, and one is on its
way. -/
theorem auditRing_tells_sample :
    (trail sampleLibraries (initial sampleStartup) sampleBusy).length = 2 ∧
      (backlog (run sampleLibraries (initial sampleStartup) sampleBusy)).length = 1 ∧
      (trail sampleLibraries (initial sampleStartup) sampleBusy ++
        backlog (run sampleLibraries (initial sampleStartup) sampleBusy)).Perm
        (owed sampleLibraries (initial sampleStartup) sampleBusy) ∧
      (run sampleLibraries (initial sampleStartup) sampleBusy).auditRing.snapshot =
        (trail sampleLibraries (initial sampleStartup) sampleBusy).rtake
          (min (trail sampleLibraries (initial sampleStartup) sampleBusy).length
            (max (1 : UInt64).toNat 1)) :=
  ⟨rfl, rfl, auditRing_tells sampleLibraries sampleStartup 100 1 rfl sampleBusy⟩

/-! ## Rows return -/

/-- How many more steps a report takes. -/
def rounds (report : Report) : Nat :=
  report.check.toList.length + max 1 report.events.length

/-- How many more steps some reports take. -/
def pendingOf (reports : UnorderedMap Nat Report) : Nat :=
  (UnorderedMap.openItems (fun report => List.replicate (rounds report) ()) reports).length

/-- How many more steps all reports take. -/
def pending (system : System) : Nat :=
  pendingOf system.reports

/-- A report that goes on takes fewer steps from then on. -/
theorem rounds_next
    {report next : Report}
    (continued : report.next = some next) :
    rounds next < rounds report := by
  obtain ⟨verdict, check, events⟩ := report
  unfold Report.next at continued
  cases check with
  | some check =>
      cases continued
      simp [rounds]
  | none =>
      cases events with
      | nil => cases continued
      | cons event rest =>
          cases rest with
          | nil => cases continued
          | cons second rest =>
              cases continued
              simp [rounds]

theorem rounds_pos (report : Report) : 0 < rounds report := by
  unfold rounds
  omega

theorem pendingOf_of_lookup
    {reports : UnorderedMap Nat Report}
    {number : Nat}
    {report : Report}
    (waiting : reports.lookup number = some report) :
    pendingOf reports = rounds report + pendingOf (reports.erase number) := by
  have opened : (UnorderedMap.openItems (fun report => List.replicate (rounds report) ())
      reports).Perm (List.replicate (rounds report) () ++ UnorderedMap.openItems
        (fun report => List.replicate (rounds report) ()) (reports.erase number)) :=
    UnorderedMap.openItems_of_lookup waiting
  rw [pendingOf, opened.length_eq, List.length_append, List.length_replicate, pendingOf]

theorem pendingOf_insert
    {reports : UnorderedMap Nat Report}
    {number : Nat}
    {report : Report} :
    pendingOf (reports.insert number report) =
      rounds report + pendingOf (reports.erase number) := by
  rw [pendingOf, UnorderedMap.openItems_insert, List.length_append, List.length_replicate,
    pendingOf]

/-- The reports take fewer steps once one of them has gone on. -/
theorem pending_proceed
    {number : Nat}
    {report : Report}
    (waiting : system.reports.lookup number = some report) :
    pending (step libraries system (.proceed number)) < pending system := by
  have after : pending (step libraries system (.proceed number)) =
      pendingOf (system.reportsAfter libraries (.proceed number)) := rfl
  rw [after, reportsAfter_proceed, pending, pendingOf_of_lookup waiting, waiting]
  dsimp only
  cases continued : report.next with
  | none => exact Nat.lt_add_of_pos_left (rounds_pos report)
  | some next =>
      dsimp only
      rw [pendingOf_insert]
      exact Nat.add_lt_add_right (rounds_next continued) _

/-- A row that has decided is there to go on. -/
def GoesOn (system : System) : Label → Prop
  | .proceed number => (system.reports.lookup number).isSome = true
  | _ => False

/-- Rows that have decided go on no more often than they have steps to take. -/
theorem length_le_pending
    {numbers : List Nat}
    (goOn : Machine.AllSteps (step libraries) GoesOn system (numbers.map .proceed)) :
    numbers.length ≤ pending system := by
  induction numbers generalizing system with
  | nil => exact Nat.zero_le _
  | cons number numbers inductionHypothesis =>
      obtain ⟨report, waiting⟩ := Option.isSome_iff_exists.mp goOn.1
      have fewer : pending (step libraries system (.proceed number)) < pending system :=
        pending_proceed waiting
      have rest := inductionHypothesis goOn.2
      rw [List.length_cons]
      omega

/-- Where no row is there to go on, nothing is left to push. -/
theorem backlog_eq_nil
    (returned : ∀ number, ¬GoesOn system (.proceed number)) :
    backlog system = [] := by
  have noneWaits : system.reports.entries = [] := by
    rw [List.eq_nil_iff_forall_not_mem]
    intro entry member
    have waiting : system.reports.lookup entry.1 = some entry.2 :=
      AList.mem_lookup_iff.mpr member
    exact returned entry.1 (by rw [GoesOn, waiting]; rfl)
  rw [backlog, UnorderedMap.openItems, noneWaits, List.flatMap_nil]

/-- Rows that return decide nothing. -/
theorem verdicts_proceed (start : System) (numbers : List Nat) :
    verdicts libraries start (numbers.map .proceed) = [] := by
  induction numbers generalizing start with
  | nil => rfl
  | cons number numbers inductionHypothesis => exact inductionHypothesis _

/-- Whatever a run has decided, its rows can only go on so many times, in any order; and
whenever none of them is left to go on, exactly the events that the verdicts call for have
been pushed. -/
theorem trail_completes
    (libraries : Libraries)
    (startup : Startup)
    (labels : List Label) :
    (∀ numbers : List Nat,
      Machine.AllSteps (step libraries) GoesOn (run libraries (initial startup) labels)
        (numbers.map .proceed) →
      numbers.length ≤ pending (run libraries (initial startup) labels)) ∧
    ∀ numbers : List Nat,
      (∀ number, ¬GoesOn
        (run libraries (initial startup) (labels ++ numbers.map .proceed))
        (.proceed number)) →
      (trail libraries (initial startup) (labels ++ numbers.map .proceed)).Perm
        (owed libraries (initial startup) labels) := by
  refine ⟨fun numbers goOn => length_le_pending goOn, fun numbers returned => ?_⟩
  have balanced := owed_perm libraries startup (labels ++ numbers.map .proceed)
  have decided : owed libraries (initial startup) (labels ++ numbers.map .proceed) =
      owed libraries (initial startup) labels := by
    rw [owed, verdicts, Machine.observations_append]
    change (_ ++ verdicts _ _ _).flatMap _ = _
    rw [verdicts_proceed, List.append_nil]
    rfl
  rw [decided, backlog_eq_nil returned, List.append_nil] at balanced
  exact balanced.symm

/-- The one event of the sample is pushed in one step, and then the row has returned. -/
theorem trail_completes_sample :
    [0].length ≤ pending (run sampleLibraries (initial sampleStartup) sampleAuthentication) ∧
      (trail sampleLibraries (initial sampleStartup) sampleReturn).Perm
        (owed sampleLibraries (initial sampleStartup) sampleAuthentication) := by
  have completes := trail_completes sampleLibraries sampleStartup sampleAuthentication
  refine ⟨completes.1 [0] ⟨rfl, trivial⟩, completes.2 [0] fun number goesOn => ?_⟩
  cases goesOn

end System
end Server
end QuackOauth
