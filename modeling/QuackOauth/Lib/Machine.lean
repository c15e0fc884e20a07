import Mathlib.Data.List.Induction
import Mathlib.Tactic.Tauto
import Mathlib.Tactic.TypeStar

/-!
# Deterministic machines and their runs

A machine is a step function on states and labels.  Nondeterminism (scheduling,
the answers of the outside world) lives in the labels, so that a run is a list of
labels and "for every interleaving" is a quantifier over such lists.  The module
gives the induction rule used for runs: a predicate kept by every step, or by every
step that meets a guard, holds along the run.
-/

namespace Lib
namespace Machine

variable {State Label : Type*} (step : State → Label → State)

/-- The state after a list of labels. -/
def run (state : State) (labels : List Label) : State :=
  labels.foldl step state

@[simp] theorem run_nil (state : State) : run step state [] = state := rfl

@[simp] theorem run_cons (state : State) (label : Label) (labels : List Label) :
    run step state (label :: labels) = run step (step state label) labels := rfl

theorem run_append (state : State) (first second : List Label) :
    run step state (first ++ second) = run step (run step state first) second :=
  List.foldl_append

/-- Every step of the run, taken in the state the run has reached, meets the guard. -/
def AllSteps (guard : State → Label → Prop) : State → List Label → Prop
  | _, [] => True
  | state, label :: labels =>
      guard state label ∧ AllSteps guard (step state label) labels

/-- A guard that can be tested can be tested along a run. -/
instance AllSteps.decidable
    {guard : State → Label → Prop}
    [∀ state label, Decidable (guard state label)] :
    ∀ state labels, Decidable (AllSteps step guard state labels)
  | _, [] => inferInstanceAs (Decidable True)
  | state, label :: labels =>
      letI : Decidable (AllSteps step guard (step state label) labels) :=
        AllSteps.decidable (step state label) labels
      inferInstanceAs (Decidable
        (guard state label ∧ AllSteps step guard (step state label) labels))

theorem allSteps_append
    {guard : State → Label → Prop}
    {state : State}
    {first second : List Label} :
    AllSteps step guard state (first ++ second) ↔
      AllSteps step guard state first ∧
        AllSteps step guard (run step state first) second := by
  induction first generalizing state with
  | nil => simp [AllSteps]
  | cons label labels inductionHypothesis =>
      simp only [List.cons_append, AllSteps, run_cons, and_assoc,
        inductionHypothesis]

/-- Steps that meet a guard meet a weaker one. -/
theorem AllSteps.mono
    {strong weak : State → Label → Prop}
    (weaker : ∀ state label, strong state label → weak state label)
    {state : State}
    {labels : List Label}
    (guarded : AllSteps step strong state labels) :
    AllSteps step weak state labels := by
  induction labels generalizing state with
  | nil => trivial
  | cons label labels inductionHypothesis =>
      exact ⟨weaker state label guarded.1, inductionHypothesis guarded.2⟩

/-- All steps meet the guard if each does after the labels before it. -/
theorem allSteps_iff_forall_split
    {guard : State → Label → Prop}
    {state : State}
    {labels : List Label} :
    AllSteps step guard state labels ↔
      ∀ before label after, labels = before ++ label :: after →
        guard (run step state before) label := by
  induction labels generalizing state with
  | nil => simp [AllSteps]
  | cons first rest inductionHypothesis =>
      rw [AllSteps, inductionHypothesis]
      constructor
      · rintro ⟨guardedFirst, guardedRest⟩ before label after split
        cases before with
        | nil =>
            obtain ⟨rfl, -⟩ := List.cons.inj split
            exact guardedFirst
        | cons other before =>
            obtain ⟨rfl, restSplit⟩ := List.cons.inj split
            exact guardedRest before label after restSplit
      · intro guarded
        refine ⟨guarded [] first rest rfl, fun before label after split => ?_⟩
        exact guarded (first :: before) label after (by rw [split, List.cons_append])

/-- Every run meets the guard that asks nothing. -/
theorem allSteps_true (state : State) (labels : List Label) :
    AllSteps step (fun _ _ => True) state labels := by
  induction labels generalizing state with
  | nil => trivial
  | cons label labels inductionHypothesis => exact ⟨trivial, inductionHypothesis _⟩

/-- What an observer notes of the steps of a run, in order. -/
def observations {Event : Type*} (observe : State → Label → Option Event) :
    State → List Label → List Event
  | _, [] => []
  | state, label :: labels =>
      (observe state label).toList ++ observations observe (step state label) labels

theorem observations_append
    {Event : Type*}
    {observe : State → Label → Option Event}
    {state : State}
    {first second : List Label} :
    observations step observe state (first ++ second) =
      observations step observe state first ++
        observations step observe (run step state first) second := by
  induction first generalizing state with
  | nil => rfl
  | cons label labels inductionHypothesis =>
      rw [List.cons_append, observations, observations, inductionHypothesis,
        List.append_assoc, run_cons]

theorem observations_append_singleton
    {Event : Type*}
    {observe : State → Label → Option Event}
    {state : State}
    {labels : List Label}
    {label : Label} :
    observations step observe state (labels ++ [label]) =
      observations step observe state labels ++
        (observe (run step state labels) label).toList := by
  rw [observations_append, observations, observations, List.append_nil]

/-- An event was noted of some step of the run. -/
theorem mem_observations
    {Event : Type*}
    {observe : State → Label → Option Event}
    {state : State}
    {labels : List Label}
    {event : Event} :
    event ∈ observations step observe state labels ↔
      ∃ before label after, labels = before ++ label :: after ∧
        observe (run step state before) label = some event := by
  induction labels generalizing state with
  | nil => simp [observations]
  | cons first rest inductionHypothesis =>
      rw [observations, List.mem_append, Option.mem_toList, inductionHypothesis]
      constructor
      · rintro (noted | ⟨before, label, after, rfl, noted⟩)
        · exact ⟨[], first, rest, rfl, noted⟩
        · exact ⟨first :: before, label, after, rfl, noted⟩
      · rintro ⟨before, label, after, split, noted⟩
        cases before with
        | nil =>
            obtain ⟨rfl, -⟩ := List.cons.inj split
            exact .inl noted
        | cons other before =>
            obtain ⟨rfl, restSplit⟩ := List.cons.inj split
            exact .inr ⟨before, label, after, restSplit, noted⟩

/-- A predicate kept by every guarded step holds at the end of a guarded run. -/
theorem run_invariant_of_allSteps
    {guard : State → Label → Prop}
    {invariant : State → Prop}
    (preserved : ∀ state label, guard state label →
      invariant state → invariant (step state label))
    {state : State}
    {labels : List Label}
    (guarded : AllSteps step guard state labels)
    (initially : invariant state) :
    invariant (run step state labels) := by
  induction labels generalizing state with
  | nil => exact initially
  | cons label labels inductionHypothesis =>
      obtain ⟨guardedStep, guardedRest⟩ := guarded
      exact inductionHypothesis guardedRest
        (preserved state label guardedStep initially)

/-- An invariant carries a property from guarded steps to all steps of the run. -/
theorem allSteps_of_invariant
    {guard property : State → Label → Prop}
    {invariant : State → Prop}
    (preserved : ∀ state label, guard state label →
      invariant state → invariant (step state label))
    (holds : ∀ state label, guard state label → invariant state → property state label)
    {state : State}
    {labels : List Label}
    (guarded : AllSteps step guard state labels)
    (initially : invariant state) :
    AllSteps step property state labels := by
  induction labels generalizing state with
  | nil => trivial
  | cons label labels inductionHypothesis =>
      obtain ⟨guardedStep, guardedRest⟩ := guarded
      refine ⟨holds state label guardedStep initially, ?_⟩
      exact inductionHypothesis guardedRest
        (preserved state label guardedStep initially)

/-- A predicate kept by every step holds at the end of every run. -/
theorem run_invariant
    {invariant : State → Prop}
    (preserved : ∀ state label, invariant state → invariant (step state label))
    {state : State}
    (labels : List Label)
    (initially : invariant state) :
    invariant (run step state labels) := by
  apply run_invariant_of_allSteps step _ (allSteps_true step state labels) initially
  intro state label _ holds
  exact preserved state label holds

/-! ## Since -/

/-- Some step of the run was such an event, and every step after it kept to a
condition. -/
def Since (event kept : State → Label → Prop) : State → List Label → Prop
  | _, [] => False
  | state, label :: labels =>
      (event state label ∧ AllSteps step kept (step state label) labels) ∨
        Since event kept (step state label) labels

instance Since.decidable
    {event kept : State → Label → Prop}
    [∀ state label, Decidable (event state label)]
    [∀ state label, Decidable (kept state label)] :
    ∀ state labels, Decidable (Since step event kept state labels)
  | _, [] => inferInstanceAs (Decidable False)
  | state, label :: labels =>
      letI : Decidable (Since step event kept (step state label) labels) :=
        Since.decidable (step state label) labels
      inferInstanceAs (Decidable
        ((event state label ∧ AllSteps step kept (step state label) labels) ∨
          Since step event kept (step state label) labels))

/-- The last step is the event, or it keeps to the condition since an earlier one. -/
theorem since_append_singleton
    {event kept : State → Label → Prop}
    {state : State}
    {labels : List Label}
    {label : Label} :
    Since step event kept state (labels ++ [label]) ↔
      event (run step state labels) label ∨
        Since step event kept state labels ∧ kept (run step state labels) label := by
  induction labels generalizing state with
  | nil => simp [Since, AllSteps]
  | cons first rest inductionHypothesis =>
      simp only [List.cons_append, Since, inductionHypothesis, allSteps_append, AllSteps,
        and_true, run_cons]
      tauto

/-- A stronger event or condition gives a weaker one. -/
theorem Since.mono
    {event kept looseEvent looseKept : State → Label → Prop}
    (eventWeaker : ∀ state label, event state label → looseEvent state label)
    (keptWeaker : ∀ state label, kept state label → looseKept state label)
    {state : State}
    {labels : List Label}
    (since : Since step event kept state labels) :
    Since step looseEvent looseKept state labels := by
  induction labels generalizing state with
  | nil => cases since
  | cons label labels inductionHypothesis =>
      rcases since with ⟨happens, keeps⟩ | later
      · exact .inl ⟨eventWeaker _ _ happens, keeps.mono step keptWeaker⟩
      · exact .inr (inductionHypothesis later)

/-- What only an event brings about, and only a step that keeps to the condition lets
stand, is there since such an event. -/
theorem since_of_tracks
    {guard event kept : State → Label → Prop}
    (tracks : State → Prop)
    (traced : ∀ state label, guard state label → tracks (step state label) →
      event state label ∨ tracks state ∧ kept state label)
    {state : State}
    {labels : List Label}
    (guarded : AllSteps step guard state labels)
    (initially : ¬tracks state)
    (atEnd : tracks (run step state labels)) :
    Since step event kept state labels := by
  induction labels using List.reverseRecOn with
  | nil => exact absurd atEnd initially
  | append_singleton labels label inductionHypothesis =>
      rw [allSteps_append] at guarded
      rw [run_append] at atEnd
      rw [since_append_singleton]
      rcases traced _ label guarded.2.1 atEnd with happens | ⟨tracked, keeps⟩
      · exact .inl happens
      · exact .inr ⟨inductionHypothesis guarded.1 tracked, keeps⟩

/-! ## Stamps -/

/-- Where each renewal of a key draws a new stamp, larger than all before, a larger stamp
means a later renewal. -/
theorem since_of_stamp_lt
    {Key : Type*}
    (stampOf : State → Key → Option Nat)
    (nextStamp : State → Nat)
    (renews : State → Label → Option Key)
    {invariant : State → Prop}
    (preserved : ∀ state label, invariant state → invariant (step state label))
    (bounded : ∀ state key stamp, invariant state → stampOf state key = some stamp →
      stamp < nextStamp state)
    (traced : ∀ state label key stamp, invariant state →
      stampOf (step state label) key = some stamp →
        renews state label = some key ∧ stamp = nextStamp state ∨
          renews state label ≠ some key ∧ stampOf state key = some stamp)
    {state : State}
    (initially : invariant state)
    (unstamped : ∀ key, stampOf state key = none)
    {labels : List Label}
    {newer older : Key}
    {newerStamp olderStamp : Nat}
    (newerStamped : stampOf (run step state labels) newer = some newerStamp)
    (olderStamped : stampOf (run step state labels) older = some olderStamp)
    (later : olderStamp < newerStamp) :
    Since step (fun state label => renews state label = some newer)
      (fun state label => renews state label ≠ some older) state labels := by
  induction labels using List.reverseRecOn with
  | nil =>
      rw [run_nil, unstamped] at newerStamped
      cases newerStamped
  | append_singleton labels label inductionHypothesis =>
      have reached := run_invariant step preserved labels initially
      rw [run_append, run_cons, run_nil] at newerStamped olderStamped
      rw [since_append_singleton]
      rcases traced _ label newer newerStamp reached newerStamped with
        ⟨renewed, -⟩ | ⟨-, newerBefore⟩
      · exact .inl renewed
      · rcases traced _ label older olderStamp reached olderStamped with
          ⟨-, rfl⟩ | ⟨notRenewed, olderBefore⟩
        · exact absurd (bounded _ _ _ reached newerBefore) (Nat.not_lt_of_lt later)
        · exact .inr ⟨inductionHypothesis newerBefore olderBefore, notRenewed⟩

/-! ## Simulations -/

section Simulation

variable {OtherState OtherLabel : Type*} {otherStep : OtherState → OtherLabel → OtherState}
variable {relabel : Label → OtherLabel}

/-- Related states stay related when each step of one machine is matched by the other. -/
theorem run_simulates
    {related : State → OtherState → Prop}
    (preserved : ∀ state other label, related state other →
      related (step state label) (otherStep other (relabel label)))
    {state : State}
    {other : OtherState}
    (labels : List Label)
    (initially : related state other) :
    related (run step state labels) (run otherStep other (labels.map relabel)) := by
  induction labels generalizing state other with
  | nil => exact initially
  | cons label labels inductionHypothesis =>
      exact inductionHypothesis (preserved state other label initially)

/-- An observer that notes the same of related states notes the same of the runs. -/
theorem observations_simulates
    {Event : Type*}
    {observe : State → Label → Option Event}
    {otherObserve : OtherState → OtherLabel → Option Event}
    {related : State → OtherState → Prop}
    (preserved : ∀ state other label, related state other →
      related (step state label) (otherStep other (relabel label)))
    (same : ∀ state other label, related state other →
      observe state label = otherObserve other (relabel label))
    {state : State}
    {other : OtherState}
    (labels : List Label)
    (initially : related state other) :
    observations step observe state labels =
      observations otherStep otherObserve other (labels.map relabel) := by
  induction labels generalizing state other with
  | nil => rfl
  | cons label labels inductionHypothesis =>
      rw [List.map_cons, observations, observations, same state other label initially,
        inductionHypothesis (preserved state other label initially)]

/-- A condition on labels alone is met along a run when the labels it is matched by
meet theirs. -/
theorem allSteps_relabel
    {kept : Label → Prop}
    {otherKept : OtherLabel → Prop}
    (same : ∀ label, kept label ↔ otherKept (relabel label))
    {state : State}
    {other : OtherState}
    {labels : List Label} :
    AllSteps step (fun _ => kept) state labels ↔
      AllSteps otherStep (fun _ => otherKept) other (labels.map relabel) := by
  induction labels generalizing state other with
  | nil => rfl
  | cons label labels inductionHypothesis =>
      rw [List.map_cons, AllSteps, AllSteps, same, inductionHypothesis]

variable (relabel) in
theorem since_relabel
    {event kept : Label → Prop}
    {otherEvent otherKept : OtherLabel → Prop}
    (sameEvent : ∀ label, event label ↔ otherEvent (relabel label))
    (sameKept : ∀ label, kept label ↔ otherKept (relabel label))
    {state : State}
    {other : OtherState}
    {labels : List Label} :
    Since step (fun _ => event) (fun _ => kept) state labels ↔
      Since otherStep (fun _ => otherEvent) (fun _ => otherKept) other
        (labels.map relabel) := by
  induction labels generalizing state other with
  | nil => rfl
  | cons label labels inductionHypothesis =>
      rw [List.map_cons, Since, Since, sameEvent, inductionHypothesis,
        allSteps_relabel step sameKept]

end Simulation

end Machine
end Lib
