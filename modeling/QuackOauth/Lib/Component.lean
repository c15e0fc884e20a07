import Mathlib.Algebra.BigOperators.Group.List.Basic
import QuackOauth.Lib.Machine
import QuackOauth.Lib.UnorderedMap

/-!
# Machines made of machines

A machine that is put together from smaller ones hands labels on to its parts.  What a
part does in a run of the whole is a run of the part on exactly the labels handed on to
it, so that what holds of all runs of the part holds of the part in every run of the
whole.

A machine that takes orders and works them off later keeps a backlog.  If every step
balances the books, then at the end of a run everything ordered was either delivered or
is in the backlog, and nothing twice.  Whatever is counted of the items counts the same
on both sides.
-/

namespace Lib
namespace Machine

variable {State Label : Type*} (step : State → Label → State)

/-! ## Events of a run -/

/-- Some step of the run is such an event. -/
def Occurs (event : State → Label → Prop) (state : State) (labels : List Label) : Prop :=
  ∃ before label after, labels = before ++ label :: after ∧
    event (run step state before) label

section Occurs

variable {step}
variable {event weaker : State → Label → Prop} {state : State} {labels : List Label}

theorem Occurs.append
    (occurs : Occurs step event state labels)
    (later : List Label) :
    Occurs step event state (labels ++ later) := by
  obtain ⟨before, label, after, rfl, happens⟩ := occurs
  exact ⟨before, label, after ++ later, by simp, happens⟩

theorem Occurs.last
    {label : Label}
    (happens : event (run step state labels) label) :
    Occurs step event state (labels ++ [label]) :=
  ⟨labels, label, [], rfl, happens⟩

/-- A run after which nothing but a certain event leaves a trace has the event. -/
theorem since_iff_exists_split
    {kept : State → Label → Prop} :
    Since step event kept state labels ↔
      ∃ before label after, labels = before ++ label :: after ∧
        event (run step state before) label ∧
        AllSteps step kept (run step state (before ++ [label])) after := by
  induction labels generalizing state with
  | nil => simp [Since]
  | cons first rest inductionHypothesis =>
      rw [Since, inductionHypothesis]
      constructor
      · rintro (⟨happens, keeps⟩ | ⟨before, label, after, rfl, happens, keeps⟩)
        · exact ⟨[], first, rest, rfl, happens, keeps⟩
        · exact ⟨first :: before, label, after, rfl, happens, keeps⟩
      · rintro ⟨before, label, after, split, happens, keeps⟩
        cases before with
        | nil =>
            obtain ⟨rfl, rfl⟩ := List.cons.inj split
            exact .inl ⟨happens, keeps⟩
        | cons other before =>
            obtain ⟨rfl, rfl⟩ := List.cons.inj split
            exact .inr ⟨before, label, after, rfl, happens, keeps⟩

end Occurs

/-! ## Parts -/

section Part

variable {Part PartLabel : Type*} (partStep : Part → PartLabel → Part)

/-- What one step hands on to a part of the machine. -/
def Drives
    (part : State → Part)
    (handsOn : State → Label → Option PartLabel) : Prop :=
  ∀ state label,
    part (step state label) = run partStep (part state) (handsOn state label).toList

variable {step partStep}
variable {part : State → Part} {handsOn : State → Label → Option PartLabel}

/-- A part runs on the labels handed on to it. -/
theorem Drives.run
    (drives : Drives step partStep part handsOn)
    (state : State)
    (labels : List Label) :
    part (run step state labels) =
      Machine.run partStep (part state) (observations step handsOn state labels) := by
  induction labels generalizing state with
  | nil => rfl
  | cons label labels inductionHypothesis =>
      rw [run_cons, observations, run_append, ← drives state label, inductionHypothesis]

/-- What is noted of a step is noted behind what the run has noted before it. -/
theorem exists_split_of_observations
    {Event : Type*}
    {observe : State → Label → Option Event}
    {state : State}
    {labels : List Label}
    {front back : List Event}
    {noted : Event}
    (observed : observations step observe state labels = front ++ noted :: back) :
    ∃ before label after, labels = before ++ label :: after ∧
      observations step observe state before = front ∧
      observe (run step state before) label = some noted := by
  induction labels generalizing state front with
  | nil =>
      rw [observations] at observed
      cases front <;> cases observed
  | cons first rest inductionHypothesis =>
      rw [observations] at observed
      cases seen : observe state first with
      | none =>
          rw [seen, Option.toList_none, List.nil_append] at observed
          obtain ⟨before, label, after, rfl, before_eq, notes⟩ := inductionHypothesis observed
          refine ⟨first :: before, label, after, rfl, ?_, notes⟩
          rw [observations, seen, Option.toList_none, List.nil_append, before_eq]
      | some event =>
          rw [seen, Option.toList_some, List.singleton_append] at observed
          cases front with
          | nil =>
              obtain ⟨rfl, -⟩ := List.cons.inj observed
              exact ⟨[], first, rest, rfl, rfl, seen⟩
          | cons other front =>
              obtain ⟨rfl, later⟩ := List.cons.inj observed
              obtain ⟨before, label, after, rfl, before_eq, notes⟩ :=
                inductionHypothesis later
              refine ⟨first :: before, label, after, rfl, ?_, notes⟩
              rw [observations, seen, Option.toList_some, List.singleton_append, before_eq]

/-- An event in the run of a part is an event in the run of the whole. -/
theorem Drives.occurs
    (drives : Drives step partStep part handsOn)
    {event : Part → PartLabel → Prop}
    {state : State}
    {labels : List Label}
    (occurs : Occurs partStep event (part state)
      (observations step handsOn state labels)) :
    Occurs step
      (fun state label => ∃ handed, handsOn state label = some handed ∧
        event (part state) handed)
      state labels := by
  obtain ⟨front, handed, back, observed, happens⟩ := occurs
  obtain ⟨before, label, after, rfl, rfl, notes⟩ := exists_split_of_observations observed
  refine ⟨before, label, after, rfl, handed, notes, ?_⟩
  rw [drives.run]
  exact happens

end Part

/-! ## Backlogs -/

section Backlog

variable {Order Item : Type*}

/-- Every step turns what was ordered and what was waiting into what is delivered and
what waits from then on. -/
def Balances
    (invariant : State → Prop)
    (orders : State → Label → Option Order)
    (itemsOf : Order → List Item)
    (delivers : State → Label → Option Item)
    (backlog : State → List Item) : Prop :=
  ∀ state label, invariant state →
    (backlog state ++ (orders state label).toList.flatMap itemsOf).Perm
      ((delivers state label).toList ++ backlog (step state label))

variable {step}
variable {invariant : State → Prop} {orders : State → Label → Option Order}
variable {itemsOf : Order → List Item} {delivers : State → Label → Option Item}
variable {backlog : State → List Item}

/-- What was ordered in a run is what was delivered and what still waits. -/
theorem Balances.run
    (balances : Balances step invariant orders itemsOf delivers backlog)
    (preserved : ∀ state label, invariant state → invariant (step state label))
    {state : State}
    (initially : invariant state)
    (labels : List Label) :
    (backlog state ++ (observations step orders state labels).flatMap itemsOf).Perm
      (observations step delivers state labels ++ backlog (run step state labels)) := by
  induction labels generalizing state with
  | nil => simp [observations]
  | cons label labels inductionHypothesis =>
      rw [observations, observations, List.flatMap_append, run_cons]
      have first := balances state label initially
      have later := inductionHypothesis (preserved state label initially)
      rw [← List.append_assoc]
      refine (first.append_right _).trans ?_
      rw [List.append_assoc, List.append_assoc]
      exact later.append_left _

end Backlog

end Machine

/-! ## Open jobs -/

namespace UnorderedMap

variable {Key Job Item : Type*} [DecidableEq Key]
variable {jobs : UnorderedMap Key Job} {key : Key} {job : Job}

theorem entries_perm_of_lookup
    (stored : jobs.lookup key = some job) :
    jobs.entries.Perm (⟨key, job⟩ :: (jobs.erase key).entries) := by
  have member : (⟨key, job⟩ : (_ : Key) × Job) ∈ jobs.entries :=
    AList.mem_lookup_iff.mp stored
  have inserted : (jobs.insert key job).entries.Perm jobs.entries := by
    rw [List.perm_ext_iff_of_nodup (List.NodupKeys.nodup (jobs.insert key job).nodupKeys)
      (List.NodupKeys.nodup jobs.nodupKeys)]
    intro entry
    rw [← AList.mem_lookup_iff, ← AList.mem_lookup_iff, Option.mem_def, Option.mem_def,
      lookup_insert_eq_ite]
    split
    · next same => rw [same, stored]
    · rfl
  exact inserted.symm

/-- The items of all open jobs. -/
def openItems (itemsOf : Job → List Item) (jobs : UnorderedMap Key Job) : List Item :=
  jobs.entries.flatMap fun entry => itemsOf entry.2

variable {itemsOf : Job → List Item}

theorem openItems_of_lookup
    (stored : jobs.lookup key = some job) :
    (openItems itemsOf jobs).Perm (itemsOf job ++ openItems itemsOf (jobs.erase key)) :=
  (entries_perm_of_lookup stored).flatMap_right _

/-- A job replaces the job of its key, if there is one. -/
theorem openItems_insert :
    openItems itemsOf (jobs.insert key job) =
      itemsOf job ++ openItems itemsOf (jobs.erase key) := rfl

/-- A job under a new key adds its items. -/
theorem openItems_insert_new
    (isNew : jobs.lookup key = none) :
    (openItems itemsOf (jobs.insert key job)).Perm
      (openItems itemsOf jobs ++ itemsOf job) := by
  have erased : (jobs.erase key).entries = jobs.entries :=
    List.kerase_of_notMem_keys (AList.lookup_eq_none.mp isNew)
  have others : openItems itemsOf (jobs.erase key) = openItems itemsOf jobs := by
    unfold openItems
    rw [erased]
  rw [openItems_insert, others]
  exact List.perm_append_comm

end UnorderedMap

/-! ## Tallies -/

section Tally

variable {Item Order Total : Type*} [AddCommMonoid Total]

/-- What the items of a list come to. -/
def tally (measure : Item → Total) (items : List Item) : Total :=
  (items.map measure).sum

variable {measure : Item → Total}

theorem tally_append (first second : List Item) :
    tally measure (first ++ second) = tally measure first + tally measure second := by
  rw [tally, List.map_append, List.sum_append, tally, tally]

theorem tally_perm
    {first second : List Item}
    (permutation : first.Perm second) :
    tally measure first = tally measure second :=
  (permutation.map measure).sum_eq

/-- The items of all orders come to what the orders come to. -/
theorem tally_flatMap
    {itemsOf : Order → List Item}
    {measureOrder : Order → Total}
    {orders : List Order}
    (measures : ∀ order ∈ orders, tally measure (itemsOf order) = measureOrder order) :
    tally measure (orders.flatMap itemsOf) = tally measureOrder orders := by
  induction orders with
  | nil => rfl
  | cons order orders inductionHypothesis =>
      rw [List.flatMap_cons, tally_append, measures order List.mem_cons_self,
        inductionHypothesis fun other member => measures other (List.mem_cons_of_mem _ member)]
      rfl

/-- A loop that adds what each item comes to adds the tally. -/
theorem foldl_eq_add_tally
    {count : Total → Item → Total}
    (counts : ∀ total item, count total item = total + measure item)
    (total : Total)
    (items : List Item) :
    items.foldl count total = total + tally measure items := by
  induction items generalizing total with
  | nil => exact (add_zero total).symm
  | cons item items inductionHypothesis =>
      rw [List.foldl_cons, inductionHypothesis, counts, add_assoc]
      rfl

end Tally
end Lib
