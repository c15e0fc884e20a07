import Mathlib.Data.List.Basic
import Mathlib.Logic.Relation

/-!
# Trees given by their parts

A kind of tree is given by a function that takes a node apart: into what the node
yields itself and the nodes below it, in order.  Nodes may carry what they inherit
from above (a scope, a depth), since a part names the node below it as it is seen
from there.  Descent from a node to those below it ends, so that the whole yield of a
node is a list, and its members are what the nodes that occur in its tree emit.
-/

namespace Lib

/-- A part of a node. -/
inductive Part (Item Node : Type*)
  | emit (item : Item)
  | visit (node : Node)

/-- Trees whose nodes are given by their parts. -/
structure Unfolding (Item Node : Type*) where
  parts : Node → List (Part Item Node)
  descends : WellFounded fun child node => .visit child ∈ parts node

namespace Unfolding

variable {Item Node : Type*} (tree : Unfolding Item Node)

/-- A node stands directly below another. -/
def Below (node child : Node) : Prop :=
  .visit child ∈ tree.parts node

/-- A node occurs in the tree of another. -/
def Occurs (root node : Node) : Prop :=
  Relation.ReflTransGen tree.Below root node

/-- What the nodes of a tree yield, in order. -/
def yield (node : Node) : List Item :=
  (tree.parts node).attach.flatMap fun
    | ⟨.emit item, _⟩ => [item]
    | ⟨.visit child, _⟩ => yield child
termination_by tree.descends.wrap node
decreasing_by
  rename_i member
  exact member

/-- What a part yields. -/
def partYield : Part Item Node → List Item
  | .emit item => [item]
  | .visit node => tree.yield node

/-- What parts yield, one after the other. -/
def partsYield (parts : List (Part Item Node)) : List Item :=
  parts.flatMap tree.partYield

theorem yield_eq (node : Node) : tree.yield node = tree.partsYield (tree.parts node) := by
  rw [yield, partsYield]
  conv_rhs => rw [← List.attach_map_subtype_val (tree.parts node), List.flatMap_map]
  congr 1
  funext ⟨part, member⟩
  cases part with
  | emit item => rfl
  | visit child => rfl

/-! ## Parts in a row -/

@[simp] theorem partsYield_nil : tree.partsYield [] = [] := rfl

@[simp] theorem partsYield_cons
    (part : Part Item Node)
    (parts : List (Part Item Node)) :
    tree.partsYield (part :: parts) = tree.partYield part ++ tree.partsYield parts :=
  List.flatMap_cons

@[simp] theorem partsYield_append (first second : List (Part Item Node)) :
    tree.partsYield (first ++ second) =
      tree.partsYield first ++ tree.partsYield second :=
  List.flatMap_append

@[simp] theorem partsYield_map_emit (items : List Item) :
    tree.partsYield (items.map .emit) = items := by
  induction items with
  | nil => rfl
  | cons item items inductionHypothesis =>
      rw [List.map_cons, partsYield_cons, inductionHypothesis]
      rfl

@[simp] theorem partYield_emit (item : Item) : tree.partYield (.emit item) = [item] := rfl

/-! ## Occurrences -/

theorem occurs_self (node : Node) : tree.Occurs node node :=
  Relation.ReflTransGen.refl

/-- What occurs in a node is the node itself or occurs in a node directly below it. -/
theorem occurs_iff (root node : Node) :
    tree.Occurs root node ↔
      root = node ∨ ∃ child, tree.Below root child ∧ tree.Occurs child node :=
  Relation.ReflTransGen.cases_head_iff.trans (by rw [eq_comm]; exact Iff.rfl)

/-- The yield of a tree has exactly what the nodes that occur in it emit. -/
theorem mem_yield_iff (root : Node) (item : Item) :
    item ∈ tree.yield root ↔
      ∃ node, tree.Occurs root node ∧ .emit item ∈ tree.parts node := by
  induction root using tree.descends.induction with
  | _ root inductionHypothesis =>
      rw [yield_eq, partsYield, List.mem_flatMap]
      constructor
      · rintro ⟨part, partMember, itemMember⟩
        cases part with
        | emit other =>
            rw [partYield_emit, List.mem_singleton] at itemMember
            subst itemMember
            exact ⟨root, tree.occurs_self root, partMember⟩
        | visit child =>
            obtain ⟨node, occurs, emitted⟩ :=
              (inductionHypothesis child partMember).mp itemMember
            exact ⟨node, .head partMember occurs, emitted⟩
      · rintro ⟨node, occurs, emitted⟩
        rcases (tree.occurs_iff root node).mp occurs with rfl | ⟨child, below, occurs⟩
        · exact ⟨.emit item, emitted, List.mem_singleton_self item⟩
        · exact ⟨.visit child, below,
            (inductionHypothesis child below).mpr ⟨node, occurs, emitted⟩⟩

/-- What holds of the root and goes down to every node below holds of every node that
occurs. -/
theorem occurs_invariant
    {property : Node → Prop}
    (inherited : ∀ {node child}, tree.Below node child → property node → property child)
    {root node : Node}
    (occurs : tree.Occurs root node)
    (atRoot : property root) :
    property node := by
  induction occurs with
  | refl => exact atRoot
  | tail _ below inductionHypothesis => exact inherited below inductionHypothesis

end Unfolding
end Lib
