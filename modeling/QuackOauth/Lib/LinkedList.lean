import Mathlib.Data.List.Nodup
import Mathlib.Tactic.TypeStar

/-!
# Linked lists with stable iterators

A doubly linked list whose nodes keep their identity while other nodes come and go,
so that a client may store an iterator and later erase or move exactly that node.
An iterator is the number of its node.  Numbers are never reused: that no two nodes
share one, and that the next one is fresh, are fields of the structure.
-/

namespace Lib

/-- A linked list; each node carries its number and its value, front first. -/
structure LinkedList (α : Type*) where
  /-- The nodes, front first. -/
  nodes : List (Nat × α)
  /-- The number the next node gets. -/
  nextNode : Nat
  /-- Numbers in use are below the next one. -/
  node_lt : ∀ node ∈ nodes, node.1 < nextNode
  /-- No two nodes share a number. -/
  nodup : (nodes.map Prod.fst).Nodup

namespace LinkedList

variable {α : Type*}

/-- The list without nodes. -/
def empty : LinkedList α where
  nodes := []
  nextNode := 0
  node_lt := by simp
  nodup := List.nodup_nil

/-- The values, front first. -/
def values (list : LinkedList α) : List α :=
  list.nodes.map Prod.snd

/-- Insert a value in front; its node is the one numbered `nextNode`. -/
def pushFront (value : α) (list : LinkedList α) : LinkedList α where
  nodes := (list.nextNode, value) :: list.nodes
  nextNode := list.nextNode + 1
  node_lt := by
    intro node member
    rcases List.mem_cons.mp member with rfl | member
    · exact Nat.lt_succ_self _
    · exact Nat.lt_succ_of_lt (list.node_lt node member)
  nodup := by
    refine List.nodup_cons.mpr ⟨?_, list.nodup⟩
    intro member
    obtain ⟨node, nodeMember, sameNumber⟩ := List.mem_map.mp member
    exact absurd (list.node_lt node nodeMember) (by omega)

/-- The iterator to the front node, or the past-the-end number of an empty list. -/
def begin (list : LinkedList α) : Nat :=
  match list.nodes with
  | [] => list.nextNode
  | node :: _ => node.1

/-- Erase the node an iterator points to. -/
def erase (iterator : Nat) (list : LinkedList α) : LinkedList α where
  nodes := list.nodes.filter fun node => node.1 ≠ iterator
  nextNode := list.nextNode
  node_lt := fun node member => list.node_lt node (List.mem_of_mem_filter member)
  nodup := list.nodup.sublist (List.filter_sublist.map Prod.fst)

/-- The value of the last node. -/
def back? (list : LinkedList α) : Option α :=
  list.nodes.getLast?.map Prod.snd

/-- Drop the last node. -/
def popBack (list : LinkedList α) : LinkedList α where
  nodes := list.nodes.dropLast
  nextNode := list.nextNode
  node_lt := fun node member =>
    list.node_lt node ((List.dropLast_sublist list.nodes).subset member)
  nodup := list.nodup.sublist ((List.dropLast_sublist list.nodes).map Prod.fst)

/-- Move the node an iterator points to in front of all others. -/
def splice (iterator : Nat) (list : LinkedList α) : LinkedList α where
  nodes := list.nodes.filter (fun node => node.1 = iterator) ++
    list.nodes.filter (fun node => node.1 ≠ iterator)
  nextNode := list.nextNode
  node_lt := by
    intro node member
    rcases List.mem_append.mp member with member | member
    · exact list.node_lt node (List.mem_of_mem_filter member)
    · exact list.node_lt node (List.mem_of_mem_filter member)
  nodup := by
    rw [List.map_append, List.nodup_append]
    refine ⟨list.nodup.sublist (List.filter_sublist.map Prod.fst),
      list.nodup.sublist (List.filter_sublist.map Prod.fst), ?_⟩
    intro front frontMember other otherMember
    obtain ⟨frontNode, frontNodeMember, rfl⟩ := List.mem_map.mp frontMember
    obtain ⟨otherNode, otherNodeMember, rfl⟩ := List.mem_map.mp otherMember
    have frontIs := (List.mem_filter.mp frontNodeMember).2
    have otherIsNot := (List.mem_filter.mp otherNodeMember).2
    simp only [decide_eq_true_eq] at frontIs otherIsNot
    omega

/-- The value an iterator points to. -/
def get? (iterator : Nat) (list : LinkedList α) : Option α :=
  (list.nodes.find? fun node => node.1 = iterator).map Prod.snd

/-- Assign to the value an iterator points to. -/
def modify (iterator : Nat) (change : α → α) (list : LinkedList α) : LinkedList α where
  nodes := list.nodes.map fun node =>
    (node.1, if node.1 = iterator then change node.2 else node.2)
  nextNode := list.nextNode
  node_lt := by
    intro node member
    obtain ⟨original, originalMember, rfl⟩ := List.mem_map.mp member
    exact list.node_lt original originalMember
  nodup := by
    rw [List.map_map]
    exact list.nodup

/-! ## Where iterators point -/

variable {list : LinkedList α} {iterator : Nat} {value : α}

/-- An iterator points to the value of its node. -/
theorem get?_eq_some_iff :
    list.get? iterator = some value ↔ (iterator, value) ∈ list.nodes := by
  unfold get?
  rw [Option.map_eq_some_iff]
  constructor
  · rintro ⟨node, found, rfl⟩
    have isNode : node.1 = iterator := by simpa using List.find?_some found
    rw [← isNode]
    exact List.mem_of_find?_eq_some found
  · intro member
    obtain ⟨node, found⟩ : ∃ node,
        (list.nodes.find? fun node => node.1 = iterator) = some node := by
      rw [← Option.isSome_iff_exists, List.find?_isSome]
      exact ⟨_, member, decide_eq_true rfl⟩
    have isNode : node.1 = iterator := by simpa using List.find?_some found
    have same := List.inj_on_of_nodup_map list.nodup
      (List.mem_of_find?_eq_some found) member isNode
    exact ⟨node, found, by rw [same]⟩

@[simp] theorem mem_nodes_pushFront {node : Nat × α} :
    node ∈ (list.pushFront value).nodes ↔
      node = (list.nextNode, value) ∨ node ∈ list.nodes :=
  List.mem_cons

@[simp] theorem mem_nodes_erase {node : Nat × α} :
    node ∈ (list.erase iterator).nodes ↔ node ∈ list.nodes ∧ node.1 ≠ iterator := by
  simp [erase]

@[simp] theorem mem_nodes_splice {node : Nat × α} :
    node ∈ (list.splice iterator).nodes ↔ node ∈ list.nodes := by
  by_cases isNode : node.1 = iterator <;> simp [splice, isNode]

@[simp] theorem mem_nodes_modify {node : Nat × α} {change : α → α} :
    node ∈ (list.modify iterator change).nodes ↔
      ∃ original ∈ list.nodes,
        (original.1, if original.1 = iterator then change original.2 else original.2) =
          node :=
  List.mem_map

theorem mem_nodes_of_mem_popBack {node : Nat × α} (member : node ∈ list.popBack.nodes) :
    node ∈ list.nodes :=
  (List.dropLast_sublist list.nodes).subset member

/-- All but the last node stay. -/
theorem mem_popBack_or_back? {node : Nat × α} (member : node ∈ list.nodes) :
    node ∈ list.popBack.nodes ∨ list.back? = some node.2 := by
  have nonempty : list.nodes ≠ [] := List.ne_nil_of_mem member
  rw [← List.dropLast_append_getLast nonempty, List.mem_append] at member
  rcases member with inFront | isLast
  · exact .inl inFront
  · right
    rw [back?, List.getLast?_eq_some_getLast nonempty, List.mem_singleton.mp isLast]
    rfl

/-! ## Values -/

/-- The node of an iterator is the only one of its number. -/
theorem filter_nodes_eq (member : (iterator, value) ∈ list.nodes) :
    list.nodes.filter (fun node => node.1 = iterator) = [(iterator, value)] := by
  have nodup : list.nodes.Nodup := List.Nodup.of_map _ list.nodup
  apply List.perm_singleton.mp
  rw [List.perm_ext_iff_of_nodup (nodup.filter _) (List.nodup_singleton _)]
  intro node
  rw [List.mem_filter, decide_eq_true_eq, List.mem_singleton]
  constructor
  · rintro ⟨nodeMember, isNode⟩
    exact List.inj_on_of_nodup_map list.nodup nodeMember member isNode
  · rintro rfl
    exact ⟨member, rfl⟩

/-- A moved node comes in front of the others. -/
theorem values_splice (member : (iterator, value) ∈ list.nodes) :
    (list.splice iterator).values = value :: (list.erase iterator).values := by
  change ((list.nodes.filter fun node => node.1 = iterator) ++
    list.nodes.filter fun node => node.1 ≠ iterator).map Prod.snd = _
  rw [filter_nodes_eq member]
  rfl

theorem values_erase_modify (change : α → α) :
    ((list.modify iterator change).erase iterator).values = (list.erase iterator).values := by
  change ((list.nodes.map _).filter _).map Prod.snd =
    (list.nodes.filter fun node => node.1 ≠ iterator).map Prod.snd
  rw [List.filter_map, List.map_map]
  apply List.map_congr_left
  intro node member
  have isOther := of_decide_eq_true (List.mem_filter.mp member).2
  exact if_neg isOther

/-- Apply a function to each value; the nodes stay the same. -/
def map {β : Type*} (f : α → β) (list : LinkedList α) : LinkedList β where
  nodes := list.nodes.map fun node => (node.1, f node.2)
  nextNode := list.nextNode
  node_lt := by
    intro node member
    obtain ⟨original, originalMember, rfl⟩ := List.mem_map.mp member
    exact list.node_lt original originalMember
  nodup := by
    rw [List.map_map]
    exact list.nodup

theorem mem_nodes_map {β : Type*} {f : α → β} {image : β} :
    (iterator, image) ∈ (list.map f).nodes ↔
      ∃ value, (iterator, value) ∈ list.nodes ∧ f value = image := by
  simp [map]

@[simp] theorem values_map {β : Type*} {f : α → β} :
    (list.map f).values = list.values.map f := by
  simp [values, map]

theorem back?_map {β : Type*} {f : α → β} : (list.map f).back? = list.back?.map f := by
  simp [back?, map, List.getLast?_map, Option.map_map, Function.comp_def]

theorem erase_map {β : Type*} {f : α → β} :
    (list.map f).erase iterator = (list.erase iterator).map f := by
  simp [erase, map, List.filter_map, Function.comp_def]

theorem popBack_map {β : Type*} {f : α → β} : (list.map f).popBack = list.popBack.map f := by
  simp [popBack, map, List.map_dropLast]

end LinkedList
end Lib
