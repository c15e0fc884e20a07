import Mathlib.Data.List.DropRight
import Mathlib.Data.List.Rotate
import QuackOauth.Lib.Machine

/-!
# Ring buffers

A queue of bounded length keeps the last of its elements.  A ring buffer has as many
cells as the queue has room for and goes round them: a new element takes the cell at the
head, which is a free one as long as there are any and that of the oldest element later.
-/

namespace Lib

variable {α : Type*}

namespace BoundedQueue

/-- A queue with a new element at its end, of which the oldest leaves if there is no
room. -/
def enqueue (capacity : Nat) (queue : List α) (a : α) : List α :=
  (queue ++ [a]).rtake capacity

variable {capacity : Nat} {elements : List α} {a : α}

theorem rtake_min_length :
    elements.rtake (min elements.length capacity) = elements.rtake capacity := by
  unfold List.rtake
  congr 1
  omega

theorem length_rtake : (elements.rtake capacity).length = min elements.length capacity := by
  rw [List.rtake, List.length_drop]
  omega

theorem rtake_tail (fewer : capacity < elements.length) :
    elements.tail.rtake capacity = elements.rtake capacity := by
  cases elements with
  | nil => exact absurd fewer (Nat.not_lt_zero _)
  | cons oldest later =>
      rw [List.rtake, List.rtake, List.tail_cons, List.length_cons,
        Nat.succ_sub (Nat.le_of_lt_succ fewer), List.drop_succ_cons]

theorem rtake_rtake {inner : Nat} :
    (elements.rtake inner).rtake capacity = elements.rtake (min capacity inner) := by
  simp only [List.rtake_eq_reverse_take_reverse, List.reverse_reverse, List.take_take]

/-- What left the queue before is not needed to know what is in it afterwards. -/
theorem enqueue_rtake :
    enqueue capacity (elements.rtake capacity) a = (elements ++ [a]).rtake capacity := by
  unfold enqueue
  cases capacity with
  | zero => rw [List.rtake_zero, List.rtake_zero]
  | succ kept =>
      rw [List.rtake_concat_succ, List.rtake_concat_succ, rtake_rtake,
        Nat.min_eq_left (Nat.le_succ kept)]

/-- A queue that starts empty holds the last of the elements it was given. -/
theorem run_enqueue (elements : List α) :
    Machine.run (enqueue capacity) [] elements = elements.rtake capacity := by
  induction elements using List.reverseRecOn with
  | nil => rw [Machine.run_nil, List.rtake_nil]
  | append_singleton elements a inductionHypothesis =>
      rw [Machine.run_append, Machine.run_cons, Machine.run_nil, inductionHypothesis,
        enqueue_rtake]

end BoundedQueue

/-- Cells in a circle, the one that is written next, and how many of those before it are
in use. -/
structure RingBuffer (α : Type*) where
  cells : List α
  head : Nat
  count : Nat
  head_lt : head < cells.length
  count_le : count ≤ cells.length

namespace RingBuffer

variable {ring : RingBuffer α} {a : α} {capacity : Nat}

theorem length_pos : 0 < ring.cells.length :=
  Nat.zero_lt_of_lt ring.head_lt

/-- A ring of cells that are not in use. -/
def replicate (capacity : Nat) (positive : 0 < capacity) (blank : α) : RingBuffer α where
  cells := List.replicate capacity blank
  head := 0
  count := 0
  head_lt := by rwa [List.length_replicate]
  count_le := Nat.zero_le _

/-- Write the cell at the head and go on to the next. -/
def push (ring : RingBuffer α) (a : α) : RingBuffer α where
  cells := ring.cells.set ring.head a
  head := (ring.head + 1) % ring.cells.length
  count := min (ring.count + 1) ring.cells.length
  head_lt := by
    rw [List.length_set]
    exact Nat.mod_lt _ length_pos
  count_le := by
    rw [List.length_set]
    exact Nat.min_le_right _ _

@[simp] theorem push_cells : (ring.push a).cells = ring.cells.set ring.head a := rfl

@[simp] theorem push_head : (ring.push a).head = (ring.head + 1) % ring.cells.length := rfl

@[simp] theorem push_count :
    (ring.push a).count = min (ring.count + 1) ring.cells.length := rfl

theorem length_push_cells : (ring.push a).cells.length = ring.cells.length :=
  List.length_set

/-- All cells in the order in which they will be written. -/
def circle (ring : RingBuffer α) : List α :=
  ring.cells.rotate ring.head

/-- The elements in use, the oldest first. -/
def contents (ring : RingBuffer α) : List α :=
  ring.circle.rtake ring.count

theorem length_circle : ring.circle.length = ring.cells.length :=
  List.length_rotate _ _

theorem length_contents (ring : RingBuffer α) : ring.contents.length = ring.count := by
  rw [contents, BoundedQueue.length_rtake, length_circle]
  exact Nat.min_eq_right ring.count_le

theorem circle_eq_drop_append_take :
    ring.circle = ring.cells.drop ring.head ++ ring.cells.take ring.head :=
  List.rotate_eq_drop_append_take (Nat.le_of_lt ring.head_lt)

/-- The cell at the head is written next, and then not before all others. -/
theorem push_circle : (ring.push a).circle = ring.circle.tail ++ [a] := by
  have bound := ring.head_lt
  calc (ring.push a).circle
      = (ring.cells.set ring.head a).rotate (ring.head + 1) := by
        rw [circle, push_head, ← length_push_cells, List.rotate_mod, push_cells]
    _ = (ring.cells.set ring.head a).drop (ring.head + 1) ++
          (ring.cells.set ring.head a).take (ring.head + 1) := by
        apply List.rotate_eq_drop_append_take
        rw [List.length_set]
        exact bound
    _ = ring.cells.drop (ring.head + 1) ++ (ring.cells.take ring.head ++ [a]) := by
        rw [List.drop_set_of_lt (Nat.lt_succ_self _), List.take_add_one,
          List.take_set_of_le (Nat.le_refl _), List.getElem?_set_self bound,
          Option.toList_some]
    _ = ring.circle.tail ++ [a] := by
        rw [circle_eq_drop_append_take, List.drop_eq_getElem_cons bound, List.cons_append,
          List.tail_cons, List.append_assoc]

/-- Pushing to a ring is enqueueing to a queue with as much room as there are cells. -/
theorem contents_push :
    (ring.push a).contents =
      BoundedQueue.enqueue ring.cells.length ring.contents a := by
  obtain ⟨others, cellCount⟩ := Nat.exists_eq_add_one.mpr ring.length_pos
  have others_lt : min ring.count others < ring.circle.length := by
    rw [length_circle, cellCount]
    exact Nat.lt_succ_of_le (Nat.min_le_right _ _)
  calc (ring.push a).contents
      = (ring.circle.tail ++ [a]).rtake (min ring.count others + 1) := by
        rw [contents, push_circle, push_count, cellCount, Nat.add_min_add_right]
    _ = ring.circle.rtake (min ring.count others) ++ [a] := by
        rw [List.rtake_concat_succ, BoundedQueue.rtake_tail others_lt]
    _ = (ring.contents ++ [a]).rtake (others + 1) := by
        rw [contents, List.rtake_concat_succ, BoundedQueue.rtake_rtake, Nat.min_comm]
    _ = BoundedQueue.enqueue ring.cells.length ring.contents a := by
        rw [BoundedQueue.enqueue, cellCount]

/-- Where the oldest element is, or will be. -/
def start (ring : RingBuffer α) : Nat :=
  (ring.head + ring.cells.length - ring.count) % ring.cells.length

/-- The contents, read cell by cell from the oldest on. -/
theorem contents_eq_map_range :
    ring.contents = (List.range ring.count).map fun i =>
      ring.cells.get ⟨(ring.start + i) % ring.cells.length, Nat.mod_lt _ length_pos⟩ := by
  have countFits := ring.count_le
  apply List.ext_getElem
  · rw [length_contents, List.length_map, List.length_range]
  · intro i inContents inRange
    have place :
        (ring.cells.length - ring.count + i + ring.head) % ring.cells.length =
          (ring.start + i) % ring.cells.length := by
      rw [start, Nat.mod_add_mod]
      congr 1
      omega
    simp only [contents, circle, List.rtake, List.getElem_drop, List.getElem_rotate,
      List.length_rotate, place, List.getElem_map, List.getElem_range, List.get_eq_getElem]

/-! ## Runs -/

/-- A ring with so many cells that holds a queue. -/
structure Represents (capacity : Nat) (ring : RingBuffer α) (queue : List α) : Prop where
  length_cells : ring.cells.length = capacity
  contents_eq : ring.contents = queue

theorem Represents.push
    {queue : List α}
    (represents : Represents capacity ring queue)
    (a : α) :
    Represents capacity (ring.push a) (BoundedQueue.enqueue capacity queue a) := by
  obtain ⟨rfl, rfl⟩ := represents
  exact ⟨length_push_cells, contents_push⟩

theorem replicate_represents
    (positive : 0 < capacity)
    (blank : α) :
    Represents capacity (replicate capacity positive blank) [] where
  length_cells := List.length_replicate
  contents_eq := List.eq_nil_of_length_eq_zero (length_contents _)

/-- A ring that starts empty holds, after any pushes, the last of what was pushed. -/
theorem run_push_represents
    (positive : 0 < capacity)
    (blank : α)
    (elements : List α) :
    Represents capacity
      (Machine.run RingBuffer.push (replicate capacity positive blank) elements)
      (elements.rtake capacity) := by
  have preserved : ∀ (ring : RingBuffer α) queue a, Represents capacity ring queue →
      Represents capacity (ring.push a) (BoundedQueue.enqueue capacity queue (id a)) :=
    fun ring queue a represents => represents.push a
  have simulated :=
    Machine.run_simulates RingBuffer.push preserved elements
      (replicate_represents positive blank)
  rwa [List.map_id, BoundedQueue.run_enqueue] at simulated

end RingBuffer
end Lib
