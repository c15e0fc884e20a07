import Mathlib.Algebra.Group.Nat.Defs
import QuackOauth.Audit.Line
import QuackOauth.Lib.RingBuffer

/-!
# The ring of audit events

The last audit events are kept in a vector that is written round and round.  Sizes and
places are words, so that what is computed from them could wrap.  It does not, and the
ring is a queue of bounded length: a snapshot is the last events pushed, the oldest first.
-/

namespace QuackOauth
namespace Audit

open Lib

/-- The largest difference of two pointers. -/
def ptrdiffMax : Nat :=
  2 ^ 63 - 1

/-- The most elements of a vector, if the allocator gives so many. -/
def vectorMaxSize (allocMax : Nat) : Nat :=
  min ptrdiffMax allocMax

structure AuditRing where
  ring : List AuditEvent
  /-- Where the next event is written. -/
  head : UInt64
  /-- How many places are in use. -/
  count : UInt64
  length_le : ring.length ≤ ptrdiffMax
  head_lt : head.toNat < ring.length
  count_le : count.toNat ≤ ring.length

namespace AuditRing

variable {ring : AuditRing} {event : AuditEvent}

def size (ring : AuditRing) : UInt64 :=
  ring.count

def capacity (ring : AuditRing) : UInt64 :=
  UInt64.ofNat ring.ring.length

theorem length_lt_two_pow : ring.ring.length < 2 ^ 63 :=
  Nat.lt_of_le_pred (by decide) ring.length_le

@[simp] theorem toNat_capacity : ring.capacity.toNat = ring.ring.length := by
  have bound := ring.length_lt_two_pow
  rw [capacity, UInt64.toNat_ofNat']
  omega

theorem mod_capacity_lt (place : UInt64) :
    (place % ring.capacity).toNat < ring.ring.length := by
  rw [UInt64.toNat_mod, toNat_capacity]
  exact Nat.mod_lt _ (Nat.zero_lt_of_lt ring.head_lt)

/-- A place after one before the end of the vector is a word. -/
theorem toNat_add_one
    {place : UInt64}
    (within : place.toNat < ring.ring.length) :
    (place + 1).toNat = place.toNat + 1 := by
  have bound := ring.length_lt_two_pow
  rw [UInt64.toNat_add, UInt64.toNat_one]
  omega

theorem count_lt_capacity_iff :
    ring.count < ring.capacity ↔ ring.count.toNat < ring.ring.length := by
  rw [UInt64.lt_iff_toNat_lt, toNat_capacity]

/-- How many places are in use after a push. -/
theorem toNat_count_push :
    (if ring.count < ring.capacity then ring.count + 1 else ring.count).toNat =
      min (ring.count.toNat + 1) ring.ring.length := by
  have countFits := ring.count_le
  split_ifs with room
  · rw [count_lt_capacity_iff] at room
    rw [toNat_add_one room, Nat.min_eq_left room]
  · rw [count_lt_capacity_iff] at room
    omega

/-- How many places a ring gets that is asked for so many. -/
def placesFor (capacity : UInt64) : UInt64 :=
  if capacity > 0 then capacity else 1

theorem toNat_placesFor (capacity : UInt64) :
    (placesFor capacity).toNat = max capacity.toNat 1 := by
  unfold placesFor
  split_ifs with positive
  · rw [gt_iff_lt, UInt64.lt_iff_toNat_lt, UInt64.toNat_zero] at positive
    exact (Nat.max_eq_left positive).symm
  · rw [gt_iff_lt, UInt64.lt_iff_toNat_lt, UInt64.toNat_zero] at positive
    rw [UInt64.toNat_one]
    omega

theorem placesFor_pos (capacity : UInt64) : 0 < (placesFor capacity).toNat := by
  rw [toNat_placesFor]
  exact Nat.le_max_right _ _

/-- A ring in which no place is in use.  There is none if no vector is that long. -/
def create (allocMax : Nat) (capacity : UInt64) : Option AuditRing :=
  if fits : (placesFor capacity).toNat ≤ vectorMaxSize allocMax then
    some {
      ring := List.replicate (placesFor capacity).toNat {}
      head := 0
      count := 0
      length_le := by
        rw [List.length_replicate]
        exact fits.trans (Nat.min_le_left _ _)
      head_lt := by
        rw [List.length_replicate]
        exact placesFor_pos capacity
      count_le := Nat.zero_le _ }
  else none

/-- Write an event at the head. -/
def push (ring : AuditRing) (event : AuditEvent) : AuditRing where
  ring := ring.ring.set ring.head.toNat event
  head := (ring.head + 1) % ring.capacity
  count := if ring.count < ring.capacity then ring.count + 1 else ring.count
  length_le := by
    rw [List.length_set]
    exact ring.length_le
  head_lt := by
    rw [List.length_set]
    exact mod_capacity_lt _
  count_le := by
    rw [List.length_set, toNat_count_push]
    exact Nat.min_le_right _ _

/-- Where the oldest event is. -/
def start (ring : AuditRing) : UInt64 :=
  (ring.head + ring.capacity - ring.count) % ring.capacity

/-- The events in use, from the oldest on. -/
def snapshot (ring : AuditRing) : List AuditEvent :=
  (List.range ring.count.toNat).map fun i =>
    ring.ring.get
      ⟨((ring.start + UInt64.ofNat i) % ring.capacity).toNat, mod_capacity_lt _⟩

/-! ## The ring without words -/

/-- The ring with its places and sizes as natural numbers. -/
def toRingBuffer (ring : AuditRing) : RingBuffer AuditEvent where
  cells := ring.ring
  head := ring.head.toNat
  count := ring.count.toNat
  head_lt := ring.head_lt
  count_le := ring.count_le

@[simp] theorem toRingBuffer_cells : ring.toRingBuffer.cells = ring.ring := rfl

/-- A push does not wrap. -/
theorem toRingBuffer_push :
    (ring.push event).toRingBuffer = ring.toRingBuffer.push event := by
  have next : ((ring.head + 1) % ring.capacity).toNat =
      (ring.head.toNat + 1) % ring.ring.length := by
    rw [UInt64.toNat_mod, toNat_capacity, toNat_add_one ring.head_lt]
  unfold toRingBuffer RingBuffer.push push
  simp only [next, toNat_count_push]

theorem toNat_start : ring.start.toNat = ring.toRingBuffer.start := by
  have bound := ring.length_lt_two_pow
  have headBound := ring.head_lt
  have countBound := ring.count_le
  have sum : (ring.head + ring.capacity).toNat = ring.head.toNat + ring.ring.length := by
    rw [UInt64.toNat_add, toNat_capacity]
    omega
  have counted : ring.count ≤ ring.head + ring.capacity := by
    rw [UInt64.le_iff_toNat_le, sum]
    omega
  rw [start, UInt64.toNat_mod, toNat_capacity, UInt64.toNat_sub_of_le _ _ counted, sum]
  rfl

/-- Two places before the end of the vector add up to a word. -/
theorem toNat_place
    {i : Nat}
    (within : i < ring.ring.length) :
    ((ring.start + UInt64.ofNat i) % ring.capacity).toNat =
      (ring.toRingBuffer.start + i) % ring.ring.length := by
  have bound := ring.length_lt_two_pow
  have startBound : ring.start.toNat < ring.ring.length := mod_capacity_lt _
  have sum : (ring.start + UInt64.ofNat i).toNat = ring.toRingBuffer.start + i := by
    rw [UInt64.toNat_add, UInt64.toNat_ofNat', ← toNat_start]
    omega
  rw [UInt64.toNat_mod, toNat_capacity, sum]

/-- A snapshot does not wrap either. -/
theorem snapshot_eq_contents : ring.snapshot = ring.toRingBuffer.contents := by
  rw [RingBuffer.contents_eq_map_range, snapshot]
  apply List.map_congr_left
  intro i inUse
  rw [List.mem_range] at inUse
  congr 2
  exact toNat_place (inUse.trans_le ring.count_le)

/-- A push is seen in a snapshot as it would be in a queue. -/
theorem snapshot_push :
    (ring.push event).snapshot =
      BoundedQueue.enqueue ring.ring.length ring.snapshot event := by
  rw [snapshot_eq_contents, snapshot_eq_contents, toRingBuffer_push,
    RingBuffer.contents_push, toRingBuffer_cells]

/-! ## Runs -/

variable {allocMax : Nat} {capacity : UInt64}

/-- The ring after events pushed one after the other. -/
def pushAll (ring : AuditRing) (events : List AuditEvent) : AuditRing :=
  Machine.run push ring events

theorem toRingBuffer_pushAll (events : List AuditEvent) :
    (ring.pushAll events).toRingBuffer =
      Machine.run RingBuffer.push ring.toRingBuffer events :=
  (List.foldl_hom toRingBuffer fun _ _ => toRingBuffer_push.symm).symm

theorem create_eq_none_iff :
    create allocMax capacity = none ↔ vectorMaxSize allocMax < max capacity.toNat 1 := by
  rw [create, ← toNat_placesFor, ← Nat.not_le, dite_eq_right_iff]
  constructor
  · intro impossible fits
    cases impossible fits
  · intro tooLong fits
    exact absurd fits tooLong

/-- No place of a new ring is in use. -/
theorem toRingBuffer_of_create
    (created : create allocMax capacity = some ring) :
    ring.toRingBuffer =
      RingBuffer.replicate (placesFor capacity).toNat (placesFor_pos capacity) {} := by
  unfold create at created
  split_ifs at created with fits
  obtain rfl := Option.some.inj created
  rfl

/-- A ring holds, as a queue with so much room would, the last events pushed. -/
theorem pushAll_represents
    (created : create allocMax capacity = some ring)
    (events : List AuditEvent) :
    (ring.pushAll events).toRingBuffer.Represents (max capacity.toNat 1)
      (events.rtake (max capacity.toNat 1)) := by
  rw [toRingBuffer_pushAll, toRingBuffer_of_create created, ← toNat_placesFor]
  exact RingBuffer.run_push_represents (placesFor_pos capacity) {} events

theorem toNat_capacity_pushAll
    (created : create allocMax capacity = some ring)
    (events : List AuditEvent) :
    (ring.pushAll events).capacity.toNat = max capacity.toNat 1 := by
  rw [toNat_capacity]
  exact (pushAll_represents created events).length_cells

theorem toNat_size_pushAll
    (created : create allocMax capacity = some ring)
    (events : List AuditEvent) :
    (ring.pushAll events).size.toNat = min events.length (max capacity.toNat 1) := by
  have represents := pushAll_represents created events
  calc (ring.pushAll events).size.toNat
      = (ring.pushAll events).toRingBuffer.contents.length :=
        (RingBuffer.length_contents (ring.pushAll events).toRingBuffer).symm
    _ = min events.length (max capacity.toNat 1) := by
        rw [represents.contents_eq, BoundedQueue.length_rtake]

/-- A snapshot is the last events pushed, as many as there is room for, the oldest
first. -/
theorem snapshot_pushAll_create
    (allocMax : Nat)
    (capacity : UInt64)
    (events : List AuditEvent) :
    (create allocMax capacity).map (fun ring => (ring.pushAll events).snapshot) =
      if max capacity.toNat 1 ≤ vectorMaxSize allocMax then
        some (events.rtake (min events.length (max capacity.toNat 1)))
      else none := by
  cases created : create allocMax capacity with
  | none =>
      rw [create_eq_none_iff, ← Nat.not_le] at created
      rw [if_neg created, Option.map_none]
  | some ring =>
      have represents := pushAll_represents created events
      have fits : max capacity.toNat 1 ≤ vectorMaxSize allocMax := by
        rw [← Nat.not_lt, ← create_eq_none_iff, created]
        exact Option.some_ne_none ring
      rw [if_pos fits, Option.map_some, snapshot_eq_contents, represents.contents_eq,
        BoundedQueue.rtake_min_length]

/-- Five events go round a ring of three places. -/
example :
    (create 100 3).map (fun ring =>
      (ring.pushAll ([1, 2, 3, 4, 5].map fun time => { timestampUnixS := time })).snapshot.map
        AuditEvent.timestampUnixS) = some [3, 4, 5] := by
  decide

end AuditRing
end Audit
end QuackOauth
