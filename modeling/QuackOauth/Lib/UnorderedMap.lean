import Mathlib.Data.List.AList

/-!
# Unordered maps

A hash map with unique keys, represented by Mathlib's association lists.  The
module adds what a hash-map client needs beyond `AList`: the size, updating every
value in place, erasing the entries that fail a test, and an explicit iteration
order.  A program that loops over a hash map may rely on no order, so the order is
an argument: any rearrangement of the entries.
-/

namespace Lib

/-- A hash map from keys to values. -/
abbrev UnorderedMap (Key Value : Type*) := AList (fun _ : Key => Value)

namespace UnorderedMap

variable {Key Value : Type*}

/-- Number of entries. -/
def size (map : UnorderedMap Key Value) : Nat :=
  map.entries.length

theorem size_eq_length_keys (map : UnorderedMap Key Value) :
    map.size = map.keys.length := by
  simp [size, AList.keys, List.keys]

/-- Replace each value by a function of its key and value. -/
def mapEntries
    (update : Key → Value → Value)
    (map : UnorderedMap Key Value) : UnorderedMap Key Value where
  entries := map.entries.map fun entry => ⟨entry.1, update entry.1 entry.2⟩
  nodupKeys := by
    have sameKeys : (map.entries.map fun entry : (_ : Key) × Value =>
        (⟨entry.1, update entry.1 entry.2⟩ : (_ : Key) × Value)).keys =
          map.entries.keys := by
      simp [List.keys, Function.comp_def]
    rw [List.NodupKeys, sameKeys]
    exact map.nodupKeys

/-- Keep the entries that pass a test on their key and value. -/
def filter
    (keep : Key → Value → Bool)
    (map : UnorderedMap Key Value) : UnorderedMap Key Value where
  entries := map.entries.filter fun entry => keep entry.1 entry.2
  nodupKeys :=
    map.nodupKeys.sublist List.filter_sublist

variable [DecidableEq Key]

@[simp] theorem lookup_mapEntries
    (update : Key → Value → Value)
    (map : UnorderedMap Key Value)
    (key : Key) :
    (mapEntries update map).lookup key =
      (map.lookup key).map (update key) :=
  List.dlookup_map₂ key

theorem lookup_filter
    (keep : Key → Value → Bool)
    (map : UnorderedMap Key Value)
    (key : Key) :
    (filter keep map).lookup key =
      (map.lookup key).filter (keep key) := by
  ext value
  rw [Option.filter_eq_some_iff, ← Option.mem_def, ← Option.mem_def,
    AList.mem_lookup_iff, AList.mem_lookup_iff]
  simp only [filter, List.mem_filter]

/-- Erasing a key reads as erasing it at every key. -/
theorem lookup_erase_eq_ite
    (erased key : Key)
    (map : UnorderedMap Key Value) :
    (map.erase erased).lookup key =
      if key = erased then none else map.lookup key := by
  split
  · subst key
    exact AList.lookup_erase erased map
  · exact AList.lookup_erase_ne ‹_›

/-- Inserting a key reads as a function update. -/
theorem lookup_insert_eq_ite
    (inserted key : Key)
    (value : Value)
    (map : UnorderedMap Key Value) :
    (map.insert inserted value).lookup key =
      if key = inserted then some value else map.lookup key := by
  split
  · subst key
    exact AList.lookup_insert map
  · exact AList.lookup_insert_ne ‹_›

theorem size_insert_le
    (map : UnorderedMap Key Value)
    (key : Key)
    (value : Value) :
    size (map.insert key value) ≤ map.size + 1 := by
  rw [size_eq_length_keys, size_eq_length_keys, AList.keys_insert, List.length_cons]
  exact Nat.succ_le_succ List.length_erase_le

theorem size_erase_le
    (map : UnorderedMap Key Value)
    (key : Key) :
    size (map.erase key) ≤ map.size :=
  (List.kerase_sublist key map.entries).length_le

theorem size_erase_add_one
    {map : UnorderedMap Key Value}
    {key : Key}
    (member : key ∈ map) :
    size (map.erase key) + 1 = map.size := by
  have inKeys : key ∈ map.keys := AList.mem_keys.mp member
  have positive := List.length_pos_of_mem inKeys
  rw [size_eq_length_keys, size_eq_length_keys, AList.keys_erase,
    List.length_erase_of_mem inKeys]
  omega

end UnorderedMap

/-- An order in which a loop visits the entries of a hash map. -/
structure IterationOrder (Key Value : Type*) where
  /-- The entries in visiting order. -/
  arrange : List ((_ : Key) × Value) → List ((_ : Key) × Value)
  /-- Every entry is visited, and visited once. -/
  arrange_perm : ∀ entries, (arrange entries).Perm entries

namespace IterationOrder

variable {Key Value : Type*}

/-- Visit the entries as they are stored. -/
def stored : IterationOrder Key Value where
  arrange := id
  arrange_perm := fun entries => List.Perm.refl entries

/-- Visit the entries the other way round. -/
def reversed : IterationOrder Key Value where
  arrange := List.reverse
  arrange_perm := List.reverse_perm

/-- The entries of a map in visiting order. -/
def visit
    (order : IterationOrder Key Value)
    (map : UnorderedMap Key Value) : List ((_ : Key) × Value) :=
  order.arrange map.entries

@[simp] theorem mem_visit
    [DecidableEq Key]
    {order : IterationOrder Key Value}
    {map : UnorderedMap Key Value}
    {entry : (_ : Key) × Value} :
    entry ∈ order.visit map ↔ map.lookup entry.1 = some entry.2 := by
  rw [visit, (order.arrange_perm map.entries).mem_iff,
    ← AList.mem_lookup_iff, Option.mem_def]

theorem length_visit
    (order : IterationOrder Key Value)
    (map : UnorderedMap Key Value) :
    (order.visit map).length = map.size :=
  (order.arrange_perm map.entries).length_eq

/-- No key is visited twice. -/
theorem nodup_visit
    (order : IterationOrder Key Value)
    (map : UnorderedMap Key Value) :
    ((order.visit map).map Sigma.fst).Nodup :=
  ((order.arrange_perm map.entries).map Sigma.fst).nodup_iff.mpr map.nodupKeys

/-- The entry of a key is visited between entries of other keys. -/
theorem visit_split
    [DecidableEq Key]
    {map : UnorderedMap Key Value}
    {key : Key}
    {value : Value}
    (order : IterationOrder Key Value)
    (stored : map.lookup key = some value) :
    ∃ later, order.visit map =
        (order.visit map).takeWhile (fun entry => entry.1 ≠ key) ++ ⟨key, value⟩ :: later ∧
      ∀ entry ∈ (order.visit map).takeWhile (fun entry => entry.1 ≠ key) ++ later,
        entry.1 ≠ key := by
  have visited : (⟨key, value⟩ : (_ : Key) × Value) ∈ order.visit map := mem_visit.mpr stored
  obtain ⟨earlier, later, split⟩ := List.append_of_mem visited
  have nodup := nodup_visit order map
  rw [split, List.map_append, List.map_cons, List.nodup_middle, List.nodup_cons,
    ← List.map_append] at nodup
  have others : ∀ entry ∈ earlier ++ later, entry.1 ≠ key := by
    intro entry member isKey
    have listed : entry.1 ∈ (earlier ++ later).map Sigma.fst := List.mem_map_of_mem member
    rw [isKey] at listed
    exact nodup.1 listed
  have front : (order.visit map).takeWhile (fun entry => entry.1 ≠ key) = earlier := by
    rw [split, List.takeWhile_append_of_pos fun entry member =>
      decide_eq_true (others entry (List.mem_append_left _ member))]
    simp
  rw [front]
  exact ⟨later, split, others⟩

end IterationOrder
end Lib
