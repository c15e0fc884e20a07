import Mathlib.Data.List.Perm.Basic
import QuackOauth.Lib.LinkedList
import QuackOauth.Lib.UnorderedMap

/-!
# Bounded maps with a recency list

A hash map and a linked list of its keys, most recent first, in which each entry
knows its node.  When the map outgrows its limit, the keys at the back of the list
leave.  The module states the invariant that ties the two together, shows that the
usual operations keep it, and reads them as operations on the plain list of keys.
-/

namespace Lib
namespace Lru

variable {Key Value : Type*}

section Lists

variable {lru : LinkedList Key} {key : Key}

@[simp] theorem values_pushFront :
    (lru.pushFront key).values = key :: lru.values := rfl

@[simp] theorem values_popBack : lru.popBack.values = lru.values.dropLast :=
  List.map_dropLast

@[simp] theorem begin_pushFront : (lru.pushFront key).begin = lru.nextNode := rfl

theorem back?_eq_getLast? : lru.back? = lru.values.getLast? :=
  List.getLast?_map.symm

theorem length_values : lru.values.length = lru.nodes.length :=
  List.length_map _

theorem mem_values : key ∈ lru.values ↔ ∃ number, (number, key) ∈ lru.nodes := by
  simp [LinkedList.values]

end Lists

variable [DecidableEq Key]

/-- The keys after one is stored: a new key comes in front, and as many as the limit
stay. -/
def keysAfter (limit : Nat) (recent : List Key) (key : Key) : List Key :=
  if key ∈ recent then recent else (key :: recent).take limit

/-- Drop the least recent keys until the limit is met, for at most so many rounds. -/
def evict
    (limit : Nat) :
    Nat → LinkedList Key → UnorderedMap Key Value →
      LinkedList Key × UnorderedMap Key Value
  | 0, lru, map => (lru, map)
  | fuel + 1, lru, map =>
      if UnorderedMap.size map > limit then
        match lru.back? with
        | none => (lru, map)
        | some victim => evict limit fuel lru.popBack (map.erase victim)
      else (lru, map)

/-- Nobody leaves a map within its limit. -/
theorem evict_of_size_le
    {limit : Nat}
    {map : UnorderedMap Key Value}
    (within : map.size ≤ limit)
    (fuel : Nat)
    (lru : LinkedList Key) :
    evict limit fuel lru map = (lru, map) := by
  cases fuel with
  | zero => rfl
  | succ fuel => exact if_neg (Nat.not_lt_of_le within)

/-- Each entry points to the node of its key, and each node is pointed to. -/
def Indexed
    (node : Value → Nat)
    (lru : LinkedList Key)
    (map : UnorderedMap Key Value) : Prop :=
  ∀ number key, (number, key) ∈ lru.nodes ↔
    ∃ value, map.lookup key = some value ∧ node value = number

variable {node : Value → Nat} {lru : LinkedList Key} {map : UnorderedMap Key Value}
variable {key : Key} {value replaced : Value} {limit : Nat}

theorem empty_indexed :
    Indexed node (LinkedList.empty : LinkedList Key) (∅ : UnorderedMap Key Value) := by
  intro number key
  constructor
  · intro member
    cases member
  · rintro ⟨value, stored, -⟩
    cases stored

namespace Indexed

theorem node_mem
    (indexed : Indexed node lru map)
    (stored : map.lookup key = some value) :
    (node value, key) ∈ lru.nodes :=
  (indexed _ _).mpr ⟨value, stored, rfl⟩

theorem node_lt
    (indexed : Indexed node lru map)
    (stored : map.lookup key = some value) :
    node value < lru.nextNode :=
  lru.node_lt _ (indexed.node_mem stored)

/-- The list holds the keys of the map. -/
theorem mem_values_iff (indexed : Indexed node lru map) :
    key ∈ lru.values ↔ (map.lookup key).isSome := by
  rw [mem_values, Option.isSome_iff_exists]
  constructor
  · rintro ⟨number, member⟩
    obtain ⟨value, stored, -⟩ := (indexed _ _).mp member
    exact ⟨value, stored⟩
  · rintro ⟨value, stored⟩
    exact ⟨node value, indexed.node_mem stored⟩

theorem lookup_eq_ite (indexed : Indexed node lru map) :
    map.lookup key = if key ∈ lru.values then map.lookup key else none := by
  split
  · rfl
  · next unlisted =>
      rwa [indexed.mem_values_iff, Option.not_isSome_iff_eq_none] at unlisted

/-- No key is listed twice. -/
theorem nodup_values (indexed : Indexed node lru map) : lru.values.Nodup := by
  apply List.Nodup.map_on _ (List.Nodup.of_map _ lru.nodup)
  rintro ⟨first, key⟩ firstMember ⟨second, other⟩ secondMember rfl
  obtain ⟨value, stored, rfl⟩ := (indexed _ _).mp firstMember
  obtain ⟨other, found, rfl⟩ := (indexed _ _).mp secondMember
  cases stored.symm.trans found
  rfl

/-- List and map are of the same length. -/
theorem length_values (indexed : Indexed node lru map) :
    lru.values.length = map.size := by
  rw [UnorderedMap.size_eq_length_keys]
  apply List.Perm.length_eq
  rw [List.perm_ext_iff_of_nodup indexed.nodup_values map.keys_nodup]
  intro key
  rw [indexed.mem_values_iff, AList.lookup_isSome, AList.mem_keys]

/-- An entry may change while it keeps its node. -/
theorem update
    (indexed : Indexed node lru map)
    (stored : map.lookup key = some value)
    (sameNode : node replaced = node value) :
    Indexed node lru (map.insert key replaced) := by
  intro number other
  rw [indexed, UnorderedMap.lookup_insert_eq_ite]
  split
  · next isKey =>
      subst isKey
      simp [stored, sameNode]
  · rfl

/-- A new key comes in front. -/
theorem insertNew
    (indexed : Indexed node lru map)
    (absent : map.lookup key = none)
    (atFront : node value = lru.nextNode) :
    Indexed node (lru.pushFront key) (map.insert key value) := by
  intro number other
  rw [LinkedList.mem_nodes_pushFront, indexed, UnorderedMap.lookup_insert_eq_ite,
    Prod.mk.injEq]
  split
  · next isKey =>
      subst isKey
      simp [absent, atFront, eq_comm]
  · next isOther => simp [isOther]

/-- A key leaves list and map together. -/
theorem erase
    (indexed : Indexed node lru map)
    (stored : map.lookup key = some value) :
    Indexed node (lru.erase (node value)) (map.erase key) := by
  intro number other
  rw [LinkedList.mem_nodes_erase, UnorderedMap.lookup_erase_eq_ite]
  constructor
  · rintro ⟨member, isOther⟩
    obtain ⟨found, present, rfl⟩ := (indexed _ _).mp member
    have otherKey : other ≠ key := by
      rintro rfl
      cases stored.symm.trans present
      exact isOther rfl
    rw [if_neg otherKey]
    exact ⟨found, present, rfl⟩
  · split
    · rintro ⟨found, impossible, -⟩
      cases impossible
    · next otherKey =>
        intro pointed
        refine ⟨(indexed _ _).mpr pointed, ?_⟩
        rintro rfl
        -- Two keys would share a node.
        have same := List.inj_on_of_nodup_map lru.nodup
          ((indexed _ _).mpr pointed) (indexed.node_mem stored) rfl
        exact otherKey (Prod.mk.inj same).2

/-- A stored key moves to the front. -/
theorem moveToFront
    (indexed : Indexed node lru map)
    (stored : map.lookup key = some value)
    (atFront : node replaced = lru.nextNode) :
    Indexed node ((lru.erase (node value)).pushFront key) (map.insert key replaced) := by
  have inserted : Indexed node ((lru.erase (node value)).pushFront key)
      ((map.erase key).insert key replaced) :=
    (indexed.erase stored).insertNew (AList.lookup_erase key map) atFront
  intro number other
  rw [inserted, UnorderedMap.lookup_insert_eq_ite, UnorderedMap.lookup_insert_eq_ite,
    UnorderedMap.lookup_erase_eq_ite]
  split <;> rfl

/-- Entries may change while they keep their nodes. -/
theorem mapEntries
    (indexed : Indexed node lru map)
    (update : Key → Value → Value)
    (sameNode : ∀ key value, node (update key value) = node value) :
    Indexed node lru (map.mapEntries update) := by
  intro number key
  rw [indexed, UnorderedMap.lookup_mapEntries]
  simp [sameNode]

/-- The entries that fail a test leave the map, and their nodes the list. -/
theorem filter
    (indexed : Indexed node lru map)
    (leaves : Key → Value → Bool) :
    Indexed node
      ((UnorderedMap.filter leaves map).entries.foldl
        (fun lru left => lru.erase (node left.2)) lru)
      (UnorderedMap.filter (fun key value => !leaves key value) map) := by
  have erased : ∀ (gone : List ((_ : Key) × Value)) (lru : LinkedList Key) (entry : Nat × Key),
      entry ∈ (gone.foldl (fun lru left => lru.erase (node left.2)) lru).nodes ↔
        entry ∈ lru.nodes ∧ ∀ left ∈ gone, entry.1 ≠ node left.2 := by
    intro gone
    induction gone with
    | nil => simp
    | cons left gone inductionHypothesis =>
        intro lru entry
        rw [List.foldl_cons, inductionHypothesis, LinkedList.mem_nodes_erase,
          List.forall_mem_cons, and_assoc]
  intro number key
  rw [erased, UnorderedMap.lookup_filter]
  constructor
  · rintro ⟨member, stays⟩
    obtain ⟨value, stored, isNode⟩ := (indexed _ _).mp member
    refine ⟨value, ?_, isNode⟩
    rw [Option.filter_eq_some_iff, Bool.not_eq_true']
    refine ⟨stored, Bool.eq_false_iff.mpr fun isLeaving => ?_⟩
    have isGone : (⟨key, value⟩ : (_ : Key) × Value) ∈
        (UnorderedMap.filter leaves map).entries := by
      refine List.mem_filter.mpr ⟨?_, isLeaving⟩
      exact AList.mem_lookup_iff.mp stored
    exact stays _ isGone isNode.symm
  · rintro ⟨value, kept, isNode⟩
    rw [Option.filter_eq_some_iff, Bool.not_eq_true'] at kept
    have member := (indexed number key).mpr ⟨value, kept.1, isNode⟩
    refine ⟨member, fun left isGone same => ?_⟩
    obtain ⟨present, isLeaving⟩ := List.mem_filter.mp isGone
    have found : map.lookup left.1 = some left.2 := AList.mem_lookup_iff.mpr present
    -- The node belongs to one key only.
    have pointed := indexed.node_mem found
    rw [← same] at pointed
    have equal := List.inj_on_of_nodup_map lru.nodup pointed member rfl
    have sameKey : left.1 = key := (Prod.mk.inj equal).2
    rw [sameKey, kept.1, Option.some.injEq] at found
    rw [sameKey, ← found, kept.2] at isLeaving
    cases isLeaving

/-- The key at the back leaves list and map together. -/
theorem popBack
    (indexed : Indexed node lru map)
    (isLast : lru.back? = some key) :
    Indexed node lru.popBack (map.erase key) := by
  obtain ⟨last, found, rfl⟩ := Option.map_eq_some_iff.mp isLast
  have member := List.mem_of_getLast? found
  obtain ⟨value, stored, isNode⟩ := (indexed last.1 last.2).mp member
  have split : lru.nodes = lru.nodes.dropLast ++ [last] :=
    (List.dropLast_append_getLast? last found).symm
  intro number other
  rw [← indexed.erase stored, LinkedList.mem_nodes_erase, isNode]
  have unique : ∀ node ∈ lru.nodes.dropLast, node.1 ≠ last.1 := by
    have nodup := lru.nodup
    rw [split, List.map_append, List.nodup_append] at nodup
    intro front frontMember same
    exact nodup.2.2 front.1 (List.mem_map_of_mem frontMember) last.1 (by simp) same
  constructor
  · intro inFront
    exact ⟨LinkedList.mem_nodes_of_mem_popBack inFront, unique _ inFront⟩
  · rintro ⟨inList, notLast⟩
    rw [split, List.mem_append, List.mem_singleton] at inList
    rcases inList with inFront | rfl
    · exact inFront
    · exact absurd rfl notLast

end Indexed

/-- What is left of a bounded map after eviction: the most recent keys, as many as the
limit, with their entries. -/
structure Evicted
    (node : Value → Nat)
    (limit : Nat)
    (lru : LinkedList Key)
    (map : UnorderedMap Key Value)
    (result : LinkedList Key × UnorderedMap Key Value) : Prop where
  indexed : Indexed node result.1 result.2
  values_eq : result.1.values = lru.values.take limit
  lookup_eq : ∀ key, result.2.lookup key =
    if key ∈ lru.values.take limit then map.lookup key else none

/-- A map within its limit stays. -/
theorem evicted_of_length_le
    (indexed : Indexed node lru map)
    (fits : lru.values.length ≤ limit) :
    Evicted node limit lru map (lru, map) where
  indexed := indexed
  values_eq := (List.take_of_length_le fits).symm
  lookup_eq := fun key => by
    simp only [List.take_of_length_le fits]
    exact indexed.lookup_eq_ite

theorem evict_evicted
    {fuel : Nat}
    (indexed : Indexed node lru map)
    (enough : lru.nodes.length ≤ fuel) :
    Evicted node limit lru map (evict limit fuel lru map) := by
  induction fuel generalizing lru map with
  | zero =>
      apply evicted_of_length_le indexed
      rw [Lru.length_values]
      omega
  | succ fuel inductionHypothesis =>
      unfold evict
      split
      · next tooMany =>
          rw [← indexed.length_values] at tooMany
          have nonempty : lru.values ≠ [] := List.ne_nil_of_length_pos (by omega)
          have isLast : lru.back? = some (lru.values.getLast nonempty) := by
            rw [back?_eq_getLast?, List.getLast?_eq_some_getLast nonempty]
          have kept : lru.values.dropLast.take limit = lru.values.take limit := by
            rw [List.dropLast_eq_take, List.take_take, min_eq_left (by omega)]
          have shorter : lru.popBack.nodes.length = lru.nodes.length - 1 :=
            List.length_dropLast
          obtain ⟨stays, values_eq, lookup_eq⟩ :=
            inductionHypothesis (indexed.popBack isLast) (by omega)
          simp only [values_popBack, kept] at values_eq lookup_eq
          simp only [isLast]
          refine ⟨stays, values_eq, fun key => ?_⟩
          rw [lookup_eq]
          split
          · next recent =>
              -- The last key is not among the most recent ones.
              have notLast : key ≠ lru.values.getLast nonempty := by
                rintro rfl
                have nodup := indexed.nodup_values
                rw [← List.dropLast_append_getLast nonempty, List.nodup_append] at nodup
                rw [← kept] at recent
                exact nodup.2.2 _ (List.mem_of_mem_take recent) _
                  (List.mem_singleton_self _) rfl
              rw [UnorderedMap.lookup_erase_eq_ite, if_neg notLast]
          · rfl
      · next fits =>
          rw [← indexed.length_values, not_lt] at fits
          exact evicted_of_length_le indexed fits

/-- Who leaves when a new key is stored. -/
def victim
    (limit : Nat)
    (lru : LinkedList Key)
    (map : UnorderedMap Key Value) : Option Key :=
  if map.size < limit then none else lru.back?

/-- The key that leaves is a stored one. -/
theorem Indexed.isSome_lookup_of_victim
    (indexed : Indexed node lru map)
    (leaves : victim limit lru map = some key) :
    (map.lookup key).isSome := by
  unfold victim at leaves
  split_ifs at leaves
  rw [back?_eq_getLast?] at leaves
  exact indexed.mem_values_iff.mp (List.mem_of_getLast? leaves)

/-- All keys but the victim have room beside a new one. -/
theorem Indexed.mem_take_iff
    (indexed : Indexed node lru map)
    (within : map.size ≤ limit + 1) :
    key ∈ lru.values.take limit ↔
      key ∈ lru.values ∧ victim (limit + 1) lru map ≠ some key := by
  rw [← indexed.length_values] at within
  unfold victim
  rw [← indexed.length_values]
  split_ifs with fits
  · rw [List.take_of_length_le (Nat.le_of_lt_succ fits)]
    simp
  · have nonempty : lru.values ≠ [] := List.ne_nil_of_length_pos (by omega)
    have isLast := List.dropLast_append_getLast nonempty
    have nodup := indexed.nodup_values
    have front : lru.values.take limit = lru.values.dropLast := by
      rw [List.dropLast_eq_take]
      congr 1
      omega
    rw [back?_eq_getLast?, List.getLast?_eq_some_getLast nonempty, front]
    rw [← isLast, List.nodup_append] at nodup
    constructor
    · intro member
      refine ⟨(List.dropLast_sublist _).subset member, ?_⟩
      rintro ⟨⟩
      exact nodup.2.2 _ member _ (List.mem_singleton_self _) rfl
    · rintro ⟨member, notLast⟩
      rw [← isLast, List.mem_append, List.mem_singleton] at member
      rcases member with inFront | rfl
      · exact inFront
      · exact absurd rfl notLast

/-- Store a new key in front, and evict. -/
def storeNew
    (limit : Nat)
    (lru : LinkedList Key)
    (map : UnorderedMap Key Value)
    (key : Key)
    (value : Value) : LinkedList Key × UnorderedMap Key Value :=
  evict limit (lru.pushFront key).nodes.length (lru.pushFront key) (map.insert key value)

/-- Storing a new key in a map within its limit costs at most the victim. -/
structure StoredNew
    (node : Value → Nat)
    (limit : Nat)
    (lru : LinkedList Key)
    (map : UnorderedMap Key Value)
    (key : Key)
    (value : Value)
    (result : LinkedList Key × UnorderedMap Key Value) : Prop where
  indexed : Indexed node result.1 result.2
  size_le : result.2.size ≤ limit
  values_eq : result.1.values = (key :: lru.values).take limit
  lookup_eq : ∀ other, result.2.lookup other =
    if victim limit lru map = some other then none
    else if other = key then some value
    else map.lookup other

theorem storeNew_stored
    (value : Value)
    (indexed : Indexed node lru map)
    (within : map.size ≤ limit)
    (room : 0 < limit)
    (absent : map.lookup key = none)
    (atFront : node value = lru.nextNode) :
    StoredNew node limit lru map key value (storeNew limit lru map key value) := by
  obtain ⟨limit, rfl⟩ : ∃ smaller, limit = smaller + 1 := ⟨limit - 1, by omega⟩
  have result : Evicted node (limit + 1) (lru.pushFront key) (map.insert key value)
      (storeNew (limit + 1) lru map key value) :=
    evict_evicted (indexed.insertNew absent atFront) (le_refl _)
  obtain ⟨evicted, values_eq, lookup_eq⟩ := result
  refine ⟨evicted, ?_, values_eq, fun other => ?_⟩
  · rw [← evicted.length_values, values_eq]
    exact List.length_take_le _ _
  · have stays : other ∈ lru.values.take limit ↔
        other ∈ lru.values ∧ victim (limit + 1) lru map ≠ some other :=
      indexed.mem_take_iff within
    rw [lookup_eq, UnorderedMap.lookup_insert_eq_ite]
    simp only [values_pushFront, List.take_succ_cons, List.mem_cons, stays]
    by_cases isKey : other = key
    · subst isKey
      have isNotVictim : victim (limit + 1) lru map ≠ some other := by
        intro leaves
        have present := indexed.isSome_lookup_of_victim leaves
        rw [absent] at present
        cases present
      simp [isNotVictim]
    · by_cases leaves : victim (limit + 1) lru map = some other
      · simp [isKey, leaves]
      · simp only [isKey, leaves, false_or, ne_eq, not_false_eq_true, and_true, if_false]
        exact indexed.lookup_eq_ite.symm

/-! ## Recency -/

/-- Nodes come in the order in which they were made, the newest first. -/
def NewestFirst (lru : LinkedList Key) : Prop :=
  (lru.nodes.map Prod.fst).Pairwise (· > ·)

omit [DecidableEq Key] in
theorem empty_newestFirst : NewestFirst (LinkedList.empty : LinkedList Key) :=
  List.Pairwise.nil

omit [DecidableEq Key] in
theorem NewestFirst.pushFront
    (sorted : NewestFirst lru)
    (key : Key) :
    NewestFirst (lru.pushFront key) := by
  refine List.pairwise_cons.mpr ⟨fun number member => ?_, sorted⟩
  obtain ⟨node, inList, rfl⟩ := List.mem_map.mp member
  exact lru.node_lt node inList

omit [DecidableEq Key] in
theorem NewestFirst.erase
    (sorted : NewestFirst lru)
    (iterator : Nat) :
    NewestFirst (lru.erase iterator) :=
  List.Pairwise.sublist (List.filter_sublist.map Prod.fst) sorted

omit [DecidableEq Key] in
theorem NewestFirst.popBack (sorted : NewestFirst lru) : NewestFirst lru.popBack :=
  List.Pairwise.sublist ((List.dropLast_sublist _).map Prod.fst) sorted

omit [DecidableEq Key] in
theorem NewestFirst.foldl_erase
    {Gone : Type*}
    (sorted : NewestFirst lru)
    (iteratorOf : Gone → Nat)
    (gone : List Gone) :
    NewestFirst (gone.foldl (fun lru left => lru.erase (iteratorOf left)) lru) := by
  induction gone generalizing lru with
  | nil => exact sorted
  | cons left gone inductionHypothesis => exact inductionHypothesis (sorted.erase _)

theorem NewestFirst.evict
    {fuel : Nat}
    (sorted : NewestFirst lru) :
    NewestFirst (evict limit fuel lru map).1 := by
  induction fuel generalizing lru map with
  | zero => exact sorted
  | succ fuel inductionHypothesis =>
      rw [Lru.evict]
      split
      · split
        · exact sorted
        · exact inductionHypothesis sorted.popBack
      · exact sorted

/-- The key at the back has the oldest node. -/
theorem NewestFirst.lt_of_back?
    {last : Key}
    {lastValue : Value}
    (sorted : NewestFirst lru)
    (indexed : Indexed node lru map)
    (isLast : lru.back? = some last)
    (lastStored : map.lookup last = some lastValue)
    (stored : map.lookup key = some value)
    (isOther : key ≠ last) :
    node lastValue < node value := by
  obtain ⟨back, found, rfl⟩ := Option.map_eq_some_iff.mp isLast
  have backMember := indexed.node_mem lastStored
  have split : lru.nodes = lru.nodes.dropLast ++ [back] :=
    (List.dropLast_append_getLast? back found).symm
  -- The node of the last key is the last node.
  obtain ⟨own, ownStored, ownNode⟩ := (indexed back.1 back.2).mp (List.mem_of_getLast? found)
  cases lastStored.symm.trans ownStored
  have member := indexed.node_mem stored
  rw [split, List.mem_append, List.mem_singleton] at member
  rcases member with inFront | rfl
  · unfold NewestFirst at sorted
    rw [split, List.map_append, List.pairwise_append] at sorted
    rw [ownNode]
    exact sorted.2.2 _ (List.mem_map_of_mem inFront) _ (by simp)
  · exact absurd rfl isOther

/-! ## The most recent keys -/

section Window

variable {recent kept : List Key} {count : Nat}

omit [DecidableEq Key] in
theorem values_foldl_erase_sublist
    {Gone : Type*}
    (iteratorOf : Gone → Nat)
    (gone : List Gone)
    (lru : LinkedList Key) :
    (gone.foldl (fun lru left => lru.erase (iteratorOf left)) lru).values.Sublist
      lru.values := by
  induction gone generalizing lru with
  | nil => exact List.Sublist.refl _
  | cons left gone inductionHypothesis =>
      have erased : (lru.erase (iteratorOf left)).values.Sublist lru.values :=
        List.filter_sublist.map Prod.snd
      exact List.Sublist.trans (inductionHypothesis _) erased

omit [DecidableEq Key] in
/-- A key that stays when others leave is at least as recent as it was. -/
theorem mem_take_of_sublist
    (nodup : recent.Nodup)
    (sublist : kept.Sublist recent)
    (member : key ∈ recent.take count)
    (stays : key ∈ kept) :
    key ∈ kept.take count := by
  rw [← List.take_append_drop count recent, List.sublist_append_iff] at sublist
  obtain ⟨front, back, rfl, frontSublist, backSublist⟩ := sublist
  rw [← List.take_append_drop count recent, List.nodup_append] at nodup
  have front_le : front.length ≤ count :=
    le_trans frontSublist.length_le (List.length_take_le _ _)
  rw [List.take_append, List.take_of_length_le front_le]
  rcases List.mem_append.mp stays with inFront | inBack
  · exact List.mem_append_left _ inFront
  · exact absurd rfl (nodup.2.2 key member key (backSublist.subset inBack))

/-- A key that is stored pushes the others back by one place at most. -/
theorem mem_take_keysAfter
    {other : Key}
    (member : key ∈ recent.take count)
    (room : count < limit) :
    key ∈ (keysAfter limit recent other).take (count + 1) := by
  unfold keysAfter
  split
  · exact (List.take_sublist_take_left (Nat.le_succ count)).subset member
  · rw [List.take_take, Nat.min_eq_left room, List.take_succ_cons]
    exact List.mem_cons_of_mem _ member

/-- A key that is stored is the most recent one, if it is new. -/
theorem mem_take_keysAfter_self
    (absent : key ∉ recent)
    (room : 0 < limit) :
    key ∈ (keysAfter limit recent key).take 1 := by
  rw [keysAfter, if_neg absent, List.take_take, Nat.min_eq_left room]
  exact List.mem_cons_self

end Window

/-! ## Keys that come in -/

/-- A key of the list is still there: fewer keys have come in than there are places
behind it. -/
def Remains (limit : Nat) (recent : List Key) (arrived : Nat) (key : Key) : Prop :=
  key ∈ recent ∧ recent.idxOf key + arrived < limit

instance (limit : Nat) (recent : List Key) (arrived : Nat) (key : Key) :
    Decidable (Remains limit recent arrived key) :=
  inferInstanceAs (Decidable (_ ∧ _))

/-- How many keys have come in once a key was stored: a key that is still there does not
come in. -/
def arrive (limit : Nat) (recent : List Key) (arrived : Nat) (key : Key) : Nat :=
  if Remains limit recent arrived key then arrived else arrived + 1

/-- How many of the keys that are stored one after another come in. -/
def arrivals (limit : Nat) (recent keys : List Key) : Nat :=
  keys.foldl (arrive limit recent) 0

/-- A key that is stored between others keeps its place: if it is still there when its
turn comes, in spite of all that come in, and otherwise if no more than the limit come in
from its turn on. -/
def KeepsPlace (limit : Nat) (recent earlier : List Key) (key : Key) (later : List Key) :
    Prop :=
  let total := arrivals limit recent (earlier ++ key :: later)
  if Remains limit recent (arrivals limit recent earlier) key then
    Remains limit recent total key
  else total ≤ arrivals limit recent earlier + limit

instance (limit : Nat) (recent earlier : List Key) (key : Key) (later : List Key) :
    Decidable (KeepsPlace limit recent earlier key later) :=
  inferInstanceAs (Decidable (ite _ _ _))

section Arrivals

variable {recent front keys earlier later : List Key}

/-- A key that has not come in is listed exactly if it is still there. -/
theorem mem_take_append_iff (isOther : key ∉ front) :
    key ∈ (front ++ recent).take limit ↔ Remains limit recent front.length key := by
  rw [List.take_append, List.mem_append, Remains]
  constructor
  · rintro (inFront | inBack)
    · exact absurd (List.mem_of_mem_take inFront) isOther
    · have listed := List.mem_of_mem_take inBack
      have near := (List.mem_take_iff_idxOf_lt listed).mp inBack
      exact ⟨listed, by omega⟩
  · rintro ⟨listed, near⟩
    exact .inr ((List.mem_take_iff_idxOf_lt listed).mpr (by omega))

/-- Storing a key puts it in front of those that came in, unless it is still there. -/
theorem keysAfter_take_append (isOther : key ∉ front) :
    keysAfter limit ((front ++ recent).take limit) key =
      ((if Remains limit recent front.length key then front else key :: front) ++
        recent).take limit := by
  unfold keysAfter
  simp only [mem_take_append_iff isOther]
  split
  · rfl
  · cases limit with
    | zero => rfl
    | succ limit =>
        rw [List.take_succ_cons, List.take_take, min_eq_left (Nat.le_succ limit),
          List.cons_append, List.take_succ_cons]

/-- Storing distinct keys one after another puts those that come in in front of the ones
that came in before. -/
theorem foldl_keysAfter_eq
    (limit : Nat)
    (recent front : List Key)
    (distinct : keys.Nodup)
    (others : keys.Disjoint front) :
    ∃ came : List Key, (∀ key ∈ came, key ∈ keys) ∧
      keys.foldl (keysAfter limit) ((front ++ recent).take limit) =
        (came ++ (front ++ recent)).take limit ∧
      came.length + front.length = keys.foldl (arrive limit recent) front.length := by
  induction keys generalizing front with
  | nil => exact ⟨[], fun _ member => member, rfl, by simp⟩
  | cons key keys inductionHypothesis =>
      obtain ⟨notMember, distinct⟩ := List.nodup_cons.mp distinct
      obtain ⟨isOther, others⟩ := List.disjoint_cons_left.mp others
      rw [List.foldl_cons, List.foldl_cons, keysAfter_take_append isOther, arrive]
      split
      · obtain ⟨came, known, list_eq, count_eq⟩ := inductionHypothesis front distinct others
        exact ⟨came, fun other member => List.mem_cons_of_mem _ (known other member),
          list_eq, count_eq⟩
      · obtain ⟨came, known, list_eq, count_eq⟩ := inductionHypothesis (key :: front)
          distinct (List.disjoint_cons_right.mpr ⟨notMember, others⟩)
        refine ⟨came ++ [key], ?_, ?_, ?_⟩
        · intro other member
          rw [List.mem_append, List.mem_singleton] at member
          rcases member with later | rfl
          · exact List.mem_cons_of_mem _ (known other later)
          · exact List.mem_cons_self
        · rw [list_eq]
          simp
        · rw [List.length_cons] at count_eq
          rw [← count_eq, List.length_append, List.length_singleton]
          omega

/-- After distinct other keys were stored one after another, a key is listed exactly if it
is still there. -/
theorem mem_foldl_keysAfter_of_other_iff
    (within : recent.length ≤ limit)
    (distinct : keys.Nodup)
    (isOther : key ∉ keys) :
    key ∈ keys.foldl (keysAfter limit) recent ↔
      Remains limit recent (arrivals limit recent keys) key := by
  obtain ⟨came, known, list_eq, count_eq⟩ := foldl_keysAfter_eq limit recent []
    distinct (List.disjoint_nil_right keys)
  rw [List.nil_append, List.take_of_length_le within] at list_eq
  rw [list_eq, mem_take_append_iff fun member => isOther (known key member)]
  exact iff_of_eq (congrArg (Remains limit recent · key) count_eq)

/-- After distinct keys were stored one after another, a key among them is listed exactly
if it kept its place. -/
theorem mem_foldl_keysAfter_iff
    (within : recent.length ≤ limit)
    (distinct : (earlier ++ key :: later).Nodup) :
    key ∈ (earlier ++ key :: later).foldl (keysAfter limit) recent ↔
      KeepsPlace limit recent earlier key later := by
  rw [List.nodup_middle, List.nodup_cons, List.mem_append, not_or] at distinct
  obtain ⟨⟨notEarlier, notLater⟩, distinct⟩ := distinct
  obtain ⟨earlierDistinct, laterDistinct, apart⟩ := List.nodup_append.mp distinct
  obtain ⟨came, known, list_eq, count_eq⟩ := foldl_keysAfter_eq limit recent []
    earlierDistinct (List.disjoint_nil_right earlier)
  rw [List.nil_append, List.take_of_length_le within] at list_eq
  have arrived : came.length = arrivals limit recent earlier := count_eq
  have isOther : key ∉ came := fun member => notEarlier (known key member)
  have others : later.Disjoint came := fun other member inFront =>
    apart other (known other inFront) other member rfl
  have total_eq : arrivals limit recent (earlier ++ key :: later) =
      later.foldl (arrive limit recent) (arrive limit recent came.length key) := by
    rw [arrivals, List.foldl_append, List.foldl_cons, arrived]
    rfl
  rw [KeepsPlace, total_eq, ← arrived, List.foldl_append, List.foldl_cons, list_eq,
    keysAfter_take_append isOther, arrive]
  split
  · -- The key is where it was, and those that come in come in front of it.
    obtain ⟨next, nextKnown, nextList_eq, nextCount_eq⟩ := foldl_keysAfter_eq limit
      recent _ laterDistinct others
    have nextOther : key ∉ next ++ came := by
      rw [List.mem_append, not_or]
      exact ⟨fun member => notLater (nextKnown key member), isOther⟩
    rw [nextList_eq, ← List.append_assoc, mem_take_append_iff nextOther,
      List.length_append, nextCount_eq]
  · -- The key comes in, and only what comes in later is in front of it.
    obtain ⟨next, nextKnown, nextList_eq, nextCount_eq⟩ := foldl_keysAfter_eq limit
      recent _ laterDistinct (List.disjoint_cons_right.mpr ⟨notLater, others⟩)
    have nextOther : key ∉ next := fun member => notLater (nextKnown key member)
    rw [List.length_cons] at nextCount_eq
    rw [nextList_eq, ← nextCount_eq, List.mem_take_iff_idxOf_lt (by simp),
      List.idxOf_append_of_notMem nextOther, List.cons_append, List.idxOf_cons_self]
    omega

end Arrivals

end Lru
end Lib
