import QuackOauth.Lib.Lru
import QuackOauth.Lib.TimedLru
import QuackOauth.Opaque.DecisionCache

/-!
# The decision cache as a timed LRU map

Seen from outside, the index and the linked list of the decision cache are one list of
decisions, most recently used first: index and list stay in bijection, and every lookup
and store acts on the list as on a timed LRU map.  What a lookup returns after any
sequence of calls follows.
-/

namespace QuackOauth
namespace Opaque

open Lib Policy

/-- A use of the cache. -/
inductive DecisionCall
  | lookup (key : String) (nowS : Int)
  | store (key : String) (principal : Principal) (nowS : Int)
  deriving DecidableEq

/-- A decision is worth keeping at a time: it is not expired already. -/
def Storable (defaultTtlS : Int) (principal : Principal) (nowS : Int) : Prop :=
  0 < defaultTtlS ∧ (0 < principal.exp → nowS < principal.exp)

/-- A decision stored at a time is unexpired at another. -/
def Unexpired (defaultTtlS : Int) (principal : Principal) (storedS nowS : Int) : Prop :=
  nowS < storedS + defaultTtlS ∧ (0 < principal.exp → nowS < principal.exp)

instance {defaultTtlS : Int} {principal : Principal} {nowS : Int} :
    Decidable (Storable defaultTtlS principal nowS) :=
  inferInstanceAs (Decidable (_ ∧ _))

instance {defaultTtlS : Int} {principal : Principal} {storedS nowS : Int} :
    Decidable (Unexpired defaultTtlS principal storedS nowS) :=
  inferInstanceAs (Decidable (_ ∧ _))

namespace DecisionCall

/-- A call stores a decision that is not expired already. -/
def Stores
    (defaultTtlS : Int)
    (key : String)
    (principal : Principal)
    (nowS : Int)
    (call : DecisionCall) : Prop :=
  call = .store key principal nowS ∧ Storable defaultTtlS principal nowS

/-- A call stores no decision for a key, or one that is expired already. -/
def Spares (defaultTtlS : Int) (key : String) : DecisionCall → Prop
  | .lookup _ _ => True
  | .store other principal nowS => other = key → ¬Storable defaultTtlS principal nowS

/-- A call does not look a decision up when it has expired. -/
def InTime
    (defaultTtlS : Int)
    (key : String)
    (principal : Principal)
    (storedS : Int) : DecisionCall → Prop
  | .lookup other nowS => other = key → Unexpired defaultTtlS principal storedS nowS
  | .store _ _ _ => True

instance {defaultTtlS : Int} {key : String} {principal : Principal} {nowS : Int}
    (call : DecisionCall) : Decidable (Stores defaultTtlS key principal nowS call) :=
  inferInstanceAs (Decidable (_ ∧ _))

instance {defaultTtlS : Int} {key : String} :
    ∀ call, Decidable (Spares defaultTtlS key call)
  | .lookup _ _ => inferInstanceAs (Decidable True)
  | .store _ _ _ => inferInstanceAs (Decidable (_ → _))

instance {defaultTtlS : Int} {key : String} {principal : Principal} {storedS : Int} :
    ∀ call, Decidable (InTime defaultTtlS key principal storedS call)
  | .lookup _ _ => inferInstanceAs (Decidable (_ → _))
  | .store _ _ _ => inferInstanceAs (Decidable True)

end DecisionCall

namespace DecisionCache

/-- Carry out a call. -/
def apply (cache : DecisionCache) : DecisionCall → DecisionCache
  | .lookup key nowS => (lookup key nowS cache).2
  | .store key principal nowS => store key principal nowS cache

/-- The key that a call hits or stores. -/
def usedKey (cache : DecisionCache) : DecisionCall → Option String
  | .lookup key nowS => (lookup key nowS cache).1.map fun _ => key
  | .store key principal nowS =>
      if Storable cache.defaultTtlS principal nowS then some key else none

/-- Index and list are in bijection, within the capacity. -/
structure Linked (cache : DecisionCache) : Prop where
  lookup_iff : ∀ key it, cache.index.lookup key = some it ↔
    ∃ entry, (it, entry) ∈ cache.entries.nodes ∧ entry.key = key
  length_le : cache.entries.nodes.length ≤ cache.maxEntries

/-- The entry that a store makes. -/
def entryOf (defaultTtlS : Int) (key : String) (principal : Principal) (nowS : Int) :
    DecisionEntry where
  key := key
  principal := principal
  expiresAtS := nowS + ttlFor principal nowS (create 0 defaultTtlS)

/-- A call, as one of a timed LRU map. -/
def abstractCall (defaultTtlS : Int) : DecisionCall → TimedLru.Call DecisionEntry String
  | .lookup key nowS => .lookup key nowS
  | .store key principal nowS => .store (entryOf defaultTtlS key principal nowS) nowS

variable {cache : DecisionCache} {key : String} {principal : Principal} {nowS : Int}

/-! ## Times -/

theorem ttlFor_eq :
    ttlFor principal nowS cache =
      ttlFor principal nowS (create 0 cache.defaultTtlS) := rfl

theorem expired_entryOf_iff {defaultTtlS : Int} :
    (entryOf defaultTtlS key principal nowS).expiresAtS ≤ nowS ↔
      ¬Storable defaultTtlS principal nowS := by
  unfold entryOf ttlFor create Storable
  dsimp only
  split <;> omega

theorem lt_expiresAtS_entryOf_iff {defaultTtlS storedS : Int} :
    nowS < (entryOf defaultTtlS key principal storedS).expiresAtS ↔
      Unexpired defaultTtlS principal storedS nowS := by
  unfold entryOf ttlFor create Unexpired
  dsimp only
  split <;> omega

/-! ## Index and list -/

/-- The nodes by key, as the list of an indexed map. -/
theorem lookup_iff_iff_indexed :
    (∀ key it, cache.index.lookup key = some it ↔
      ∃ entry, (it, entry) ∈ cache.entries.nodes ∧ entry.key = key) ↔
      Lru.Indexed id (cache.entries.map DecisionEntry.key) cache.index := by
  have pointed : ∀ number key, (∃ value, cache.index.lookup key = some value ∧
      id value = number) ↔ cache.index.lookup key = some number := by
    intro number key
    simp
  constructor
  · intro lookup_iff number key
    rw [LinkedList.mem_nodes_map, pointed]
    exact (lookup_iff key number).symm
  · intro indexed key it
    rw [← pointed, ← indexed it key]
    exact LinkedList.mem_nodes_map

theorem Linked.indexed (linked : Linked cache) :
    Lru.Indexed id (cache.entries.map DecisionEntry.key) cache.index :=
  lookup_iff_iff_indexed.mp linked.lookup_iff

theorem Linked.wellFormed (linked : Linked cache) :
    TimedLru.WellFormed DecisionEntry.key cache.maxEntries cache.entries.values where
  nodup := by
    have nodup := linked.indexed.nodup_values
    rwa [LinkedList.values_map] at nodup
  length_le := by
    rw [Lru.length_values]
    exact linked.length_le

/-- An indexed key has its entry. -/
theorem Linked.entry_of_lookup
    (linked : Linked cache)
    {it : Nat}
    (found : cache.index.lookup key = some it) :
    ∃ entry, (it, entry) ∈ cache.entries.nodes ∧ entry.key = key ∧
      cache.entries.get? it = some entry ∧ entry ∈ cache.entries.values := by
  obtain ⟨entry, member, isKey⟩ := (linked.lookup_iff key it).mp found
  exact ⟨entry, member, isKey, LinkedList.get?_eq_some_iff.mpr member,
    List.mem_map_of_mem member⟩

/-- A key that is not indexed has none. -/
theorem Linked.absent_of_lookup
    (linked : Linked cache)
    (notFound : cache.index.lookup key = none) :
    ∀ entry ∈ cache.entries.values, entry.key ≠ key := by
  intro entry member isKey
  obtain ⟨it, pointed⟩ := Lru.mem_values.mp member
  have found := (linked.lookup_iff key it).mpr ⟨entry, pointed, isKey⟩
  rw [notFound] at found
  cases found

/-- Without its node, a key has no entry. -/
theorem Linked.values_erase
    (linked : Linked cache)
    {it : Nat}
    {entry : DecisionEntry}
    (member : (it, entry) ∈ cache.entries.nodes) :
    (cache.entries.erase it).values =
      TimedLru.without DecisionEntry.key entry.key cache.entries.values := by
  unfold LinkedList.values LinkedList.erase TimedLru.without
  rw [List.filter_map]
  congr 1
  apply List.filter_congr
  rintro ⟨number, other⟩ otherMember
  rw [Function.comp_apply, decide_eq_decide, not_iff_not]
  constructor
  · rintro rfl
    have same := List.inj_on_of_nodup_map cache.entries.nodup otherMember member rfl
    rw [same]
  · intro sameKey
    have first := (linked.lookup_iff other.key number).mpr ⟨other, otherMember, rfl⟩
    have second := (linked.lookup_iff entry.key it).mpr ⟨entry, member, rfl⟩
    rw [show other.key = entry.key from sameKey, second] at first
    exact (Option.some.inj first).symm

theorem create_linked (maxEntries : Nat) (defaultTtlS : Int) :
    Linked (create maxEntries defaultTtlS) where
  lookup_iff := lookup_iff_iff_indexed.mpr Lru.empty_indexed
  length_le := Nat.zero_le _

/-! ## The operations, on the list -/

@[simp] theorem maxEntries_lookup :
    (lookup key nowS cache).2.maxEntries = cache.maxEntries := by
  unfold lookup
  split
  · rfl
  · split
    · rfl
    · split_ifs <;> rfl

@[simp] theorem maxEntries_evict (rounds : Nat) :
    (evict rounds cache).maxEntries = cache.maxEntries := by
  induction rounds generalizing cache with
  | zero => rfl
  | succ rounds inductionHypothesis =>
      rw [evict]
      split_ifs
      · split
        · rfl
        · rw [inductionHypothesis]
      · rfl

@[simp] theorem maxEntries_store :
    (store key principal nowS cache).maxEntries = cache.maxEntries := by
  unfold store
  dsimp only
  split_ifs
  · rfl
  · split
    · rfl
    · rw [maxEntries_evict]

/-- What an operation makes of a cache is linked, and its list is the one given. -/
structure Becomes (result : DecisionCache) (entries : List DecisionEntry) : Prop where
  linked : Linked result
  values_eq : result.entries.values = entries

/-- A lookup acts on the list of entries. -/
theorem lookup_becomes (linked : Linked cache) :
    Becomes (lookup key nowS cache).2
      (TimedLru.lookup DecisionEntry.key DecisionEntry.expiresAtS key nowS
        cache.entries.values).2 := by
  unfold lookup
  cases found : cache.index.lookup key with
  | none =>
      rw [TimedLru.lookup_of_absent (linked.absent_of_lookup found)]
      exact ⟨linked, rfl⟩
  | some it =>
      obtain ⟨entry, member, rfl, pointed, listed⟩ := linked.entry_of_lookup found
      rw [TimedLru.lookup_of_mem linked.wellFormed listed]
      simp only [pointed]
      split
      · refine ⟨⟨?_, ?_⟩, linked.values_erase member⟩
        · apply lookup_iff_iff_indexed.mpr
          have erased := linked.indexed.erase found
          rwa [LinkedList.erase_map] at erased
        · exact le_trans (List.length_filter_le _ _) linked.length_le
      · have moved : (cache.entries.splice it).values =
            entry :: TimedLru.without DecisionEntry.key entry.key cache.entries.values := by
          rw [LinkedList.values_splice member, linked.values_erase member]
        refine ⟨⟨?_, ?_⟩, moved⟩
        · intro other number
          simp only [LinkedList.mem_nodes_splice]
          exact linked.lookup_iff other number
        · change (cache.entries.splice it).nodes.length ≤ cache.maxEntries
          rw [← Lru.length_values, moved,
            (linked.wellFormed.perm_without listed).length_eq]
          exact linked.wellFormed.length_le

/-- A lookup returns what the list has. -/
theorem lookup_eq (linked : Linked cache) :
    (lookup key nowS cache).1 =
      (TimedLru.lookup DecisionEntry.key DecisionEntry.expiresAtS key nowS
        cache.entries.values).1.map DecisionEntry.principal := by
  unfold lookup
  cases found : cache.index.lookup key with
  | none =>
      rw [TimedLru.lookup_of_absent (linked.absent_of_lookup found)]
      rfl
  | some it =>
      obtain ⟨entry, -, rfl, pointed, listed⟩ := linked.entry_of_lookup found
      rw [TimedLru.lookup_of_mem linked.wellFormed listed]
      simp only [pointed]
      split <;> rfl

/-- A cache within its capacity stays. -/
theorem becomes_of_length_le
    (indexed : Lru.Indexed id (cache.entries.map DecisionEntry.key) cache.index)
    (fits : cache.entries.nodes.length ≤ cache.maxEntries) :
    Becomes cache (cache.entries.values.take cache.maxEntries) where
  linked := ⟨lookup_iff_iff_indexed.mpr indexed, fits⟩
  values_eq := by
    rw [List.take_of_length_le]
    rwa [Lru.length_values]

/-- Eviction keeps the entries in front, as many as the capacity. -/
theorem evict_becomes
    {rounds : Nat}
    (indexed : Lru.Indexed id (cache.entries.map DecisionEntry.key) cache.index)
    (enough : cache.entries.nodes.length ≤ rounds) :
    Becomes (evict rounds cache) (cache.entries.values.take cache.maxEntries) := by
  induction rounds generalizing cache with
  | zero => exact becomes_of_length_le indexed (le_trans enough (Nat.zero_le _))
  | succ rounds inductionHypothesis =>
      rw [evict]
      split
      · next tooMany =>
          have nonempty : cache.entries.nodes ≠ [] := List.ne_nil_of_length_pos (by omega)
          have isLast : cache.entries.back? =
              some (cache.entries.nodes.getLast nonempty).2 := by
            rw [LinkedList.back?, List.getLast?_eq_some_getLast nonempty]
            rfl
          have shorter : cache.entries.popBack.nodes.length =
              cache.entries.nodes.length - 1 := List.length_dropLast
          have dropped := indexed.popBack (LinkedList.back?_map.trans
            (congrArg (Option.map DecisionEntry.key) isLast))
          rw [LinkedList.popBack_map] at dropped
          have kept : cache.entries.values.dropLast.take cache.maxEntries =
              cache.entries.values.take cache.maxEntries := by
            have length_eq : cache.entries.values.length = cache.entries.nodes.length :=
              Lru.length_values
            rw [List.dropLast_eq_take, List.take_take, min_eq_left (by omega)]
          simp only [isLast]
          rw [← kept, ← Lru.values_popBack]
          exact inductionHypothesis dropped (by dsimp only; omega)
      · next fits => exact becomes_of_length_le indexed (Nat.le_of_not_lt fits)

/-- Iterators point to entries of the same keys after an entry is changed and moved. -/
theorem exists_mem_splice_modify
    {entries : LinkedList DecisionEntry}
    {change : DecisionEntry → DecisionEntry}
    (keepsKey : ∀ entry, (change entry).key = entry.key)
    (it number : Nat)
    (key : String) :
    (∃ entry, (number, entry) ∈ ((entries.modify it change).splice it).nodes ∧
        entry.key = key) ↔
      ∃ entry, (number, entry) ∈ entries.nodes ∧ entry.key = key := by
  simp only [LinkedList.mem_nodes_splice, LinkedList.mem_nodes_modify]
  constructor
  · rintro ⟨new, ⟨old, oldMember, new_eq⟩, isKey⟩
    obtain ⟨rfl, rfl⟩ := Prod.mk.inj new_eq
    refine ⟨old.2, oldMember, ?_⟩
    rw [← isKey]
    split
    · exact (keepsKey old.2).symm
    · rfl
  · rintro ⟨old, oldMember, isKey⟩
    refine ⟨_, ⟨(number, old), oldMember, rfl⟩, ?_⟩
    split
    · exact (keepsKey old).trans isKey
    · exact isKey

/-- A store acts on the list of entries. -/
theorem store_becomes (linked : Linked cache) :
    Becomes (store key principal nowS cache)
      (TimedLru.step DecisionEntry.key DecisionEntry.expiresAtS cache.maxEntries
        cache.entries.values
        (.store (entryOf cache.defaultTtlS key principal nowS) nowS)) := by
  have ignored : ttlFor principal nowS cache ≤ 0 ↔
      (entryOf cache.defaultTtlS key principal nowS).expiresAtS ≤ nowS := by
    rw [entryOf, ← ttlFor_eq]
    dsimp only
    omega
  unfold store
  rw [TimedLru.step]
  simp only [ignored]
  split
  · exact ⟨linked, rfl⟩
  · cases found : cache.index.lookup key with
    | some it =>
        obtain ⟨entry, member, rfl, -, listed⟩ := linked.entry_of_lookup found
        have length_eq := (linked.wellFormed.perm_without listed).length_eq
        have fits := linked.wellFormed.length_le
        have modified : (it, entryOf cache.defaultTtlS entry.key principal nowS) ∈
            (cache.entries.modify it fun entry => { entry with
              principal
              expiresAtS := nowS + ttlFor principal nowS cache }).nodes := by
          apply LinkedList.mem_nodes_modify.mpr
          refine ⟨(it, entry), member, ?_⟩
          simp only [if_true]
          rfl
        have values_eq := LinkedList.values_splice modified
        rw [LinkedList.values_erase_modify, linked.values_erase member] at values_eq
        rw [TimedLru.put, List.take_of_length_le]
        · refine ⟨⟨?_, ?_⟩, values_eq⟩
          · intro other number
            rw [linked.lookup_iff, exists_mem_splice_modify]
            intro entry
            rfl
          · dsimp only
            rw [← Lru.length_values, values_eq]
            rw [List.length_cons] at length_eq ⊢
            omega
        · rw [List.length_cons] at length_eq ⊢
          change (TimedLru.without DecisionEntry.key entry.key _).length + 1 ≤ _
          omega
    | none =>
        have absent := linked.absent_of_lookup found
        have absentSelf : TimedLru.without DecisionEntry.key
            (entryOf cache.defaultTtlS key principal nowS).key cache.entries.values =
              cache.entries.values := TimedLru.without_eq_self absent
        rw [TimedLru.put, absentSelf]
        exact evict_becomes (linked.indexed.insertNew found rfl) (le_refl _)

/-! ## Runs -/

/-- A cache of given capacity and default time that holds the entries of a timed LRU
map. -/
structure Holds
    (maxEntries : Nat)
    (defaultTtlS : Int)
    (cache : DecisionCache)
    (entries : List DecisionEntry) : Prop where
  becomes : Becomes cache entries
  maxEntries_eq : cache.maxEntries = (create maxEntries defaultTtlS).maxEntries
  defaultTtlS_eq : cache.defaultTtlS = defaultTtlS

variable {maxEntries : Nat} {defaultTtlS : Int} {entries : List DecisionEntry}

/-- A call of the cache is one of the map. -/
theorem Holds.apply
    (holds : Holds maxEntries defaultTtlS cache entries)
    (call : DecisionCall) :
    Holds maxEntries defaultTtlS (cache.apply call)
      (TimedLru.step DecisionEntry.key DecisionEntry.expiresAtS
        (create maxEntries defaultTtlS).maxEntries entries
        (abstractCall defaultTtlS call)) := by
  obtain ⟨⟨linked, rfl⟩, maxEntries_eq, rfl⟩ := holds
  rw [← maxEntries_eq]
  cases call with
  | lookup key nowS =>
      exact ⟨lookup_becomes linked, maxEntries_lookup.trans maxEntries_eq,
        defaultTtlS_lookup⟩
  | store key principal nowS =>
      exact ⟨store_becomes linked, maxEntries_store.trans maxEntries_eq,
        defaultTtlS_store⟩

/-- Cache and map use the same keys. -/
theorem Holds.usedKey_eq
    (holds : Holds maxEntries defaultTtlS cache entries)
    (call : DecisionCall) :
    usedKey cache call =
      TimedLru.used DecisionEntry.key DecisionEntry.expiresAtS entries
        (abstractCall defaultTtlS call) := by
  obtain ⟨⟨linked, rfl⟩, -, rfl⟩ := holds
  cases call with
  | lookup key nowS =>
      rw [usedKey, lookup_eq linked, Option.map_map]
      rfl
  | store key principal nowS =>
      rw [usedKey, abstractCall, TimedLru.used]
      simp only [expired_entryOf_iff, ite_not]
      rfl

theorem create_holds : Holds maxEntries defaultTtlS (create maxEntries defaultTtlS) [] where
  becomes := ⟨create_linked maxEntries defaultTtlS, rfl⟩
  maxEntries_eq := rfl
  defaultTtlS_eq := rfl

theorem run_holds (maxEntries : Nat) (defaultTtlS : Int) (calls : List DecisionCall) :
    Holds maxEntries defaultTtlS
      (Machine.run apply (create maxEntries defaultTtlS) calls)
      (Machine.run (TimedLru.step DecisionEntry.key DecisionEntry.expiresAtS
        (create maxEntries defaultTtlS).maxEntries) []
        (calls.map (abstractCall defaultTtlS))) :=
  Machine.run_simulates apply (fun _ _ call holds => holds.apply call) calls create_holds

theorem observations_eq (calls : List DecisionCall) :
    Machine.observations apply usedKey (create maxEntries defaultTtlS) calls =
      Machine.observations
        (TimedLru.step DecisionEntry.key DecisionEntry.expiresAtS
          (create maxEntries defaultTtlS).maxEntries)
        (TimedLru.used DecisionEntry.key DecisionEntry.expiresAtS) []
        (calls.map (abstractCall defaultTtlS)) :=
  Machine.observations_simulates apply (fun _ _ call holds => holds.apply call)
    (fun _ _ call holds => holds.usedKey_eq call) calls create_holds

/-! ## Calls of the cache and of the map -/

theorem stores_iff {call : DecisionCall} :
    DecisionCall.Stores defaultTtlS key principal nowS call ↔
      TimedLru.Stores DecisionEntry.expiresAtS (entryOf defaultTtlS key principal nowS)
        nowS (abstractCall defaultTtlS call) := by
  have storable : Storable defaultTtlS principal nowS ↔
      nowS < (entryOf defaultTtlS key principal nowS).expiresAtS := by
    rw [← not_le, expired_entryOf_iff, not_not]
  rw [DecisionCall.Stores, TimedLru.Stores, storable]
  apply and_congr_left
  intro _
  constructor
  · rintro rfl
    rfl
  · intro same
    cases call with
    | lookup other lookupS => cases same
    | store other otherPrincipal storedS =>
        obtain ⟨sameEntry, rfl⟩ := TimedLru.Call.store.inj same
        obtain ⟨rfl, rfl, -⟩ := DecisionEntry.mk.inj sameEntry
        rfl

theorem spares_iff {call : DecisionCall} :
    DecisionCall.Spares defaultTtlS key call ↔
      TimedLru.Spares DecisionEntry.key DecisionEntry.expiresAtS key
        (abstractCall defaultTtlS call) := by
  cases call with
  | lookup other lookupS => rfl
  | store other otherPrincipal storedS =>
      rw [DecisionCall.Spares, abstractCall, TimedLru.Spares, expired_entryOf_iff]
      rfl

theorem inTime_iff {storedS : Int} {call : DecisionCall} :
    DecisionCall.InTime defaultTtlS key principal storedS call ↔
      TimedLru.InTime key (entryOf defaultTtlS key principal storedS).expiresAtS
        (abstractCall defaultTtlS call) := by
  cases call with
  | lookup other lookupS =>
      rw [DecisionCall.InTime, abstractCall, TimedLru.InTime, lt_expiresAtS_entryOf_iff]
  | store other otherPrincipal storedS => rfl

/-- A call that stores an entry in the map stores its decision in the cache. -/
theorem stores_of_stores
    {entry : DecisionEntry}
    {call : DecisionCall}
    (stores : ∃ storedS, TimedLru.Stores DecisionEntry.expiresAtS entry storedS
      (abstractCall defaultTtlS call)) :
    ∃ storedS, DecisionCall.Stores defaultTtlS entry.key entry.principal storedS call ∧
      entry = entryOf defaultTtlS entry.key entry.principal storedS := by
  obtain ⟨storedS, same, fresh⟩ := stores
  cases call with
  | lookup key nowS => cases same
  | store key principal nowS =>
      obtain ⟨rfl, rfl⟩ := TimedLru.Call.store.inj same
      exact ⟨nowS, stores_iff.mpr ⟨same, fresh⟩, rfl⟩

/-! ## What a lookup returns -/

/-- A lookup returns the decision that was kept last for the key, and only before it
expires. -/
theorem kept_of_lookup
    {calls : List DecisionCall}
    (hit : (lookup key nowS
      (Machine.run apply (create maxEntries defaultTtlS) calls)).1 = some principal) :
    Machine.Since apply
      (fun _ call => ∃ storedS, DecisionCall.Stores defaultTtlS key principal storedS call ∧
        Unexpired defaultTtlS principal storedS nowS)
      (fun _ call => DecisionCall.Spares defaultTtlS key call)
      (create maxEntries defaultTtlS) calls := by
  have holds := run_holds maxEntries defaultTtlS calls
  rw [lookup_eq holds.becomes.linked, holds.becomes.values_eq,
    Option.map_eq_some_iff] at hit
  obtain ⟨entry, hit, rfl⟩ := hit
  obtain ⟨rfl, fresh, since⟩ := TimedLru.stored_of_lookup hit
  have relabelled : Machine.Since apply
      (fun _ call => ∃ storedS, TimedLru.Stores DecisionEntry.expiresAtS entry storedS
        (abstractCall defaultTtlS call))
      (fun _ call => DecisionCall.Spares defaultTtlS entry.key call)
      (create maxEntries defaultTtlS) calls :=
    (Machine.since_relabel apply (abstractCall defaultTtlS) (fun _ => Iff.rfl)
      fun _ => spares_iff).mpr since
  apply relabelled.mono apply _ (fun _ _ kept => kept)
  intro _ call stores
  obtain ⟨storedS, decided, isEntry⟩ := stores_of_stores stores
  have freshOwn : nowS < (entryOf defaultTtlS entry.key entry.principal storedS).expiresAtS := by
    rwa [← isEntry]
  exact ⟨storedS, decided, lt_expiresAtS_entryOf_iff.mp freshOwn⟩

/-- A decision kept last for its key, and looked up only before it expired, is returned
while fewer other keys than the capacity were used since its last use. -/
theorem lookup_of_kept
    {calls : List DecisionCall}
    {storedS : Int}
    (since : Machine.Since apply
      (fun _ call => DecisionCall.Stores defaultTtlS key principal storedS call)
      (fun _ call => DecisionCall.Spares defaultTtlS key call ∧
        DecisionCall.InTime defaultTtlS key principal storedS call)
      (create maxEntries defaultTtlS) calls)
    (few : (TimedLru.othersSince key (Machine.observations apply usedKey
      (create maxEntries defaultTtlS) calls)).card < (create maxEntries defaultTtlS).maxEntries)
    (fresh : Unexpired defaultTtlS principal storedS nowS) :
    (lookup key nowS (Machine.run apply (create maxEntries defaultTtlS) calls)).1 =
      some principal := by
  have holds := run_holds maxEntries defaultTtlS calls
  have room : 0 < (create maxEntries defaultTtlS).maxEntries := by
    unfold create
    dsimp only
    split <;> omega
  rw [lookup_eq holds.becomes.linked, holds.becomes.values_eq, Option.map_eq_some_iff]
  refine ⟨entryOf defaultTtlS key principal storedS, ?_, rfl⟩
  apply TimedLru.lookup_of_since room _ _ (lt_expiresAtS_entryOf_iff.mpr fresh)
  · apply ((Machine.since_relabel apply (abstractCall defaultTtlS) (fun _ => stores_iff)
      (fun _ => and_congr spares_iff inTime_iff)).mp since).mono _ _ fun _ _ kept => kept
    exact fun _ _ stores => ⟨storedS, stores⟩
  · rw [← observations_eq]
    exact few

/-- Over every sequence of calls, at any times, the cache is a timed LRU map: its index
and its list are in bijection and within the capacity; a lookup returns only the decision
kept last for its key, before it expires; and it does return it when each lookup since
came before it expired and fewer other keys than the capacity were used since its last
use. -/
theorem run_isTimedLru (maxEntries : Nat) (defaultTtlS : Int) (calls : List DecisionCall) :
    (Linked (Machine.run apply (create maxEntries defaultTtlS) calls) ∧
      (Machine.run apply (create maxEntries defaultTtlS) calls).maxEntries =
        max maxEntries 1) ∧
    (∀ key nowS principal,
      (lookup key nowS (Machine.run apply (create maxEntries defaultTtlS) calls)).1 =
        some principal →
      Machine.Since apply
        (fun _ call => ∃ storedS,
          DecisionCall.Stores defaultTtlS key principal storedS call ∧
            Unexpired defaultTtlS principal storedS nowS)
        (fun _ call => DecisionCall.Spares defaultTtlS key call)
        (create maxEntries defaultTtlS) calls) ∧
    ∀ key principal storedS nowS,
      Machine.Since apply
        (fun _ call => DecisionCall.Stores defaultTtlS key principal storedS call)
        (fun _ call => DecisionCall.Spares defaultTtlS key call ∧
          DecisionCall.InTime defaultTtlS key principal storedS call)
        (create maxEntries defaultTtlS) calls →
      (TimedLru.othersSince key (Machine.observations apply usedKey
        (create maxEntries defaultTtlS) calls)).card < max maxEntries 1 →
      Unexpired defaultTtlS principal storedS nowS →
      (lookup key nowS (Machine.run apply (create maxEntries defaultTtlS) calls)).1 =
        some principal := by
  have holds := run_holds maxEntries defaultTtlS calls
  have capacity : (create maxEntries defaultTtlS).maxEntries = max maxEntries 1 := by
    unfold create
    dsimp only
    split <;> omega
  refine ⟨⟨holds.becomes.linked, holds.maxEntries_eq.trans capacity⟩, ?_, ?_⟩
  · intro key nowS principal hit
    exact kept_of_lookup hit
  · intro key principal storedS nowS since few fresh
    exact lookup_of_kept since (capacity ▸ few) fresh

/-- A principal of a token that expires. -/
def samplePrincipal (exp : Int) : Principal where
  subject := "alice"
  issuer := "https://idp"
  scopes := []
  exp := exp

/-- Room for two decisions: one key is stored, looked up, passed over by an expired
store, and found again after another key came in. -/
def sampleCalls : List DecisionCall :=
  [.store "a" (samplePrincipal 90) 10, .lookup "a" 20, .store "a" (samplePrincipal 5) 30,
    .store "b" (samplePrincipal 0) 15]

end DecisionCache
end Opaque
end QuackOauth
