import QuackOauth.Lib.LinkedList
import QuackOauth.Lib.UnorderedMap
import QuackOauth.Policy.Evaluate

/-!
# The decision cache

Principals of accepted opaque tokens under the key of the token, for a limited time
and in order of use.  The entries are nodes of a list, most recently used first, and
an index maps each key to its node.  Times are integers here; `storeInt64` stores in 64
bits, and does the same as long as nothing overflows.
-/

namespace QuackOauth
namespace Opaque

open Lib Policy

/-- A cached decision. -/
structure DecisionEntry where
  key : String
  principal : Principal
  expiresAtS : Int
  deriving DecidableEq

/-- The process-wide cache of positive decisions. -/
structure DecisionCache where
  maxEntries : Nat
  defaultTtlS : Int
  /-- Most recently used first. -/
  entries : LinkedList DecisionEntry
  index : UnorderedMap String Nat

namespace DecisionCache

/-- A cache without entries. -/
def create (maxEntries : Nat) (defaultTtlS : Int) : DecisionCache where
  maxEntries := if maxEntries = 0 then 1 else maxEntries
  defaultTtlS := defaultTtlS
  entries := LinkedList.empty
  index := ∅

/-- The principal cached for a key.  An expired entry is dropped in passing, any other
becomes the most recently used. -/
def lookup (key : String) (nowS : Int) (cache : DecisionCache) :
    Option Principal × DecisionCache :=
  match cache.index.lookup key with
  | none => (none, cache)
  | some it =>
      match cache.entries.get? it with
      -- The index points to entries of the list only.
      | none => (none, cache)
      | some entry =>
          if entry.expiresAtS ≤ nowS then
            (none, { cache with
              entries := cache.entries.erase it
              index := cache.index.erase key })
          else (some entry.principal, { cache with entries := cache.entries.splice it })

/-- For how long a decision may be kept. -/
def ttlFor (principal : Principal) (nowS : Int) (cache : DecisionCache) : Int :=
  if principal.exp > 0 then min cache.defaultTtlS (principal.exp - nowS)
  else cache.defaultTtlS

/-- Drop the least recently used entries beyond the capacity, for at most so many
rounds. -/
def evict : Nat → DecisionCache → DecisionCache
  | 0, cache => cache
  | rounds + 1, cache =>
      if cache.entries.nodes.length > cache.maxEntries then
        match cache.entries.back? with
        | none => cache
        | some victim => evict rounds { cache with
            index := cache.index.erase victim.key
            entries := cache.entries.popBack }
      else cache

/-- Cache a decision, unless it is expired already. -/
def store
    (key : String)
    (principal : Principal)
    (nowS : Int)
    (cache : DecisionCache) : DecisionCache :=
  let ttl := ttlFor principal nowS cache
  if ttl ≤ 0 then cache
  else
    match cache.index.lookup key with
    | some it => { cache with
        entries := (cache.entries.modify it fun entry =>
          { entry with principal, expiresAtS := nowS + ttl }).splice it }
    | none =>
        let entries := cache.entries.pushFront
          { key, principal, expiresAtS := nowS + ttl }
        evict entries.nodes.length { cache with
          entries
          index := cache.index.insert key entries.begin }

/-! ## The index -/

/-- The index maps each key to an entry of that key. -/
def Indexed (cache : DecisionCache) : Prop :=
  ∀ key it, cache.index.lookup key = some it →
    ∃ entry, (it, entry) ∈ cache.entries.nodes ∧ entry.key = key

variable {cache : DecisionCache} {key : String} {principal : Principal} {nowS : Int}

theorem create_indexed (maxEntries : Nat) (defaultTtlS : Int) :
    Indexed (create maxEntries defaultTtlS) := by
  intro key it indexed
  cases indexed

/-- An entry keeps its place in the index while others leave the list. -/
theorem Indexed.erase_key
    (indexed : Indexed cache)
    (erased : String)
    {entries : LinkedList DecisionEntry}
    (stays : ∀ node ∈ cache.entries.nodes, node.2.key ≠ erased → node ∈ entries.nodes) :
    Indexed { cache with entries, index := cache.index.erase erased } := by
  intro key it found
  rw [UnorderedMap.lookup_erase_eq_ite] at found
  split_ifs at found with same
  obtain ⟨entry, member, rfl⟩ := indexed key it found
  exact ⟨entry, stays _ member same, rfl⟩

theorem lookup_indexed
    (indexed : Indexed cache) :
    Indexed (lookup key nowS cache).2 := by
  unfold lookup
  cases found : cache.index.lookup key with
  | none => exact indexed
  | some it =>
      dsimp only
      cases pointed : cache.entries.get? it with
      | none => exact indexed
      | some entry =>
          dsimp only
          split_ifs with expired
          · obtain ⟨own, ownMember, rfl⟩ := indexed key it found
            refine indexed.erase_key own.key fun node member other => ?_
            rw [LinkedList.mem_nodes_erase]
            refine ⟨member, fun isNode => other ?_⟩
            -- The erased node is the only one of its number.
            have same := List.inj_on_of_nodup_map cache.entries.nodup member
              ownMember isNode
            rw [same]
          · intro other it' found'
            obtain ⟨entry', member, rfl⟩ := indexed other it' found'
            exact ⟨entry', LinkedList.mem_nodes_splice.mpr member, rfl⟩

theorem evict_indexed
    (rounds : Nat)
    (indexed : Indexed cache) :
    Indexed (evict rounds cache) := by
  induction rounds generalizing cache with
  | zero => exact indexed
  | succ rounds inductionHypothesis =>
      rw [evict]
      split_ifs with tooMany
      · cases last : cache.entries.back? with
        | none => exact indexed
        | some victim =>
            apply inductionHypothesis
            refine indexed.erase_key victim.key fun node member other => ?_
            rcases LinkedList.mem_popBack_or_back? member with stays | isLast
            · exact stays
            · rw [last] at isLast
              cases isLast
              exact absurd rfl other
      · exact indexed

theorem store_indexed
    (indexed : Indexed cache) :
    Indexed (store key principal nowS cache) := by
  unfold store
  dsimp only
  split_ifs with expired
  · exact indexed
  · cases found : cache.index.lookup key with
    | some it =>
        intro other it' found'
        obtain ⟨entry, member, rfl⟩ := indexed other it' found'
        refine ⟨_, LinkedList.mem_nodes_splice.mpr
          (LinkedList.mem_nodes_modify.mpr ⟨(it', entry), member, rfl⟩), ?_⟩
        dsimp only
        split_ifs <;> rfl
    | none =>
        apply evict_indexed
        intro other it found'
        rw [UnorderedMap.lookup_insert_eq_ite] at found'
        split_ifs at found' with same
        · subst same
          cases found'
          exact ⟨_, LinkedList.mem_nodes_pushFront.mpr (.inl rfl), rfl⟩
        · obtain ⟨entry, member, rfl⟩ := indexed other it found'
          exact ⟨entry, LinkedList.mem_nodes_pushFront.mpr (.inr member), rfl⟩

/-! ## Where entries come from -/

/-- A hit is an unexpired entry of the key. -/
theorem lookup_some
    (indexed : Indexed cache)
    (hit : (lookup key nowS cache).1 = some principal) :
    ∃ node ∈ cache.entries.nodes,
      node.2.key = key ∧ node.2.principal = principal ∧ nowS < node.2.expiresAtS := by
  unfold lookup at hit
  cases found : cache.index.lookup key with
  | none =>
      rw [found] at hit
      cases hit
  | some it =>
      obtain ⟨entry, member, isKey⟩ := indexed key it found
      have pointed := LinkedList.get?_eq_some_iff.mpr member
      simp only [found, pointed] at hit
      split_ifs at hit with expired
      exact ⟨_, member, isKey, Option.some.inj hit, Int.not_le.mp expired⟩

theorem mem_of_mem_lookup
    {node : Nat × DecisionEntry}
    (member : node ∈ (lookup key nowS cache).2.entries.nodes) :
    node ∈ cache.entries.nodes := by
  unfold lookup at member
  split at member
  · exact member
  · split at member
    · exact member
    · split_ifs at member
      · exact (LinkedList.mem_nodes_erase.mp member).1
      · exact LinkedList.mem_nodes_splice.mp member

theorem mem_of_mem_evict
    {rounds : Nat}
    {node : Nat × DecisionEntry}
    (member : node ∈ (evict rounds cache).entries.nodes) :
    node ∈ cache.entries.nodes := by
  induction rounds generalizing cache with
  | zero => exact member
  | succ rounds inductionHypothesis =>
      rw [evict] at member
      split_ifs at member
      · split at member
        · exact member
        · exact LinkedList.mem_nodes_of_mem_popBack (inductionHypothesis member)
      · exact member

@[simp] theorem defaultTtlS_lookup :
    (lookup key nowS cache).2.defaultTtlS = cache.defaultTtlS := by
  unfold lookup
  split
  · rfl
  · split
    · rfl
    · split_ifs <;> rfl

@[simp] theorem defaultTtlS_evict (rounds : Nat) :
    (evict rounds cache).defaultTtlS = cache.defaultTtlS := by
  induction rounds generalizing cache with
  | zero => rfl
  | succ rounds inductionHypothesis =>
      rw [evict]
      split_ifs
      · split
        · rfl
        · rw [inductionHypothesis]
      · rfl

@[simp] theorem defaultTtlS_store :
    (store key principal nowS cache).defaultTtlS = cache.defaultTtlS := by
  unfold store
  dsimp only
  split_ifs
  · rfl
  · split
    · rfl
    · rw [defaultTtlS_evict]

theorem ttlFor_le : ttlFor principal nowS cache ≤ cache.defaultTtlS := by
  unfold ttlFor
  split_ifs
  · exact min_le_left _ _
  · exact le_refl _

/-- An entry after a store was there before, or it is the stored decision, kept no
longer than the default time. -/
theorem mem_store
    (indexed : Indexed cache)
    {node : Nat × DecisionEntry}
    (member : node ∈ (store key principal nowS cache).entries.nodes) :
    node ∈ cache.entries.nodes ∨
      (node.2.key = key ∧ node.2.principal = principal ∧
        node.2.expiresAtS ≤ nowS + cache.defaultTtlS) := by
  have bounded : nowS + ttlFor principal nowS cache ≤ nowS + cache.defaultTtlS :=
    Int.add_le_add_left ttlFor_le nowS
  unfold store at member
  dsimp only at member
  split_ifs at member with expired
  · exact .inl member
  · cases found : cache.index.lookup key with
    | some it =>
        rw [found] at member
        rw [LinkedList.mem_nodes_splice, LinkedList.mem_nodes_modify] at member
        obtain ⟨original, originalMember, rfl⟩ := member
        split_ifs with isNode
        · obtain ⟨entry, entryMember, isKey⟩ := indexed key it found
          have same := List.inj_on_of_nodup_map cache.entries.nodup originalMember
            entryMember isNode
          refine .inr ⟨?_, rfl, bounded⟩
          rw [same]
          exact isKey
        · exact .inl originalMember
    | none =>
        rw [found] at member
        have pushed := mem_of_mem_evict member
        rcases LinkedList.mem_nodes_pushFront.mp pushed with rfl | earlier
        · exact .inr ⟨rfl, rfl, bounded⟩
        · exact .inl earlier

end DecisionCache
end Opaque
end QuackOauth
