import Mathlib.Data.Finset.Card
import Mathlib.Data.Finset.Dedup
import QuackOauth.Lib.Machine

/-!
# Timed LRU maps

A bounded map whose entries expire, as a list of entries, most recently used first.
A lookup drops an expired entry and moves any other one to the front; a store puts its
entry in front and drops what exceeds the limit.  The module relates what a lookup
returns to the calls before it: only the entry stored last is returned, and an entry
is returned while fewer other keys than the limit were used since its own last use.
-/

namespace Lib
namespace TimedLru

variable {Entry Key : Type*} [DecidableEq Key]
variable (keyOf : Entry → Key) (expiresAt : Entry → Int) (limit : Nat)

/-- The entries of other keys. -/
def without (key : Key) (entries : List Entry) : List Entry :=
  entries.filter fun entry => keyOf entry ≠ key

/-- What a lookup returns, and the entries it leaves. -/
def lookup (key : Key) (now : Int) (entries : List Entry) : Option Entry × List Entry :=
  match entries.find? fun entry => keyOf entry = key with
  | none => (none, entries)
  | some entry =>
      if expiresAt entry ≤ now then (none, without keyOf key entries)
      else (some entry, entry :: without keyOf key entries)

/-- The entries a store leaves. -/
def put (entry : Entry) (entries : List Entry) : List Entry :=
  (entry :: without keyOf (keyOf entry) entries).take limit

/-- A use of the map. -/
inductive Call (Entry Key : Type*)
  | lookup (key : Key) (now : Int)
  | store (entry : Entry) (now : Int)

/-- Carry out a call.  A store of an entry that is expired already is ignored. -/
def step (entries : List Entry) : Call Entry Key → List Entry
  | .lookup key now => (lookup keyOf expiresAt key now entries).2
  | .store entry now =>
      if expiresAt entry ≤ now then entries else put keyOf limit entry entries

/-- The key that a call hits or stores. -/
def used (entries : List Entry) : Call Entry Key → Option Key
  | .lookup key now =>
      (lookup keyOf expiresAt key now entries).1.map fun _ => key
  | .store entry now => if expiresAt entry ≤ now then none else some (keyOf entry)

/-- A call stores an entry. -/
def Stores (entry : Entry) (now : Int) (call : Call Entry Key) : Prop :=
  call = .store entry now ∧ now < expiresAt entry

/-- A call stores no entry of a key. -/
def Spares (key : Key) : Call Entry Key → Prop
  | .lookup _ _ => True
  | .store entry now => keyOf entry = key → expiresAt entry ≤ now

/-- A call does not look up a key when its entry has expired. -/
def InTime (key : Key) (expiry : Int) : Call Entry Key → Prop
  | .lookup other now => other = key → now < expiry
  | .store _ _ => True

/-- The other keys used since a key was used last. -/
def othersSince (key : Key) (uses : List Key) : Finset Key :=
  (uses.reverse.takeWhile fun other => other ≠ key).toFinset

/-- An entry stands behind entries of recently used keys only. -/
def HeldBehind (entry : Entry) (recent : Finset Key) (entries : List Entry) : Prop :=
  ∃ front back, entries = front ++ entry :: back ∧ ∀ other ∈ front, keyOf other ∈ recent

/-- No key has two entries, and there are no more entries than the limit. -/
structure WellFormed (entries : List Entry) : Prop where
  nodup : (entries.map keyOf).Nodup
  length_le : entries.length ≤ limit

section

variable {keyOf expiresAt limit}
variable {entries : List Entry} {entry other : Entry} {key : Key} {now : Int}

theorem mem_without : entry ∈ without keyOf key entries ↔ entry ∈ entries ∧ keyOf entry ≠ key := by
  simp [without]

theorem without_eq_self (absent : ∀ entry ∈ entries, keyOf entry ≠ key) :
    without keyOf key entries = entries :=
  List.filter_eq_self.mpr fun entry member => decide_eq_true (absent entry member)

omit [DecidableEq Key] in
theorem WellFormed.eq_of_key
    (wellFormed : WellFormed keyOf limit entries)
    (member : entry ∈ entries)
    (otherMember : other ∈ entries)
    (sameKey : keyOf entry = keyOf other) :
    entry = other :=
  List.inj_on_of_nodup_map wellFormed.nodup member otherMember sameKey

omit [DecidableEq Key] in
theorem WellFormed.sublist
    {kept : List Entry}
    (wellFormed : WellFormed keyOf limit entries)
    (sublist : kept.Sublist entries) :
    WellFormed keyOf limit kept where
  nodup := wellFormed.nodup.sublist (sublist.map keyOf)
  length_le := le_trans sublist.length_le wellFormed.length_le

theorem without_sublist : (without keyOf key entries).Sublist entries :=
  List.filter_sublist

/-- A key's entry and the others are all entries. -/
theorem WellFormed.perm_without
    (wellFormed : WellFormed keyOf limit entries)
    (member : entry ∈ entries) :
    (entry :: without keyOf (keyOf entry) entries).Perm entries := by
  have nodup := List.Nodup.of_map keyOf wellFormed.nodup
  have notMem : entry ∉ without keyOf (keyOf entry) entries := by
    rw [mem_without]
    exact fun both => both.2 rfl
  rw [List.perm_ext_iff_of_nodup (List.nodup_cons.mpr ⟨notMem, nodup.sublist without_sublist⟩)
    nodup]
  intro other
  rw [List.mem_cons, mem_without]
  constructor
  · rintro (rfl | ⟨otherMember, -⟩)
    · exact member
    · exact otherMember
  · intro otherMember
    by_cases sameKey : keyOf other = keyOf entry
    · exact .inl (wellFormed.eq_of_key otherMember member sameKey)
    · exact .inr ⟨otherMember, sameKey⟩

variable (keyOf) in
/-- A key has an entry or it has none. -/
theorem mem_or_absent (entries : List Entry) (key : Key) :
    (∃ found ∈ entries, keyOf found = key) ∨ ∀ entry ∈ entries, keyOf entry ≠ key := by
  by_cases present : ∃ found ∈ entries, keyOf found = key
  · exact .inl present
  · right
    intro entry member isKey
    exact present ⟨entry, member, isKey⟩

theorem lookup_of_absent (absent : ∀ entry ∈ entries, keyOf entry ≠ key) :
    lookup keyOf expiresAt key now entries = (none, entries) := by
  have notFound : (entries.find? fun entry => keyOf entry = key) = none := by
    simpa using absent
  rw [lookup, notFound]

theorem lookup_of_mem
    (wellFormed : WellFormed keyOf limit entries)
    (member : entry ∈ entries) :
    lookup keyOf expiresAt (keyOf entry) now entries =
      if expiresAt entry ≤ now then (none, without keyOf (keyOf entry) entries)
      else (some entry, entry :: without keyOf (keyOf entry) entries) := by
  have present : (entries.find? fun other => keyOf other = keyOf entry).isSome = true := by
    rw [List.find?_isSome]
    exact ⟨entry, member, decide_eq_true rfl⟩
  obtain ⟨found, found_eq⟩ := Option.isSome_iff_exists.mp present
  have sameKey : keyOf found = keyOf entry := by simpa using List.find?_some found_eq
  rw [lookup, found_eq,
    wellFormed.eq_of_key (List.mem_of_find?_eq_some found_eq) member sameKey]

/-- A hit is an entry of the key that has not expired. -/
theorem lookup_eq_some_iff (wellFormed : WellFormed keyOf limit entries) :
    (lookup keyOf expiresAt key now entries).1 = some entry ↔
      entry ∈ entries ∧ keyOf entry = key ∧ now < expiresAt entry := by
  rcases mem_or_absent keyOf entries key with ⟨found, member, rfl⟩ | absent
  · rw [lookup_of_mem wellFormed member]
    split
    · next expired =>
        refine iff_of_false (by simp) ?_
        rintro ⟨entryMember, sameKey, fresh⟩
        rw [wellFormed.eq_of_key entryMember member sameKey] at fresh
        exact absurd expired (not_le_of_gt fresh)
    · next fresh =>
        rw [Option.some.injEq]
        constructor
        · rintro rfl
          exact ⟨member, rfl, lt_of_not_ge fresh⟩
        · rintro ⟨entryMember, sameKey, -⟩
          exact (wellFormed.eq_of_key entryMember member sameKey).symm
  · rw [lookup_of_absent absent]
    exact iff_of_false (by simp) fun both => absent entry both.1 both.2.1

theorem lookup_wellFormed
    (wellFormed : WellFormed keyOf limit entries) :
    WellFormed keyOf limit (lookup keyOf expiresAt key now entries).2 := by
  rcases mem_or_absent keyOf entries key with ⟨found, member, rfl⟩ | absent
  · have perm := wellFormed.perm_without member
    rw [lookup_of_mem wellFormed member]
    split
    · exact wellFormed.sublist without_sublist
    · refine ⟨(perm.map keyOf).nodup_iff.mpr wellFormed.nodup, ?_⟩
      rw [perm.length_eq]
      exact wellFormed.length_le
  · rw [lookup_of_absent absent]
    exact wellFormed

/-- A key is stored in place of its entry. -/
theorem nodup_cons_without
    (wellFormed : WellFormed keyOf limit entries) :
    ((entry :: without keyOf (keyOf entry) entries).map keyOf).Nodup := by
  rw [List.map_cons, List.nodup_cons]
  refine ⟨fun member => ?_, wellFormed.nodup.sublist (without_sublist.map keyOf)⟩
  obtain ⟨other, otherMember, sameKey⟩ := List.mem_map.mp member
  exact (mem_without.mp otherMember).2 sameKey

theorem put_wellFormed
    (wellFormed : WellFormed keyOf limit entries) :
    WellFormed keyOf limit (put keyOf limit entry entries) where
  nodup := (nodup_cons_without wellFormed).sublist ((List.take_sublist _ _).map keyOf)
  length_le := List.length_take_le _ _

theorem step_wellFormed
    (call : Call Entry Key)
    (wellFormed : WellFormed keyOf limit entries) :
    WellFormed keyOf limit (step keyOf expiresAt limit entries call) := by
  cases call with
  | lookup key now => exact lookup_wellFormed wellFormed
  | store entry now =>
      rw [step]
      split
      · exact wellFormed
      · exact put_wellFormed wellFormed

/-! ## Only what was stored last -/

theorem run_wellFormed (calls : List (Call Entry Key)) :
    WellFormed keyOf limit (Machine.run (step keyOf expiresAt limit) [] calls) :=
  Machine.run_invariant (step keyOf expiresAt limit) (fun _ call => step_wellFormed call)
    calls ⟨List.nodup_nil, Nat.zero_le _⟩

/-- An entry comes from a store of it, or it was there and no entry of its key was
stored. -/
theorem mem_step
    {call : Call Entry Key}
    (member : entry ∈ step keyOf expiresAt limit entries call) :
    (∃ now, Stores expiresAt entry now call) ∨
      entry ∈ entries ∧ Spares keyOf expiresAt (keyOf entry) call := by
  cases call with
  | lookup key now =>
      refine .inr ⟨?_, trivial⟩
      rw [step, lookup] at member
      split at member
      · exact member
      · next found found_eq =>
          split at member
          · exact without_sublist.subset member
          · rcases List.mem_cons.mp member with rfl | rest
            · exact List.mem_of_find?_eq_some found_eq
            · exact without_sublist.subset rest
  | store stored now =>
      rw [step] at member
      split at member
      · next expired => exact .inr ⟨member, fun _ => expired⟩
      · next fresh =>
          rcases List.mem_cons.mp (List.mem_of_mem_take member) with rfl | rest
          · exact .inl ⟨now, rfl, lt_of_not_ge fresh⟩
          · obtain ⟨old, otherKey⟩ := mem_without.mp rest
            exact .inr ⟨old, fun sameKey => absurd sameKey.symm otherKey⟩

/-- A lookup returns the entry stored last for its key, and only before it expires. -/
theorem stored_of_lookup
    {calls : List (Call Entry Key)}
    (hit : (lookup keyOf expiresAt key now
      (Machine.run (step keyOf expiresAt limit) [] calls)).1 = some entry) :
    keyOf entry = key ∧ now < expiresAt entry ∧
      Machine.Since (step keyOf expiresAt limit)
        (fun _ call => ∃ storedAt, Stores expiresAt entry storedAt call)
        (fun _ call => Spares keyOf expiresAt key call) [] calls := by
  obtain ⟨member, rfl, fresh⟩ := (lookup_eq_some_iff (run_wellFormed calls)).mp hit
  refine ⟨rfl, fresh, Machine.since_of_tracks (step keyOf expiresAt limit)
    (fun entries => entry ∈ entries) (fun entries call _ stays => mem_step stays)
    (Machine.allSteps_true _ _ calls) (List.not_mem_nil) member⟩

/-! ## While few other keys are used -/

theorem othersSince_append_singleton (used : Key) (uses : List Key) :
    othersSince key (uses ++ [used]) =
      if used = key then ∅ else insert used (othersSince key uses) := by
  unfold othersSince
  rw [List.reverse_append, List.reverse_singleton, List.singleton_append,
    List.takeWhile_cons]
  by_cases isKey : used = key
  · simp [isKey]
  · simp [isKey]

omit [DecidableEq Key] in
theorem HeldBehind.mem
    {recent : Finset Key}
    (held : HeldBehind keyOf entry recent entries) :
    entry ∈ entries := by
  obtain ⟨front, back, rfl, -⟩ := held
  simp

omit [DecidableEq Key] in
/-- An entry that came to the front is behind none. -/
theorem heldBehind_cons (recent : Finset Key) :
    HeldBehind keyOf entry recent (entry :: entries) :=
  ⟨[], entries, rfl, fun _ impossible => absurd impossible List.not_mem_nil⟩

/-- An entry stays behind when another key's is dropped. -/
theorem HeldBehind.without
    {recent : Finset Key}
    (held : HeldBehind keyOf entry recent entries)
    (isOther : keyOf entry ≠ key) :
    HeldBehind keyOf entry recent (without keyOf key entries) := by
  obtain ⟨front, back, rfl, ahead⟩ := held
  refine ⟨TimedLru.without keyOf key front, TimedLru.without keyOf key back, ?_,
    fun other member => ahead other (mem_without.mp member).1⟩
  simp [TimedLru.without, isOther]

/-- An entry of a used key may come before it. -/
theorem HeldBehind.cons
    {recent : Finset Key}
    (held : HeldBehind keyOf entry recent entries)
    (other : Entry) :
    HeldBehind keyOf entry (insert (keyOf other) recent) (other :: entries) := by
  obtain ⟨front, back, rfl, ahead⟩ := held
  refine ⟨other :: front, back, rfl, fun first member => ?_⟩
  rcases List.mem_cons.mp member with rfl | inFront
  · exact Finset.mem_insert_self _ _
  · exact Finset.mem_insert_of_mem (ahead first inFront)

/-- An entry behind few others is not cut off. -/
theorem HeldBehind.take
    {recent : Finset Key}
    (held : HeldBehind keyOf entry recent entries)
    (nodup : (entries.map keyOf).Nodup)
    (few : recent.card < limit) :
    HeldBehind keyOf entry recent (entries.take limit) := by
  obtain ⟨front, back, rfl, ahead⟩ := held
  have frontNodup : (front.map keyOf).Nodup := by
    rw [List.map_append] at nodup
    exact nodup.of_append_left
  have included : (front.map keyOf).toFinset ⊆ recent := by
    intro used member
    obtain ⟨other, inFront, rfl⟩ := List.mem_map.mp (List.mem_toFinset.mp member)
    exact ahead other inFront
  have short : front.length ≤ recent.card := by
    calc front.length = (front.map keyOf).toFinset.card := by
          rw [List.toFinset_card_of_nodup frontNodup, List.length_map]
      _ ≤ recent.card := Finset.card_le_card included
  obtain ⟨rest, rest_eq⟩ : ∃ rest, limit - front.length = rest + 1 :=
    ⟨limit - front.length - 1, by omega⟩
  refine ⟨front, back.take rest, ?_, ahead⟩
  rw [List.take_append, List.take_of_length_le (by omega), rest_eq, List.take_succ_cons]

/-- The keys used since, after a call that uses another key, or none. -/
def recentAfter (recent : Finset Key) : Option Key → Finset Key
  | none => recent
  | some key => insert key recent

/-- What a lookup of another key leaves of an entry. -/
theorem HeldBehind.lookup
    {recent : Finset Key}
    (wellFormed : WellFormed keyOf limit entries)
    (held : HeldBehind keyOf entry recent entries)
    (isOther : keyOf entry ≠ key) :
    HeldBehind keyOf entry
      (recentAfter recent (used keyOf expiresAt entries (.lookup key now)))
      (lookup keyOf expiresAt key now entries).2 := by
  rw [used]
  rcases mem_or_absent keyOf entries key with ⟨found, member, rfl⟩ | absent
  · rw [lookup_of_mem wellFormed member]
    split
    · exact held.without isOther
    · exact (held.without isOther).cons found
  · rw [lookup_of_absent absent]
    exact held

/-- What a call that uses another key, or none, leaves of an entry. -/
theorem HeldBehind.step
    {recent : Finset Key}
    {call : Call Entry Key}
    (wellFormed : WellFormed keyOf limit entries)
    (held : HeldBehind keyOf entry recent entries)
    (inTime : InTime (keyOf entry) (expiresAt entry) call)
    (uses : used keyOf expiresAt entries call ≠ some (keyOf entry))
    (few : (recentAfter recent (used keyOf expiresAt entries call)).card < limit) :
    HeldBehind keyOf entry (recentAfter recent (used keyOf expiresAt entries call))
      (step keyOf expiresAt limit entries call) := by
  cases call with
  | lookup key now =>
      apply held.lookup wellFormed
      rintro rfl
      -- The entry would be hit.
      have fresh : ¬expiresAt entry ≤ now := not_le_of_gt (inTime rfl)
      rw [used, lookup_of_mem wellFormed held.mem, if_neg fresh] at uses
      exact uses rfl
  | store stored now =>
      rw [used] at uses few ⊢
      rw [TimedLru.step]
      split at uses
      · next expired =>
          rw [if_pos expired, if_pos expired]
          exact held
      · next fresh =>
          rw [if_neg fresh] at few ⊢
          rw [if_neg fresh]
          have isOther : keyOf entry ≠ keyOf stored :=
            fun sameKey => uses (congrArg some sameKey.symm)
          exact ((held.without isOther).cons stored).take (nodup_cons_without wellFormed) few

/-- An entry that was stored last for its key is the only one of its key. -/
theorem eq_of_since
    {calls : List (Call Entry Key)}
    (since : Machine.Since (step keyOf expiresAt limit)
      (fun _ call => ∃ storedAt, Stores expiresAt entry storedAt call)
      (fun _ call => Spares keyOf expiresAt (keyOf entry) call) [] calls)
    (member : other ∈ Machine.run (step keyOf expiresAt limit) [] calls)
    (sameKey : keyOf other = keyOf entry) :
    other = entry := by
  induction calls using List.reverseRecOn with
  | nil => cases since
  | append_singleton calls call inductionHypothesis =>
      rw [Machine.since_append_singleton] at since
      rw [Machine.run_append, Machine.run_cons, Machine.run_nil] at member
      rcases since with ⟨storedAt, rfl, fresh⟩ | ⟨since, spares⟩
      · rcases mem_step member with ⟨_, stores, -⟩ | ⟨-, spares⟩
        · cases stores
          rfl
        · exact absurd (spares sameKey.symm) (not_le_of_gt fresh)
      · rcases mem_step member with ⟨storedAt, rfl, fresh⟩ | ⟨old, -⟩
        · exact absurd (spares sameKey) (not_le_of_gt fresh)
        · exact inductionHypothesis since old

/-- A hit of its key brings the entry stored last to the front. -/
theorem heldBehind_of_used
    {calls : List (Call Entry Key)}
    {call : Call Entry Key}
    (since : Machine.Since (step keyOf expiresAt limit)
      (fun _ call => ∃ storedAt, Stores expiresAt entry storedAt call)
      (fun _ call => Spares keyOf expiresAt (keyOf entry) call) [] calls)
    (spares : Spares keyOf expiresAt (keyOf entry) call)
    (uses : used keyOf expiresAt (Machine.run (step keyOf expiresAt limit) [] calls) call =
      some (keyOf entry)) :
    HeldBehind keyOf entry ∅
      (step keyOf expiresAt limit (Machine.run (step keyOf expiresAt limit) [] calls)
        call) := by
  cases call with
  | lookup key now =>
      obtain ⟨found, hit, rfl⟩ := Option.map_eq_some_iff.mp uses
      obtain ⟨member, sameKey, fresh⟩ := (lookup_eq_some_iff (run_wellFormed calls)).mp hit
      obtain rfl := eq_of_since since member sameKey
      rw [step, lookup_of_mem (run_wellFormed calls) member, if_neg (not_le_of_gt fresh)]
      exact heldBehind_cons ∅
  | store stored now =>
      obtain ⟨fresh, sameKey⟩ := Option.ite_none_left_eq_some.mp uses
      exact absurd (spares (Option.some.inj sameKey)) fresh

/-- An entry stored last for its key, and looked up only before it expires, stands
behind the keys used since, while these are fewer than the limit. -/
theorem heldBehind_of_since
    {calls : List (Call Entry Key)}
    (room : 0 < limit)
    (since : Machine.Since (step keyOf expiresAt limit)
      (fun _ call => ∃ storedAt, Stores expiresAt entry storedAt call)
      (fun _ call => Spares keyOf expiresAt (keyOf entry) call ∧
        InTime (keyOf entry) (expiresAt entry) call) [] calls)
    (few : (othersSince (keyOf entry) (Machine.observations (step keyOf expiresAt limit)
      (used keyOf expiresAt) [] calls)).card < limit) :
    HeldBehind keyOf entry
      (othersSince (keyOf entry) (Machine.observations (step keyOf expiresAt limit)
        (used keyOf expiresAt) [] calls))
      (Machine.run (step keyOf expiresAt limit) [] calls) := by
  induction calls using List.reverseRecOn with
  | nil => cases since
  | append_singleton calls call inductionHypothesis =>
      rw [Machine.since_append_singleton] at since
      rw [Machine.observations_append_singleton] at few ⊢
      rw [Machine.run_append, Machine.run_cons, Machine.run_nil]
      rcases since with ⟨storedAt, rfl, fresh⟩ | ⟨since, spares, inTime⟩
      · -- The store itself.
        rw [used, if_neg (not_le_of_gt fresh), Option.toList_some,
          othersSince_append_singleton, if_pos rfl, step, if_neg (not_le_of_gt fresh)]
        apply (heldBehind_cons ∅).take _ room
        exact nodup_cons_without (run_wellFormed calls)
      · have spared := since.mono _ (fun _ _ event => event) fun _ _ kept => kept.1
        cases uses : used keyOf expiresAt
          (Machine.run (step keyOf expiresAt limit) [] calls) call with
        | none =>
            simp only [uses, Option.toList_none, List.append_nil] at few ⊢
            have held := (inductionHypothesis since few).step (run_wellFormed calls) inTime
            rw [uses] at held
            exact held (by simp) few
        | some key =>
            simp only [uses, Option.toList_some, othersSince_append_singleton] at few ⊢
            by_cases isKey : key = keyOf entry
            · rw [if_pos isKey]
              exact heldBehind_of_used spared spares (uses.trans (congrArg some isKey))
            · rw [if_neg isKey] at few ⊢
              have fewBefore := lt_of_le_of_lt
                (Finset.card_le_card (Finset.subset_insert key _)) few
              have held := (inductionHypothesis since fewBefore).step (run_wellFormed calls)
                inTime
              rw [uses] at held
              exact held (fun same => isKey (Option.some.inj same)) few

/-- Such an entry is returned before it expires. -/
theorem lookup_of_since
    {calls : List (Call Entry Key)}
    (room : 0 < limit)
    (since : Machine.Since (step keyOf expiresAt limit)
      (fun _ call => ∃ storedAt, Stores expiresAt entry storedAt call)
      (fun _ call => Spares keyOf expiresAt (keyOf entry) call ∧
        InTime (keyOf entry) (expiresAt entry) call) [] calls)
    (few : (othersSince (keyOf entry) (Machine.observations (step keyOf expiresAt limit)
      (used keyOf expiresAt) [] calls)).card < limit)
    (fresh : now < expiresAt entry) :
    (lookup keyOf expiresAt (keyOf entry) now
      (Machine.run (step keyOf expiresAt limit) [] calls)).1 = some entry :=
  (lookup_eq_some_iff (run_wellFormed calls)).mpr
    ⟨(heldBehind_of_since room since few).mem, rfl, fresh⟩

end

end TimedLru
end Lib
