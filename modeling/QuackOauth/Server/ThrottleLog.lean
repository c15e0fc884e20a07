import Mathlib.Data.List.Sort
import QuackOauth.Lib.Cooldown
import QuackOauth.Lib.Machine
import QuackOauth.Server.Row

/-!
# Warnings about throttled refreshes

At the end of a chunk of tokens the refreshes that were refused are warned about, each
kind at most once in thirty seconds.  When each kind was last warned about is remembered
in a map that is kept from growing.
-/

namespace QuackOauth
namespace Server

open Lib
open Validator (RefreshReason)

/-- A refresh that was refused. -/
structure ThrottledLogEvent where
  kid : String
  reason : String
  jwksUri : String
  deriving DecidableEq

/-- Whether a character may stand in a warning. -/
def isLogByte (c : UInt8) : Bool :=
  decide (32 ≤ c.toNat) && decide (c.toNat < 127) &&
    -- The two quotes and the backslash.
    c ≠ 34 && c ≠ 39 && c ≠ 92

/-- What of a field is put into a warning. -/
def sanitizeLogField (str : List UInt8) (maxLen : Nat) : List UInt8 :=
  (str.filter isLogByte).take maxLen

namespace ThrottledLogEvent

def safeKid (item : ThrottledLogEvent) : List UInt8 :=
  sanitizeLogField (bytesOf item.kid) 256

def safeUri (item : ThrottledLogEvent) : List UInt8 :=
  sanitizeLogField (bytesOf item.jwksUri) 512

/-- Events that are warned about as one. -/
def dedupKey (item : ThrottledLogEvent) : List UInt8 :=
  item.safeKid ++ bytesOf ":" ++ bytesOf item.reason ++ bytesOf ":" ++ item.safeUri

/-- The text of a warning. -/
def warning (item : ThrottledLogEvent) : List UInt8 :=
  let uriSuffix :=
    if item.safeUri = [] then [] else bytesOf " jwks_uri='" ++ item.safeUri ++ bytesOf "'"
  let cause :=
    if item.reason = RefreshReason.throttled.toString then
      bytesOf "quack_oauth: JWKS refresh rate-limited by min_refresh_s for kid='"
    else
      bytesOf
        "quack_oauth: JWKS refresh throttled by global fetch budget (2s window) for kid='"
  cause ++ item.safeKid ++ bytesOf "'" ++ uriSuffix

/-- Events are ordered by kid, reason and URI, byte by byte. -/
def fields (item : ThrottledLogEvent) : List (List UInt8) :=
  [bytesOf item.kid, bytesOf item.reason, bytesOf item.jwksUri]

end ThrottledLogEvent

/-- The event of a row whose refresh was refused. -/
def throttledEvent (row : TokenRow) (validation : RowValidation) : Option ThrottledLogEvent :=
  if validation.refreshKid ≠ "" ∧ isThrottled validation.refreshReasonEnum then
    some {
      kid := validation.refreshKid
      reason := validation.refreshReason
      jwksUri := row.loggedUri }
  else none

/-- Of neighbours that are equal keep one. -/
def unique {α : Type*} [DecidableEq α] : List α → List α
  | [] => []
  | [item] => [item]
  | first :: second :: rest =>
      if first = second then unique (second :: rest) else first :: unique (second :: rest)

/-- When each kind of event was last warned about. -/
abbrev LastLogged := UnorderedMap (List UInt8) Int

/-- The most kinds that are remembered after a call. -/
def maxThrottleKeys : Nat := 1000

/-- Forget the kinds that may be warned about again anyway. -/
def pruneStale (nowS : Int) (last : LastLogged) : LastLogged :=
  UnorderedMap.filter (fun _ loggedS => !(decide (nowS < loggedS) || decide (nowS - loggedS > 30)))
    last

/-- The kinds warned about longest ago, all but eight hundred.  Kinds of one time come in
any order. -/
def eldest
    (order : IterationOrder (List UInt8) Int)
    (last : LastLogged) : List ((_ : List UInt8) × Int) :=
  let entries := (order.visit last).insertionSort fun a b => a.2 ≤ b.2
  let toRemove := entries.length - 800
  entries.take toRemove

/-- Forget them. -/
def pruneOldest (order : IterationOrder (List UInt8) Int) (last : LastLogged) : LastLogged :=
  (eldest order last).foldl (fun last entry => last.erase entry.1) last

/-- Keep the map from growing. -/
def prune
    (order : IterationOrder (List UInt8) Int)
    (nowS : Int)
    (last : LastLogged) : LastLogged :=
  if last.size > maxThrottleKeys then
    let fresh := pruneStale nowS last
    if fresh.size > maxThrottleKeys then pruneOldest order fresh else fresh
  else last

/-- The end of a chunk of tokens: the refreshes refused in it, and the order of the map. -/
structure LogCall where
  throttledEvents : List ThrottledLogEvent
  nowS : Int
  order : IterationOrder (List UInt8) Int := .stored

/-- The call at the end of a chunk of rows. -/
def LogCall.ofRows
    (rows : List (TokenRow × RowValidation))
    (nowS : Int)
    (order : IterationOrder (List UInt8) Int) : LogCall where
  throttledEvents := rows.filterMap fun (row, validation) => throttledEvent row validation
  nowS := nowS
  order := order

/-- The events of a call, in order and each once. -/
def LogCall.items (call : LogCall) : List ThrottledLogEvent :=
  unique (call.throttledEvents.insertionSort fun a b => a.fields ≤ b.fields)

/-- Warn about the refreshes refused: the events warned about, and the map afterwards. -/
def logThrottledEvents (last : LastLogged) (call : LogCall) :
    List ThrottledLogEvent × LastLogged :=
  if call.throttledEvents = [] then ([], last)
  else
    let (logged, after) :=
      Cooldown.pass 30 call.nowS ThrottledLogEvent.dedupKey call.items last
    (logged, prune call.order call.nowS after)

/-! ## The events of a call -/

theorem mem_unique
    {α : Type*}
    [DecidableEq α]
    {a : α}
    (items : List α) :
    a ∈ unique items ↔ a ∈ items := by
  induction items using unique.induct with
  | case1 => rfl
  | case2 item => rfl
  | case3 second rest inductionHypothesis =>
      rw [unique, if_pos rfl, inductionHypothesis]
      simp
  | case4 first second rest different inductionHypothesis =>
      rw [unique, if_neg different]
      simp only [List.mem_cons, inductionHypothesis]

theorem LogCall.mem_items
    {call : LogCall}
    {item : ThrottledLogEvent} :
    item ∈ call.items ↔ item ∈ call.throttledEvents := by
  rw [LogCall.items, mem_unique, List.mem_insertionSort]

/-! ## Pruning -/

variable {last : LastLogged} {key : List UInt8} {loggedS nowS : Int} {call : LogCall}
variable {order : IterationOrder (List UInt8) Int}

theorem lookup_pruneStale :
    (pruneStale nowS last).lookup key =
      (last.lookup key).filter fun loggedS => loggedS ≤ nowS ∧ nowS - loggedS ≤ 30 := by
  rw [pruneStale, UnorderedMap.lookup_filter]
  congr 1
  ext loggedS
  rw [Bool.eq_iff_iff]
  simp only [Bool.not_eq_true', Bool.or_eq_false_iff, decide_eq_false_iff_not,
    decide_eq_true_eq]
  omega

/-- Erasing keys erases nothing else. -/
theorem lookup_foldl_erase
    (erased : List ((_ : List UInt8) × Int))
    (stored : (erased.foldl (fun last entry => last.erase entry.1) last).lookup key =
      some loggedS) :
    last.lookup key = some loggedS := by
  induction erased generalizing last with
  | nil => exact stored
  | cons entry erased inductionHypothesis =>
      have earlier := inductionHypothesis stored
      rw [UnorderedMap.lookup_erase_eq_ite] at earlier
      split at earlier
      · cases earlier
      · exact earlier

/-- Each of the keys erased makes the map smaller. -/
theorem size_foldl_erase
    (erased : List ((_ : List UInt8) × Int))
    (distinct : (erased.map Sigma.fst).Nodup)
    (present : ∀ entry ∈ erased, entry.1 ∈ last) :
    UnorderedMap.size (erased.foldl (fun last entry => last.erase entry.1) last) +
      erased.length = last.size := by
  induction erased generalizing last with
  | nil => rfl
  | cons entry erased inductionHypothesis =>
      rw [List.map_cons, List.nodup_cons] at distinct
      have smaller := UnorderedMap.size_erase_add_one (present entry List.mem_cons_self)
      have others : ∀ other ∈ erased, other.1 ∈ last.erase entry.1 := by
        intro other member
        have different : other.1 ≠ entry.1 := by
          intro same
          apply distinct.1
          rw [← same]
          exact List.mem_map_of_mem member
        exact AList.mem_erase.mpr ⟨different, present other (List.mem_cons_of_mem _ member)⟩
      rw [List.foldl_cons, List.length_cons, ← smaller,
        ← inductionHypothesis distinct.2 others, Nat.add_assoc]

/-- The entries of the map by age. -/
theorem byAge_perm :
    ((order.visit last).insertionSort fun a b => a.2 ≤ b.2).Perm (order.visit last) :=
  List.perm_insertionSort _ _

theorem length_eldest : (eldest order last).length = last.size - 800 := by
  rw [eldest, List.length_take, byAge_perm.length_eq, order.length_visit]
  exact Nat.min_eq_left (Nat.sub_le _ _)

/-- Eight hundred of the kinds are left. -/
theorem size_pruneOldest (many : 800 ≤ last.size) :
    UnorderedMap.size (pruneOldest order last) = 800 := by
  have distinct : ((eldest order last).map Sigma.fst).Nodup :=
    ((byAge_perm.map Sigma.fst).nodup_iff.mpr (order.nodup_visit last)).sublist
      ((List.take_sublist _ _).map Sigma.fst)
  have present : ∀ entry ∈ eldest order last, entry.1 ∈ last := by
    intro entry member
    have visited := byAge_perm.mem_iff.mp (List.mem_of_mem_take member)
    exact AList.lookup_isSome.mp
      (Option.isSome_of_eq_some (IterationOrder.mem_visit.mp visited))
  have erased := size_foldl_erase (eldest order last) distinct present
  rw [length_eldest] at erased
  have left : 800 + (last.size - 800) = last.size := Nat.add_sub_cancel' many
  exact Nat.add_right_cancel (erased.trans left.symm)

/-- The map is kept from growing. -/
theorem size_prune_le : UnorderedMap.size (prune order nowS last) ≤ maxThrottleKeys := by
  unfold prune
  split
  · dsimp only
    split
    · next crowded =>
        rw [size_pruneOldest (le_trans (by decide) (Nat.le_of_lt crowded))]
        decide
    · next fits => exact Nat.not_lt.mp fits
  · next fits => exact Nat.not_lt.mp fits

/-- Pruning makes nothing up. -/
theorem lookup_of_lookup_prune
    (stored : (prune order nowS last).lookup key = some loggedS) :
    last.lookup key = some loggedS := by
  unfold prune at stored
  split at stored
  · dsimp only at stored
    have fresh : (pruneStale nowS last).lookup key = some loggedS := by
      split at stored
      · exact lookup_foldl_erase _ stored
      · exact stored
    rw [lookup_pruneStale, Option.filter_eq_some_iff] at fresh
    exact fresh.1
  · exact stored

/-! ## Calls -/

namespace ThrottleLog

/-- The map after a call. -/
def step (last : LastLogged) (call : LogCall) : LastLogged :=
  (logThrottledEvents last call).2

/-- The kinds that a call warns about. -/
def warned (last : LastLogged) (call : LogCall) : List (List UInt8) :=
  (logThrottledEvents last call).1.map ThrottledLogEvent.dedupKey

/-- The map after calls from the start of the process on. -/
abbrev run (calls : List LogCall) : LastLogged :=
  Machine.run step ∅ calls

/-- Whether a call must forget kinds that may not be warned about yet. -/
def forgets (last : LastLogged) (call : LogCall) : Bool :=
  let after := (Cooldown.pass 30 call.nowS ThrottledLogEvent.dedupKey call.items last).2
  decide (maxThrottleKeys < UnorderedMap.size after) &&
    decide (maxThrottleKeys < UnorderedMap.size (pruneStale call.nowS after))

/-- A call warns about the kinds of its events that are due. -/
theorem mem_warned_iff :
    key ∈ warned last call ↔
      key ∈ call.throttledEvents.map ThrottledLogEvent.dedupKey ∧
        Cooldown.isDue 30 call.nowS last key = true := by
  have listed : key ∈ call.items.map ThrottledLogEvent.dedupKey ↔
      key ∈ call.throttledEvents.map ThrottledLogEvent.dedupKey := by
    simp only [List.mem_map, LogCall.mem_items]
  unfold warned logThrottledEvents
  split
  · next none => simp [none]
  · dsimp only
    rw [Cooldown.mem_pass_iff, listed]

/-- No kind is warned about twice by one call. -/
theorem nodup_warned : (warned last call).Nodup := by
  unfold warned logThrottledEvents
  split
  · exact List.nodup_nil
  · exact Cooldown.nodup_pass (by decide)

/-- What is remembered after a call is the time of the call for the kinds it warned about,
and what was remembered before for the others. -/
theorem warned_or_stored
    (stored : (step last call).lookup key = some loggedS) :
    key ∈ warned last call ∧ call.nowS = loggedS ∨
      last.lookup key = some loggedS ∧ key ∉ warned last call := by
  unfold step logThrottledEvents at stored
  unfold warned logThrottledEvents
  split at stored
  · next none =>
      rw [if_pos none]
      exact .inr ⟨stored, List.not_mem_nil⟩
  · next some =>
      rw [if_neg some]
      have remembered := lookup_of_lookup_prune stored
      rw [Cooldown.lookup_pass] at remembered
      dsimp only
      split at remembered
      · next passed => exact .inl ⟨passed, Option.some.inj remembered⟩
      · next held => exact .inr ⟨remembered, held⟩

/-- The map never holds more than a thousand kinds between two calls. -/
theorem size_run_le (calls : List LogCall) :
    UnorderedMap.size (run calls) ≤ maxThrottleKeys := by
  have initially : UnorderedMap.size (∅ : LastLogged) ≤ maxThrottleKeys := Nat.zero_le _
  have preserved : ∀ (last : LastLogged) call, last.size ≤ maxThrottleKeys →
      UnorderedMap.size (step last call) ≤ maxThrottleKeys := by
    intro last call fits
    unfold step logThrottledEvents
    split
    · exact fits
    · exact size_prune_le
  exact Machine.run_invariant step preserved calls initially

/-- The kind of an event is warned about, or was less than thirty seconds before and not
since. -/
theorem warned_or_recent
    {calls : List LogCall}
    (member : key ∈ call.throttledEvents.map ThrottledLogEvent.dedupKey) :
    key ∈ warned (run calls) call ∨
      ∃ loggedS, loggedS ≤ call.nowS ∧ call.nowS < loggedS + 30 ∧
        Machine.Since step
          (fun last earlier => key ∈ warned last earlier ∧ earlier.nowS = loggedS)
          (fun last later => key ∉ warned last later) ∅ calls := by
  cases due : Cooldown.isDue 30 call.nowS (run calls) key with
  | true => exact .inl (mem_warned_iff.mpr ⟨member, due⟩)
  | false =>
      obtain ⟨loggedS, stored, later, within⟩ := Cooldown.isDue_eq_false_iff.mp due
      refine .inr ⟨loggedS, later, within, ?_⟩
      exact Machine.since_of_tracks step (fun last => last.lookup key = some loggedS)
        (fun last call _ stored => warned_or_stored stored)
        (Machine.allSteps_true step ∅ calls) (fun absent => by cases absent) stored

/-- A row whose refresh was refused is warned about at the end of its chunk, or its kind
was warned about less than thirty seconds before and not since. -/
theorem refused_warned_or_recent
    (calls : List LogCall)
    (rows : List (TokenRow × RowValidation))
    (nowS : Int)
    (order : IterationOrder (List UInt8) Int)
    (row : TokenRow)
    (validation : RowValidation)
    (member : (row, validation) ∈ rows)
    (named : validation.refreshKid ≠ "")
    (refused : isThrottled validation.refreshReasonEnum = true) :
    ∃ item, throttledEvent row validation = some item ∧
      (item.dedupKey ∈ warned (run calls) (.ofRows rows nowS order) ∨
        ∃ loggedS, loggedS ≤ nowS ∧ nowS < loggedS + 30 ∧
          Machine.Since step
            (fun last earlier => item.dedupKey ∈ warned last earlier ∧ earlier.nowS = loggedS)
            (fun last later => item.dedupKey ∉ warned last later) ∅ calls) := by
  have event : throttledEvent row validation = some {
      kid := validation.refreshKid
      reason := validation.refreshReason
      jwksUri := row.loggedUri } :=
    if_pos ⟨named, refused⟩
  refine ⟨_, event, ?_⟩
  apply warned_or_recent
  exact List.mem_map_of_mem (List.mem_filterMap.mpr ⟨(row, validation), member, event⟩)

/-- A row whose refresh was refused. -/
def sampleRefused : TokenRow × RowValidation :=
  ({ authString := "a", config := { mode := "jwks", jwksUri := "https://idp" }, nowS := 130 },
    { outcome := .invalidSignature
      refreshKid := "a"
      refreshReason := "refresh_throttled"
      refreshReasonEnum := .throttled })

/-- A chunk of the refused row, at some time. -/
def sampleCall (nowS : Int) : LogCall :=
  .ofRows [sampleRefused] nowS .stored

/-- Twenty seconds after a warning about it the row is passed over. -/
theorem refused_warned_or_recent_sample :
    warned (run [sampleCall 110]) (sampleCall 130) = [] ∧
      ∃ item, throttledEvent sampleRefused.1 sampleRefused.2 = some item ∧
        (item.dedupKey ∈ warned (run [sampleCall 110]) (sampleCall 130) ∨
          ∃ loggedS, loggedS ≤ 130 ∧ 130 < loggedS + 30 ∧
            Machine.Since step
              (fun last earlier =>
                item.dedupKey ∈ warned last earlier ∧ earlier.nowS = loggedS)
              (fun last later => item.dedupKey ∉ warned last later) ∅ [sampleCall 110]) :=
  ⟨by decide, refused_warned_or_recent [sampleCall 110] [sampleRefused] 130 .stored
    sampleRefused.1 sampleRefused.2 List.mem_cons_self (by decide) rfl⟩

/-! ## The time between two warnings -/

/-- A call that need not forget keeps what may not be warned about yet. -/
theorem lookup_step_of_keeps
    (keeps : forgets last call = false)
    (stored : (Cooldown.pass 30 call.nowS ThrottledLogEvent.dedupKey call.items last).2.lookup
      key = some loggedS)
    (past : loggedS ≤ call.nowS)
    (recent : call.nowS - loggedS ≤ 30) :
    (step last call).lookup key = some loggedS := by
  unfold step logThrottledEvents
  split
  · next none =>
      have noItems : call.items = [] := by
        rw [List.eq_nil_iff_forall_not_mem]
        intro item member
        rw [LogCall.mem_items, none] at member
        cases member
      rw [noItems] at stored
      exact stored
  · dsimp only
    simp only [forgets, Bool.and_eq_false_iff, decide_eq_false_iff_not] at keeps
    unfold prune
    split
    · next crowded =>
        dsimp only
        rw [if_neg (keeps.resolve_left fun fits => fits crowded), lookup_pruneStale, stored,
          Option.filter_some, if_pos (decide_eq_true ⟨past, recent⟩)]
    · exact stored

/-- What a call warns about is remembered with the time of the call. -/
theorem lookup_step_of_warned
    (keeps : forgets last call = false)
    (isWarned : key ∈ warned last call) :
    (step last call).lookup key = some call.nowS := by
  apply lookup_step_of_keeps keeps _ (le_refl _) (by omega)
  unfold warned logThrottledEvents at isWarned
  split at isWarned
  · cases isWarned
  · rw [Cooldown.lookup_pass, if_pos isWarned]

/-- What was warned about thirty seconds before or less is remembered, too. -/
theorem lookup_step_of_recent
    (keeps : forgets last call = false)
    (stored : last.lookup key = some loggedS)
    (past : loggedS ≤ call.nowS)
    (recent : call.nowS - loggedS ≤ 30)
    (unwarned : key ∉ warned last call) :
    (step last call).lookup key = some loggedS := by
  apply lookup_step_of_keeps keeps _ past recent
  rw [Cooldown.lookup_pass, if_neg]
  · exact stored
  · rw [mem_warned_iff] at unwarned
    rw [Cooldown.mem_pass_iff]
    simpa only [List.mem_map, LogCall.mem_items] using unwarned

/-- The clock is not put back from one call to a later one. -/
def InOrder (calls : List LogCall) : Prop :=
  (calls.map LogCall.nowS).Pairwise (· ≤ ·)

instance (calls : List LogCall) : Decidable (InOrder calls) :=
  inferInstanceAs (Decidable ((calls.map LogCall.nowS).Pairwise (· ≤ ·)))

/-- Whether the map or the clock keeps a kind from being warned about until half a minute
after some time. -/
def Blocks (firstS clockS : Int) (key : List UInt8) (last : LastLogged) : Prop :=
  (∃ loggedS, last.lookup key = some loggedS ∧ firstS ≤ loggedS ∧ loggedS ≤ clockS) ∨
    firstS + 30 ≤ clockS

theorem blocks_step
    {firstS clockS : Int}
    (keeps : forgets last call = false)
    (later : clockS ≤ call.nowS)
    (blocks : Blocks firstS clockS key last) :
    Blocks firstS call.nowS key (step last call) := by
  rcases blocks with ⟨loggedS, stored, first, past⟩ | elapsed
  · by_cases isWarned : key ∈ warned last call
    · exact .inl ⟨call.nowS, lookup_step_of_warned keeps isWarned, by omega, le_refl _⟩
    · by_cases recent : call.nowS - loggedS ≤ 30
      · exact .inl ⟨loggedS,
          lookup_step_of_recent keeps stored (by omega) recent isWarned, first, by omega⟩
      · exact .inr (by omega)
  · exact .inr (by omega)

/-- As long as no call must forget, a kind stays blocked. -/
theorem spaced_of_blocks
    {firstS clockS : Int}
    {between : List LogCall}
    {second : LogCall}
    (inOrder : (clockS :: (between ++ [second]).map LogCall.nowS).Pairwise (· ≤ ·))
    (unforced : Machine.AllSteps step (fun last call => forgets last call = false) last
      between)
    (blocks : Blocks firstS clockS key last)
    (isWarned : key ∈ warned (Machine.run step last between) second) :
    firstS + 30 ≤ second.nowS := by
  induction between generalizing last clockS with
  | nil =>
      obtain ⟨later, -⟩ := List.pairwise_cons.mp inOrder
      have isLater := later second.nowS (by simp)
      rcases blocks with ⟨loggedS, stored, first, past⟩ | elapsed
      · have due := (mem_warned_iff.mp isWarned).2
        by_contra early
        have blocked : Cooldown.isDue 30 second.nowS last key = false :=
          Cooldown.isDue_eq_false_iff.mpr ⟨loggedS, stored, by omega, by omega⟩
        rw [Machine.run_nil, blocked] at due
        cases due
      · omega
  | cons call between inductionHypothesis =>
      obtain ⟨later, others⟩ := List.pairwise_cons.mp inOrder
      exact inductionHypothesis others unforced.2
        (blocks_step unforced.1 (later call.nowS (by simp)) blocks) isWarned

/-- If the clock is not put back and no call must forget, two warnings about one kind are
thirty seconds apart. -/
theorem warnings_spaced
    (calls : List LogCall)
    (inOrder : InOrder calls)
    (unforced : Machine.AllSteps step (fun last call => forgets last call = false) ∅ calls)
    (before between after : List LogCall)
    (first second : LogCall)
    (key : List UInt8)
    (split : calls = before ++ first :: (between ++ second :: after))
    (firstWarned : key ∈ warned (run before) first)
    (secondWarned : key ∈ warned (run (before ++ first :: between)) second) :
    first.nowS + 30 ≤ second.nowS := by
  subst split
  rw [Machine.allSteps_append, Machine.AllSteps, Machine.allSteps_append] at unforced
  obtain ⟨-, keeps, unforcedBetween, -⟩ := unforced
  rw [run, Machine.run_append, Machine.run_cons] at secondWarned
  unfold InOrder at inOrder
  rw [List.map_append, List.pairwise_append] at inOrder
  have ordered : (first.nowS :: (between ++ [second]).map LogCall.nowS).Pairwise
      (· ≤ ·) := by
    refine List.Pairwise.sublist ?_ inOrder.2.1
    apply List.Sublist.cons_cons
    apply List.Sublist.map
    exact List.Sublist.append_left (List.singleton_sublist.mpr List.mem_cons_self) between
  exact spaced_of_blocks ordered unforcedBetween
    (.inl ⟨first.nowS, lookup_step_of_warned keeps firstWarned, le_refl _, le_refl _⟩)
    secondWarned

/-- It is warned about again half a minute later. -/
theorem warnings_spaced_sample :
    (sampleCall 100).nowS + 30 ≤ (sampleCall 130).nowS :=
  warnings_spaced [sampleCall 100, sampleCall 110, sampleCall 130] (by decide) (by decide)
    [] [sampleCall 110] [] (sampleCall 100) (sampleCall 130)
    ((sampleCall 100).throttledEvents.head (by decide)).dedupKey rfl (by decide) (by decide)

end ThrottleLog
end Server
end QuackOauth
