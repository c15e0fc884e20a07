import Mathlib.Data.List.Induction
import QuackOauth.Jwks.Operation

/-!
# Reserved refreshes

A refresh of a cached kid is reserved, fetched without the mutex, and committed.
Along any run of operations the grants are numbered in order, so that an id names
one grant; an entry waits for a grant of its own kid, or for none; and what an entry
has stopped waiting for it never waits for again.
-/

namespace QuackOauth
namespace Jwks

open Lib

/-- A refresh that was reserved. -/
structure Grant where
  id : Nat
  jwksUri : String
  kid : String
  nowS : Int
  deriving DecidableEq

/-- A refresh that was committed. -/
structure Commit where
  id : Nat
  jwksUri : String
  kid : String
  deriving DecidableEq

/-- The key of the entry a grant is for. -/
def Grant.key (grant : Grant) : String :=
  cacheKey grant.jwksUri grant.kid

theorem Grant.key_eq (grant : Grant) : grant.key = cacheKey grant.jwksUri grant.kid := rfl

/-- The key of the entry a commit changes. -/
def Commit.key (commit : Commit) : String :=
  cacheKey commit.jwksUri commit.kid

namespace JwksCache

/-- The reservation an operation hands out. -/
def grantOf (cache : JwksCache) : Operation → Option Grant
  | .tryReserveRefresh kid nowS jwksUri =>
      let reservationId := (cache.tryReserveRefresh kid nowS jwksUri).1
      if reservationId = 0 then none
      else some { id := reservationId, jwksUri, kid, nowS }
  | _ => none

/-- The commit an operation makes. -/
def commitOf (cache : JwksCache) : Operation → Option Commit
  | .commitRefresh kid reservationId keys nowS jwksUri =>
      if (cache.commitRefresh kid reservationId keys nowS jwksUri).1 then
        some { id := reservationId, jwksUri, kid }
      else none
  | _ => none

/-- The reservations handed out along a run, in order. -/
abbrev grants : JwksCache → List Operation → List Grant :=
  Machine.observations apply grantOf

/-- The commits made along a run, in order. -/
abbrev commits : JwksCache → List Operation → List Commit :=
  Machine.observations apply commitOf

variable {cache : JwksCache} {operation : Operation} {grant : Grant} {commit : Commit}
variable {key : String} {hit : Entry}

/-! ## One operation -/

theorem grantOf_some
    (granted : cache.grantOf operation = some grant) :
    operation = .tryReserveRefresh grant.kid grant.nowS grant.jwksUri ∧
      (cache.tryReserveRefresh grant.kid grant.nowS grant.jwksUri).1 = grant.id ∧
      grant.id ≠ 0 := by
  cases operation with
  | tryReserveRefresh kid nowS jwksUri =>
      simp only [grantOf] at granted
      split at granted
      · cases granted
      · next effective =>
          cases granted
          exact ⟨rfl, rfl, effective⟩
  | _ => cases granted

theorem commitOf_some
    (committed : cache.commitOf operation = some commit) :
    ∃ keys nowS,
      operation = .commitRefresh commit.kid commit.id keys nowS commit.jwksUri ∧
      (cache.commitRefresh commit.kid commit.id keys nowS commit.jwksUri).1 = true := by
  cases operation with
  | commitRefresh kid reservationId keys nowS jwksUri =>
      simp only [commitOf] at committed
      split at committed
      · next succeeds =>
          cases committed
          exact ⟨keys, nowS, rfl, succeeds⟩
      · cases committed
  | _ => cases committed

/-- A grant takes the next id. -/
theorem id_of_grantOf (granted : cache.grantOf operation = some grant) :
    grant.id = cache.nextReservationId := by
  obtain ⟨-, id_eq, effective⟩ := grantOf_some granted
  rw [← id_eq] at effective ⊢
  exact (tryReserveRefresh_granted effective).1

theorem nextReservationId_onFetchSuccess
    (kid : String)
    (keys : List Jwk)
    (nowS : Int)
    (jwksUri : String)
    (cache : JwksCache) :
    (cache.onFetchSuccess kid keys nowS jwksUri).nextReservationId =
      cache.nextReservationId := by
  unfold onFetchSuccess
  split
  · rfl
  · dsimp only
    split <;> simp

/-- Ids are counted by grants only. -/
theorem nextReservationId_apply
    (issuing : 0 < cache.nextReservationId)
    (operation : Operation) :
    (cache.apply operation).nextReservationId =
      cache.nextReservationId + (cache.grantOf operation).toList.length := by
  cases operation with
  | tryReserveRefresh kid nowS jwksUri =>
      simp only [apply, grantOf]
      split
      · next refused =>
          rw [tryReserveRefresh_refused issuing refused]
          rfl
      · next effective => exact (tryReserveRefresh_granted effective).2
  | commitRefresh kid reservationId keys nowS jwksUri =>
      simp only [apply, commitRefresh]
      repeat' split
      all_goals rfl
  | recordKidAbsent kid reservationId nowS jwksUri =>
      simp only [apply, recordKidAbsent]
      repeat' split
      all_goals rfl
  | onFetchSuccess kid keys nowS jwksUri =>
      exact nextReservationId_onFetchSuccess kid keys nowS jwksUri cache
  | onPassiveFetchSuccess kid keys nowS jwksUri =>
      simp only [apply, onPassiveFetchSuccess]
      split
      · rfl
      · split
        · rfl
        · exact nextReservationId_onFetchSuccess kid keys nowS jwksUri cache
  | recordJwksFetch nowS => exact nextReservationId_recordJwksFetch nowS cache
  | recordJwksFetchSuccess nowS jwksUri =>
      exact nextReservationId_recordJwksFetchSuccess nowS jwksUri cache
  | onFetchMiss kid nowS jwksUri => simp [apply, onFetchMiss, grantOf]
  | _ => rfl

/-- What an operation publishes does not matter for reservations. -/
theorem apply_evolves (operation : Operation) (cache : JwksCache) :
    Evolves (fun _ _ => True) cache (cache.apply operation) := by
  have anything : ∀ {publishes after}, Evolves publishes cache after →
      Evolves (fun _ _ => True) cache after :=
    fun evolves => evolves.mono fun _ _ _ => trivial
  cases operation with
  | tryReserveRefresh kid nowS jwksUri =>
      exact anything (tryReserveRefresh_evolves kid nowS jwksUri cache)
  | commitRefresh kid reservationId keys nowS jwksUri =>
      exact anything (commitRefresh_evolves kid reservationId keys nowS jwksUri cache)
  | recordKidAbsent kid reservationId nowS jwksUri =>
      exact anything (recordKidAbsent_evolves kid reservationId nowS jwksUri cache)
  | reconcileAbsentKids presentKids jwksUri excludeKid =>
      exact anything (reconcileAbsentKids_evolves presentKids jwksUri excludeKid cache)
  | onFetchSuccess kid keys nowS jwksUri =>
      exact anything (onFetchSuccess_evolves kid keys nowS jwksUri cache)
  | onPassiveFetchSuccess kid keys nowS jwksUri =>
      exact anything (onPassiveFetchSuccess_evolves kid keys nowS jwksUri cache)
  | onFetchMiss kid nowS jwksUri =>
      exact anything (onFetchMiss_evolves kid nowS jwksUri cache)
  | recordJwksFetch nowS => exact Evolves.of_hits_eq (by simp [apply]) (by simp [apply])
  | recordJwksFetchSuccess nowS jwksUri =>
      exact Evolves.of_hits_eq (by simp [apply]) (by simp [apply])
  | incrementThrottledRefreshes isBudget nowS => exact Evolves.of_hits_eq rfl rfl
  | setLastRefreshReason reason => exact Evolves.of_hits_eq rfl rfl

/-- Which reservation is handed out. -/
theorem tryReserveRefresh_fst_eq
    (kid : String)
    (nowS : Int)
    (jwksUri : String)
    (cache : JwksCache) :
    (cache.tryReserveRefresh kid nowS jwksUri).1 =
      match cache.findHit jwksUri kid with
      | none => 0
      | some hit =>
          if refreshDue cache.minRefreshS nowS hit then cache.nextReservationId else 0 := by
  unfold tryReserveRefresh
  cases cache.findHit jwksUri kid with
  | none => rfl
  | some hit =>
      cases relation : relateClock nowS hit.lastRefreshAttemptS with
      | reset => simp [refreshDue, relation, grantReservation]
      | minorRewind => simp [refreshDue, relation]
      | forward =>
          by_cases tooSoon : nowS - hit.lastRefreshAttemptS < cache.minRefreshS.1
          · simp [refreshDue, relation, tooSoon, Int.not_le.mpr tooSoon]
          · simp [refreshDue, relation, tooSoon, Int.not_lt.mp tooSoon, grantReservation]

/-- How an operation changes what an entry waits for, and since when. -/
inductive EntryStep
    (cache : JwksCache)
    (operation : Operation)
    (key : String)
    (hit : Entry) : Option Entry → Prop
  | stored : hit.currentReservationId = 0 → EntryStep cache operation key hit none
  | kept (previous : Entry) :
      hit.lastRefreshAttemptS = previous.lastRefreshAttemptS →
      hit.currentReservationId = 0 ∨
        hit.currentReservationId = previous.currentReservationId →
      EntryStep cache operation key hit (some previous)
  | granted (previous : Entry) (grant : Grant) :
      cache.grantOf operation = some grant → grant.key = key →
      hit.lastRefreshAttemptS = grant.nowS → hit.currentReservationId = grant.id →
      EntryStep cache operation key hit (some previous)
  | absent
      (previous : Entry) (kid : String) (reservationId : Nat) (nowS : Int)
      (jwksUri : String) :
      operation = .recordKidAbsent kid reservationId nowS jwksUri →
      cacheKey jwksUri kid = key → countsAbsence reservationId previous = true →
      hit.lastRefreshAttemptS = nowS → hit.currentReservationId = 0 →
      EntryStep cache operation key hit (some previous)

theorem entryAfter_step
    (issuing : 0 < cache.nextReservationId)
    (present : entryAfter cache key (cache.hits.lookup key) operation = some hit) :
    EntryStep cache operation key hit (cache.hits.lookup key) := by
  have successor := successor_of_entryAfter present
  generalize found : cache.hits.lookup key = previous at successor
  cases successor with
  | untouched operation => exact .kept hit rfl (.inr rfl)
  | @reserved kid jwksUri nowS old isKey isDue =>
      have stored : cache.findHit jwksUri kid = some old := by
        rw [findHit, ← isKey, found]
      have id_eq := tryReserveRefresh_fst_eq kid nowS jwksUri cache
      simp only [stored, isDue, if_true] at id_eq
      refine .granted old ⟨cache.nextReservationId, jwksUri, kid, nowS⟩ ?_ isKey.symm rfl rfl
      rw [grantOf]
      simp only [id_eq, Nat.pos_iff_ne_zero.mp issuing, if_false]
  | @committed kid jwksUri reservationId keys nowS old isKey accepts =>
      exact .kept old rfl (.inl rfl)
  | @marked kid jwksUri reservationId nowS old isKey counts =>
      exact .absent old kid reservationId nowS jwksUri rfl isKey.symm counts rfl rfl
  | reconciled presentKids jwksUri excludeKid old =>
      refine .kept old ?_ (.inr (countAbsence_currentReservationId _ old))
      unfold countAbsence
      split <;> rfl
  | stored isKey nonempty =>
      cases previous with
      | none => exact .stored rfl
      | some old =>
          refine .kept old rfl ?_
          simp only [storedEntry]
          split
          · exact .inr rfl
          · exact .inl rfl
  | extended isKey nonempty =>
      cases previous with
      | none => exact .stored rfl
      | some old => exact .kept old rfl (.inr rfl)

/-- An entry waits for nothing, for what it waited for, or for what it was granted. -/
theorem EntryStep.awaited
    {stored : Option Entry}
    (entryStep : EntryStep cache operation key hit stored) :
    hit.currentReservationId = 0 ∨
      (∃ previous, stored = some previous ∧
        previous.currentReservationId = hit.currentReservationId) ∨
      ∃ grant, cache.grantOf operation = some grant ∧
        grant.id = hit.currentReservationId ∧ grant.key = key := by
  cases entryStep with
  | stored released => exact .inl released
  | kept previous _ reservation =>
      exact reservation.imp_right fun same => .inl ⟨previous, rfl, same.symm⟩
  | granted previous grant grants key_eq _ id_eq =>
      exact .inr (.inr ⟨grant, grants, id_eq.symm, key_eq⟩)
  | absent previous kid reservationId nowS jwksUri _ _ _ _ released =>
      exact .inl released

/-- What is stored after an operation was left there by it. -/
theorem Applied.entryAfter_eq
    {after : JwksCache}
    (applied : Applied cache operation after)
    (present : after.hits.lookup key = some hit) :
    entryAfter cache key (cache.hits.lookup key) operation = some hit := by
  rw [applied.lookup_hits] at present
  split at present
  · cases present
  · exact present

theorem Applied.entryStep
    {after : JwksCache}
    (applied : Applied cache operation after)
    (issuing : 0 < cache.nextReservationId)
    (present : after.hits.lookup key = some hit) :
    EntryStep cache operation key hit (cache.hits.lookup key) :=
  entryAfter_step issuing (applied.entryAfter_eq present)

/-! ## The history of a cache -/

/-- What a run has handed out and committed, and what its entries wait for. -/
structure History
    (cache : JwksCache)
    (granted : List Grant)
    (committed : List Commit) : Prop where
  consistent : Consistent cache
  ids_eq : granted.map Grant.id = List.range' 1 granted.length
  next_eq : cache.nextReservationId = granted.length + 1
  awaited : ∀ key hit, cache.hits.lookup key = some hit →
    hit.currentReservationId ≠ 0 →
      ∃ grant ∈ granted, grant.id = hit.currentReservationId ∧ grant.key = key
  committed_nodup : (committed.map Commit.id).Nodup
  issued : ∀ commit ∈ committed,
    commit.id ≠ 0 ∧ commit.id < cache.nextReservationId
  spent : ∀ commit ∈ committed, ∀ key hit, cache.hits.lookup key = some hit →
    hit.currentReservationId ≠ commit.id

theorem create_history (minRefreshS : Int) (maxEntries : Nat) :
    History (create minRefreshS maxEntries) [] [] where
  consistent := create_consistent minRefreshS maxEntries
  ids_eq := rfl
  next_eq := rfl
  awaited := fun key hit impossible => by cases impossible
  committed_nodup := List.nodup_nil
  issued := fun commit impossible => by cases impossible
  spent := fun commit impossible => by cases impossible

namespace History

variable {granted : List Grant} {committed : List Commit}

theorem issuing (history : History cache granted committed) :
    0 < cache.nextReservationId := by
  rw [history.next_eq]
  exact Nat.succ_pos _

/-- An id names one grant. -/
theorem grant_eq
    {other : Grant}
    (history : History cache granted committed)
    (member : grant ∈ granted)
    (otherMember : other ∈ granted)
    (same : grant.id = other.id) :
    grant = other := by
  have nodup : (granted.map Grant.id).Nodup := by
    rw [history.ids_eq]
    exact List.nodup_range'
  exact List.inj_on_of_nodup_map nodup member otherMember same

theorem id_lt
    (history : History cache granted committed)
    (member : grant ∈ granted) :
    grant.id ≠ 0 ∧ grant.id < cache.nextReservationId := by
  have numbered := List.mem_map_of_mem (f := Grant.id) member
  rw [history.ids_eq, List.mem_range'_1] at numbered
  rw [history.next_eq]
  omega

/-- A commit is for a grant of the same entry, and ends the wait for it. -/
theorem commit_grant
    (history : History cache granted committed)
    (commits : cache.commitOf operation = some commit) :
    (∃ grant ∈ granted, grant.id = commit.id ∧ grant.key = commit.key) ∧
      ∃ hit, cache.hits.lookup commit.key = some hit ∧
        hit.currentReservationId = commit.id := by
  obtain ⟨keys, nowS, rfl, succeeds⟩ := commitOf_some commits
  obtain ⟨effective, -, ⟨hit, found, awaits, -⟩, -⟩ := commitRefresh_committed succeeds
  rw [← awaits] at effective
  obtain ⟨grant, member, id_eq, key_eq⟩ := history.awaited _ hit found effective
  exact ⟨⟨grant, member, id_eq.trans awaits, key_eq⟩, hit, found, awaits⟩

/-- After a commit nothing waits for its id. -/
theorem unawaited_of_commit
    (history : History cache granted committed)
    (commits : cache.commitOf operation = some commit)
    (present : (cache.apply operation).hits.lookup key = some hit) :
    hit.currentReservationId ≠ commit.id := by
  obtain ⟨⟨grant, member, id_eq, key_eq⟩, -⟩ := history.commit_grant commits
  obtain ⟨keys, nowS, rfl, succeeds⟩ := commitOf_some commits
  have committed := commitRefresh_committed succeeds
  intro awaits
  have applied := apply_applied history.consistent
    (.commitRefresh commit.kid commit.id keys nowS commit.jwksUri)
  rcases (applied.entryStep history.issuing present).awaited with
    released | ⟨previous, stored, same⟩ | ⟨other, impossible, -⟩
  · exact committed.granted (awaits.symm.trans released)
  · -- Only the entry that was committed waited for the id, and it was released.
    have waits : previous.currentReservationId = commit.id := same.trans awaits
    obtain ⟨other, otherMember, otherId, otherKey⟩ := history.awaited key previous stored
      (by rw [waits]; exact committed.granted)
    have grant_eq := history.grant_eq member otherMember
      (id_eq.trans (waits.symm.trans otherId.symm))
    rw [← grant_eq, key_eq] at otherKey
    obtain ⟨after, found, -, released⟩ := committed.stored
    rw [← otherKey] at present
    cases found.symm.trans present
    exact committed.granted (awaits.symm.trans released)
  · cases impossible

theorem step
    (history : History cache granted committed)
    (operation : Operation) :
    History (cache.apply operation) (granted ++ (cache.grantOf operation).toList)
      (committed ++ (cache.commitOf operation).toList) := by
  have applied := apply_applied history.consistent operation
  have evolves := apply_evolves operation cache
  have counts := nextReservationId_apply history.issuing operation
  refine ⟨applied.consistent, ?_, ?_, ?_, ?_, ?_, ?_⟩
  · cases grants : cache.grantOf operation with
    | none => simpa using history.ids_eq
    | some grant =>
        rw [Option.toList_some, List.map_append, List.length_append, history.ids_eq,
          List.length_singleton, List.range'_1_concat, List.map_singleton,
          id_of_grantOf grants, history.next_eq, Nat.add_comm]
  · rw [counts, history.next_eq, List.length_append]
    omega
  · intro key hit present waits
    rcases (applied.entryStep history.issuing present).awaited with
      released | ⟨previous, stored, same⟩ | ⟨grant, grants, id_eq, key_eq⟩
    · exact absurd released waits
    · rw [← same] at waits ⊢
      obtain ⟨grant, member, id_eq, key_eq⟩ := history.awaited key previous stored waits
      exact ⟨grant, List.mem_append_left _ member, id_eq, key_eq⟩
    · exact ⟨grant, List.mem_append_right _ (by simp [grants]), id_eq, key_eq⟩
  · cases commits : cache.commitOf operation with
    | none => simpa using history.committed_nodup
    | some commit =>
        obtain ⟨-, hit, found, waits⟩ := history.commit_grant commits
        rw [Option.toList_some, List.map_append, List.map_singleton, List.nodup_append]
        refine ⟨history.committed_nodup, List.nodup_singleton _, ?_⟩
        intro id member other isNew same
        obtain ⟨earlier, earlierMember, rfl⟩ := List.mem_map.mp member
        rw [List.mem_singleton.mp isNew] at same
        exact history.spent earlier earlierMember _ hit found (waits.trans same.symm)
  · intro commit member
    rcases List.mem_append.mp member with old | new
    · obtain ⟨effective, issued⟩ := history.issued commit old
      exact ⟨effective, lt_of_lt_of_le issued evolves.next_le⟩
    · rw [Option.mem_toList] at new
      obtain ⟨⟨grant, granted, id_eq, -⟩, -⟩ := history.commit_grant new
      rw [← id_eq]
      obtain ⟨effective, issued⟩ := history.id_lt granted
      exact ⟨effective, lt_of_lt_of_le issued evolves.next_le⟩
  · intro commit member key hit present
    rcases List.mem_append.mp member with old | new
    · obtain ⟨effective, issued⟩ := history.issued commit old
      exact evolves.reservation_ne effective issued
        (history.spent commit old key) hit present
    · rw [Option.mem_toList] at new
      exact history.unawaited_of_commit new present

/-- The history of a run. -/
theorem run
    (history : History cache granted committed)
    (operations : List Operation) :
    History (cache.applyAll operations) (granted ++ grants cache operations)
      (committed ++ commits cache operations) := by
  induction operations using List.reverseRecOn with
  | nil => simpa [Machine.observations] using history
  | append_singleton operations operation inductionHypothesis =>
      rw [applyAll, Machine.run_append, grants, commits,
        Machine.observations_append_singleton, Machine.observations_append_singleton,
        ← List.append_assoc, ← List.append_assoc]
      exact inductionHypothesis.step operation

end History
/-! ## When a reservation is void -/

/-- An operation after which the entry of a kid no longer waits for an earlier
reservation. -/
inductive Voids (cache : JwksCache) (jwksUri kid : String) : Operation → Prop
  /-- Another refresh is reserved. -/
  | reserved (nowS : Int) :
      (cache.tryReserveRefresh kid nowS jwksUri).1 ≠ 0 →
      Voids cache jwksUri kid (.tryReserveRefresh kid nowS jwksUri)
  /-- The entry is evicted, for whatever reason. -/
  | evicted (operation : Operation) :
      (cache.findHit jwksUri kid).isSome →
      (cache.apply operation).findHit jwksUri kid = none →
      Voids cache jwksUri kid operation
  /-- The keys are replaced by others. -/
  | replaced (keys : List Jwk) (nowS : Int) (hit : Entry) :
      keys ≠ [] → cache.findHit jwksUri kid = some hit →
      sameKeyMaterialList hit.keys keys = false →
      Voids cache jwksUri kid (.onFetchSuccess kid keys nowS jwksUri)

variable {granted : List Grant} {committed : List Commit}

theorem Voids.unawaited
    (voids : Voids cache grant.jwksUri grant.kid operation)
    (history : History cache granted committed)
    (member : grant ∈ granted)
    (present : (cache.apply operation).hits.lookup grant.key = some hit) :
    hit.currentReservationId ≠ grant.id := by
  obtain ⟨effective, issued⟩ := history.id_lt member
  have left := (apply_applied history.consistent operation).entryAfter_eq present
  cases voids with
  | reserved nowS reserves =>
      rw [tryReserveRefresh_fst_eq] at reserves
      cases found : cache.findHit grant.jwksUri grant.kid with
      | none => simp [found] at reserves
      | some previous =>
          have isDue : refreshDue cache.minRefreshS nowS previous = true := by
            by_contra notDue
            simp [found, notDue] at reserves
          have stored : cache.hits.lookup grant.key = some previous := found
          rw [entryAfter, if_pos grant.key_eq, stored, Option.map_some, if_pos isDue] at left
          cases left
          exact Nat.ne_of_gt issued
  | evicted _ _ after => cases after.symm.trans present
  | replaced keys nowS previous nonempty found differs =>
      have stored : cache.hits.lookup grant.key = some previous := found
      rw [entryAfter, if_pos ⟨grant.key_eq, nonempty⟩, stored] at left
      cases left
      simpa [storedEntry, differs] using effective.symm

/-- A void reservation is never committed. -/
theorem Voids.not_committed
    {after : List Operation}
    (voids : Voids cache grant.jwksUri grant.kid operation)
    (history : History cache granted committed)
    (member : grant ∈ granted)
    (commits : commit ∈ JwksCache.commits (cache.apply operation) after) :
    commit.id ≠ grant.id := by
  intro same
  obtain ⟨before, _, rest, -, commitsThen⟩ := (Machine.mem_observations _).mp commits
  obtain ⟨effective, issued⟩ := history.id_lt member
  have stepped := history.step operation
  have later := stepped.run before
  obtain ⟨⟨other, otherMember, otherId, otherKey⟩, hit, found, waits⟩ :=
    later.commit_grant commitsThen
  have grant_eq : grant = other :=
    later.grant_eq (List.mem_append_left _ (List.mem_append_left _ member)) otherMember
      (same.symm.trans otherId.symm)
  rw [← otherKey, ← grant_eq] at found
  have evolves := Evolves.foldl before (fun cache operation _ => apply_evolves operation cache)
    (cache.apply operation)
  have next_le := (apply_evolves operation cache).next_le
  refine evolves.reservation_ne effective (lt_of_lt_of_le issued next_le) ?_ hit found
    (waits.trans same)
  intro present stored
  exact voids.unawaited history member stored

/-! ## When the next refresh is due -/

/-- The entry of a grant still counts its interval from the grant. -/
structure Attempted (cache : JwksCache) (grant : Grant) : Prop where
  stored : ∃ hit, cache.hits.lookup grant.key = some hit ∧
    hit.lastRefreshAttemptS = grant.nowS ∧
    (hit.currentReservationId = 0 ∨ hit.currentReservationId = grant.id)

/-- The time of an attempt to reserve a refresh. -/
def attemptS? : Operation → Option Int
  | .tryReserveRefresh _ nowS _ => some nowS
  | _ => none

/-- The second operation attempts no refresh far behind the first. -/
def NotRewound (first second : Operation) : Prop :=
  ∀ earlier ∈ attemptS? first, ∀ later ∈ attemptS? second,
    earlier - later ≤ kClockResetThresholdSeconds

/-- An absence was found by a refresh that was reserved, at the time of that call. -/
def AbsencesBelong (cache : JwksCache) (operations : List Operation) : Prop :=
  ∀ before kid reservationId nowS jwksUri after,
    operations = before ++ .recordKidAbsent kid reservationId nowS jwksUri :: after →
      { id := reservationId, jwksUri, kid, nowS } ∈ grants cache before

theorem attempted_of_grantOf
    (consistent : Consistent cache)
    (grants : cache.grantOf operation = some grant) :
    Attempted (cache.apply operation) grant := by
  obtain ⟨rfl, id_eq, effective⟩ := grantOf_some grants
  have applied := apply_applied consistent
    (.tryReserveRefresh grant.kid grant.nowS grant.jwksUri)
  have isNext := id_of_grantOf grants
  rw [← id_eq, tryReserveRefresh_fst_eq] at effective
  cases found : cache.findHit grant.jwksUri grant.kid with
  | none => simp [found] at effective
  | some hit =>
      have isDue : refreshDue cache.minRefreshS grant.nowS hit = true := by
        by_contra notDue
        simp [found, notDue] at effective
      have stored : cache.hits.lookup grant.key = some hit := found
      have left := applied.lookup_hits grant.key
      have keeps : cache.droppedHit
          (.tryReserveRefresh grant.kid grant.nowS grant.jwksUri) = none := rfl
      rw [keeps, if_neg (Option.some_ne_none _).symm, entryAfter, if_pos grant.key_eq,
        stored, Option.map_some, if_pos isDue] at left
      exact ⟨_, left, rfl, .inr isNext.symm⟩

/-- The next refresh of the entry is granted after the interval. -/
theorem Attempted.apart
    {later : Grant}
    (attempted : Attempted cache grant)
    (grants : cache.grantOf operation = some later)
    (sameKey : later.key = grant.key)
    (notRewound : grant.nowS - later.nowS ≤ kClockResetThresholdSeconds) :
    grant.nowS + cache.minRefreshS.1 ≤ later.nowS := by
  obtain ⟨hit, stored, attempted, -⟩ := attempted.stored
  obtain ⟨-, id_eq, effective⟩ := grantOf_some grants
  rw [← sameKey] at stored
  have found : cache.findHit later.jwksUri later.kid = some hit := stored
  rw [← id_eq, tryReserveRefresh_fst_eq, found] at effective
  have isDue : refreshDue cache.minRefreshS later.nowS hit = true := by
    by_contra notDue
    simp [notDue] at effective
  rw [refreshDue, attempted] at isDue
  unfold relateClock at isDue
  split at isDue
  · next relation =>
      split_ifs at relation
  · cases isDue
  · rw [decide_eq_true_eq] at isDue
    omega

/-- Other operations leave the attempt as it is while the entry is there. -/
theorem Attempted.step
    (attempted : Attempted cache grant)
    (history : History cache granted committed)
    (member : grant ∈ granted)
    (others : ∀ other, cache.grantOf operation = some other → other.key ≠ grant.key)
    (belongs : ∀ kid reservationId nowS jwksUri,
      operation = .recordKidAbsent kid reservationId nowS jwksUri →
        { id := reservationId, jwksUri, kid, nowS } ∈ granted)
    (stays : (cache.apply operation).hits.lookup grant.key ≠ none) :
    Attempted (cache.apply operation) grant := by
  obtain ⟨previous, stored, attemptedS, waits⟩ := attempted.stored
  obtain ⟨hit, present⟩ := Option.ne_none_iff_exists'.mp stays
  have entryStep := (apply_applied history.consistent operation).entryStep
    history.issuing present
  rw [stored] at entryStep
  refine ⟨hit, present, ?_⟩
  cases entryStep with
  | kept _ sameAttempt reservation =>
      refine ⟨sameAttempt.trans attemptedS, ?_⟩
      rcases reservation with released | same
      · exact .inl released
      · rwa [same]
  | granted _ other grants key_eq _ _ => exact absurd key_eq (others other grants)
  | absent _ kid reservationId nowS jwksUri isAbsence key_eq counts recordedS released =>
      have recorded := belongs kid reservationId nowS jwksUri isAbsence
      have effective := (history.id_lt recorded).1
      simp only [countsAbsence, Bool.or_eq_true, decide_eq_true_eq] at counts
      -- The entry waited for the reservation, so it is the grant's.
      have waited : previous.currentReservationId = reservationId := by
        rcases counts with isZero | waited
        · exact absurd isZero effective
        · exact waited
      have isGrant : reservationId = grant.id := by
        rcases waits with released | waits
        · exact absurd (waited.symm.trans released) effective
        · exact waited.symm.trans waits
      have grant_eq := history.grant_eq recorded member isGrant
      refine ⟨?_, .inl released⟩
      rw [recordedS, ← grant_eq]

/-- Refreshes of an entry that stays are granted an interval apart. -/
theorem Attempted.apart_run
    {middle : List Operation}
    {last : Operation}
    {later : Grant}
    (attempted : Attempted cache grant)
    (history : History cache granted committed)
    (member : grant ∈ granted)
    (grants : (cache.applyAll middle).grantOf last = some later)
    (sameKey : later.key = grant.key)
    (belongs : ∀ before kid reservationId nowS jwksUri after,
      middle = before ++ .recordKidAbsent kid reservationId nowS jwksUri :: after →
        { id := reservationId, jwksUri, kid, nowS } ∈
          granted ++ JwksCache.grants cache before)
    (stays : ∀ before after, middle = before ++ after →
      (cache.applyAll before).hits.lookup grant.key ≠ none)
    (recent : ∀ operation ∈ middle ++ [last], ∀ laterS ∈ attemptS? operation,
      grant.nowS - laterS ≤ kClockResetThresholdSeconds)
    (notRewound : (middle ++ [last]).Pairwise NotRewound) :
    grant.nowS + cache.minRefreshS.1 ≤ later.nowS := by
  induction middle generalizing cache granted committed grant with
  | nil =>
      refine attempted.apart grants sameKey (recent last (by simp) later.nowS ?_)
      rw [(grantOf_some grants).1]
      rfl
  | cons operation middle inductionHypothesis =>
      have applied := apply_applied history.consistent operation
      have stepped := history.step operation
      have belongsLater : ∀ before kid reservationId nowS jwksUri after,
          middle = before ++ .recordKidAbsent kid reservationId nowS jwksUri :: after →
            { id := reservationId, jwksUri, kid, nowS } ∈
              (granted ++ (cache.grantOf operation).toList) ++
                JwksCache.grants (cache.apply operation) before := by
        intro before kid reservationId nowS jwksUri after split
        have recorded := belongs (operation :: before) kid reservationId nowS jwksUri after
          (by rw [split, List.cons_append])
        rwa [JwksCache.grants, Machine.observations, ← List.append_assoc] at recorded
      have staysLater : ∀ before after, middle = before ++ after →
          ((cache.apply operation).applyAll before).hits.lookup grant.key ≠ none := by
        intro before after split
        exact stays (operation :: before) after (by rw [split, List.cons_append])
      rw [List.cons_append, List.pairwise_cons] at notRewound
      by_cases again : ∃ other, cache.grantOf operation = some other ∧ other.key = grant.key
      · obtain ⟨other, otherGrants, otherKey⟩ := again
        have isAttempt : other.nowS ∈ attemptS? operation := by
          rw [(grantOf_some otherGrants).1]
          rfl
        have first := attempted.apart otherGrants otherKey
          (recent operation (by simp) other.nowS isAttempt)
        have second : other.nowS + (cache.apply operation).minRefreshS.1 ≤ later.nowS :=
          inductionHypothesis (attempted_of_grantOf history.consistent otherGrants) stepped
            (List.mem_append_right _ (by simp [otherGrants])) grants
            (sameKey.trans otherKey.symm) belongsLater (by rwa [otherKey])
            (fun operation member laterS attempt =>
              notRewound.1 operation member other.nowS isAttempt laterS attempt)
            notRewound.2
        rw [applied.minRefreshS_eq] at second
        have positive := cache.minRefreshS.2.1
        omega
      · have kept := attempted.step history member
          (fun other otherGrants same => again ⟨other, otherGrants, same⟩)
          (fun kid reservationId nowS jwksUri isAbsence => by
            simpa [Machine.observations] using
              belongs [] kid reservationId nowS jwksUri middle (by rw [isAbsence]; rfl))
          (stays [operation] middle rfl)
        have rest := inductionHypothesis kept stepped
          (List.mem_append_left _ member) grants sameKey belongsLater staysLater
          (fun operation member => recent operation (List.mem_cons_of_mem _ member))
          notRewound.2
        rwa [applied.minRefreshS_eq] at rest

/-! ## The protocol -/

/-- What holds of the reservations along a run. -/
structure ReservationProtocol (start : JwksCache) (operations : List Operation) : Prop where
  /-- No id is handed out twice. -/
  grants_nodup : ((grants start operations).map Grant.id).Nodup
  /-- No id is committed twice. -/
  commits_nodup : ((commits start operations).map Commit.id).Nodup
  /-- A commit is for the kid of the issuer that its id was handed out for. -/
  commit_granted : ∀ before operation after commit,
    operations = before ++ operation :: after →
    (start.applyAll before).commitOf operation = some commit →
      ∃ grant ∈ grants start before, grant.id = commit.id ∧
        grant.jwksUri = commit.jwksUri ∧ grant.kid = commit.kid
  /-- A void reservation is not committed any more. -/
  void_not_committed : ∀ before operation after grant,
    operations = before ++ operation :: after → grant ∈ grants start before →
    Voids (start.applyAll before) grant.jwksUri grant.kid operation →
      ∀ commit ∈ commits (start.applyAll (before ++ [operation])) after,
        commit.id ≠ grant.id
  /-- A commit without success changes nothing. -/
  refused_unchanged : ∀ before kid reservationId keys nowS jwksUri after,
    operations = before ++ .commitRefresh kid reservationId keys nowS jwksUri :: after →
    (start.applyAll before).commitOf
        (.commitRefresh kid reservationId keys nowS jwksUri) = none →
      (start.applyAll before).apply
        (.commitRefresh kid reservationId keys nowS jwksUri) = start.applyAll before
  /-- While an entry stays, and no attempt comes far behind an earlier one, its
  refreshes are an interval apart. -/
  grants_apart : ∀ before first middle second after earlier later,
    operations = before ++ first :: (middle ++ second :: after) →
    (start.applyAll before).grantOf first = some earlier →
    (start.applyAll (before ++ first :: middle)).grantOf second = some later →
    later.jwksUri = earlier.jwksUri → later.kid = earlier.kid →
    (∀ done rest, middle = done ++ rest →
      (start.applyAll (before ++ first :: done)).findHit earlier.jwksUri earlier.kid ≠
        none) →
    (first :: (middle ++ [second])).Pairwise NotRewound →
      earlier.nowS + start.minRefreshS.1 ≤ later.nowS

/-- Reservations, commits and refused commits along every run of a new cache. -/
theorem reservation_protocol
    (minRefreshS : Int)
    (maxEntries : Nat)
    (operations : List Operation)
    (printable : ∀ operation ∈ operations, operation.Printable)
    (absences : AbsencesBelong (create minRefreshS maxEntries) operations) :
    ReservationProtocol (create minRefreshS maxEntries) operations := by
  have historyOf := fun operations =>
    (create_history minRefreshS maxEntries).run operations
  simp only [List.nil_append] at historyOf
  refine ⟨?_, (historyOf operations).committed_nodup, ?_, ?_, ?_, ?_⟩
  · rw [(historyOf operations).ids_eq]
    exact List.nodup_range'
  · intro before operation after commit split commits
    obtain ⟨⟨grant, member, id_eq, key_eq⟩, -⟩ := (historyOf before).commit_grant commits
    refine ⟨grant, member, id_eq, ?_⟩
    obtain ⟨reserving, _, earlier, split', grants⟩ := (Machine.mem_observations _).mp member
    obtain ⟨isReserving, -, -⟩ := grantOf_some grants
    obtain ⟨keys, nowS, isCommitting, -⟩ := commitOf_some commits
    subst split' isReserving isCommitting
    refine cacheKey_inj ?_ ?_ key_eq
    · refine printable (.tryReserveRefresh grant.kid grant.nowS grant.jwksUri) ?_ grant.kid rfl
      rw [split]
      simp
    · refine printable
        (.commitRefresh commit.kid commit.id keys nowS commit.jwksUri) ?_ commit.kid rfl
      rw [split]
      simp
  · intro before operation after grant split member voids commit commits
    rw [applyAll, Machine.run_append] at commits
    exact voids.not_committed (historyOf before) member commits
  · intro before kid reservationId keys nowS jwksUri after split refused
    refine commitRefresh_superseded ?_
    rw [commitOf] at refused
    split at refused
    · cases refused
    · next fails => exact Bool.eq_false_iff.mpr fails
  · intro before first middle second after earlier later split grantsFirst grantsSecond
      sameUri sameKid stays notRewound
    have history := (historyOf before).step first
    have member : earlier ∈ grants (create minRefreshS maxEntries) before ++
        ((applyAll (create minRefreshS maxEntries) before).grantOf first).toList :=
      List.mem_append_right _ (by simp [grantsFirst])
    have attempted := attempted_of_grantOf (historyOf before).consistent grantsFirst
    simp only [applyAll, Machine.run_append, Machine.run_cons] at grantsSecond stays
    rw [List.pairwise_cons] at notRewound
    have recorded : ∀ done kid reservationId nowS jwksUri rest,
        middle = done ++ .recordKidAbsent kid reservationId nowS jwksUri :: rest →
          { id := reservationId, jwksUri, kid, nowS } ∈
            (grants (create minRefreshS maxEntries) before ++
              ((applyAll (create minRefreshS maxEntries) before).grantOf first).toList) ++
                grants ((applyAll (create minRefreshS maxEntries) before).apply first) done := by
      intro done kid reservationId nowS jwksUri rest splitMiddle
      have belongs := absences (before ++ first :: done) kid reservationId nowS jwksUri
        (rest ++ second :: after) (by rw [split, splitMiddle]; simp)
      rwa [grants, Machine.observations_append, Machine.observations, ← List.append_assoc]
        at belongs
    have apart := attempted.apart_run history member grantsSecond
      (by rw [Grant.key, Grant.key, sameUri, sameKid]) recorded stays
      (fun operation inRest => notRewound.1 operation inRest earlier.nowS ?_)
      notRewound.2
    · have bounds := applyAll_bounds (before ++ [first])
        (create_consistent minRefreshS maxEntries)
      rw [applyAll, Machine.run_append] at bounds
      rwa [← bounds.1]
    · rw [(grantOf_some grantsFirst).1]
      rfl

/-- Kid `a` is stored, refreshed without result, and refreshed again. -/
def sampleRefreshes : List Operation :=
  [.onFetchSuccess "a" [{ kid := "a", kty := "RSA" }] 1000 "https://idp.test/jwks",
    .tryReserveRefresh "a" 1300 "https://idp.test/jwks",
    .recordKidAbsent "a" 1 1300 "https://idp.test/jwks",
    .tryReserveRefresh "a" 1600 "https://idp.test/jwks"]

theorem reservation_protocol_sample :
    ReservationProtocol (create 300 10) sampleRefreshes := by
  apply reservation_protocol 300 10 sampleRefreshes
  · intro operation member
    simp only [sampleRefreshes, List.mem_cons, List.not_mem_nil, or_false] at member
    rcases member with rfl | rfl | rfl | rfl <;>
      · rintro kid ⟨⟩
        decide
  · rintro before kid reservationId nowS jwksUri after split
    -- The absence is the third operation.
    match before with
    | [] => cases split
    | [_] => cases split
    | [first, second] =>
        cases split
        decide
    | [_, _, _] => cases split
    | _ :: _ :: _ :: _ :: _ => simp [sampleRefreshes] at split

end JwksCache
end Jwks
end QuackOauth
