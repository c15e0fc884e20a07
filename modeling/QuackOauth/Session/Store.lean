import QuackOauth.Lib.Scan
import QuackOauth.Lib.UnorderedMap
import QuackOauth.Policy.Evaluate

/-!
# The session map

Principals of authenticated sessions, by session id.  The map holds a thousand
sessions; storing one more evicts a session that expires first.  The scan for the
victim compares by a strict partial order, so no session goes before its result.
-/

namespace QuackOauth
namespace Session

open Lib Policy

/-- A session's principal and the time it was stored. -/
structure SessionPrincipal where
  principal : Principal
  updatedAtS : Int := 0
  deriving DecidableEq, Repr

/-- Whether a principal is past its expiry and the leeway, whose sum is taken to fit 64 bits.
An unknown expiry never passes. -/
def isPrincipalExpired (p : Principal) (nowS skewS : Int) : Bool :=
  if p.exp ≤ 0 then false else decide (nowS > p.exp + skewS)

def maxSessionPrincipals : Nat := 1000

/-- Whether the scan for a victim prefers a session over the victim so far. -/
def precedes (it victim : SessionPrincipal) : Bool :=
  let victimExp := victim.principal.exp
  let itExp := it.principal.exp
  (decide (itExp > 0) && decide (victimExp ≤ 0)) ||
    (decide (itExp > 0) && decide (victimExp > 0) && decide (itExp < victimExp)) ||
    (decide (itExp = victimExp) && decide (it.updatedAtS < victim.updatedAtS))

/-- The session to evict. -/
def findVictim
    (order : IterationOrder String SessionPrincipal)
    (sessions : UnorderedMap String SessionPrincipal) : Option String :=
  match order.visit sessions with
  | [] => none
  | first :: rest =>
      some (Scan.pick (fun it victim => precedes it.2 victim.2) first (first :: rest)).1

/-- Evict sessions while the map is over its capacity, for at most so many rounds. -/
def evictVictims
    (order : IterationOrder String SessionPrincipal) :
    Nat → UnorderedMap String SessionPrincipal → UnorderedMap String SessionPrincipal
  | 0, sessions => sessions
  | rounds + 1, sessions =>
      if UnorderedMap.size sessions > maxSessionPrincipals then
        match findVictim order sessions with
        | none => sessions
        | some victim => evictVictims order rounds (sessions.erase victim)
      else sessions

/-- Store the principal of a session.  Every round evicts one session, so there are
no more rounds than sessions. -/
def storeSessionPrincipal
    (order : IterationOrder String SessionPrincipal)
    (sid : String)
    (principal : Principal)
    (nowS : Int)
    (sessions : UnorderedMap String SessionPrincipal) :
    UnorderedMap String SessionPrincipal :=
  let stored := sessions.insert sid { principal, updatedAtS := nowS }
  evictVictims order (UnorderedMap.size stored) stored

/-! ## The victim -/

variable {order : IterationOrder String SessionPrincipal}
variable {sessions : UnorderedMap String SessionPrincipal}

theorem precedes_irrefl (it : SessionPrincipal) : precedes it it = false := by
  simp only [precedes, Bool.or_eq_false_iff, Bool.and_eq_false_iff,
    decide_eq_false_iff_not]
  omega

theorem precedes_trans
    {first second third : SessionPrincipal}
    (firstSecond : precedes first second = true)
    (secondThird : precedes second third = true) :
    precedes first third = true := by
  simp only [precedes, Bool.or_eq_true, Bool.and_eq_true,
    decide_eq_true_eq] at firstSecond secondThird ⊢
  omega

/-- The victim is a session of the map, and no session goes before it. -/
theorem findVictim_minimal
    {victim : String}
    (found : findVictim order sessions = some victim) :
    ∃ evicted, sessions.lookup victim = some evicted ∧
      ∀ sid it, sessions.lookup sid = some it → precedes it evicted = false := by
  unfold findVictim at found
  cases visited : order.visit sessions with
  | nil =>
      rw [visited] at found
      cases found
  | cons first rest =>
      rw [visited] at found
      obtain rfl := Option.some.inj found
      have picked := Scan.pick_mem (fun it victim : (_ : String) × SessionPrincipal =>
        precedes it.2 victim.2) first (first :: rest)
      have member : ∀ entry ∈ first :: first :: rest, entry ∈ order.visit sessions := by
        rw [visited]
        simp
      refine ⟨_, IterationOrder.mem_visit.mp (member _ picked), fun sid it stored => ?_⟩
      have seen : (⟨sid, it⟩ : (_ : String) × SessionPrincipal) ∈ first :: rest := by
        rw [← visited]
        exact IterationOrder.mem_visit.mpr stored
      exact Scan.pick_minimal
        (fun it victim : (_ : String) × SessionPrincipal => precedes it.2 victim.2)
        (fun entry => precedes_irrefl entry.2) precedes_trans
        (List.mem_cons_of_mem first seen)

variable (order) in
theorem findVictim_isSome
    (nonempty : 0 < UnorderedMap.size sessions) :
    ∃ victim, findVictim order sessions = some victim := by
  unfold findVictim
  cases visited : order.visit sessions with
  | nil =>
      have same := (order.arrange_perm sessions.entries).length_eq
      rw [IterationOrder.visit] at visited
      rw [visited, List.length_nil] at same
      rw [UnorderedMap.size, ← same] at nonempty
      cases nonempty
  | cons first rest => exact ⟨_, rfl⟩

/-! ## The capacity -/

theorem evictVictims_of_size_le
    (rounds : Nat)
    (fits : UnorderedMap.size sessions ≤ maxSessionPrincipals) :
    evictVictims order rounds sessions = sessions := by
  cases rounds with
  | zero => rfl
  | succ rounds =>
      rw [evictVictims, if_neg]
      exact Nat.not_lt.mpr fits

/-- With a round for each session, the loop comes down to the capacity. -/
theorem size_evictVictims_le
    {rounds : Nat}
    (enough : UnorderedMap.size sessions ≤ rounds) :
    UnorderedMap.size (evictVictims order rounds sessions) ≤ maxSessionPrincipals := by
  induction rounds generalizing sessions with
  | zero =>
      rw [evictVictims, Nat.le_zero.mp enough]
      exact Nat.zero_le _
  | succ rounds inductionHypothesis =>
      rw [evictVictims]
      split
      · next tooMany =>
          obtain ⟨victim, found⟩ := findVictim_isSome order
            (Nat.lt_of_le_of_lt (Nat.zero_le _) tooMany)
          obtain ⟨evicted, stored, -⟩ := findVictim_minimal found
          have member : victim ∈ sessions := AList.lookup_isSome.mp (by rw [stored]; rfl)
          have smaller := UnorderedMap.size_erase_add_one member
          simp only [found]
          apply inductionHypothesis
          omega
      · next fits => exact Nat.not_lt.mp fits

/-- The session that a store evicts, if there is one. -/
def evictedBy
    (order : IterationOrder String SessionPrincipal)
    (sid : String)
    (principal : Principal)
    (nowS : Int)
    (sessions : UnorderedMap String SessionPrincipal) : Option String :=
  let stored := sessions.insert sid { principal, updatedAtS := nowS }
  if UnorderedMap.size stored > maxSessionPrincipals then findVictim order stored
  else none

variable {principal : Principal} {nowS : Int} {sid : String}

/-- A store into a map that fits its capacity inserts the session and then evicts at
most one. -/
theorem storeSessionPrincipal_eq
    (fits : UnorderedMap.size sessions ≤ maxSessionPrincipals) :
    storeSessionPrincipal order sid principal nowS sessions =
      match evictedBy order sid principal nowS sessions with
      | none => sessions.insert sid { principal, updatedAtS := nowS }
      | some victim =>
          (sessions.insert sid { principal, updatedAtS := nowS }).erase victim := by
  have grows := UnorderedMap.size_insert_le sessions sid
    { principal, updatedAtS := nowS }
  unfold storeSessionPrincipal evictedBy
  dsimp only
  split_ifs with tooMany
  · obtain ⟨victim, found⟩ := findVictim_isSome order
      (Nat.lt_of_le_of_lt (Nat.zero_le _) tooMany)
    obtain ⟨evicted, stored, -⟩ := findVictim_minimal found
    have member := AList.lookup_isSome.mp (Option.isSome_of_eq_some stored)
    have smaller := UnorderedMap.size_erase_add_one member
    obtain ⟨rounds, rounds_eq⟩ := Nat.exists_eq_add_one.mpr
      (Nat.lt_of_le_of_lt (Nat.zero_le _) tooMany)
    rw [rounds_eq, evictVictims, if_pos tooMany]
    simp only [found]
    apply evictVictims_of_size_le
    omega
  · exact evictVictims_of_size_le _ (Nat.not_lt.mp tooMany)

/-- What a store leaves of a session. -/
theorem lookup_storeSessionPrincipal
    (fits : UnorderedMap.size sessions ≤ maxSessionPrincipals)
    (other : String) :
    (storeSessionPrincipal order sid principal nowS sessions).lookup other =
      if evictedBy order sid principal nowS sessions = some other then none
      else if other = sid then some { principal, updatedAtS := nowS }
      else sessions.lookup other := by
  rw [storeSessionPrincipal_eq fits]
  cases evictedBy order sid principal nowS sessions with
  | none =>
      rw [if_neg (by simp)]
      exact UnorderedMap.lookup_insert_eq_ite sid other _ sessions
  | some victim =>
      dsimp only
      rw [UnorderedMap.lookup_erase_eq_ite, UnorderedMap.lookup_insert_eq_ite]
      simp only [Option.some.injEq, eq_comm]

theorem size_storeSessionPrincipal_le :
    UnorderedMap.size (storeSessionPrincipal order sid principal nowS sessions) ≤
      maxSessionPrincipals :=
  size_evictVictims_le (le_refl _)

end Session
end QuackOauth
