import QuackOauth.Opaque.DecisionRefinement
import QuackOauth.Opaque.Expiry

/-!
# The decision cache in 64-bit arithmetic

A store subtracts the time from the expiry of the token, or adds the lifetime of a
decision to the time.  A run of the cache therefore goes on only while no store
overflows, and while it goes on it is the run on integers: a timed LRU map.
-/

namespace QuackOauth
namespace Opaque

open Lib Checked Policy

namespace DecisionCall

/-- The times and expiries of a call are 64-bit numbers. -/
def IsInt64 : DecisionCall → Prop
  | .lookup _ nowS => InRange 64 nowS
  | .store _ principal nowS => InRange 64 principal.exp ∧ InRange 64 nowS

/-- The time left until a known expiry, and without one the time at which the lifetime of
a decision ends, stay below the limit. -/
def Fits (defaultTtlS : Int) : DecisionCall → Prop
  | .lookup _ _ => True
  | .store _ principal nowS =>
      (0 < principal.exp → principal.exp - nowS ≤ 9223372036854775807) ∧
        (principal.exp ≤ 0 → 0 < defaultTtlS → nowS + defaultTtlS ≤ 9223372036854775807)

instance : ∀ call, Decidable (IsInt64 call)
  | .lookup _ _ => inferInstanceAs (Decidable (InRange 64 _))
  | .store _ _ _ => inferInstanceAs (Decidable (_ ∧ _))

instance {defaultTtlS : Int} : ∀ call, Decidable (Fits defaultTtlS call)
  | .lookup _ _ => inferInstanceAs (Decidable True)
  | .store _ _ _ => inferInstanceAs (Decidable (_ ∧ _))

end DecisionCall

namespace DecisionCache

/-- Carry out a call in 64 bits. -/
def applyInt64 (cache : DecisionCache) : DecisionCall → Option DecisionCache
  | .lookup key nowS => some (lookup key nowS cache).2
  | .store key principal nowS => storeInt64 key principal nowS cache

/-- After an overflow nothing is defined. -/
def stepInt64 (cache : Option DecisionCache) (call : DecisionCall) : Option DecisionCache :=
  cache.bind fun cache => cache.applyInt64 call

/-- The key that a call hits or stores. -/
def usedKeyInt64 (cache : Option DecisionCache) (call : DecisionCall) : Option String :=
  cache.bind fun cache => cache.usedKey call

/-- After the calls the cache is a timed LRU map: its index and its list are in bijection
and within the capacity; a lookup returns only the decision kept last for its key, before
it expires; and it does return it when each lookup since came before it expired and fewer
other keys than the capacity were used since its last use. -/
structure IsTimedLru
    (maxEntries : Nat)
    (defaultTtlS : Int)
    (calls : List DecisionCall)
    (cache : DecisionCache) : Prop where
  linked : Linked cache
  maxEntries_eq : cache.maxEntries = max maxEntries 1
  kept : ∀ key nowS principal, (lookup key nowS cache).1 = some principal →
    Machine.Since stepInt64
      (fun _ call => ∃ storedS,
        DecisionCall.Stores defaultTtlS key principal storedS call ∧
          Unexpired defaultTtlS principal storedS nowS)
      (fun _ call => DecisionCall.Spares defaultTtlS key call)
      (some (create maxEntries defaultTtlS)) calls
  found : ∀ key principal storedS nowS,
    Machine.Since stepInt64
      (fun _ call => DecisionCall.Stores defaultTtlS key principal storedS call)
      (fun _ call => DecisionCall.Spares defaultTtlS key call ∧
        DecisionCall.InTime defaultTtlS key principal storedS call)
      (some (create maxEntries defaultTtlS)) calls →
    (TimedLru.othersSince key (Machine.observations stepInt64 usedKeyInt64
      (some (create maxEntries defaultTtlS)) calls)).card < max maxEntries 1 →
    Unexpired defaultTtlS principal storedS nowS →
    (lookup key nowS cache).1 = some principal

variable {cache : DecisionCache} {call : DecisionCall} {calls : List DecisionCall}
variable {key : String} {principal : Principal} {nowS : Int}

/-! ## One call -/

/-- A store that does not overflow is that of the integers. -/
theorem storeInt64_of_fits
    (expInRange : InRange 64 principal.exp)
    (nowInRange : InRange 64 nowS)
    (fits : DecisionCall.Fits cache.defaultTtlS (.store key principal nowS)) :
    storeInt64 key principal nowS cache = some (store key principal nowS cache) := by
  obtain ⟨remaining_le, end_le⟩ := fits
  rw [inRange_64_iff] at expInRange nowInRange
  have ttl_eq : ttlForInt64 principal nowS cache = some (ttlFor principal nowS cache) := by
    unfold ttlForInt64 ttlFor
    by_cases known : principal.exp > 0
    · have remainingInRange : InRange 64 (principal.exp - nowS) := by
        rw [inRange_64_iff]
        have := remaining_le known
        omega
      rw [if_pos known, if_pos known, sub_of_inRange remainingInRange, Option.map_some]
    · rw [if_neg known, if_neg known]
  rw [storeInt64, ttl_eq, Option.bind_some, store_eq_storeUntil]
  by_cases expired : ttlFor principal nowS cache ≤ 0
  · rw [if_pos expired, if_pos expired]
  · have endInRange : InRange 64 (nowS + ttlFor principal nowS cache) := by
      unfold ttlFor at expired ⊢
      rw [inRange_64_iff]
      split at expired <;> split <;> omega
    rw [if_neg expired, if_neg expired, add_of_inRange endInRange, Option.map_some]

/-- A store that has a value did not overflow. -/
theorem fits_of_storeInt64
    {after : DecisionCache}
    (defined : storeInt64 key principal nowS cache = some after) :
    DecisionCall.Fits cache.defaultTtlS (.store key principal nowS) := by
  obtain ⟨ttl, isTtl, entered⟩ := Option.bind_eq_some_iff.mp defined
  unfold ttlForInt64 at isTtl
  constructor
  · intro known
    rw [if_pos known] at isTtl
    obtain ⟨remaining, isRemaining, -⟩ := Option.map_eq_some_iff.mp isTtl
    have inRange := inRange_of_sub_isSome (Option.isSome_of_eq_some isRemaining)
    rw [inRange_64_iff] at inRange
    exact inRange.2
  · intro unknown positive
    rw [if_neg (Int.not_lt.mpr unknown)] at isTtl
    cases isTtl
    rw [if_neg (Int.not_le.mpr positive)] at entered
    obtain ⟨expiresAtS, isEnd, -⟩ := Option.map_eq_some_iff.mp entered
    have inRange := inRange_of_add_isSome (Option.isSome_of_eq_some isEnd)
    rw [inRange_64_iff] at inRange
    exact inRange.2

theorem applyInt64_of_fits
    (isInt64 : call.IsInt64)
    (fits : call.Fits cache.defaultTtlS) :
    cache.applyInt64 call = some (cache.apply call) := by
  cases call with
  | lookup key nowS => rfl
  | store key principal nowS => exact storeInt64_of_fits isInt64.1 isInt64.2 fits

theorem fits_of_applyInt64
    {after : DecisionCache}
    (defined : cache.applyInt64 call = some after) :
    call.Fits cache.defaultTtlS := by
  cases call with
  | lookup key nowS => trivial
  | store key principal nowS => exact fits_of_storeInt64 defined

@[simp] theorem defaultTtlS_apply : (cache.apply call).defaultTtlS = cache.defaultTtlS := by
  cases call with
  | lookup key nowS => exact defaultTtlS_lookup
  | store key principal nowS => exact defaultTtlS_store

/-! ## Runs -/

/-- While no store overflows, the run is that of the integers. -/
theorem run_stepInt64
    (isInt64 : ∀ call ∈ calls, call.IsInt64)
    (fits : ∀ call ∈ calls, call.Fits cache.defaultTtlS) :
    Machine.run stepInt64 (some cache) calls = some (Machine.run apply cache calls) ∧
      Machine.observations stepInt64 usedKeyInt64 (some cache) calls =
        Machine.observations apply usedKey cache calls := by
  induction calls generalizing cache with
  | nil => exact ⟨rfl, rfl⟩
  | cons call calls inductionHypothesis =>
      obtain ⟨callIsInt64, callsAreInt64⟩ := List.forall_mem_cons.mp isInt64
      obtain ⟨callFits, callsFit⟩ := List.forall_mem_cons.mp fits
      have stepped : stepInt64 (some cache) call = some (cache.apply call) :=
        applyInt64_of_fits callIsInt64 callFits
      obtain ⟨run_eq, observations_eq⟩ :=
        @inductionHypothesis (cache.apply call) callsAreInt64
          (by rwa [defaultTtlS_apply])
      refine ⟨?_, ?_⟩
      · rw [Machine.run_cons, Machine.run_cons, stepped, run_eq]
      · rw [Machine.observations, Machine.observations, stepped, observations_eq]
        rfl

/-- After an overflow a run has no state. -/
theorem run_stepInt64_none : Machine.run stepInt64 none calls = none := by
  induction calls with
  | nil => rfl
  | cons call calls inductionHypothesis => exact inductionHypothesis

/-- In a run that has a state at its end no store overflowed. -/
theorem fits_of_run_stepInt64
    {after : DecisionCache}
    (isInt64 : ∀ call ∈ calls, call.IsInt64)
    (defined : Machine.run stepInt64 (some cache) calls = some after) :
    ∀ call ∈ calls, call.Fits cache.defaultTtlS := by
  induction calls generalizing cache with
  | nil => exact fun call member => absurd member List.not_mem_nil
  | cons call calls inductionHypothesis =>
      obtain ⟨callIsInt64, callsAreInt64⟩ := List.forall_mem_cons.mp isInt64
      rw [Machine.run_cons] at defined
      cases stepped : stepInt64 (some cache) call with
      | none =>
          rw [stepped, run_stepInt64_none] at defined
          cases defined
      | some next =>
          have callFits : call.Fits cache.defaultTtlS :=
            fits_of_applyInt64 stepped
          have next_eq : stepInt64 (some cache) call = some (cache.apply call) :=
            applyInt64_of_fits callIsInt64 callFits
          rw [next_eq] at defined
          have callsFit := inductionHypothesis callsAreInt64 defined
          rw [defaultTtlS_apply] at callsFit
          exact List.forall_mem_cons.mpr ⟨callFits, callsFit⟩

/-- What a run was like since a call depends on the calls alone. -/
theorem since_stepInt64_iff
    {event kept : DecisionCall → Prop}
    {start : Option DecisionCache} :
    Machine.Since stepInt64 (fun _ => event) (fun _ => kept) start calls ↔
      Machine.Since apply (fun _ => event) (fun _ => kept) cache calls := by
  have relabelled : Machine.Since stepInt64 (fun _ => event) (fun _ => kept) start calls ↔
      Machine.Since apply (fun _ => event) (fun _ => kept) cache (calls.map id) :=
    Machine.since_relabel stepInt64 id (fun call => Iff.refl (event call))
      fun call => Iff.refl (kept call)
  rwa [List.map_id] at relabelled

/-- Over a sequence of calls at any 64-bit times the cache is a timed LRU map exactly if
no store overflows. -/
theorem run_isTimedLru_iff
    (maxEntries : Nat)
    (defaultTtlS : Int)
    (calls : List DecisionCall)
    (isInt64 : ∀ call ∈ calls, call.IsInt64) :
    (∃ cache, Machine.run stepInt64 (some (create maxEntries defaultTtlS)) calls = some cache ∧
        IsTimedLru maxEntries defaultTtlS calls cache) ↔
      ∀ call ∈ calls, call.Fits defaultTtlS := by
  constructor
  · rintro ⟨cache, defined, -⟩
    exact fits_of_run_stepInt64 isInt64 defined
  · intro fits
    obtain ⟨run_eq, observations_eq⟩ :=
      @run_stepInt64 (create maxEntries defaultTtlS) _ isInt64 fits
    obtain ⟨⟨linked, maxEntries_eq⟩, kept, found⟩ :=
      run_isTimedLru maxEntries defaultTtlS calls
    refine ⟨_, run_eq, linked, maxEntries_eq, ?_, ?_⟩
    · intro key nowS principal hit
      exact since_stepInt64_iff.mpr (kept key nowS principal hit)
    · intro key principal storedS nowS since few fresh
      rw [observations_eq] at few
      exact found key principal storedS nowS (since_stepInt64_iff.mp since) few fresh

/-- Eleven seconds before the end of time the lifetime of a decision without an expiry
overflows, and the run has no state. -/
theorem lifetime_overflows :
    (∀ call ∈ [DecisionCall.store "a" (samplePrincipal 0) 9223372036854775797],
        call.IsInt64) ∧
      ¬∃ cache, Machine.run stepInt64 (some (create 2 60))
            [.store "a" (samplePrincipal 0) 9223372036854775797] = some cache ∧
          IsTimedLru 2 60 [.store "a" (samplePrincipal 0) 9223372036854775797] cache := by
  refine ⟨by decide, ?_⟩
  rintro ⟨cache, defined, -⟩
  have overflows : Machine.run stepInt64 (some (create 2 60))
      [.store "a" (samplePrincipal 0) 9223372036854775797] = none := rfl
  rw [overflows] at defined
  cases defined

/-- The decision kept first is found again after all calls. -/
theorem run_isTimedLru_iff_sample :
    ∃ cache, Machine.run stepInt64 (some (create 2 60)) sampleCalls = some cache ∧
      IsTimedLru 2 60 sampleCalls cache :=
  (run_isTimedLru_iff 2 60 sampleCalls (by decide)).mpr (by decide)

end DecisionCache
end Opaque
end QuackOauth
