import QuackOauth.Lib.Checked
import QuackOauth.Opaque.Validators
import QuackOauth.Session.Store

/-!
# Expiry in 64-bit arithmetic

The expiry of a token is a 64-bit number that the identity provider chooses, and the
checks add or subtract the clock, the leeway or the lifetime of a cached decision.  Here
they are with the arithmetic of the machine, in which a sum that overflows has no value,
and compared with the same checks on integers.
-/

namespace QuackOauth
namespace Opaque

open Lib Checked Policy
open Session (isPrincipalExpired)

/-! ## The checks on the machine -/

/-- Whether a tokeninfo response is past its expiry and the leeway. -/
def tokeninfoExpired (exp nowS skewS : Int) : Bool :=
  decide (exp > 0 ∧ nowS > exp + skewS)

/-- The same in 64 bits; the sum is formed only if the expiry is known. -/
def tokeninfoExpiredInt64 (exp nowS skewS : Int) : Option Bool :=
  if exp > 0 then (add 64 exp skewS).map fun limit => decide (nowS > limit)
  else some false

/-- Whether a principal is past its expiry and the leeway, in 64 bits. -/
def isPrincipalExpiredInt64 (p : Principal) (nowS skewS : Int) : Option Bool :=
  if p.exp ≤ 0 then some false
  else (add 64 p.exp skewS).map fun limit => decide (nowS > limit)

namespace DecisionCache

/-- Enter a decision that holds until the given time. -/
def storeUntil
    (key : String)
    (principal : Principal)
    (expiresAtS : Int)
    (cache : DecisionCache) : DecisionCache :=
  match cache.index.lookup key with
  | some it => { cache with
      entries := (cache.entries.modify it fun entry =>
        { entry with principal, expiresAtS }).splice it }
  | none =>
      let entries := cache.entries.pushFront { key, principal, expiresAtS }
      evict entries.nodes.length { cache with
        entries
        index := cache.index.insert key entries.begin }

/-- For how long a decision may be kept, in 64 bits. -/
def ttlForInt64 (principal : Principal) (nowS : Int) (cache : DecisionCache) :
    Option Int :=
  if principal.exp > 0 then
    (sub 64 principal.exp nowS).map fun remaining => min cache.defaultTtlS remaining
  else some cache.defaultTtlS

/-- Cache a decision, in 64 bits.  Looking one up compares times only. -/
def storeInt64
    (key : String)
    (principal : Principal)
    (nowS : Int)
    (cache : DecisionCache) : Option DecisionCache :=
  (ttlForInt64 principal nowS cache).bind fun ttl =>
    if ttl ≤ 0 then some cache
    else (add 64 nowS ttl).map fun expiresAtS => cache.storeUntil key principal expiresAtS

end DecisionCache

/-! ## Agreement with the integers -/

/-- The expiry arithmetic is safe for an expiry, a clock, a leeway and a cache: nothing
overflows, every decision is that of the integers, and whatever is unexpired with an
earlier expiry is unexpired with this one. -/
structure ExpirySafe (exp nowS skewS : Int) (cache : DecisionCache) : Prop where
  tokeninfo :
    tokeninfoExpiredInt64 exp nowS skewS = some (tokeninfoExpired exp nowS skewS)
  session : ∀ p : Principal, p.exp = exp →
    isPrincipalExpiredInt64 p nowS skewS = some (isPrincipalExpired p nowS skewS)
  store : ∀ key (p : Principal), p.exp = exp →
    cache.storeInt64 key p nowS = some (cache.store key p nowS)
  lookup : ∀ key (p : Principal) laterS, p.exp = exp →
    ((cache.storeInt64 key p nowS).map fun after => (after.lookup key laterS).1) =
      some ((cache.store key p nowS).lookup key laterS).1
  tokeninfo_mono : ∀ earlier, 0 < earlier → earlier ≤ exp →
    tokeninfoExpiredInt64 earlier nowS skewS = some false →
      tokeninfoExpiredInt64 exp nowS skewS = some false
  session_mono : ∀ p q : Principal, 0 < q.exp → q.exp ≤ p.exp → p.exp = exp →
    isPrincipalExpiredInt64 q nowS skewS = some false →
      isPrincipalExpiredInt64 p nowS skewS = some false

variable {exp nowS skewS : Int} {cache : DecisionCache} {key : String} {p : Principal}

/-- The judge of a tokeninfo response refuses as expired what the check does. -/
theorem tokeninfoExpired_of_judgeTokeninfo
    {ctx : TokeninfoContext}
    {opts : Jwt.VerifyOptions}
    {resp : TokeninfoResponse}
    (refused : judgeTokeninfo ctx opts (some resp) = .error .expired) :
    tokeninfoExpired resp.exp opts.nowS opts.clockSkewS = true := by
  unfold judgeTokeninfo at refused
  dsimp only at refused
  split_ifs at refused with inactive wrongAudience expired
  · cases refused
  · cases refused
  · exact decide_eq_true expired

/-- Both checks of an expiry are one. -/
theorem isPrincipalExpiredInt64_eq :
    isPrincipalExpiredInt64 p nowS skewS = tokeninfoExpiredInt64 p.exp nowS skewS := by
  unfold isPrincipalExpiredInt64 tokeninfoExpiredInt64
  by_cases known : p.exp > 0
  · rw [if_pos known, if_neg (by omega)]
  · rw [if_neg known, if_pos (by omega)]

theorem isPrincipalExpired_eq :
    isPrincipalExpired p nowS skewS = tokeninfoExpired p.exp nowS skewS := by
  unfold isPrincipalExpired tokeninfoExpired
  by_cases known : p.exp > 0
  · rw [if_neg (by omega)]
    simp [known]
  · rw [if_pos (by omega)]
    simp [known]

/-- The check has a value exactly if its sum does not overflow, and then the right one. -/
theorem tokeninfoExpiredInt64_eq_some_iff :
    tokeninfoExpiredInt64 exp nowS skewS = some (tokeninfoExpired exp nowS skewS) ↔
      (0 < exp → InRange 64 (exp + skewS)) := by
  unfold tokeninfoExpiredInt64 tokeninfoExpired
  by_cases known : 0 < exp
  · have sumDecides : (add 64 exp skewS).map (fun limit => decide (nowS > limit)) =
        some (decide (nowS > exp + skewS)) ↔ InRange 64 (exp + skewS) :=
      map_add_eq_some_iff fun limit => decide (nowS > limit)
    rw [if_pos known, forall_prop_of_true known, ← sumDecides]
    simp [known]
  · rw [if_neg known]
    simp [known]

theorem tokeninfoExpired_mono
    {earlier : Int}
    (positive : 0 < earlier)
    (later : earlier ≤ exp)
    (unexpired : tokeninfoExpired earlier nowS skewS = false) :
    tokeninfoExpired exp nowS skewS = false := by
  unfold tokeninfoExpired at unexpired ⊢
  rw [decide_eq_false_iff_not] at unexpired ⊢
  omega

/-- A later expiry whose sum does not overflow is unexpired if an earlier one is. -/
theorem tokeninfoExpiredInt64_mono
    {earlier : Int}
    (inRange : 0 < exp → InRange 64 (exp + skewS))
    (skew_nonneg : 0 ≤ skewS)
    (positive : 0 < earlier)
    (later : earlier ≤ exp)
    (unexpired : tokeninfoExpiredInt64 earlier nowS skewS = some false) :
    tokeninfoExpiredInt64 exp nowS skewS = some false := by
  have earlierInRange : 0 < earlier → InRange 64 (earlier + skewS) := by
    intro _
    have bounds := inRange (by omega)
    rw [inRange_64_iff] at bounds ⊢
    omega
  rw [tokeninfoExpiredInt64_eq_some_iff.mpr earlierInRange] at unexpired
  rw [tokeninfoExpiredInt64_eq_some_iff.mpr inRange,
    tokeninfoExpired_mono positive later (Option.some.inj unexpired)]

/-! ## The cache -/

namespace DecisionCache

theorem store_eq_storeUntil :
    store key p nowS cache =
      if ttlFor p nowS cache ≤ 0 then cache
      else cache.storeUntil key p (nowS + ttlFor p nowS cache) := rfl

/-- The time left does not overflow. -/
theorem ttlForInt64_eq
    (expInRange : InRange 64 p.exp)
    (nowInRange : InRange 64 nowS)
    (now_nonneg : 0 ≤ nowS) :
    ttlForInt64 p nowS cache = some (ttlFor p nowS cache) := by
  unfold ttlForInt64 ttlFor
  by_cases known : p.exp > 0
  · rw [if_pos known, if_pos known,
      sub_of_inRange (inRange_sub_of_nonneg expInRange nowInRange (by omega) now_nonneg),
      Option.map_some]
  · rw [if_neg known, if_neg known]

/-- A decision is entered exactly if the time until which it holds does not overflow. -/
theorem storeInt64_eq_some_iff
    (expInRange : InRange 64 p.exp)
    (nowInRange : InRange 64 nowS)
    (now_nonneg : 0 ≤ nowS) :
    cache.storeInt64 key p nowS = some (cache.store key p nowS) ↔
      (0 < ttlFor p nowS cache → InRange 64 (nowS + ttlFor p nowS cache)) := by
  unfold storeInt64
  rw [ttlForInt64_eq expInRange nowInRange now_nonneg, Option.bind_some,
    store_eq_storeUntil]
  by_cases expired : ttlFor p nowS cache ≤ 0
  · rw [if_pos expired, if_pos expired]
    simp [expired]
  · have unexpired := Int.not_le.mp expired
    rw [if_neg expired, if_neg expired, forall_prop_of_true unexpired]
    exact map_add_eq_some_iff fun expiresAtS => cache.storeUntil key p expiresAtS

/-- With a known expiry the decision holds no longer than that. -/
theorem inRange_expiresAt_iff
    (expInRange : InRange 64 p.exp)
    (nowInRange : InRange 64 nowS)
    (now_nonneg : 0 ≤ nowS) :
    (0 < ttlFor p nowS cache → InRange 64 (nowS + ttlFor p nowS cache)) ↔
      (p.exp ≤ 0 → 0 < cache.defaultTtlS →
        nowS + cache.defaultTtlS ≤ 9223372036854775807) := by
  rw [inRange_64_iff] at expInRange nowInRange ⊢
  unfold ttlFor
  by_cases known : p.exp > 0
  · rw [if_pos known]
    omega
  · rw [if_neg known]
    omega

end DecisionCache

/-! ## When the arithmetic is safe -/

/-- The expiry arithmetic is safe exactly if a known expiry is far enough below the limit
for the leeway, and without one the clock for the lifetime of a decision. -/
theorem expirySafe_iff
    (exp nowS skewS : Int)
    (cache : DecisionCache)
    (expInRange : InRange 64 exp)
    (nowInRange : InRange 64 nowS)
    (now_nonneg : 0 ≤ nowS)
    (skewWithin : 0 ≤ skewS ∧ skewS ≤ 3600) :
    ExpirySafe exp nowS skewS cache ↔
      (0 < exp → exp + skewS ≤ 9223372036854775807) ∧
        (exp ≤ 0 → 0 < cache.defaultTtlS →
          nowS + cache.defaultTtlS ≤ 9223372036854775807) := by
  obtain ⟨skew_nonneg, -⟩ := skewWithin
  have leeway_iff : (0 < exp → InRange 64 (exp + skewS)) ↔
      (0 < exp → exp + skewS ≤ 9223372036854775807) := by
    rw [inRange_64_iff]
    omega
  have lifetime_iff : ∀ key (p : Principal), p.exp = exp →
      (cache.storeInt64 key p nowS = some (cache.store key p nowS) ↔
        (exp ≤ 0 → 0 < cache.defaultTtlS →
          nowS + cache.defaultTtlS ≤ 9223372036854775807)) := by
    rintro key p rfl
    rw [DecisionCache.storeInt64_eq_some_iff expInRange nowInRange now_nonneg,
      DecisionCache.inRange_expiresAt_iff expInRange nowInRange now_nonneg]
  rw [← leeway_iff]
  constructor
  · intro safe
    refine ⟨tokeninfoExpiredInt64_eq_some_iff.mp safe.tokeninfo, ?_⟩
    exact (lifetime_iff "" { exp := exp } rfl).mp (safe.store "" { exp := exp } rfl)
  · rintro ⟨leeway, lifetime⟩
    have stores : ∀ key (p : Principal), p.exp = exp →
        cache.storeInt64 key p nowS = some (cache.store key p nowS) :=
      fun key p isExp => (lifetime_iff key p isExp).mpr lifetime
    have tokeninfo : tokeninfoExpiredInt64 exp nowS skewS =
        some (tokeninfoExpired exp nowS skewS) :=
      tokeninfoExpiredInt64_eq_some_iff.mpr leeway
    refine ⟨tokeninfo, ?_, stores, ?_, ?_, ?_⟩
    · rintro p rfl
      rw [isPrincipalExpiredInt64_eq, isPrincipalExpired_eq, tokeninfo]
    · intro key p laterS isExp
      rw [stores key p isExp, Option.map_some]
    · intro earlier
      exact tokeninfoExpiredInt64_mono leeway skew_nonneg
    · rintro p q positive later rfl unexpired
      rw [isPrincipalExpiredInt64_eq] at unexpired ⊢
      exact tokeninfoExpiredInt64_mono leeway skew_nonneg positive later unexpired

/-- A provider can send the largest of all expiries, as a string, and the leeway
overflows. -/
theorem largest_exp_not_safe :
    Json.asIntFlexible [("exp", .string "9223372036854775807")] "exp" =
        9223372036854775807 ∧
      ¬ ExpirySafe (Json.asIntFlexible [("exp", .string "9223372036854775807")] "exp")
        1700000000 60 (DecisionCache.create 1000 30) := by
  have parsed : Json.asIntFlexible [("exp", .string "9223372036854775807")] "exp" =
      9223372036854775807 := by decide
  refine ⟨parsed, fun safe => ?_⟩
  rw [parsed] at safe
  have overflows : tokeninfoExpiredInt64 9223372036854775807 1700000000 60 = none := by
    decide
  have defined := safe.tokeninfo
  rw [overflows] at defined
  cases defined

/-- An hour from now is safe. -/
theorem expirySafe_nextHour :
    ExpirySafe 1700003600 1700000000 60 (DecisionCache.create 1000 30) ↔
      ((0 : Int) < 1700003600 → (1700003600 : Int) + 60 ≤ 9223372036854775807) ∧
        ((1700003600 : Int) ≤ 0 → 0 < (DecisionCache.create 1000 30).defaultTtlS →
          1700000000 + (DecisionCache.create 1000 30).defaultTtlS ≤ 9223372036854775807) :=
  expirySafe_iff 1700003600 1700000000 60 (DecisionCache.create 1000 30) (by decide)
    (by decide) (by decide) (by decide)

end Opaque
end QuackOauth
