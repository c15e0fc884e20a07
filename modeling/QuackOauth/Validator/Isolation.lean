import QuackOauth.Jwks.Reservation
import QuackOauth.Validator.Operations

/-!
# Issuers that share the cache

Whatever is done for one issuer, what is cached of another issuer's kids, what is
missed of them and how fresh its document is stay the same, up to the limit on the
number of entries and of misses that all issuers share: a kid can lose its place to
a kid of another issuer, and it can lose nothing else.
-/

namespace QuackOauth
namespace Validator

open Lib Jwks Jwt

/-! ## One operation -/

variable {jwksUri other kid : String} {cache : JwksCache} {operation : Operation}

theorem cacheKey_ne
    {otherKid : String}
    (isOther : other ≠ jwksUri)
    (printable : '\n' ∉ kid.toList)
    (printableOther : '\n' ∉ otherKid.toList) :
    cacheKey other kid ≠ cacheKey jwksUri otherKid :=
  fun same => isOther (cacheKey_inj printable printableOther same).1

/-- Two issuers whose URIs hold no newline. -/
structure Tenants (jwksUri other : String) : Prop where
  isOther : other ≠ jwksUri
  printableUri : '\n' ∉ jwksUri.toList
  printableOther : '\n' ∉ other.toList

/-- An operation for one issuer stores nothing under the keys of another. -/
theorem Tenants.key_ne
    (tenants : Tenants jwksUri other)
    (issued : IssuedFor jwksUri operation)
    (printable : '\n' ∉ kid.toList)
    (issuer otherKid : String)
    (hasIssuer : operation.jwksUri? = some issuer)
    (hasKid : operation.kid? = some otherKid) :
    cacheKey other kid ≠ cacheKey issuer otherKid := by
  rw [issued.issuer issuer hasIssuer]
  exact cacheKey_ne tenants.isOther printable (issued.printable otherKid hasKid)

/-- An operation for one issuer leaves the entries of another alone, room permitting. -/
theorem entryAfter_otherIssuer
    (tenants : Tenants jwksUri other)
    (issued : IssuedFor jwksUri operation)
    (printable : '\n' ∉ kid.toList)
    (cache : JwksCache)
    (stored : Option Entry) :
    cache.entryAfter (cacheKey other kid) stored operation = stored := by
  have isOtherKey := tenants.key_ne issued printable
  cases operation with
  | tryReserveRefresh kid nowS jwksUri =>
      rw [JwksCache.entryAfter, if_neg (isOtherKey _ _ rfl rfl)]
  | commitRefresh kid reservationId keys nowS jwksUri =>
      rw [JwksCache.entryAfter, if_neg (isOtherKey _ _ rfl rfl)]
  | recordKidAbsent kid reservationId nowS jwksUri =>
      rw [JwksCache.entryAfter, if_neg (isOtherKey _ _ rfl rfl)]
  | reconcileAbsentKids presentKids issuer excludeKid =>
      have isIssuer := issued.issuer issuer rfl
      subst isIssuer
      have unread : JwksCache.kidPresence presentKids issuer excludeKid
          (cacheKey other kid) = none := by
        rw [JwksCache.kidPresence, JwksCache.kidOfCacheKey_eq_none tenants.isOther
          tenants.printableUri tenants.printableOther printable]
      rw [JwksCache.entryAfter, unread]
      cases stored <;> rfl
  | onFetchSuccess kid keys nowS jwksUri =>
      rw [JwksCache.entryAfter, if_neg fun isKey => isOtherKey _ _ rfl rfl isKey.1]
  | onPassiveFetchSuccess kid keys nowS jwksUri =>
      rw [JwksCache.entryAfter, if_neg fun isKey => isOtherKey _ _ rfl rfl isKey.1]
  | _ => rfl

/-- Neither does it touch the misses of another. -/
theorem missAfter_otherIssuer
    (tenants : Tenants jwksUri other)
    (issued : IssuedFor jwksUri operation)
    (printable : '\n' ∉ kid.toList)
    (cache : JwksCache)
    (stored : Option MissEntry) :
    cache.missAfter (cacheKey other kid) stored operation = stored := by
  have isOtherKey := tenants.key_ne issued printable
  cases operation with
  | onFetchSuccess kid keys nowS jwksUri =>
      rw [JwksCache.missAfter, if_neg fun isKey => isOtherKey _ _ rfl rfl isKey.1]
  | onPassiveFetchSuccess kid keys nowS jwksUri =>
      rw [JwksCache.missAfter, if_neg fun isKey => isOtherKey _ _ rfl rfl isKey.1]
  | onFetchMiss kid nowS jwksUri =>
      rw [JwksCache.missAfter, if_neg (isOtherKey _ _ rfl rfl)]
  | _ => rfl

/-- The times at which documents were last read. -/
def documentStamps (cache : JwksCache) : UnorderedMap String Int × Int :=
  (cache.lastSuccessfulFetchByUri, cache.lastSuccessfulFetchS)

theorem documentStamps_dropMiss (key : String) (cache : JwksCache) :
    documentStamps (cache.dropMiss key) = documentStamps cache := by
  unfold JwksCache.dropMiss
  split <;> rfl

theorem documentStamps_onFetchSuccess
    (kid : String)
    (keys : List Jwk)
    (nowS : Int)
    (jwksUri : String)
    (cache : JwksCache) :
    documentStamps (cache.onFetchSuccess kid keys nowS jwksUri) = documentStamps cache ∨
      documentStamps (cache.onFetchSuccess kid keys nowS jwksUri) =
        documentStamps (cache.recordJwksFetchSuccess nowS jwksUri) := by
  unfold JwksCache.onFetchSuccess
  split
  · exact .inl rfl
  · dsimp only
    split
    · exact .inr (documentStamps_dropMiss _ _)
    · exact .inr (documentStamps_dropMiss _ _)

/-- An operation records at most that a document of its own issuer was read. -/
theorem documentStamps_apply (operation : Operation) (cache : JwksCache) :
    documentStamps (cache.apply operation) = documentStamps cache ∨
      ∃ nowS jwksUri, operation.jwksUri? = some jwksUri ∧
        documentStamps (cache.apply operation) =
          documentStamps (cache.recordJwksFetchSuccess nowS jwksUri) := by
  cases operation with
  | tryReserveRefresh kid nowS jwksUri =>
      left
      simp only [JwksCache.apply, JwksCache.tryReserveRefresh]
      repeat' split
      all_goals rfl
  | commitRefresh kid reservationId keys nowS jwksUri =>
      left
      simp only [JwksCache.apply, JwksCache.commitRefresh]
      repeat' split
      all_goals rfl
  | recordKidAbsent kid reservationId nowS jwksUri =>
      left
      simp only [JwksCache.apply, JwksCache.recordKidAbsent]
      repeat' split
      all_goals rfl
  | recordJwksFetch nowS =>
      left
      simp only [JwksCache.apply, JwksCache.recordJwksFetch]
      split <;> rfl
  | recordJwksFetchSuccess nowS jwksUri => exact .inr ⟨nowS, jwksUri, rfl, rfl⟩
  | onFetchMiss kid nowS jwksUri =>
      exact .inl (documentStamps_dropMiss (cacheKey jwksUri kid) cache)
  | onFetchSuccess kid keys nowS jwksUri =>
      exact (documentStamps_onFetchSuccess kid keys nowS jwksUri cache).imp_right
        fun stamps => ⟨nowS, jwksUri, rfl, stamps⟩
  | onPassiveFetchSuccess kid keys nowS jwksUri =>
      simp only [JwksCache.apply, JwksCache.onPassiveFetchSuccess]
      split
      · exact .inl rfl
      · split
        · exact .inl rfl
        · exact (documentStamps_onFetchSuccess kid keys nowS jwksUri cache).imp_right
            fun stamps => ⟨nowS, jwksUri, rfl, stamps⟩
  | _ => exact .inl rfl

/-- How fresh the document of an issuer is follows from the stamps. -/
theorem hasFreshJwksDocument_congr
    {after : JwksCache}
    (stamps : documentStamps after = documentStamps cache) :
    after.hasFreshJwksDocument = cache.hasFreshJwksDocument := by
  simp only [documentStamps, Prod.mk.injEq] at stamps
  funext nowS windowS jwksUri
  simp only [JwksCache.hasFreshJwksDocument, stamps.1, stamps.2]

/-- An operation for one issuer does not freshen the document of another. -/
theorem hasFreshJwksDocument_otherIssuer
    (isOther : other ≠ jwksUri)
    (issued : IssuedFor jwksUri operation)
    (nowS windowS : Int)
    (cache : JwksCache) :
    (cache.apply operation).hasFreshJwksDocument nowS windowS other =
      cache.hasFreshJwksDocument nowS windowS other := by
  rcases documentStamps_apply operation cache with stamps | ⟨readS, issuer, hasIssuer, stamps⟩
  · rw [hasFreshJwksDocument_congr stamps]
  · have isIssuer := issued.issuer issuer hasIssuer
    subst isIssuer
    rw [hasFreshJwksDocument_congr stamps]
    unfold JwksCache.recordJwksFetchSuccess
    split
    · next named =>
        simp only [JwksCache.hasFreshJwksDocument, AList.lookup_insert_ne isOther]
    · next unnamed =>
        rw [not_not] at unnamed
        have named : other ≠ "" := by
          rintro rfl
          exact isOther unnamed.symm
        simp only [JwksCache.hasFreshJwksDocument, if_pos named]

/-! ## Operations one after the other -/

/-- Whether some operation of a list drops the entry under a key for lack of room. -/
def dropsHit (key : String) : JwksCache → List Operation → Bool
  | _, [] => false
  | cache, operation :: operations =>
      cache.droppedHit operation = some key || dropsHit key (cache.apply operation) operations

/-- Whether some operation of a list drops the miss under a key for lack of room. -/
def dropsMiss (key : String) : JwksCache → List Operation → Bool
  | _, [] => false
  | cache, operation :: operations =>
      cache.droppedMiss operation = some key ||
        dropsMiss key (cache.apply operation) operations

/-- A kid of another issuer keeps its entry and its miss but for lack of room, and the
document of the other issuer stays as fresh as it was. -/
structure Isolated
    (other : String)
    (operations : List Operation)
    (cache after : JwksCache) : Prop where
  minRefreshS_eq : after.minRefreshS = cache.minRefreshS
  findHit_eq : ∀ kid, '\n' ∉ kid.toList → after.findHit other kid =
    if dropsHit (cacheKey other kid) cache operations then none
    else cache.findHit other kid
  findMiss_eq : ∀ kid, '\n' ∉ kid.toList → after.findMiss other kid =
    if dropsMiss (cacheKey other kid) cache operations then none
    else cache.findMiss other kid
  fresh_eq : ∀ nowS windowS, after.hasFreshJwksDocument nowS windowS other =
    cache.hasFreshJwksDocument nowS windowS other

/-- What operations for one issuer leave of another. -/
theorem applyAll_isolated
    {operations : List Operation}
    (tenants : Tenants jwksUri other)
    (consistent : cache.Consistent)
    (issued : ∀ operation ∈ operations, IssuedFor jwksUri operation) :
    Isolated other operations cache (cache.applyAll operations) := by
  induction operations generalizing cache with
  | nil => exact ⟨rfl, fun _ _ => rfl, fun _ _ => rfl, fun _ _ => rfl⟩
  | cons operation operations inductionHypothesis =>
      have applied := JwksCache.apply_applied consistent operation
      have issuedFirst := issued operation List.mem_cons_self
      obtain ⟨interval, hit, miss, fresh⟩ := inductionHypothesis applied.consistent
        fun next member => issued next (List.mem_cons_of_mem _ member)
      refine ⟨interval.trans applied.minRefreshS_eq, ?_, ?_, ?_⟩
      · intro kid printable
        rw [JwksCache.applyAll, Machine.run_cons, hit kid printable, JwksCache.findHit,
          applied.lookup_hits, entryAfter_otherIssuer tenants issuedFirst printable, dropsHit]
        by_cases first : cache.droppedHit operation = some (cacheKey other kid)
        · simp [first]
        · simp only [first, decide_false, Bool.false_or, if_false]
          rfl
      · intro kid printable
        rw [JwksCache.applyAll, Machine.run_cons, miss kid printable, JwksCache.findMiss,
          applied.lookup_misses, missAfter_otherIssuer tenants issuedFirst printable,
          dropsMiss]
        by_cases first : cache.droppedMiss operation = some (cacheKey other kid)
        · simp [first]
        · simp only [first, decide_false, Bool.false_or, if_false]
          rfl
      · intro nowS windowS
        rw [JwksCache.applyAll, Machine.run_cons, fresh]
        exact hasFreshJwksDocument_otherIssuer tenants.isOther issuedFirst nowS windowS cache

/-! ## Observations -/

/-- What is observed of a kid: what is looked up, whether a refresh is due, how often
the kid was absent, and whether its issuer's document was just read. -/
structure Observation where
  lookup : Int → JwksLookup
  refreshDue : Int → Option Bool
  absentCount : Option Nat
  fresh : Int → Int → Bool

/-- Observe a kid of an issuer. -/
def observe (jwksUri kid : String) (cache : JwksCache) : Observation where
  lookup nowS := cache.lookup kid nowS jwksUri
  refreshDue nowS :=
    (cache.findHit jwksUri kid).map (JwksCache.refreshDue cache.minRefreshS nowS)
  absentCount := (cache.findHit jwksUri kid).map Entry.consecutiveAbsentCount
  fresh nowS windowS := cache.hasFreshJwksDocument nowS windowS jwksUri

/-- A kid that loses nothing for lack of room looks the same. -/
theorem Isolated.observe_eq
    {operations : List Operation}
    {after : JwksCache}
    (isolated : Isolated other operations cache after)
    (printable : '\n' ∉ kid.toList)
    (keepsHit : dropsHit (cacheKey other kid) cache operations = false)
    (keepsMiss : dropsMiss (cacheKey other kid) cache operations = false) :
    observe other kid after = observe other kid cache := by
  obtain ⟨interval, hit, miss, fresh⟩ := isolated
  have sameHit : after.findHit other kid = cache.findHit other kid := by
    rw [hit kid printable, keepsHit]
    rfl
  have sameMiss : after.findMiss other kid = cache.findMiss other kid := by
    rw [miss kid printable, keepsMiss]
    rfl
  simp only [observe, JwksCache.lookup, sameHit, sameMiss, interval, fresh]

/-! ## Operations and validations -/

/-- An operation on the cache, or a step of a validation. -/
inductive Action
  | operation (operation : Operation)
  | validation (label : Label)

namespace System

/-- Carry out an action. -/
def act (backend : Backend) (system : System) : Action → System
  | .operation operation => { system with cache := system.cache.apply operation }
  | .validation label => step backend system label

/-- What an action does to the cache. -/
def actOperations
    (backend : Backend)
    (system : System) : Action → List Operation
  | .operation operation => [operation]
  | .validation label => stepOperations backend system label

/-- What a list of actions does to the cache. -/
def allOperations
    (backend : Backend) : System → List Action → List Operation
  | _, [] => []
  | system, action :: actions =>
      actOperations backend system action ++
        allOperations backend (act backend system action) actions

/-- An action for one issuer. -/
def ActsFor (jwksUri : String) (system : System) : Action → Prop
  | .operation operation => IssuedFor jwksUri operation
  | .validation (.begin call) => call.jwksUri = jwksUri
  | .validation (.resume request _ _) =>
      ∀ parked, system.inFlight.lookup request = some parked →
        parked.call.jwksUri = jwksUri

variable {backend : Backend} {system : System} {action : Action}

theorem act_cache
    (backend : Backend)
    (system : System)
    (action : Action) :
    (act backend system action).cache =
      system.cache.applyAll (actOperations backend system action) := by
  cases action with
  | operation operation => rfl
  | validation label => exact step_cache backend system label

theorem act_wellFormed
    (action : Action)
    (well : WellFormed backend system) :
    WellFormed backend (act backend system action) := by
  cases action with
  | validation label => exact step_wellFormed label well
  | operation operation =>
      intro request parked waiting
      obtain ⟨numbered, wellParked⟩ := well request parked waiting
      exact ⟨numbered, wellParked.mono (JwksCache.apply_evolves operation system.cache).next_le⟩

theorem actOperations_issued
    (well : WellFormed backend system)
    (actsFor : ActsFor jwksUri system action) :
    ∀ operation ∈ actOperations backend system action, IssuedFor jwksUri operation := by
  intro operation member
  cases action with
  | operation issued =>
      rw [List.mem_singleton.mp member]
      exact actsFor
  | validation label =>
      cases label with
      | begin call =>
          rw [← (show call.jwksUri = jwksUri from actsFor)]
          exact beginOperations_issued member
      | resume request response order =>
          rw [actOperations, stepOperations] at member
          cases waiting : system.inFlight.lookup request with
          | none =>
              rw [waiting] at member
              cases member
          | some parked =>
              rw [waiting] at member
              rw [← actsFor parked waiting]
              exact finishOperations_issued (well request parked waiting).2.admitted.printable
                member

theorem allOperations_issued
    {actions : List Action}
    (well : WellFormed backend system)
    (actFor : Machine.AllSteps (act backend) (ActsFor jwksUri) system actions) :
    ∀ operation ∈ allOperations backend system actions, IssuedFor jwksUri operation := by
  induction actions generalizing system with
  | nil => simp [allOperations]
  | cons action actions inductionHypothesis =>
      intro operation member
      obtain ⟨first, rest⟩ := actFor
      rcases List.mem_append.mp member with now | later
      · exact actOperations_issued well first operation now
      · exact inductionHypothesis (act_wellFormed action well) rest operation later

theorem acts_cache
    (backend : Backend)
    (system : System)
    (actions : List Action) :
    (Machine.run (act backend) system actions).cache =
      system.cache.applyAll (allOperations backend system actions) := by
  induction actions generalizing system with
  | nil => rfl
  | cons action actions inductionHypothesis =>
      rw [Machine.run_cons, inductionHypothesis, act_cache, allOperations,
        JwksCache.applyAll, Machine.run_append]

/-- Whatever is done for one issuer, a kid of another looks the same if it loses
nothing for lack of room, and loses nothing in any other way. -/
theorem tenants_isolated
    (backend : Backend)
    (system : System)
    (consistent : system.cache.Consistent)
    (well : WellFormed backend system)
    (tenants : Tenants jwksUri other)
    (actions : List Action)
    (actFor : Machine.AllSteps (act backend) (ActsFor jwksUri) system actions) :
    Isolated other (allOperations backend system actions) system.cache
        (Machine.run (act backend) system actions).cache ∧
      ∀ kid, '\n' ∉ kid.toList →
        dropsHit (cacheKey other kid) system.cache
          (allOperations backend system actions) = false →
        dropsMiss (cacheKey other kid) system.cache
          (allOperations backend system actions) = false →
          observe other kid (Machine.run (act backend) system actions).cache =
            observe other kid system.cache := by
  have isolated := applyAll_isolated tenants consistent (allOperations_issued well actFor)
  rw [← acts_cache] at isolated
  exact ⟨isolated, fun kid printable => isolated.observe_eq printable⟩

/-! ## A neighbour of the sample issuer -/

/-- The URI of another issuer. -/
def neighbourUri : String := "https://other.test/jwks"

/-- A cache with a kid of the neighbour in it. -/
def neighbourCache (maxEntries : Nat) : JwksCache :=
  (JwksCache.create 300 maxEntries).apply
    (.onFetchSuccess "n" [{ kid := "n", kty := "OKP", crv := "Ed25519", x := "AQ" }] 900
      neighbourUri)

/-- Nobody waits for a response. -/
def neighbourSystem (maxEntries : Nat) : System where
  cache := neighbourCache maxEntries

theorem neighbourCache_consistent (maxEntries : Nat) :
    (neighbourCache maxEntries).Consistent :=
  (JwksCache.apply_applied (JwksCache.create_consistent 300 maxEntries) _).consistent

/-- A token of the sample issuer is validated. -/
def sampleActions : List Action :=
  [.validation (.begin (sampleCall "a-old" 1000)),
    .validation (.resume 0 (sampleResponse "first") .stored)]

theorem sampleActions_actFor (maxEntries : Nat) :
    Machine.AllSteps (act sampleBackend) (ActsFor sampleUri) (neighbourSystem maxEntries)
      sampleActions := by
  refine ⟨rfl, fun parked waiting => ?_, trivial⟩
  rcases step_inFlight waiting with impossible | ⟨call, same, -, begun⟩
  · cases impossible
  · cases same
    rw [((beginValidation_spec sampleBackend _ _).2 _ _ begun).call_eq]
    rfl

theorem tenants_isolated_sample :
    observe neighbourUri "n" (Machine.run (act sampleBackend) (neighbourSystem 2)
        sampleActions).cache =
      observe neighbourUri "n" (neighbourSystem 2).cache :=
  (tenants_isolated sampleBackend (neighbourSystem 2) (neighbourCache_consistent 2)
    (fun _ _ impossible => by cases impossible)
    ⟨by decide, by decide, by decide⟩ sampleActions (sampleActions_actFor 2)).2 "n"
      (by decide) (by decide) (by decide)

/-- In a cache with room for one kid, the neighbour's kid leaves. -/
theorem neighbour_loses_kid :
    Machine.AllSteps (act sampleBackend) (ActsFor sampleUri) (neighbourSystem 1)
        sampleActions ∧
      ((neighbourSystem 1).cache.lookup "n" 1002 neighbourUri).status = .hit ∧
      ((Machine.run (act sampleBackend) (neighbourSystem 1) sampleActions).cache.lookup "n"
        1002 neighbourUri).status = .miss ∧
      observe neighbourUri "n" (Machine.run (act sampleBackend) (neighbourSystem 1)
          sampleActions).cache ≠
        observe neighbourUri "n" (neighbourSystem 1).cache := by
  have cached : ((neighbourSystem 1).cache.lookup "n" 1002 neighbourUri).status = .hit := by
    decide
  have lost : ((Machine.run (act sampleBackend) (neighbourSystem 1)
      sampleActions).cache.lookup "n" 1002 neighbourUri).status = .miss := by
    decide
  refine ⟨sampleActions_actFor 1, cached, lost, fun same => ?_⟩
  have sameStatus := congrArg (fun seen => (Observation.lookup seen 1002).status) same
  rw [observe, observe, cached, lost] at sameStatus
  cases sameStatus

end System
end Validator
end QuackOauth
