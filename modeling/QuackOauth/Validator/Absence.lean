import QuackOauth.Jwks.Absence
import QuackOauth.Validator.Operations

/-!
# Eviction for absence

A kid is evicted once two refreshes in a row find no signing key for it in the
issuer's document.  What is counted is absences since the last time that the count
started afresh, and not every document that lists the kid starts it afresh: one with
no usable key does not, nor does a refresh of the kid that is not committed.  In runs
without such documents an eviction is always corroborated.
-/

namespace QuackOauth
namespace Validator

open Lib Jwks Jwt

/-! ## What the pieces of a call count -/

variable {key : String} {cache : JwksCache} {operation : Operation}
variable {backend : Backend} {parked : Parked} {response : Option Response}
variable {order : IterationOrder String (List Jwk)} {keys : List Jwk}
variable {jwksUri kid : String}

theorem beginOperations_countNone
    {call : Call}
    (member : operation ∈ beginOperations backend call cache) :
    CountsNone key operation := by
  cases mem_beginOperations member <;> trivial

/-- What a document's reconciliation finds of a kid. -/
theorem kidPresence_document
    (keys : List Jwk)
    (printable : '\n' ∉ kid.toList)
    (jwksUri targetKid : String)
    (target_ne : targetKid ≠ "") :
    JwksCache.kidPresence ((groupSigningKeysByKid keys).keys.filter fun kid => kid ≠ "")
        jwksUri targetKid (cacheKey jwksUri kid) =
      if kid = targetKid then none
      else some (decide (listedKeys keys kid ≠ [] ∧ kid ≠ "")) := by
  have listed_iff : kid ∈ (groupSigningKeysByKid keys).keys ↔ listedKeys keys kid ≠ [] := by
    rw [← AList.mem_keys, ← AList.lookup_isSome, Option.isSome_iff_ne_none, ne_eq,
      lookup_groupSigningKeysByKid_eq_none]
  rw [JwksCache.kidPresence, JwksCache.kidOfCacheKey_cacheKey jwksUri printable]
  simp only [target_ne, ne_eq, not_false_eq_true, true_and, List.mem_filter, listed_iff,
    decide_eq_true_eq]

/-- The only documents that count absences of a kid are those of its issuer, read on a
refresh, that list no signing key for it; and a kid without a name is counted absent
whatever they list, unless the refresh is its own. -/
theorem finishOperations_countNone
    (printable : '\n' ∉ kid.toList)
    (printableUri : '\n' ∉ jwksUri.toList)
    (printableCall : '\n' ∉ parked.call.jwksUri.toList)
    (admitted : HeaderAdmitted backend parked.call parked.parsed)
    (notLacking : parked.call.jwksUri = jwksUri → parked.route ≠ .cold →
      ∀ keys, readResponse backend response = .keys keys →
        listedKeys keys kid ≠ [] ∧ (kid = parked.parsed.kid ∨ kid ≠ ""))
    (member : operation ∈ finishOperations backend parked response order cache) :
    CountsNone (cacheKey jwksUri kid) operation := by
  cases mem_finishOperations member with
  | absent keys reservationId cachedResult read route unlisted =>
      intro isKey
      obtain ⟨uri_eq, kid_eq⟩ := cacheKey_inj printable admitted.printable isKey
      have listed := (notLacking uri_eq.symm (by simp [route]) keys read).1
      rw [kid_eq] at listed
      exact listed unlisted
  | reconcile keys read notCold =>
      by_cases sameUri : parked.call.jwksUri = jwksUri
      · obtain ⟨listed, named⟩ := notLacking sameUri notCold keys read
        rw [CountsNone, sameUri, kidPresence_document _ printable _ _ admitted.kid_ne]
        split
        · simp
        · next notTarget => simp [listed, named.resolve_left notTarget]
      · have unread : JwksCache.kidPresence
            ((groupSigningKeysByKid keys).keys.filter fun kid => kid ≠ "")
            parked.call.jwksUri parked.parsed.kid (cacheKey jwksUri kid) = none := by
          rw [JwksCache.kidPresence, JwksCache.kidOfCacheKey_eq_none (Ne.symm sameUri)
            printableCall printableUri printable]
        rw [CountsNone, unread]
        simp
  | reason | missed | read | commit | ingest => trivial

/-- Whether a document that lists a kid starts the count of its absences afresh. -/
def restartsCount
    (backend : Backend)
    (parked : Parked)
    (keys : List Jwk)
    (kid : String)
    (hit : Entry) : Bool :=
  match parked.route with
  | .cold => usableKeys backend keys kid ≠ []
  | .refresh reservationId _ =>
      if kid = parked.parsed.kid then
        JwksCache.acceptsCommit reservationId (usableKeys backend keys kid)
          parked.call.opts.nowS hit
      else kid ≠ "" || usableKeys backend keys kid ≠ []

/-- A cold call starts the count of every kid afresh that its document lists with a
usable key. -/
theorem coldOperations_uncounted
    (route : parked.route = .cold)
    (read : readResponse backend response = .keys keys)
    (usable : usableKeys backend keys kid ≠ [])
    (consistent : cache.Consistent)
    (fits : cache.Fits (finishOperations backend parked response order cache)) :
    Uncounted (cacheKey parked.call.jwksUri kid)
      (cache.applyAll (finishOperations backend parked response order cache)) := by
  have countNone : ∀ operation ∈ finishOperations backend parked response order cache,
      CountsNone (cacheKey parked.call.jwksUri kid) operation := by
    intro operation member
    cases mem_finishOperations member with
    | absent _ _ _ _ isRefresh => rw [route] at isRefresh; cases isRefresh
    | reconcile _ _ notCold => exact absurd route notCold
    | reason | missed | read | commit | ingest => trivial
  have nonempty : coldGroupKeys backend parked ⟨kid, listedKeys keys kid⟩ ≠ [] := by
    intro empty
    have perm := coldGroupKeys_perm backend parked ⟨kid, listedKeys keys kid⟩
    rw [empty] at perm
    exact usable perm.nil_eq.symm
  have ingests : .onPassiveFetchSuccess kid
      (coldGroupKeys backend parked ⟨kid, listedKeys keys kid⟩) parked.call.opts.nowS
        parked.call.jwksUri ∈ finishOperations backend parked response order cache := by
    have visited := List.mem_map_of_mem (f := fun group => Operation.onPassiveFetchSuccess
      group.1 (coldGroupKeys backend parked group) parked.call.opts.nowS
        parked.call.jwksUri) (mem_visit_of_listed order (listedKeys_ne_nil_of_usable usable))
    simp only [finishOperations, route, coldOperations, read]
    split
    · exact List.mem_append_left _ (List.mem_cons_of_mem _ visited)
    · exact List.mem_cons_of_mem _ visited
  obtain ⟨before, later, split⟩ := List.append_of_mem ingests
  rw [split] at fits countNone ⊢
  have fitsNow := ((Machine.allSteps_append JwksCache.apply).mp fits).2.1
  refine uncounted_of_restarts before consistent fits ?_ fun next member =>
    countNone next (List.mem_append_right before (List.mem_cons_of_mem _ member))
  exact uncounted_onPassiveFetchSuccess
    (JwksCache.applyAll_consistent before consistent) fitsNow nonempty

section Refresh

variable {reservationId : Nat} {cachedResult : VerifyResult} {hit : Entry}

/-- What a refresh does with a document that it reads. -/
theorem finishOperations_refresh
    (order : IterationOrder String (List Jwk))
    (cache : JwksCache)
    (route : parked.route = .refresh reservationId cachedResult)
    (read : readResponse backend response = .keys keys) :
    ∃ reason, finishOperations backend parked response order cache =
      .recordJwksFetchSuccess parked.call.opts.nowS parked.call.jwksUri ::
        (commitOperations backend parked reservationId (groupSigningKeysByKid keys)
            (cache.recordJwksFetchSuccess parked.call.opts.nowS parked.call.jwksUri) ++
          siblingOperations backend order (groupSigningKeysByKid keys) parked.parsed.kid
            parked.call.opts.nowS parked.call.jwksUri ++
          [.setLastRefreshReason reason]) := by
  simp only [finishOperations, route, refreshOperations, read]
  exact ⟨_, rfl⟩

/-- A commit counts no absence of another kid, nor of a kid that is listed. -/
theorem commitOperations_countNone
    (printable : '\n' ∉ kid.toList)
    (admitted : HeaderAdmitted backend parked.call parked.parsed)
    (notLacking : kid = parked.parsed.kid → listedKeys keys kid ≠ [])
    (member : operation ∈ commitOperations backend parked reservationId
      (groupSigningKeysByKid keys) cache) :
    CountsNone (cacheKey parked.call.jwksUri kid) operation := by
  rcases mem_commitOperations member with ⟨unlisted, rfl⟩ | ⟨candidates, -, -, rfl⟩
  · intro isKey
    have sameKid := (cacheKey_inj printable admitted.printable isKey).2
    have listed := notLacking sameKid
    rw [sameKid] at listed
    exact listed unlisted
  · trivial

/-- The siblings of a refresh count no absence of its own kid, nor of a kid with a
name that is listed. -/
theorem siblingOperations_countNone
    {targetKid : String}
    {nowS : Int}
    (printable : '\n' ∉ kid.toList)
    (target_ne : targetKid ≠ "")
    (notLacking : kid ≠ targetKid → listedKeys keys kid ≠ [] ∧ kid ≠ "")
    (member : operation ∈ siblingOperations backend order (groupSigningKeysByKid keys)
      targetKid nowS jwksUri) :
    CountsNone (cacheKey jwksUri kid) operation := by
  rcases List.mem_cons.mp member with rfl | ingests
  · rw [CountsNone, kidPresence_document _ printable jwksUri targetKid target_ne]
    split
    · simp
    · next notTarget => simp [notLacking notTarget]
  · obtain ⟨group, -, rfl⟩ := List.mem_map.mp ingests
    trivial

/-- A commit with usable keys is attempted with some arrangement of them. -/
theorem commitOperations_of_usable
    (usable : usableKeys backend keys parked.parsed.kid ≠ []) :
    ∃ candidates, candidates ≠ [] ∧
      commitOperations backend parked reservationId (groupSigningKeysByKid keys) cache =
        [.commitRefresh parked.parsed.kid reservationId candidates parked.call.opts.nowS
          parked.call.jwksUri] := by
  have grouped := lookup_groupSigningKeysByKid_eq_some.mpr
    ⟨rfl, listedKeys_ne_nil_of_usable usable⟩
  have screened : screenUsableKeys backend (listedKeys keys parked.parsed.kid) ≠ [] := usable
  simp only [commitOperations, grouped, if_neg screened]
  refine ⟨_, fun empty => ?_, rfl⟩
  have perm := commitCandidates_perm backend parked (listedKeys keys parked.parsed.kid)
    (cache.lookup parked.parsed.kid parked.call.opts.nowS parked.call.jwksUri).keys
  rw [empty] at perm
  exact screened perm.nil_eq.symm

/-- A refresh of the kid that is committed starts its count afresh. -/
theorem refreshOperations_uncounted_target
    (admitted : HeaderAdmitted backend parked.call parked.parsed)
    (route : parked.route = .refresh reservationId cachedResult)
    (read : readResponse backend response = .keys keys)
    (found : cache.findHit parked.call.jwksUri parked.parsed.kid = some hit)
    (accepts : JwksCache.acceptsCommit reservationId
      (usableKeys backend keys parked.parsed.kid) parked.call.opts.nowS hit = true)
    (consistent : cache.Consistent)
    (fits : cache.Fits (finishOperations backend parked response order cache)) :
    Uncounted (cacheKey parked.call.jwksUri parked.parsed.kid)
      (cache.applyAll (finishOperations backend parked response order cache)) := by
  have usable : usableKeys backend keys parked.parsed.kid ≠ [] := by
    intro empty
    rw [empty] at accepts
    simp [JwksCache.acceptsCommit] at accepts
  obtain ⟨candidates, nonempty, commits⟩ := commitOperations_of_usable usable
  obtain ⟨reason, operations_eq⟩ := finishOperations_refresh order cache route read
  rw [commits, List.append_assoc, List.singleton_append] at operations_eq
  rw [operations_eq] at fits ⊢
  -- Reading the document touches no entry.
  have stays := JwksCache.applyAll_consistent
    [.recordJwksFetchSuccess parked.call.opts.nowS parked.call.jwksUri] consistent
  refine uncounted_of_restarts [.recordJwksFetchSuccess parked.call.opts.nowS
    parked.call.jwksUri] consistent fits ?_ fun next member => ?_
  · have stillFound : (cache.applyAll [.recordJwksFetchSuccess parked.call.opts.nowS
        parked.call.jwksUri]).findHit parked.call.jwksUri parked.parsed.kid = some hit := by
      rw [← found]
      simp only [JwksCache.findHit, JwksCache.applyAll, Machine.run_cons, Machine.run_nil,
        JwksCache.apply, JwksCache.hits_recordJwksFetchSuccess]
    refine uncounted_commitRefresh stays stillFound ?_
    simpa [JwksCache.acceptsCommit, nonempty, usable] using accepts
  · rcases List.mem_append.mp member with siblings | reason
    · exact siblingOperations_countNone admitted.printable admitted.kid_ne
        (fun isOther => absurd rfl isOther) siblings
    · rw [List.mem_singleton.mp reason]
      trivial

/-- A refresh of another kid starts the count afresh of every kid that its document
lists with a usable key. -/
theorem refreshOperations_uncounted_usable
    (route : parked.route = .refresh reservationId cachedResult)
    (read : readResponse backend response = .keys keys)
    (sibling : kid ≠ parked.parsed.kid)
    (usable : usableKeys backend keys kid ≠ [])
    (consistent : cache.Consistent)
    (fits : cache.Fits (finishOperations backend parked response order cache)) :
    Uncounted (cacheKey parked.call.jwksUri kid)
      (cache.applyAll (finishOperations backend parked response order cache)) := by
  obtain ⟨reason, operations_eq⟩ := finishOperations_refresh order cache route read
  have visited : (⟨kid, listedKeys keys kid⟩ : (_ : String) × List Jwk) ∈
      (order.visit (groupSigningKeysByKid keys)).filter
        fun group => group.1 ≠ parked.parsed.kid :=
    List.mem_filter.mpr ⟨mem_visit_of_listed order (listedKeys_ne_nil_of_usable usable),
      decide_eq_true sibling⟩
  obtain ⟨earlier, later, visit_eq⟩ := List.append_of_mem visited
  rw [siblingOperations, visit_eq, List.map_append, List.map_cons] at operations_eq
  generalize (groupSigningKeysByKid keys).keys.filter (fun kid => kid ≠ "") = presentKids
    at operations_eq
  generalize commitOperations backend parked reservationId (groupSigningKeysByKid keys)
    (cache.recordJwksFetchSuccess parked.call.opts.nowS parked.call.jwksUri) = commits
    at operations_eq
  have split : finishOperations backend parked response order cache =
      (.recordJwksFetchSuccess parked.call.opts.nowS parked.call.jwksUri ::
        (commits ++ .reconcileAbsentKids presentKids parked.call.jwksUri parked.parsed.kid ::
          earlier.map fun group => .onPassiveFetchSuccess group.1
            (screenUsableKeys backend group.2) parked.call.opts.nowS
              parked.call.jwksUri)) ++
        .onPassiveFetchSuccess kid (usableKeys backend keys kid) parked.call.opts.nowS
            parked.call.jwksUri ::
          ((later.map fun group => .onPassiveFetchSuccess group.1
            (screenUsableKeys backend group.2) parked.call.opts.nowS
              parked.call.jwksUri) ++ [.setLastRefreshReason reason]) := by
    rw [operations_eq]
    simp [List.append_assoc, usableKeys]
  rw [split] at fits ⊢
  have fitsNow := ((Machine.allSteps_append JwksCache.apply).mp fits).2.1
  refine uncounted_of_restarts _ consistent fits ?_ fun next member => ?_
  · exact uncounted_onPassiveFetchSuccess (JwksCache.applyAll_consistent _ consistent)
      fitsNow usable
  · rcases List.mem_append.mp member with ingests | isReason
    · obtain ⟨group, -, rfl⟩ := List.mem_map.mp ingests
      trivial
    · rw [List.mem_singleton.mp isReason]
      trivial

/-- A refresh of another kid starts the count afresh of every kid with a name that its
document lists. -/
theorem refreshOperations_uncounted_listed
    (printable : '\n' ∉ kid.toList)
    (admitted : HeaderAdmitted backend parked.call parked.parsed)
    (route : parked.route = .refresh reservationId cachedResult)
    (read : readResponse backend response = .keys keys)
    (sibling : kid ≠ parked.parsed.kid)
    (listed : listedKeys keys kid ≠ [])
    (named : kid ≠ "")
    (found : cache.findHit parked.call.jwksUri kid = some hit)
    (consistent : cache.Consistent)
    (fits : cache.Fits (finishOperations backend parked response order cache)) :
    Uncounted (cacheKey parked.call.jwksUri kid)
      (cache.applyAll (finishOperations backend parked response order cache)) := by
  obtain ⟨reason, operations_eq⟩ := finishOperations_refresh order cache route read
  have siblingsNone : ∀ operation ∈ siblingOperations backend order
      (groupSigningKeysByKid keys) parked.parsed.kid parked.call.opts.nowS
        parked.call.jwksUri, CountsNone (cacheKey parked.call.jwksUri kid) operation :=
    fun operation => siblingOperations_countNone printable admitted.kid_ne
      fun _ => ⟨listed, named⟩
  have commitsNone : ∀ operation ∈ .recordJwksFetchSuccess parked.call.opts.nowS
        parked.call.jwksUri ::
      commitOperations backend parked reservationId (groupSigningKeysByKid keys)
        (cache.recordJwksFetchSuccess parked.call.opts.nowS parked.call.jwksUri),
      CountsNone (cacheKey parked.call.jwksUri kid) operation := by
    intro operation member
    rcases List.mem_cons.mp member with rfl | commits
    · trivial
    · exact commitOperations_countNone printable admitted (fun _ => listed) commits
  have present := kidPresence_document keys printable parked.call.jwksUri
    parked.parsed.kid admitted.kid_ne
  rw [if_neg sibling, decide_eq_true ⟨listed, named⟩] at present
  rw [List.append_assoc, siblingOperations, List.cons_append, ← List.cons_append]
    at operations_eq
  rw [siblingOperations] at siblingsNone
  rw [operations_eq] at fits ⊢
  obtain ⟨fitsBefore, fitsNow⟩ := (Machine.allSteps_append JwksCache.apply).mp fits
  have stays := (applyAll_unmarked consistent fitsBefore commitsNone).stays
    (Option.isSome_iff_exists.mpr ⟨hit, found⟩)
  refine uncounted_of_restarts _ consistent fits ?_ fun next member => ?_
  · exact uncounted_reconcileAbsentKids (JwksCache.applyAll_consistent _ consistent) stays
      present
  · rcases List.mem_append.mp member with ingests | isReason
    · exact siblingsNone next (List.mem_cons_of_mem _ ingests)
    · rw [List.mem_singleton.mp isReason]
      trivial

/-- A kid is not evicted by the first refresh whose document lacks it. -/
theorem refreshOperations_keepsFirst
    (printable : '\n' ∉ kid.toList)
    (admitted : HeaderAdmitted backend parked.call parked.parsed)
    (route : parked.route = .refresh reservationId cachedResult)
    (read : readResponse backend response = .keys keys)
    (unlisted : listedKeys keys kid = [])
    (uncounted : Uncounted (cacheKey parked.call.jwksUri kid) cache)
    (consistent : cache.Consistent)
    (fits : cache.Fits (finishOperations backend parked response order cache)) :
    ((cache.applyAll (finishOperations backend parked response order cache)).hits.lookup
      (cacheKey parked.call.jwksUri kid)).isSome = true := by
  obtain ⟨reason, operations_eq⟩ := finishOperations_refresh order cache route read
  by_cases target : kid = parked.parsed.kid
  · have grouped : (groupSigningKeysByKid keys).lookup parked.parsed.kid = none := by
      rw [← target]
      exact lookup_groupSigningKeysByKid_eq_none.mpr unlisted
    simp only [commitOperations, grouped, List.cons_append]
      at operations_eq
    rw [operations_eq] at fits ⊢
    refine isSome_of_once [.recordJwksFetchSuccess parked.call.opts.nowS
      parked.call.jwksUri] consistent fits uncounted ?_ ?_
    · intro next member
      rw [List.mem_singleton.mp member]
      trivial
    · intro next member
      rcases List.mem_append.mp member with siblings | isReason
      · exact siblingOperations_countNone printable admitted.kid_ne
          (fun sibling => absurd target sibling) siblings
      · rw [List.mem_singleton.mp isReason]
        trivial
  · rw [List.append_assoc, siblingOperations, List.cons_append, ← List.cons_append]
      at operations_eq
    rw [operations_eq] at fits ⊢
    refine isSome_of_once _ consistent fits uncounted ?_ ?_
    · intro next member
      rcases List.mem_cons.mp member with rfl | commits
      · trivial
      · exact commitOperations_countNone printable admitted
          (fun isTarget => absurd isTarget target) commits
    · intro next member
      rcases List.mem_append.mp member with ingests | isReason
      · obtain ⟨group, -, rfl⟩ := List.mem_map.mp ingests
        trivial
      · rw [List.mem_singleton.mp isReason]
        trivial

end Refresh

/-- A document that restarts the count of a kid leaves no absence counted. -/
theorem finishOperations_uncounted
    {hit : Entry}
    (printable : '\n' ∉ kid.toList)
    (admitted : HeaderAdmitted backend parked.call parked.parsed)
    (read : readResponse backend response = .keys keys)
    (listed : listedKeys keys kid ≠ [])
    (found : cache.findHit parked.call.jwksUri kid = some hit)
    (restarts : restartsCount backend parked keys kid hit = true)
    (consistent : cache.Consistent)
    (fits : cache.Fits (finishOperations backend parked response order cache)) :
    Uncounted (cacheKey parked.call.jwksUri kid)
      (cache.applyAll (finishOperations backend parked response order cache)) := by
  unfold restartsCount at restarts
  cases route : parked.route with
  | cold =>
      rw [route] at restarts
      exact coldOperations_uncounted route read (of_decide_eq_true restarts) consistent fits
  | refresh reservationId cachedResult =>
      simp only [route] at restarts
      split at restarts
      · next target =>
          subst target
          exact refreshOperations_uncounted_target admitted route read found restarts
            consistent fits
      · next sibling =>
          by_cases usable : usableKeys backend keys kid = []
          · have named : kid ≠ "" := by simpa [usable] using restarts
            exact refreshOperations_uncounted_listed printable admitted route read sibling
              listed named found consistent fits
          · exact refreshOperations_uncounted_usable route read sibling usable consistent
              fits

/-- A call stores nothing for a kid that its document lists without a usable key. -/
theorem finishOperations_storeNone
    (printable : '\n' ∉ kid.toList)
    (read : readResponse backend response = .keys keys)
    (unusable : usableKeys backend keys kid = [])
    (member : operation ∈ finishOperations backend parked response order cache) :
    StoresNone (cacheKey parked.call.jwksUri kid) operation := by
  cases mem_finishOperations member with
  | ingest others otherKid ingested readOthers listed perm _ =>
      rintro ⟨isKey, nonempty⟩
      have sameKid :=
        (cacheKey_inj printable (printable_of_listed readOthers listed) isKey).2
      cases read.symm.trans readOthers
      rw [← sameKid, unusable] at perm
      exact nonempty perm.eq_nil
  | reason | missed | read | absent | commit | reconcile => trivial

namespace System

variable {system : System} {label : Label}

/-! ## What a step reads -/

/-- The document of an issuer that a step reads, with the call that asked for it. -/
def documentRead
    (backend : Backend)
    (jwksUri : String)
    (system : System) : Label → Option (Parked × List Jwk)
  | .begin _ => none
  | .resume request response _ =>
      match system.inFlight.lookup request with
      | none => none
      | some parked =>
          if parked.call.jwksUri = jwksUri then
            match readResponse backend response with
            | .keys keys => some (parked, keys)
            | _ => none
          else none

/-- Whether a step reads a document that lists a signing key for a kid. -/
def listsKid
    (backend : Backend)
    (jwksUri kid : String)
    (system : System)
    (label : Label) : Bool :=
  (documentRead backend jwksUri system label).any fun document =>
    listedKeys document.2 kid ≠ []

/-- Whether a step reads, on a refresh, a document that lists no signing key for a
kid. -/
def lacksKid
    (backend : Backend)
    (jwksUri kid : String)
    (system : System)
    (label : Label) : Bool :=
  (documentRead backend jwksUri system label).any fun document =>
    document.1.route ≠ .cold && listedKeys document.2 kid = []

/-- Whether a step removes the entry of a kid. -/
def removesKid
    (backend : Backend)
    (jwksUri kid : String)
    (system : System)
    (label : Label) : Bool :=
  (system.cache.findHit jwksUri kid).isSome &&
    ((step backend system label).cache.findHit jwksUri kid).isNone

/-- Whether a document lists a kid and yet lets an absence stand that is counted of it,
or counts one of a kid without a name. -/
def overlooksKid
    (backend : Backend)
    (jwksUri kid : String)
    (system : System)
    (label : Label) : Bool :=
  match documentRead backend jwksUri system label, system.cache.findHit jwksUri kid with
  | some (parked, keys), some hit =>
      listedKeys keys kid ≠ [] &&
        (hit.consecutiveAbsentCount ≠ 0 || (kid = "" && parked.route ≠ .cold)) &&
        !restartsCount backend parked keys kid hit
  | _, _ => false

/-- Whether a step goes on with a call on the cold path. -/
def isCold (system : System) : Label → Bool
  | .begin _ => false
  | .resume request _ _ =>
      (system.inFlight.lookup request).any fun parked => parked.route = .cold

/-- The URI of a call that begins holds no newline. -/
def Printable : Label → Prop
  | .begin call => '\n' ∉ call.jwksUri.toList
  | .resume _ _ _ => True

instance : ∀ label, Decidable (Printable label)
  | .begin _ => inferInstanceAs (Decidable (_ ∉ _))
  | .resume _ _ _ => inferInstanceAs (Decidable True)

/-- What is known of a system whose issuers can be told apart. -/
structure Sound (backend : Backend) (system : System) : Prop where
  wellFormed : WellFormed backend system
  consistent : system.cache.Consistent
  printable : ∀ request parked, system.inFlight.lookup request = some parked →
    '\n' ∉ parked.call.jwksUri.toList

theorem initial_sound (minRefreshS : Int) (maxEntries : Nat) :
    Sound backend (initial minRefreshS maxEntries) where
  wellFormed := initial_wellFormed minRefreshS maxEntries
  consistent := JwksCache.create_consistent minRefreshS maxEntries
  printable := fun request parked waiting => by cases waiting

theorem Sound.step
    (sound : Sound backend system)
    (printable : Printable label) :
    Sound backend (step backend system label) where
  wellFormed := step_wellFormed label sound.wellFormed
  consistent := by
    rw [step_cache]
    exact JwksCache.applyAll_consistent _ sound.consistent
  printable := by
    intro request parked waiting
    rcases step_inFlight waiting with earlier | ⟨call, rfl, -, begun⟩
    · exact sound.printable request parked earlier
    · rw [((beginValidation_spec backend call system.cache).2 _ _ begun).call_eq]
      exact printable

theorem documentRead_eq_some
    {parked : Parked}
    {keys : List Jwk} :
    documentRead backend jwksUri system label = some (parked, keys) ↔
      ∃ request response order, label = .resume request response order ∧
        system.inFlight.lookup request = some parked ∧
        parked.call.jwksUri = jwksUri ∧ readResponse backend response = .keys keys := by
  cases label with
  | begin call => simp [documentRead]
  | resume request response order =>
      rw [documentRead]
      cases waiting : system.inFlight.lookup request with
      | none => simp [waiting]
      | some other =>
          dsimp only
          split
          · next isIssuer =>
              cases read : readResponse backend response with
              | failed => simp [read]
              | noKeys => simp [read]
              | keys others =>
                  constructor
                  · rintro ⟨⟩
                    exact ⟨request, response, order, rfl, waiting, isIssuer, read⟩
                  · rintro ⟨_, _, _, ⟨⟩, found, -, same⟩
                    cases waiting.symm.trans found
                    cases read.symm.trans same
                    rfl
          · next otherIssuer =>
              constructor
              · intro impossible
                cases impossible
              · rintro ⟨_, _, _, ⟨⟩, found, isIssuer, -⟩
                cases waiting.symm.trans found
                exact absurd isIssuer otherIssuer

/-! ## One step -/

/-- A step that reads no document of the issuer, or reads it on the cold path, or finds
the kid listed under a name or on its own refresh, counts no absence of it. -/
theorem stepOperations_countNone
    (sound : Sound backend system)
    (printable : '\n' ∉ kid.toList)
    (printableUri : '\n' ∉ jwksUri.toList)
    (notLacking : ∀ parked keys,
      documentRead backend jwksUri system label = some (parked, keys) →
        parked.route ≠ .cold →
          listedKeys keys kid ≠ [] ∧ (kid = parked.parsed.kid ∨ kid ≠ "")) :
    ∀ operation ∈ stepOperations backend system label,
      CountsNone (cacheKey jwksUri kid) operation := by
  intro operation member
  cases label with
  | begin call => exact beginOperations_countNone member
  | resume request response order =>
      rw [stepOperations] at member
      cases waiting : system.inFlight.lookup request with
      | none =>
          rw [waiting] at member
          cases member
      | some parked =>
          rw [waiting] at member
          refine finishOperations_countNone printable printableUri
            (sound.printable request parked waiting)
            (sound.wellFormed request parked waiting).2.admitted ?_ member
          intro isIssuer notCold keys read
          exact notLacking parked keys (documentRead_eq_some.mpr
            ⟨request, response, order, rfl, waiting, isIssuer, read⟩) notCold

theorem step_unmarked
    (sound : Sound backend system)
    (fits : system.cache.Fits (stepOperations backend system label))
    (countNone : ∀ operation ∈ stepOperations backend system label,
      CountsNone key operation) :
    Unmarked key system.cache (step backend system label).cache := by
  rw [step_cache]
  exact applyAll_unmarked sound.consistent fits countNone

/-- A cold step counts no absence. -/
theorem step_unmarked_of_isCold
    (sound : Sound backend system)
    (printable : '\n' ∉ kid.toList)
    (printableUri : '\n' ∉ jwksUri.toList)
    (fits : system.cache.Fits (stepOperations backend system label))
    (cold : isCold system label = true) :
    Unmarked (cacheKey jwksUri kid) system.cache (step backend system label).cache := by
  refine step_unmarked sound fits (stepOperations_countNone sound printable printableUri ?_)
  intro parked keys document notCold
  obtain ⟨request, response, order, rfl, waiting, -, -⟩ := documentRead_eq_some.mp document
  rw [isCold, waiting] at cold
  exact absurd (of_decide_eq_true cold) notCold

/-- A step that leaves a kid cached with no absence counted does not remove it. -/
theorem removesKid_of_uncounted
    (uncounted : Uncounted (cacheKey jwksUri kid) (step backend system label).cache) :
    removesKid backend jwksUri kid system label = false ∧
      ¬Counted (cacheKey jwksUri kid) (step backend system label).cache := by
  refine ⟨?_, not_counted_of_uncounted uncounted⟩
  obtain ⟨next, nextFound, -⟩ := uncounted
  simp [removesKid, JwksCache.findHit, nextFound]

/-- A document that lists a kid, under a name or on its own refresh, counts no absence
of it. -/
theorem step_unmarked_of_listed
    {parked : Parked}
    {keys : List Jwk}
    (sound : Sound backend system)
    (printable : '\n' ∉ kid.toList)
    (printableUri : '\n' ∉ jwksUri.toList)
    (fits : system.cache.Fits (stepOperations backend system label))
    (document : documentRead backend jwksUri system label = some (parked, keys))
    (listed : listedKeys keys kid ≠ [])
    (named : parked.route ≠ .cold → kid = parked.parsed.kid ∨ kid ≠ "") :
    Unmarked (cacheKey jwksUri kid) system.cache (step backend system label).cache := by
  refine step_unmarked sound fits (stepOperations_countNone sound printable printableUri ?_)
  intro other others otherDocument notCold
  rw [document] at otherDocument
  cases otherDocument
  exact ⟨listed, named notCold⟩

/-- A document that lists a kid, and is not overlooked, leaves no absence of it
counted, and leaves the kid cached. -/
theorem step_of_listed
    {parked : Parked}
    {keys : List Jwk}
    (sound : Sound backend system)
    (printable : '\n' ∉ kid.toList)
    (printableUri : '\n' ∉ jwksUri.toList)
    (fits : system.cache.Fits (stepOperations backend system label))
    (heeds : overlooksKid backend jwksUri kid system label = false)
    (document : documentRead backend jwksUri system label = some (parked, keys))
    (listed : listedKeys keys kid ≠ []) :
    removesKid backend jwksUri kid system label = false ∧
      ¬Counted (cacheKey jwksUri kid) (step backend system label).cache := by
  obtain ⟨request, response, order, rfl, waiting, rfl, read⟩ :=
    documentRead_eq_some.mp document
  have admitted := (sound.wellFormed request parked waiting).2.admitted
  have operations_eq : stepOperations backend system (.resume request response order) =
      finishOperations backend parked response order system.cache := by
    rw [stepOperations, waiting]
  have unmarked :=
    step_unmarked_of_listed sound printable printableUri fits document listed
  rw [operations_eq] at fits
  cases found : system.cache.findHit parked.call.jwksUri kid with
  | some hit =>
      by_cases restarts : restartsCount backend parked keys kid hit = true
      · apply removesKid_of_uncounted
        rw [step_cache, operations_eq]
        exact finishOperations_uncounted printable admitted read listed found restarts
          sound.consistent fits
      · have harmless : hit.consecutiveAbsentCount = 0 ∧
            (kid = "" → parked.route = .cold) := by
          simpa [overlooksKid, document, found, listed, restarts] using heeds
        refine removesKid_of_uncounted ((unmarked fun notCold => ?_).uncounted
          ⟨hit, found, harmless.1⟩)
        exact .inr fun unnamed => notCold (harmless.2 unnamed)
  | none =>
      refine ⟨by simp [removesKid, found], ?_⟩
      have uncached : ¬Counted (cacheKey parked.call.jwksUri kid) system.cache := by
        rintro ⟨hit, isHit, -⟩
        cases found.symm.trans isHit
      by_cases unusable : usableKeys backend keys kid = []
      · -- Nothing of the document is stored for the kid.
        rintro ⟨next, nextFound, -⟩
        rw [step_cache, operations_eq, applyAll_absent sound.consistent found
          fun operation => finishOperations_storeNone printable read unusable] at nextFound
        cases nextFound
      · cases route : parked.route with
        | cold =>
            exact fun counted =>
              uncached ((unmarked fun notCold => absurd route notCold).counted counted)
        | refresh reservationId cachedResult =>
            by_cases target : kid = parked.parsed.kid
            · exact fun counted => uncached ((unmarked fun _ => .inl target).counted counted)
            · refine (removesKid_of_uncounted ?_).2
              rw [step_cache, operations_eq]
              exact refreshOperations_uncounted_usable route read target unusable
                sound.consistent fits

/-- What a step can do to the count of a kid's absences: only a document without the kid
starts it, and only a second one removes the kid. -/
structure StepAbsence
    (backend : Backend)
    (jwksUri kid : String)
    (system : System)
    (label : Label) : Prop where
  removes : removesKid backend jwksUri kid system label = true →
    lacksKid backend jwksUri kid system label = true ∧
      Counted (cacheKey jwksUri kid) system.cache
  counts : Counted (cacheKey jwksUri kid) (step backend system label).cache →
    lacksKid backend jwksUri kid system label = true ∨
      Counted (cacheKey jwksUri kid) system.cache ∧
        listsKid backend jwksUri kid system label = false

/-- A step whose operations count no absence of a kid. -/
theorem stepAbsence_of_countsNone
    (sound : Sound backend system)
    (fits : system.cache.Fits (stepOperations backend system label))
    (countNone : ∀ operation ∈ stepOperations backend system label,
      CountsNone (cacheKey jwksUri kid) operation)
    (unlisted : listsKid backend jwksUri kid system label = false) :
    StepAbsence backend jwksUri kid system label := by
  have unmarked := step_unmarked sound fits countNone
  refine ⟨fun removes => ?_, fun counted => .inr ⟨unmarked.counted counted, unlisted⟩⟩
  obtain ⟨present, removed⟩ := Bool.and_eq_true_iff.mp removes
  have stays := unmarked.stays present
  rw [Option.isNone_iff_eq_none] at removed
  rw [show (step backend system label).cache.hits.lookup (cacheKey jwksUri kid) = none
    from removed] at stays
  cases stays

theorem step_absence
    (sound : Sound backend system)
    (printable : '\n' ∉ kid.toList)
    (printableUri : '\n' ∉ jwksUri.toList)
    (fits : system.cache.Fits (stepOperations backend system label))
    (heeds : overlooksKid backend jwksUri kid system label = false) :
    StepAbsence backend jwksUri kid system label := by
  cases document : documentRead backend jwksUri system label with
  | none =>
      refine stepAbsence_of_countsNone sound fits
        (stepOperations_countNone sound printable printableUri ?_) ?_
      · intro parked keys isRead
        cases document.symm.trans isRead
      · rw [listsKid, document]
        rfl
  | some read =>
      obtain ⟨parked, keys⟩ := read
      by_cases unlisted : listedKeys keys kid = []
      · by_cases cold : parked.route = .cold
        · refine stepAbsence_of_countsNone sound fits
            (stepOperations_countNone sound printable printableUri ?_) ?_
          · intro other others isRead notCold
            cases document.symm.trans isRead
            exact absurd cold notCold
          · simp [listsKid, document, unlisted]
        · have lacks : lacksKid backend jwksUri kid system label = true := by
            simp [lacksKid, document, unlisted, cold]
          refine ⟨fun removes => ⟨lacks, ?_⟩, fun _ => .inl lacks⟩
          obtain ⟨present, removed⟩ := Bool.and_eq_true_iff.mp removes
          by_contra notCounted
          have uncounted := uncounted_of_not_counted present notCounted
          obtain ⟨request, response, order, rfl, waiting, rfl, isRead⟩ :=
            documentRead_eq_some.mp document
          have operations_eq :
              stepOperations backend system (.resume request response order) =
                finishOperations backend parked response order system.cache := by
            rw [stepOperations, waiting]
          rw [operations_eq] at fits
          rw [step_cache, operations_eq] at removed
          cases route : parked.route with
          | cold => exact cold route
          | refresh reservationId cachedResult =>
              have stays := refreshOperations_keepsFirst printable
                (sound.wellFormed request parked waiting).2.admitted route isRead unlisted
                uncounted sound.consistent fits
              rw [Option.isNone_iff_eq_none] at removed
              rw [JwksCache.findHit] at removed
              rw [removed] at stays
              cases stays
      · obtain ⟨keeps, notCounted⟩ :=
          step_of_listed sound printable printableUri fits heeds document unlisted
        refine ⟨fun removes => ?_, fun counted => absurd counted notCounted⟩
        rw [keeps] at removes
        cases removes

/-! ## Runs -/

theorem run_sound
    {labels : List Label}
    (sound : Sound backend system)
    (printable : ∀ label ∈ labels, Printable label) :
    Sound backend (run backend system labels) := by
  induction labels generalizing system with
  | nil => exact sound
  | cons label labels inductionHypothesis =>
      exact inductionHypothesis (sound.step (printable label List.mem_cons_self))
        fun next member => printable next (List.mem_cons_of_mem label member)

/-- The kid was absent from the document of a refresh, it is so again, and no document
in between listed it. -/
def Corroborated
    (backend : Backend)
    (jwksUri kid : String)
    (start : System)
    (before : List Label)
    (label : Label) : Prop :=
  Machine.Since (step backend)
      (fun system label => lacksKid backend jwksUri kid system label = true)
      (fun system label => listsKid backend jwksUri kid system label = false) start before ∧
    lacksKid backend jwksUri kid (run backend start before) label = true

instance
    (backend : Backend)
    (jwksUri kid : String)
    (start : System)
    (before : List Label)
    (label : Label) :
    Decidable (Corroborated backend jwksUri kid start before label) :=
  inferInstanceAs (Decidable (_ ∧ _))

/-- In every run without capacity pressure, and in which no listing of the kid is
overlooked, the kid is evicted on two corroborated absences only, and cold fetches
count none. -/
theorem evictions_corroborated_of_not_overlooksKid
    (backend : Backend)
    (minRefreshS : Int)
    (maxEntries : Nat)
    (jwksUri kid : String)
    (labels : List Label)
    (printableUri : '\n' ∉ jwksUri.toList)
    (printable : '\n' ∉ kid.toList)
    (printableCalls : ∀ label ∈ labels, Printable label)
    (fits : Machine.AllSteps (step backend)
      (fun system label => system.cache.Fits (stepOperations backend system label))
      (initial minRefreshS maxEntries) labels)
    (heeds : Machine.AllSteps (step backend)
      (fun system label => overlooksKid backend jwksUri kid system label = false)
      (initial minRefreshS maxEntries) labels)
    (before after : List Label)
    (label : Label)
    (split : labels = before ++ label :: after) :
    (removesKid backend jwksUri kid (run backend (initial minRefreshS maxEntries) before)
        label = true →
      Corroborated backend jwksUri kid (initial minRefreshS maxEntries) before label) ∧
    (isCold (run backend (initial minRefreshS maxEntries) before) label = true →
      Unmarked (cacheKey jwksUri kid)
        (run backend (initial minRefreshS maxEntries) before).cache
        (run backend (initial minRefreshS maxEntries) (before ++ [label])).cache) := by
  have guarded : Machine.AllSteps (step backend)
      (fun system label => Sound backend system ∧
        system.cache.Fits (stepOperations backend system label) ∧
        overlooksKid backend jwksUri kid system label = false)
      (initial minRefreshS maxEntries) labels := by
    rw [Machine.allSteps_iff_forall_split] at fits heeds ⊢
    intro front next back split
    refine ⟨run_sound (initial_sound minRefreshS maxEntries) fun earlier member => ?_,
      fits front next back split, heeds front next back split⟩
    rw [split] at printableCalls
    exact printableCalls earlier (List.mem_append_left _ member)
  rw [split] at guarded
  obtain ⟨guardedBefore, ⟨sound, fitsNow, heedsNow⟩, -⟩ :=
    (Machine.allSteps_append (step backend)).mp guarded
  refine ⟨fun removes => ?_, fun cold => ?_⟩
  · obtain ⟨lacks, counted⟩ :=
      (step_absence sound printable printableUri fitsNow heedsNow).removes removes
    refine ⟨Machine.since_of_tracks (step backend)
      (fun system => Counted (cacheKey jwksUri kid) system.cache) ?_ guardedBefore ?_ counted,
      lacks⟩
    · rintro system label ⟨sound, fits, heeds⟩ counted
      exact (step_absence sound printable printableUri fits heeds).counts counted
    · rintro ⟨hit, impossible, -⟩
      cases impossible
  · rw [run, Machine.run_append]
    exact step_unmarked_of_isCold sound printable printableUri fitsNow cold

/-- Documents with kid `a`, without it, and with a key for it that cannot be used. -/
def flakyDocuments : List (String × List Json) :=
  [("listed", [sampleKey "a" "AQ", sampleKey "b" "AQ"]),
    ("lacking", [sampleKey "b" "AQ"]),
    ("unusable", [sampleKey "a" "BA", sampleKey "b" "AQ"])]

/-- The sample issuer with these documents. -/
def flakyBackend : Backend :=
  { sampleBackend with
    parseJson := fun body => (flakyDocuments.lookup body).map fun keys =>
      .object [("keys", .array keys)] }

/-- Kid `a` is cached and then refreshed, for tokens that its key did not sign, with
one document after the other.  The last response is still awaited. -/
def flakyRun (documents : List String) : List Label :=
  .begin (sampleCall "a-old" 1000) :: .resume 0 (sampleResponse "listed") .stored ::
    (documents.zipIdx.flatMap fun document =>
      [.begin (sampleCall "a-new" (1400 + 400 * document.2)),
        .resume (document.2 + 1) (sampleResponse document.1) .stored]) ++
    [.begin (sampleCall "a-new" (1400 + 400 * documents.length))]

/-- Kid `a` is evicted although the document between the two that lack it lists it. -/
theorem evicts_uncorroborated :
    Machine.AllSteps (step flakyBackend)
        (fun system label => system.cache.Fits (stepOperations flakyBackend system label))
        (initial 300 1000) (flakyRun ["lacking", "unusable"] ++
          [.resume 3 (sampleResponse "lacking") .stored]) ∧
      removesKid flakyBackend sampleUri "a"
        (run flakyBackend (initial 300 1000) (flakyRun ["lacking", "unusable"]))
        (.resume 3 (sampleResponse "lacking") .stored) = true ∧
      ¬Corroborated flakyBackend sampleUri "a" (initial 300 1000)
        (flakyRun ["lacking", "unusable"])
        (.resume 3 (sampleResponse "lacking") .stored) := by
  decide

/-- Where the unusable key comes first, the eviction is corroborated. -/
theorem evictions_corroborated_sample :
    Corroborated flakyBackend sampleUri "a" (initial 300 1000)
      (flakyRun ["unusable", "lacking"])
      (.resume 3 (sampleResponse "lacking") .stored) :=
  (evictions_corroborated_of_not_overlooksKid flakyBackend 300 1000 sampleUri "a" _
    (by decide) (by decide) (by decide) (by decide) (by decide) _ [] _ rfl).1 (by decide)

end System
end Validator
end QuackOauth
