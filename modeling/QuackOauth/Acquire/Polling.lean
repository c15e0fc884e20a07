import QuackOauth.Acquire.Origin

/-!
# Polling for a device authorization

A device login polls the token endpoint until its user has decided.  Each slow-down
lengthens the interval by five seconds, nothing shortens it, and there is no poll after the
deadline; so a call that sleeps as long as it means to polls a bounded number of times.
-/

namespace QuackOauth
namespace Acquire

open Lib Jwt Secret
open Validator (Response)

namespace Client

variable {State Event : Type} {platform : Platform State Event} {start : State}
variable {labels : List (Label Event)} {client : Client State} {label : Label Event}
variable {number : Nat} {flow : Flow} {stage : Stage}
variable {auth : DeviceAuthorizationResponse} {intervalS deadlineMs : Int}

/-! ## The polls of a call -/

/-- The stage of a call on its way. -/
def stageOf (client : Client State) (number : Nat) : Option Stage :=
  (client.flows.lookup number).map Flow.stage

/-- A check that lets a call poll: when it is made, and how long the call then sleeps. -/
def pollAt
    (number : Nat)
    (client : Client State)
    (label : Label Event) : Option (Int × Int) :=
  match label, client.stageOf number with
  | .deadline checked nowMs, some (.waiting _ _ intervalS deadlineMs) =>
      if checked = number ∧ nowMs < deadlineMs then some (nowMs, intervalS) else none
  | _, _ => none

/-- An answer that slows a call down. -/
def slowDownAt
    (platform : Platform State Event)
    (number : Nat)
    (client : Client State)
    (label : Label Event) : Option Unit :=
  match label, client.stageOf number with
  | .pollResponse answered response _, some (.polling accessor auth _ _) =>
      if answered = number ∧ pollOutcome platform accessor auth response = .slowDown then
        some ()
      else none
  | _, _ => none

/-- The polls of a call, in order. -/
def polls
    (platform : Platform State Event)
    (start : State)
    (labels : List (Label Event))
    (number : Nat) : List (Int × Int) :=
  Machine.observations (step platform) (pollAt number) (initial start) labels

/-- How often a call was slowed down. -/
def slowDowns
    (platform : Platform State Event)
    (start : State)
    (labels : List (Label Event))
    (number : Nat) : Nat :=
  (Machine.observations (step platform) (slowDownAt platform number) (initial start)
    labels).length

/-- A poll is let through to a call that waits, before its deadline. -/
theorem pollAt_eq_some_iff {poll : Int × Int} :
    pollAt number client label = some poll ↔
      ∃ accessor auth deadlineMs, label = .deadline number poll.1 ∧
        client.stageOf number = some (.waiting accessor auth poll.2 deadlineMs) ∧
        poll.1 < deadlineMs := by
  obtain ⟨nowMs, intervalS⟩ := poll
  unfold pollAt
  constructor
  · intro polled
    split at polled
    · next checked time accessor auth interval deadlineMs isWaiting =>
        split at polled
        · next isOf =>
            cases polled
            obtain ⟨rfl, early⟩ := isOf
            exact ⟨accessor, auth, deadlineMs, rfl, isWaiting, early⟩
        · cases polled
    · cases polled
  · rintro ⟨accessor, auth, deadlineMs, rfl, isWaiting, early⟩
    rw [isWaiting]
    exact if_pos ⟨rfl, early⟩

/-- A slow-down is answered to a call that polls. -/
theorem slowDownAt_eq_some_iff :
    slowDownAt platform number client label = some () ↔
      ∃ response nowS accessor auth intervalS deadlineMs,
        label = .pollResponse number response nowS ∧
        client.stageOf number = some (.polling accessor auth intervalS deadlineMs) ∧
        pollOutcome platform accessor auth response = .slowDown := by
  unfold slowDownAt
  constructor
  · intro slowed
    split at slowed
    · next answered response nowS accessor auth intervalS deadlineMs isPolling =>
        split at slowed
        · next isOf =>
            obtain ⟨rfl, outcome⟩ := isOf
            exact ⟨response, nowS, accessor, auth, intervalS, deadlineMs, rfl, isPolling,
              outcome⟩
        · cases slowed
    · cases slowed
  · rintro ⟨response, nowS, accessor, auth, intervalS, deadlineMs, rfl, isPolling, outcome⟩
    rw [isPolling]
    exact if_pos ⟨rfl, outcome⟩

/-! ## The pace -/

/-- The pace of a call that holds a device authorization. -/
structure Paced
    (auth : DeviceAuthorizationResponse)
    (intervalS deadlineMs : Int)
    (polls : List (Int × Int))
    (slowDowns : Nat) : Prop where
  interval_eq : intervalS = baseInterval auth + 5 * slowDowns
  asked : ∀ poll ∈ polls, baseInterval auth ≤ poll.2 ∧ poll.2 ≤ intervalS
  early : ∀ poll ∈ polls, poll.1 < deadlineMs
  slower : polls.Pairwise fun earlier later => earlier.2 ≤ later.2

/-- What the polls of a call say about its stage. -/
def Tracks (stage : Stage) (polls : List (Int × Int)) (slowDowns : Nat) : Prop :=
  match stage with
  | .waiting _ auth intervalS deadlineMs | .polling _ auth intervalS deadlineMs =>
      Paced auth intervalS deadlineMs polls slowDowns
  | .rereading => True
  | .starting | .exchanging _ | .authorizing _ => polls = [] ∧ slowDowns = 0

theorem Paced.first
    (auth : DeviceAuthorizationResponse)
    (deadlineMs : Int) :
    Paced auth (baseInterval auth) deadlineMs [] 0 where
  interval_eq := by simp
  asked := by simp
  early := by simp
  slower := List.Pairwise.nil

theorem Paced.poll
    {polls : List (Int × Int)}
    {slowDowns : Nat}
    {nowMs : Int}
    (paced : Paced auth intervalS deadlineMs polls slowDowns)
    (early : nowMs < deadlineMs) :
    Paced auth intervalS deadlineMs (polls ++ [(nowMs, intervalS)]) slowDowns where
  interval_eq := paced.interval_eq
  asked := by
    intro poll member
    rcases List.mem_append.mp member with earlier | now
    · exact paced.asked poll earlier
    · obtain rfl := List.mem_singleton.mp now
      have interval_eq := paced.interval_eq
      exact ⟨by omega, le_refl _⟩
  early := by
    intro poll member
    rcases List.mem_append.mp member with earlier | now
    · exact paced.early poll earlier
    · obtain rfl := List.mem_singleton.mp now
      exact early
  slower := by
    refine List.pairwise_append.mpr ⟨paced.slower, List.pairwise_singleton _ _, ?_⟩
    intro earlier member later isLast
    obtain rfl := List.mem_singleton.mp isLast
    exact (paced.asked earlier member).2

theorem Paced.slowDown
    {polls : List (Int × Int)}
    {slowDowns : Nat}
    (paced : Paced auth intervalS deadlineMs polls slowDowns) :
    Paced auth (intervalS + 5) deadlineMs polls (slowDowns + 1) where
  interval_eq := by
    have interval_eq := paced.interval_eq
    omega
  asked := by
    intro poll member
    obtain ⟨base_le, le_interval⟩ := paced.asked poll member
    exact ⟨base_le, by omega⟩
  early := paced.early
  slower := paced.slower

/-- Steps of other calls are no polls of this one. -/
theorem quiet_of_other
    (platform : Platform State Event)
    (client : Client State)
    (isOther : flowOf label ≠ some number) :
    pollAt number client label = none ∧ slowDownAt platform number client label = none := by
  constructor
  · refine Option.eq_none_iff_forall_ne_some.mpr fun poll polled => ?_
    obtain ⟨_, _, _, rfl, -⟩ := pollAt_eq_some_iff.mp polled
    exact isOther rfl
  · refine Option.eq_none_iff_forall_ne_some.mpr fun _ slowed => ?_
    obtain ⟨_, _, _, _, _, _, rfl, -⟩ := slowDownAt_eq_some_iff.mp slowed
    exact isOther rfl

/-- A step that does not fit the stage of its call is no poll. -/
theorem quiet_of_stays
    {getSecretByName : String → Option SecretEntry}
    (isAt : client.stageOf number = some flow.stage)
    (made : advance platform getSecretByName flow label = .goesOn flow.stage) :
    pollAt number client label = none ∧ slowDownAt platform number client label = none := by
  constructor
  · refine Option.eq_none_iff_forall_ne_some.mpr fun poll polled => ?_
    obtain ⟨accessor, auth, deadlineMs, rfl, isWaiting, early⟩ :=
      pollAt_eq_some_iff.mp polled
    rw [isAt] at isWaiting
    have stage_eq := Option.some.inj isWaiting
    unfold advance at made
    rw [stage_eq] at made
    dsimp only at made
    unfold checkDeadline at made
    rw [if_pos early] at made
    cases made
  · refine Option.eq_none_iff_forall_ne_some.mpr fun _ slowed => ?_
    obtain ⟨response, nowS, accessor, auth, intervalS, deadlineMs, rfl, isPolling, outcome⟩ :=
      slowDownAt_eq_some_iff.mp slowed
    rw [isAt] at isPolling
    have stage_eq := Option.some.inj isPolling
    unfold advance at made
    rw [stage_eq] at made
    dsimp only at made
    unfold pollOutcome at outcome
    unfold finishPoll at made
    simp only [outcome] at made
    cases made

/-- The stages at which no answer to a poll is expected, and none is let through. -/
theorem quiet_of_stage
    (isAt : client.stageOf number = some stage)
    (noWait : ∀ accessor auth intervalS deadlineMs,
      stage ≠ .waiting accessor auth intervalS deadlineMs)
    (noPoll : ∀ accessor auth intervalS deadlineMs,
      stage ≠ .polling accessor auth intervalS deadlineMs) :
    pollAt number client label = none ∧ slowDownAt platform number client label = none := by
  constructor
  · refine Option.eq_none_iff_forall_ne_some.mpr fun poll polled => ?_
    obtain ⟨accessor, auth, deadlineMs, -, isWaiting, -⟩ := pollAt_eq_some_iff.mp polled
    exact noWait _ _ _ _ (Option.some.inj (isAt.symm.trans isWaiting))
  · refine Option.eq_none_iff_forall_ne_some.mpr fun _ slowed => ?_
    obtain ⟨_, _, _, _, _, _, -, isPolling, -⟩ := slowDownAt_eq_some_iff.mp slowed
    exact noPoll _ _ _ _ (Option.some.inj (isAt.symm.trans isPolling))

/-- A call begins before its first poll. -/
theorem tracks_of_beginFlow
    {getSecretByName : String → Option SecretEntry}
    {flowFn : FlowFn}
    {secretName : String}
    (begun : beginFlow getSecretByName flowFn secretName = .ok stage) :
    Tracks stage [] 0 := by
  cases begins_of_beginFlow begun with
  | login => exact ⟨rfl, rfl⟩
  | refresh => exact ⟨rfl, rfl⟩
  | deviceLogin => exact ⟨rfl, rfl⟩

/-- The polls of a call keep track of a step of it. -/
theorem tracks_of_goesOn
    {getSecretByName : String → Option SecretEntry}
    {polls : List (Int × Int)}
    {slowDowns : Nat}
    (isOf : flowOf label = some number)
    (isAt : client.stageOf number = some flow.stage)
    (made : advance platform getSecretByName flow label = .goesOn stage)
    (tracks : Tracks flow.stage polls slowDowns) :
    Tracks stage (polls ++ (pollAt number client label).toList)
      (slowDowns + (slowDownAt platform number client label).toList.length) := by
  have quiet {after : Stage} (isQuiet : pollAt number client label = none ∧
        slowDownAt platform number client label = none)
      (kept : Tracks after polls slowDowns) :
      Tracks after (polls ++ (pollAt number client label).toList)
        (slowDowns + (slowDownAt platform number client label).toList.length) := by
    rw [isQuiet.1, isQuiet.2]
    simpa using kept
  have advanced := advances platform getSecretByName flow label
  rw [made] at advanced
  cases advanced with
  | stays => exact quiet (quiet_of_stays isAt made) tracks
  | opens _ starting begun =>
      rw [starting] at isAt tracks
      obtain ⟨rfl, rfl⟩ := tracks
      exact quiet (quiet_of_stage isAt (by simp) (by simp)) (tracks_of_beginFlow begun)
  | authorized _ accessor response startMs auth asked =>
      rw [asked] at isAt tracks
      obtain ⟨rfl, rfl⟩ := tracks
      exact quiet (quiet_of_stage isAt (by simp) (by simp)) (Paced.first auth _)
  | polls checked accessor auth intervalS deadlineMs nowMs isWaiting checks early =>
      subst checks
      cases isOf
      rw [isWaiting] at isAt tracks
      have polled : pollAt number client (.deadline number nowMs : Label Event) =
          some (nowMs, intervalS) :=
        pollAt_eq_some_iff.mpr ⟨accessor, auth, deadlineMs, rfl, isAt, early⟩
      have unslowed : slowDownAt platform number client (.deadline number nowMs) = none :=
        rfl
      rw [polled, unslowed]
      exact Paced.poll tracks early
  | waits answered accessor auth intervalS laterS deadlineMs nowS response isPolling arrives
      later =>
      subst arrives
      cases isOf
      rw [isPolling] at isAt tracks
      have unpolled : pollAt number client
          (.pollResponse number response nowS : Label Event) = none := rfl
      rw [unpolled, Option.toList_none, List.append_nil]
      rcases later with ⟨pending, rfl⟩ | ⟨slowed, rfl⟩
      · have unslowed : slowDownAt platform number client
            (.pollResponse number response nowS) = none := by
          refine Option.eq_none_iff_forall_ne_some.mpr fun _ slowed => ?_
          obtain ⟨_, _, _, _, _, _, same, isAtPoll, outcome⟩ :=
            slowDownAt_eq_some_iff.mp slowed
          cases same
          cases isAt.symm.trans isAtPoll
          rw [pending] at outcome
          cases outcome
        rw [unslowed]
        exact tracks
      · have isSlowed : slowDownAt platform number client
            (.pollResponse number response nowS) = some () :=
          slowDownAt_eq_some_iff.mpr
            ⟨response, nowS, accessor, auth, intervalS, deadlineMs, rfl, isAt, slowed⟩
        rw [isSlowed]
        exact Paced.slowDown tracks

theorem polls_append_singleton :
    polls platform start (labels ++ [label]) number =
      polls platform start labels number ++
        (pollAt number (run platform (initial start) labels) label).toList :=
  Machine.observations_append_singleton _

theorem slowDowns_append_singleton :
    slowDowns platform start (labels ++ [label]) number =
      slowDowns platform start labels number +
        (slowDownAt platform number (run platform (initial start) labels)
          label).toList.length := by
  unfold slowDowns
  rw [Machine.observations_append_singleton, List.length_append]

/-- A call that has no number yet has not polled. -/
theorem polls_of_unnumbered
    (unnumbered : (run platform (initial start) labels).nextFlow ≤ number) :
    polls platform start labels number = [] ∧ slowDowns platform start labels number = 0 := by
  induction labels using List.reverseRecOn with
  | nil => exact ⟨rfl, rfl⟩
  | append_singleton labels label inductionHypothesis =>
      rw [run, Machine.run_append] at unnumbered
      have earlier : (run platform (initial start) labels).nextFlow + 1 ≤ number := unnumbered
      obtain ⟨noPolls, noSlowDowns⟩ := inductionHypothesis (Nat.le_of_succ_le earlier)
      have absent : (run platform (initial start) labels).stageOf number = none := by
        unfold stageOf
        rw [Option.map_eq_none_iff]
        refine Option.eq_none_iff_forall_ne_some.mpr fun flow onItsWay => ?_
        have used := numbered_run platform start labels number flow onItsWay
        omega
      have quiet : pollAt number (run platform (initial start) labels) label = none ∧
          slowDownAt platform number (run platform (initial start) labels) label = none := by
        unfold pollAt slowDownAt
        rw [absent]
        cases label <;> exact ⟨rfl, rfl⟩
      rw [polls_append_singleton, slowDowns_append_singleton, quiet.1, quiet.2, noPolls,
        noSlowDowns]
      exact ⟨rfl, rfl⟩

theorem tracks_run
    (onItsWay : (run platform (initial start) labels).flows.lookup number = some flow) :
    Tracks flow.stage (polls platform start labels number)
      (slowDowns platform start labels number) := by
  induction labels using List.reverseRecOn generalizing flow with
  | nil => cases onItsWay
  | append_singleton labels label inductionHypothesis =>
      rw [polls_append_singleton, slowDowns_append_singleton]
      rw [run, Machine.run_append] at onItsWay
      cases moves_step onItsWay with
      | stays _ isFound isOther =>
          have quiet := quiet_of_other platform (run platform (initial start) labels) isOther
          rw [quiet.1, quiet.2]
          simpa using inductionHypothesis isFound
      | called transaction flowFn secretName stage calls isNext begun =>
          obtain ⟨noPolls, noSlowDowns⟩ := polls_of_unnumbered (Nat.le_of_eq isNext.symm)
          subst calls
          rw [noPolls, noSlowDowns]
          exact tracks_of_beginFlow begun
      | acquired transaction flowFn secretName nowS renewSkewS acquires isNext =>
          obtain ⟨noPolls, noSlowDowns⟩ := polls_of_unnumbered (Nat.le_of_eq isNext.symm)
          subst acquires
          rw [noPolls, noSlowDowns]
          exact ⟨rfl, rfl⟩
      | persisted => trivial
      | advanced before stage progress =>
          obtain ⟨isOf, isFound, made⟩ := progressOf_eq_some_iff.mp progress
          exact tracks_of_goesOn isOf (congrArg (Option.map Flow.stage) isFound) made
            (inductionHypothesis isFound)

/-- The interval of a polling call is the one that was asked for and five seconds for each
slow-down; no poll was let through after the deadline, and none with a shorter interval
than an earlier one. -/
theorem polling_paced
    (platform : Platform State Event)
    (start : State)
    (labels : List (Label Event))
    (number : Nat)
    (flow : Flow)
    (accessor : SecretAccessor)
    (auth : DeviceAuthorizationResponse)
    (intervalS deadlineMs : Int)
    (onItsWay : (run platform (initial start) labels).flows.lookup number = some flow)
    (isPolling : flow.stage = .waiting accessor auth intervalS deadlineMs ∨
      flow.stage = .polling accessor auth intervalS deadlineMs) :
    Paced auth intervalS deadlineMs (polls platform start labels number)
        (slowDowns platform start labels number) ∧
      Machine.Occurs (step platform)
        (Authorizes platform number (accessor.get "device_authorization_endpoint") auth
          (deadlineMs - 1000 * lifetimeS auth)) (initial start) labels := by
  have tracks := tracks_run onItsWay
  rcases isPolling with isWaiting | isPolling
  · rw [isWaiting] at tracks
    exact ⟨tracks, authorized_of_polling onItsWay (congrArg authorizationAt isWaiting)⟩
  · rw [isPolling] at tracks
    exact ⟨tracks, authorized_of_polling onItsWay (congrArg authorizationAt isPolling)⟩

/-- A platform that reads an authorization and a slow-down. -/
def devicePlatform : Platform (UnorderedMap String SecretEntry) String where
  backend := {
    decode := fun _ => none
    parseJson := fun body =>
      if body = "\x7b\"device_code\":\"d\",\"user_code\":\"u\",\"verification_uri\":\"v\"\x7d"
      then some (.object [("device_code", .string "d"), ("user_code", .string "u"),
        ("verification_uri", .string "v")])
      else if body = "\x7b\"error\":\"slow_down\"\x7d" then
        some (.object [("error", .string "slow_down")])
      else none
    rsaFromData := fun _ _ => none
    ecFromData := fun _ _ => none
    rawPublicKey := fun _ _ => none
    verify := fun _ _ => .signatureError }
  formatEarly _ := ""
  secretManager := .sequential

/-- A secret of a public client. -/
def deviceSecret : KeyValueSecret where
  type := "quack_oauth"
  secretMap := ((AList.insert "token_endpoint" "https://idp.test/token" ∅).insert
    "client_id" "c").insert "device_authorization_endpoint" "https://idp.test/device"

/-- It is the only one. -/
def deviceSecrets : UnorderedMap String SecretEntry :=
  AList.insert "s" { secret := .keyValue deviceSecret } ∅

/-- The device login polls, is slowed down, and polls again. -/
def samplePolling : List (Label String) := [
  .call 1 .deviceLogin "s",
  .authorizationResponse 0 (some {
    statusCode := 200
    body := "\x7b\"device_code\":\"d\",\"user_code\":\"u\",\"verification_uri\":\"v\"\x7d" })
    1000,
  .deadline 0 1000,
  .pollResponse 0 (some {
    statusCode := 400
    body := "\x7b\"error\":\"slow_down\"\x7d" }) 6,
  .deadline 0 6000]

/-- The device secret, opened. -/
def deviceCopy : SecretAccessor where
  entry := some { secret := .keyValue deviceSecret }
  kv := some deviceSecret

/-- The sample authorization. -/
def sampleAuthorization : DeviceAuthorizationResponse where
  deviceCode := "d"
  userCode := "u"
  verificationUri := "v"

/-- The device login after its second check. -/
def deviceFlow : Flow where
  transaction := 1
  flowFn := .deviceLogin
  secretName := "s"
  stage := .polling deviceCopy sampleAuthorization 10 601000

theorem polling_paced_sample :
    Paced sampleAuthorization 10 601000 (polls devicePlatform deviceSecrets samplePolling 0)
        (slowDowns devicePlatform deviceSecrets samplePolling 0) ∧
      Machine.Occurs (step devicePlatform)
        (Authorizes devicePlatform 0 (deviceCopy.get "device_authorization_endpoint")
          sampleAuthorization (601000 - 1000 * lifetimeS sampleAuthorization))
        (initial deviceSecrets) samplePolling :=
  polling_paced devicePlatform deviceSecrets samplePolling 0 deviceFlow deviceCopy
    sampleAuthorization 10 601000 (by rfl) (.inr rfl)

/-! ## How often a call polls -/

/-- A call sleeps before it polls again. -/
def Sleeps (polls : List (Int × Int)) : Prop :=
  polls.IsChain fun earlier later => earlier.1 + 1000 * earlier.2 ≤ later.1

instance : DecidablePred Sleeps := fun polls =>
  inferInstanceAs (Decidable (polls.IsChain _))

/-- Polls that keep their distance do not fit into a time more often. -/
theorem lt_of_sleeps
    {first : Int × Int}
    {rest : List (Int × Int)}
    {base startMs : Int}
    (sleeps : Sleeps (first :: rest))
    (asked : ∀ poll ∈ first :: rest, base ≤ poll.2)
    (early : ∀ poll ∈ first :: rest, poll.1 < deadlineMs)
    (begins : startMs ≤ first.1) :
    startMs + 1000 * (base * rest.length) < deadlineMs := by
  induction rest generalizing first startMs with
  | nil =>
      have firstEarly := early first List.mem_cons_self
      rw [List.length_nil]
      omega
  | cons second rest inductionHypothesis =>
      obtain ⟨apart, sleeps⟩ := List.isChain_cons_cons.mp sleeps
      have base_le := asked first List.mem_cons_self
      have later := inductionHypothesis sleeps
        (fun poll member => asked poll (List.mem_cons_of_mem _ member))
        (fun poll member => early poll (List.mem_cons_of_mem _ member)) apart
      rw [List.length_cons]
      push_cast
      rw [mul_add, mul_one]
      omega

/-- A call that sleeps as long as it means to polls no more often than the lifetime of its
authorization has intervals, and once more. -/
theorem polls_bounded
    (platform : Platform State Event)
    (start : State)
    (labels : List (Label Event))
    (number : Nat)
    (flow : Flow)
    (accessor : SecretAccessor)
    (auth : DeviceAuthorizationResponse)
    (intervalS deadlineMs : Int)
    (onItsWay : (run platform (initial start) labels).flows.lookup number = some flow)
    (isPolling : flow.stage = .waiting accessor auth intervalS deadlineMs ∨
      flow.stage = .polling accessor auth intervalS deadlineMs)
    (sleeps : Sleeps (polls platform start labels number))
    (begins : ∀ first ∈ (polls platform start labels number).head?,
      deadlineMs - 1000 * lifetimeS auth ≤ first.1) :
    baseInterval auth * ((polls platform start labels number).length - 1) <
      lifetimeS auth := by
  have tracks := tracks_run onItsWay
  have paced : Paced auth intervalS deadlineMs (polls platform start labels number)
      (slowDowns platform start labels number) := by
    rcases isPolling with isWaiting | isPolling
    · rw [isWaiting] at tracks
      exact tracks
    · rw [isPolling] at tracks
      exact tracks
  cases made : polls platform start labels number with
  | nil =>
      have positive := baseInterval_pos auth
      have lasting := lifetimeS_pos auth
      rw [List.length_nil]
      push_cast
      omega
  | cons first rest =>
      rw [made] at sleeps begins paced
      have within := lt_of_sleeps sleeps (fun poll member => (paced.asked poll member).1)
        paced.early (begins first rfl)
      rw [List.length_cons]
      push_cast
      rw [add_sub_cancel_right]
      omega

theorem polls_bounded_sample :
    baseInterval sampleAuthorization *
        ((polls devicePlatform deviceSecrets samplePolling 0).length - 1) <
      lifetimeS sampleAuthorization :=
  polls_bounded devicePlatform deviceSecrets samplePolling 0 deviceFlow deviceCopy
    sampleAuthorization 10 601000 (by rfl) (.inr rfl)
    (show Sleeps [(1000, 5), (6000, 10)] by decide)
    (by
      intro first isFirst
      cases isFirst
      decide)

end Client
end Acquire
end QuackOauth
