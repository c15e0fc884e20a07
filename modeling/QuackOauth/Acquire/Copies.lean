import QuackOauth.Acquire.Client
import QuackOauth.Lib.Component
import QuackOauth.Lib.Fallible

/-!
# Secrets and copies of secrets

Whatever is stored under a name, and whatever copy a call on that name holds, goes back to
a secret that the user gave, by logouts and by tokens written back.  So what holds of the
user's secrets, and survives both, holds throughout every run.
-/

namespace QuackOauth
namespace Acquire

open Lib Jwt Secret
open Validator (Response)

/-- The copy that a call holds at a stage. -/
def Stage.copy : Stage → Option SecretAccessor
  | .exchanging accessor | .authorizing accessor
  | .waiting accessor _ _ _ | .polling accessor _ _ _ => some accessor
  | .starting | .rereading => none

/-- The interval that a device authorization asks for, in seconds. -/
def baseInterval (auth : DeviceAuthorizationResponse) : Int :=
  if auth.interval > 0 then auth.interval else 5

/-- How long a device authorization lasts, in seconds. -/
def lifetimeS (auth : DeviceAuthorizationResponse) : Int :=
  if auth.expiresIn > 0 then auth.expiresIn else 600

theorem baseInterval_pos (auth : DeviceAuthorizationResponse) : 0 < baseInterval auth := by
  unfold baseInterval
  split <;> omega

theorem lifetimeS_pos (auth : DeviceAuthorizationResponse) : 0 < lifetimeS auth := by
  unfold lifetimeS
  split <;> omega

namespace Client

variable {State Event : Type} {platform : Platform State Event} {client : Client State}
variable {label : Label Event} {number : Nat} {flow : Flow} {accessor : SecretAccessor}
variable {tokens : TokenResponse} {nowS : Int}
variable {getSecretByName : String → Option SecretEntry}

/-- The answer of a token endpoint that arrives in a step, and when. -/
def answerOf : Label Event → Option (Option Response × Int)
  | .tokenResponse _ response nowS => some (response, nowS)
  | .pollResponse _ response nowS => some (response, nowS)
  | _ => none

/-! ## What one call does -/

/-- How a call begins, with all that its requests need. -/
inductive Begins
    (getSecretByName : String → Option SecretEntry)
    (secretName : String) : FlowFn → Stage → Prop
  | login
      (accessor : SecretAccessor)
      (opens : openSecret getSecretByName secretName (some "quack_oauth")
        FlowFn.login.name = .ok accessor)
      (hasEndpoint : accessor.get "token_endpoint" ≠ "")
      (hasClient : ¬(accessor.get "client_id" = "" ∨ accessor.get "client_secret" = "")) :
      Begins getSecretByName secretName .login (.exchanging accessor)
  | refresh
      (accessor : SecretAccessor)
      (opens : openSecret getSecretByName secretName (some "quack_oauth")
        FlowFn.refresh.name = .ok accessor)
      (hasEndpoint : accessor.get "token_endpoint" ≠ "")
      (hasToken : accessor.get "refresh_token" ≠ "") :
      Begins getSecretByName secretName .refresh (.exchanging accessor)
  | deviceLogin
      (accessor : SecretAccessor)
      (opens : openSecret getSecretByName secretName (some "quack_oauth")
        FlowFn.deviceLogin.name = .ok accessor)
      (hasDeviceEndpoint : accessor.get "device_authorization_endpoint" ≠ "")
      (hasClient : ¬(accessor.get "token_endpoint" = "" ∨ accessor.get "client_id" = "")) :
      Begins getSecretByName secretName .deviceLogin (.authorizing accessor)

theorem begins_of_beginFlow
    {flowFn : FlowFn}
    {secretName : String}
    {stage : Stage}
    (begun : beginFlow getSecretByName flowFn secretName = .ok stage) :
    Begins getSecretByName secretName flowFn stage := by
  unfold beginFlow at begun
  obtain ⟨accessor, opens, begun⟩ := Fallible.bind_eq_ok_iff.mp begun
  cases flowFn with
  | login =>
      dsimp only at begun
      unfold beginLogin at begun
      split_ifs at begun with noEndpoint noClient
      cases begun
      exact .login accessor opens noEndpoint noClient
  | refresh =>
      dsimp only at begun
      unfold beginRefresh at begun
      split_ifs at begun with noEndpoint noToken
      cases begun
      exact .refresh accessor opens noEndpoint noToken
  | deviceLogin =>
      dsimp only at begun
      unfold beginDeviceLogin at begun
      split_ifs at begun with noEndpoint noClient
      cases begun
      exact .deviceLogin accessor opens noEndpoint noClient

/-- A call begins with a copy of its secret. -/
theorem copy_of_beginFlow
    {flowFn : FlowFn}
    {secretName : String}
    {stage : Stage}
    (begun : beginFlow getSecretByName flowFn secretName = .ok stage) :
    ∃ accessor, stage.copy = some accessor ∧
      openSecret getSecretByName secretName (some "quack_oauth") flowFn.name =
        .ok accessor := by
  cases begins_of_beginFlow begun with
  | login accessor opens => exact ⟨accessor, rfl, opens⟩
  | refresh accessor opens => exact ⟨accessor, rfl, opens⟩
  | deviceLogin accessor opens => exact ⟨accessor, rfl, opens⟩

theorem finishExchange_cases
    (flowFn : FlowFn)
    (held : SecretAccessor)
    (response : Option Response)
    (answeredS : Int) :
    (∃ tokens, tokensOf platform.backend response = some tokens ∧
      finishExchange platform.backend flowFn held response answeredS =
        .persists held tokens answeredS) ∨
    ∃ failure, finishExchange platform.backend flowFn held response answeredS =
      .returns (.error failure) := by
  unfold finishExchange
  cases read : tokensOf platform.backend response with
  | some tokens => exact .inl ⟨tokens, rfl, rfl⟩
  | none => cases flowFn <;> exact .inr ⟨_, rfl⟩

/-- The outcome of a poll, for a call that holds a copy. -/
def pollOutcome
    (platform : Platform State Event)
    (held : SecretAccessor)
    (auth : DeviceAuthorizationResponse)
    (response : Option Response) : DevicePollOutcome :=
  (pollDeviceTokenEndpoint platform.backend (held.get "token_endpoint")
    (held.get "client_id") auth.deviceCode response).outcome

theorem finishPoll_cases
    (held : SecretAccessor)
    (auth : DeviceAuthorizationResponse)
    (intervalS deadlineMs answeredS : Int)
    (response : Option Response) :
    (∃ tokens, (pollDeviceTokenEndpoint platform.backend (held.get "token_endpoint")
          (held.get "client_id") auth.deviceCode response).tokens = some tokens ∧
      finishPoll platform.backend held auth intervalS deadlineMs response answeredS =
        .persists held tokens answeredS) ∨
    (∃ laterS, (pollOutcome platform held auth response = .pending ∧ laterS = intervalS ∨
        pollOutcome platform held auth response = .slowDown ∧ laterS = intervalS + 5) ∧
      finishPoll platform.backend held auth intervalS deadlineMs response answeredS =
        .goesOn (.waiting held auth laterS deadlineMs)) ∨
    ∃ failure, finishPoll platform.backend held auth intervalS deadlineMs response answeredS =
      .returns (.error failure) := by
  unfold finishPoll pollOutcome
  dsimp only
  cases outcome : (pollDeviceTokenEndpoint platform.backend (held.get "token_endpoint")
      (held.get "client_id") auth.deviceCode response).outcome with
  | pending => exact .inr (.inl ⟨intervalS, .inl ⟨rfl, rfl⟩, rfl⟩)
  | slowDown => exact .inr (.inl ⟨intervalS + 5, .inr ⟨rfl, rfl⟩, rfl⟩)
  | success =>
      cases polled : (pollDeviceTokenEndpoint platform.backend (held.get "token_endpoint")
          (held.get "client_id") auth.deviceCode response).tokens with
      | none => exact .inr (.inr ⟨_, rfl⟩)
      | some tokens => exact .inl ⟨tokens, rfl, rfl⟩
  | denied => exact .inr (.inr ⟨_, rfl⟩)
  | expired => exact .inr (.inr ⟨_, rfl⟩)
  | error => exact .inr (.inr ⟨_, rfl⟩)

/-- What a step can do to a call. -/
inductive Advances
    (platform : Platform State Event)
    (getSecretByName : String → Option SecretEntry)
    (flow : Flow)
    (label : Label Event) : Progress → Prop
  /-- The step is none of the call's. -/
  | stays : Advances platform getSecretByName flow label (.goesOn flow.stage)
  | opens
      (stage : Stage)
      (starting : flow.stage = .starting)
      (begun : beginFlow getSecretByName flow.flowFn flow.secretName = .ok stage) :
      Advances platform getSecretByName flow label (.goesOn stage)
  | authorized
      (number : Nat)
      (accessor : SecretAccessor)
      (response : Option Response)
      (startMs : Int)
      (auth : DeviceAuthorizationResponse)
      (asked : flow.stage = .authorizing accessor)
      (arrives : label = .authorizationResponse number response startMs)
      (read : authorizationOf platform.backend response = some auth) :
      Advances platform getSecretByName flow label
        (.goesOn (.waiting accessor auth (if auth.interval > 0 then auth.interval else 5)
          (startMs + 1000 * if auth.expiresIn > 0 then auth.expiresIn else 600)))
  | polls
      (number : Nat)
      (accessor : SecretAccessor)
      (auth : DeviceAuthorizationResponse)
      (intervalS deadlineMs nowMs : Int)
      (isWaiting : flow.stage = .waiting accessor auth intervalS deadlineMs)
      (checks : label = .deadline number nowMs)
      (early : nowMs < deadlineMs) :
      Advances platform getSecretByName flow label
        (.goesOn (.polling accessor auth intervalS deadlineMs))
  | waits
      (number : Nat)
      (accessor : SecretAccessor)
      (auth : DeviceAuthorizationResponse)
      (intervalS laterS deadlineMs answeredS : Int)
      (response : Option Response)
      (isPolling : flow.stage = .polling accessor auth intervalS deadlineMs)
      (arrives : label = .pollResponse number response answeredS)
      (later : pollOutcome platform accessor auth response = .pending ∧ laterS = intervalS ∨
        pollOutcome platform accessor auth response = .slowDown ∧ laterS = intervalS + 5) :
      Advances platform getSecretByName flow label
        (.goesOn (.waiting accessor auth laterS deadlineMs))
  | exchanged
      (accessor : SecretAccessor)
      (tokens : TokenResponse)
      (nowS : Int)
      (response : Option Response)
      (asked : flow.stage = .exchanging accessor)
      (answered : answerOf label = some (response, nowS))
      (read : tokensOf platform.backend response = some tokens) :
      Advances platform getSecretByName flow label (.persists accessor tokens nowS)
  | polled
      (accessor : SecretAccessor)
      (auth : DeviceAuthorizationResponse)
      (intervalS deadlineMs : Int)
      (tokens : TokenResponse)
      (nowS : Int)
      (response : Option Response)
      (isPolling : flow.stage = .polling accessor auth intervalS deadlineMs)
      (answered : answerOf label = some (response, nowS))
      (read : (pollDeviceTokenEndpoint platform.backend (accessor.get "token_endpoint")
        (accessor.get "client_id") auth.deviceCode response).tokens = some tokens) :
      Advances platform getSecretByName flow label (.persists accessor tokens nowS)
  | returns (failure : Failure) :
      Advances platform getSecretByName flow label (.returns (.error failure))
  | rereads
      (result : Except Failure String)
      (isReread : flow.stage = .rereading)
      (found : result = reread getSecretByName flow.flowFn flow.secretName) :
      Advances platform getSecretByName flow label (.returns result)

theorem advances
    (platform : Platform State Event)
    (getSecretByName : String → Option SecretEntry)
    (flow : Flow)
    (label : Label Event) :
    Advances platform getSecretByName flow label
      (advance platform getSecretByName flow label) := by
  unfold advance
  split
  · next starting =>
      cases begun : beginFlow getSecretByName flow.flowFn flow.secretName with
      | error failure => exact .returns failure
      | ok stage => exact .opens stage starting begun
  · next response nowS accessor asked =>
      rcases finishExchange_cases flow.flowFn accessor response nowS
        with ⟨tokens, read, finished⟩ | ⟨failure, finished⟩
      · rw [finished]
        exact .exchanged accessor tokens nowS response asked rfl read
      · rw [finished]
        exact .returns failure
  · next number response startMs accessor asked =>
      unfold finishAuthorization
      cases read : authorizationOf platform.backend response with
      | none => exact .returns _
      | some auth => exact .authorized number accessor response startMs auth asked rfl read
  · next number nowMs accessor auth intervalS deadlineMs isWaiting =>
      unfold checkDeadline
      split
      · next early =>
          exact .polls number accessor auth intervalS deadlineMs nowMs isWaiting rfl early
      · exact .returns _
  · next number response nowS accessor auth intervalS deadlineMs isPolling =>
      rcases finishPoll_cases accessor auth intervalS deadlineMs nowS
        response with ⟨tokens, read, polled⟩ | ⟨laterS, later, polled⟩ | ⟨failure, polled⟩
      · rw [polled]
        exact .polled accessor auth intervalS deadlineMs tokens nowS response isPolling rfl
          read
      · rw [polled]
        exact .waits number accessor auth intervalS laterS deadlineMs nowS response isPolling
          rfl later
      · rw [polled]
        exact .returns failure
  · next isReread => exact .rereads _ isReread rfl
  · exact .stays

/-- Tokens are written back on the copy that the call holds, and come from a response. -/
theorem answered_of_persists
    (made : advance platform getSecretByName flow label = .persists accessor tokens nowS) :
    flow.stage.copy = some accessor ∧ ∃ response, answerOf label = some (response, nowS) ∧
      tokensOf platform.backend response = some tokens := by
  have advanced := advances platform getSecretByName flow label
  rw [made] at advanced
  cases advanced with
  | exchanged _ _ _ response asked answered read =>
      exact ⟨by rw [asked]; rfl, response, answered, read⟩
  | polled _ auth intervalS deadlineMs _ _ response isPolling answered read =>
      exact ⟨by rw [isPolling]; rfl, response, answered, tokensOf_of_poll read⟩

/-! ## What a step does -/

theorem progressOf_eq_some_iff {made : Progress} :
    client.progressOf platform label = some (number, flow, made) ↔
      flowOf label = some number ∧ client.flows.lookup number = some flow ∧
        advance platform (client.found platform flow.transaction) flow label = made := by
  unfold progressOf
  constructor
  · intro progress
    split at progress
    · cases progress
    · next moved isOf =>
        obtain ⟨found, isFound, made_eq⟩ := Option.map_eq_some_iff.mp progress
        cases made_eq
        exact ⟨isOf, isFound, rfl⟩
  · rintro ⟨isOf, isFound, rfl⟩
    rw [isOf]
    dsimp only
    rw [isFound]
    rfl

/-- Where a secret comes from that can be found under a name after a step. -/
inductive Stores
    (platform : Platform State Event)
    (client : Client State)
    (label : Label Event)
    (secretName : String) : SecretEntry → Prop
  | stays
      (entry : SecretEntry)
      (canFind : platform.secretManager.CanFind client.secrets secretName entry) :
      Stores platform client label secretName entry
  | created
      (transaction : Nat)
      (entry : SecretEntry)
      (creates : label = .createSecret transaction secretName entry) :
      Stores platform client label secretName entry
  | loggedOut
      (transaction : Nat)
      (entry : SecretEntry)
      (kv : KeyValueSecret)
      (logsOut : label = .logout transaction secretName)
      (found : client.found platform transaction secretName = some entry)
      (secret_eq : entry.secret = .keyValue kv) :
      Stores platform client label secretName
        { entry with secret := .keyValue (withoutTokenFields kv) }
  | persisted
      (number : Nat)
      (flow : Flow)
      (entry : SecretEntry)
      (kv : KeyValueSecret)
      (tokens : TokenResponse)
      (nowS : Int)
      (name_eq : flow.secretName = secretName)
      (progress : client.progressOf platform label =
        some (number, flow, .persists { entry := some entry, kv := some kv } tokens nowS)) :
      Stores platform client label secretName
        { entry with secret := .keyValue (withTokenFields kv tokens.accessToken
          (isoOf platform (nowS + tokens.expiresIn))
          (persistedRefreshToken flow.flowFn tokens)) }

/-- What can be found where tokens were persisted. -/
theorem stores_of_writeBack
    {secretName : String}
    {entry : SecretEntry}
    {after : State}
    (findsRegistered : platform.secretManager.FindsRegistered)
    (progress : client.progressOf platform label =
      some (number, flow, .persists accessor tokens nowS))
    (written : client.writeBack platform flow accessor tokens nowS = .ok after)
    (canFind : platform.secretManager.CanFind after secretName entry) :
    Stores platform client label secretName entry := by
  unfold writeBack SecretManager.persistTokenFields at written
  split at written
  · next opened kv isOpened isKv =>
      obtain ⟨heldEntry, heldKv⟩ := accessor
      cases isOpened
      cases isKv
      rcases findsRegistered _ _ _ _ _ _ _ written canFind with before | ⟨same, rfl⟩
      · exact .stays entry before
      · exact .persisted number flow opened kv tokens nowS same.symm progress
  · cases written
    exact .stays entry canFind

theorem stores_step
    {secretName : String}
    {entry : SecretEntry}
    (findsRegistered : platform.secretManager.FindsRegistered)
    (canFind : platform.secretManager.CanFind (step platform client label).secrets secretName
      entry) :
    Stores platform client label secretName entry := by
  change platform.secretManager.CanFind (client.secretsAfter platform label) secretName entry
    at canFind
  unfold secretsAfter at canFind
  dsimp only at canFind
  split at canFind
  · exact .stays entry canFind
  · next after changes =>
      split at changes
      · next transaction name =>
          obtain ⟨old, kv, opened, registered⟩ := SecretManager.doLogout_ok changes
          rcases findsRegistered _ _ _ _ _ _ _ registered canFind with before | ⟨rfl, rfl⟩
          · exact .stays entry before
          · exact .loggedOut transaction old kv rfl opened.found opened.secret_eq
      · next transaction name created =>
          rcases findsRegistered _ _ _ _ _ _ _ changes canFind with before | ⟨rfl, rfl⟩
          · exact .stays entry before
          · exact .created transaction _ rfl
      · cases changes
        exact .stays entry (SecretManager.canFind_of_happen canFind)
      · split at changes
        · next number flow accessor tokens nowS progress =>
            exact stores_of_writeBack findsRegistered progress changes canFind
        · cases changes
          exact .stays entry canFind

/-- Where a call comes from that is on its way after a step. -/
inductive Moves
    (platform : Platform State Event)
    (client : Client State)
    (label : Label Event)
    (number : Nat) : Flow → Prop
  | stays
      (flow : Flow)
      (onItsWay : client.flows.lookup number = some flow)
      (isOther : flowOf label ≠ some number) :
      Moves platform client label number flow
  | called
      (transaction : Nat)
      (flowFn : FlowFn)
      (secretName : String)
      (stage : Stage)
      (calls : label = .call transaction flowFn secretName)
      (isNext : number = client.nextFlow)
      (begun : beginFlow (client.found platform transaction) flowFn secretName = .ok stage) :
      Moves platform client label number { transaction, flowFn, secretName, stage }
  | acquired
      (transaction : Nat)
      (flowFn : FlowFn)
      (secretName : String)
      (nowS renewSkewS : Int)
      (acquires : label = .acquire transaction secretName nowS renewSkewS)
      (isNext : number = client.nextFlow)
      (begun : beginAcquire (client.found platform transaction) secretName nowS renewSkewS =
        .runs flowFn) :
      Moves platform client label number
        { transaction, flowFn, secretName, forAcquire := true, stage := .starting }
  | advanced
      (flow : Flow)
      (stage : Stage)
      (progress : client.progressOf platform label = some (number, flow, .goesOn stage)) :
      Moves platform client label number { flow with stage }
  | persisted
      (flow : Flow)
      (accessor : SecretAccessor)
      (tokens : TokenResponse)
      (nowS : Int)
      (secrets : State)
      (acquires : flow.forAcquire = true)
      (progress : client.progressOf platform label =
        some (number, flow, .persists accessor tokens nowS))
      (written : client.writeBack platform flow accessor tokens nowS = .ok secrets) :
      Moves platform client label number { flow with stage := .rereading }

theorem moves_step
    {after : Flow}
    (onItsWay : (step platform client label).flows.lookup number = some after) :
    Moves platform client label number after := by
  change (client.flowsAfter platform label).lookup number = some after at onItsWay
  unfold flowsAfter at onItsWay
  split at onItsWay
  · next transaction flowFn secretName =>
      split at onItsWay
      · exact .stays after onItsWay (by simp [flowOf])
      · next stage begun =>
          rw [UnorderedMap.lookup_insert_eq_ite] at onItsWay
          split at onItsWay
          · next isNext =>
              cases onItsWay
              exact .called transaction flowFn secretName stage rfl isNext begun
          · exact .stays after onItsWay (by simp [flowOf])
  · next transaction secretName nowS renewSkewS =>
      split at onItsWay
      · exact .stays after onItsWay (by simp [flowOf])
      · next flowFn begun =>
          rw [UnorderedMap.lookup_insert_eq_ite] at onItsWay
          split at onItsWay
          · next isNext =>
              cases onItsWay
              exact .acquired transaction flowFn secretName nowS renewSkewS rfl isNext begun
          · exact .stays after onItsWay (by simp [flowOf])
  · have other {moved : Nat} {flow : Flow} {made : Progress}
        (progress : client.progressOf platform label = some (moved, flow, made))
        (different : number ≠ moved) : flowOf label ≠ some number := by
      obtain ⟨isOf, -, -⟩ := progressOf_eq_some_iff.mp progress
      rw [isOf]
      exact fun same => different (Option.some.inj same).symm
    have ended {moved : Nat} {flow : Flow} {made : Progress}
        (progress : client.progressOf platform label = some (moved, flow, made))
        (left : (client.flows.erase moved).lookup number = some after) :
        Moves platform client label number after := by
      rw [UnorderedMap.lookup_erase_eq_ite] at left
      split at left
      · cases left
      · next different => exact .stays after left (other progress different)
    split at onItsWay
    · next unmoved =>
        refine .stays after onItsWay fun isOf => ?_
        rw [progressOf_eq_some_iff.mpr ⟨isOf, onItsWay, rfl⟩] at unmoved
        cases unmoved
    · next moved flow stage progress =>
        rw [UnorderedMap.lookup_insert_eq_ite] at onItsWay
        split at onItsWay
        · next same =>
            subst same
            cases onItsWay
            exact .advanced flow stage progress
        · next different => exact .stays after onItsWay (other progress different)
    · next moved flow held tokens nowS progress =>
        split at onItsWay
        · exact ended progress onItsWay
        · next secrets written =>
            split at onItsWay
            · next acquires =>
                rw [UnorderedMap.lookup_insert_eq_ite] at onItsWay
                split at onItsWay
                · next same =>
                    subst same
                    cases onItsWay
                    exact .persisted flow held tokens nowS secrets acquires progress written
                · next different => exact .stays after onItsWay (other progress different)
            · exact ended progress onItsWay
    · next moved flow result progress => exact ended progress onItsWay

/-- Numbers of calls are given out in order. -/
def Numbered (client : Client State) : Prop :=
  ∀ number flow, client.flows.lookup number = some flow → number < client.nextFlow

theorem numbered_step
    (numbered : Numbered client) :
    Numbered (step platform client label) := by
  intro number flow onItsWay
  change number < client.nextFlow + 1
  cases moves_step onItsWay with
  | stays _ isFound => exact Nat.lt_succ_of_lt (numbered number flow isFound)
  | called _ _ _ _ _ isNext => omega
  | acquired _ _ _ _ _ _ isNext => omega
  | advanced before _ progress =>
      obtain ⟨-, isFound, -⟩ := progressOf_eq_some_iff.mp progress
      exact Nat.lt_succ_of_lt (numbered number before isFound)
  | persisted before _ _ _ _ _ progress =>
      obtain ⟨-, isFound, -⟩ := progressOf_eq_some_iff.mp progress
      exact Nat.lt_succ_of_lt (numbered number before isFound)

theorem numbered_run
    (platform : Platform State Event)
    (start : State)
    (labels : List (Label Event)) :
    Numbered (run platform (initial start) labels) := by
  apply Machine.run_invariant (step platform) (fun client label => numbered_step) labels
  intro number flow onItsWay
  cases onItsWay

/-- Only a start goes on from the stage before the secret is opened. -/
theorem label_of_opens
    {stage : Stage}
    (starting : flow.stage = .starting)
    (goes : advance platform getSecretByName flow label = .goesOn stage)
    (copies : stage.copy = some accessor) :
    ∃ started, label = .start started := by
  unfold advance at goes
  rw [starting] at goes
  cases label with
  | start started => exact ⟨started, rfl⟩
  | _ =>
      cases goes
      cases copies

/-- A copy that a call holds after a step it held before, or the step is the one in which
the call opens its secret, and the copy is the secret as it was before. -/
theorem copy_step
    {after : Flow}
    (onItsWay : (step platform client label).flows.lookup number = some after)
    (copies : after.stage.copy = some accessor) :
    (∃ before, client.flows.lookup number = some before ∧
        before.transaction = after.transaction ∧ before.secretName = after.secretName ∧
        before.stage.copy = some accessor) ∨
      (label = .start number ∨ number = client.nextFlow ∧
          ∃ flowFn, label = .call after.transaction flowFn after.secretName) ∧
        ∃ fnName, openSecret (client.found platform after.transaction) after.secretName
          (some "quack_oauth") fnName = .ok accessor := by
  cases moves_step onItsWay with
  | stays _ earlier => exact .inl ⟨after, earlier, rfl, rfl, copies⟩
  | called transaction flowFn secretName stage calls isNext begun =>
      obtain ⟨opened, copies', opens⟩ := copy_of_beginFlow begun
      obtain rfl := Option.some.inj (copies'.symm.trans copies)
      exact .inr ⟨.inr ⟨isNext, flowFn, calls⟩, _, opens⟩
  | acquired => cases copies
  | persisted => cases copies
  | advanced flow stage progress =>
      obtain ⟨isOf, isFound, made⟩ := progressOf_eq_some_iff.mp progress
      have advanced := advances platform (client.found platform flow.transaction) flow label
      rw [made] at advanced
      cases advanced with
      | stays => exact .inl ⟨flow, isFound, rfl, rfl, copies⟩
      | opens _ starting begun =>
          obtain ⟨started, rfl⟩ := label_of_opens starting made copies
          cases isOf
          obtain ⟨opened, copies', opens⟩ := copy_of_beginFlow begun
          obtain rfl := Option.some.inj (copies'.symm.trans copies)
          exact .inr ⟨.inl rfl, _, opens⟩
      | authorized _ _ _ _ _ asked =>
          exact .inl ⟨flow, isFound, rfl, rfl, by rw [asked]; exact copies⟩
      | polls _ _ _ _ _ _ isWaiting =>
          exact .inl ⟨flow, isFound, rfl, rfl, by rw [isWaiting]; exact copies⟩
      | waits _ _ _ _ _ _ _ _ isPolling =>
          exact .inl ⟨flow, isFound, rfl, rfl, by rw [isPolling]; exact copies⟩

end Client
end Acquire
end QuackOauth
