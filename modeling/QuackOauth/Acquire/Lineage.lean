import QuackOauth.Acquire.Copies

/-!
# Where secrets come from

What a name holds, and what a call on it has copied, goes back to one secret that a user
gave under that name.  All but the tokens is as the user gave it, and the tokens are the
user's or were issued by the token endpoint of that very secret.
-/

namespace QuackOauth
namespace Acquire

open Lib Jwt Secret
open Requests (PostRequestBytes)
open Validator (Response)

/-- The fields that logins and logouts change. -/
def tokenFields : List String :=
  ["access_token", "refresh_token", "expires_at"]

/-- The value of a field, or the empty string. -/
def valueOf (kv : KeyValueSecret) (field : String) : String :=
  (kv.secretMap.lookup field).getD ""

/-- What a secret holds after tokens are written on it. -/
theorem lookup_withTokenFields
    (kv : KeyValueSecret)
    (accessToken expiresAtIso8601 refreshToken field : String) :
    (withTokenFields kv accessToken expiresAtIso8601 refreshToken).secretMap.lookup field =
      if field = "refresh_token" ∧ refreshToken ≠ "" then some refreshToken
      else if field = "expires_at" then some expiresAtIso8601
      else if field = "access_token" then some accessToken
      else kv.secretMap.lookup field := by
  unfold withTokenFields
  by_cases unrotated : refreshToken = ""
  · simp only [unrotated, if_true, ne_eq, not_true, and_false, if_false,
      UnorderedMap.lookup_insert_eq_ite]
  · simp only [unrotated, if_false, ne_eq, not_false_eq_true, and_true,
      UnorderedMap.lookup_insert_eq_ite]

/-- What a secret holds after its tokens are taken off. -/
theorem lookup_withoutTokenFields
    (kv : KeyValueSecret)
    (field : String) :
    (withoutTokenFields kv).secretMap.lookup field =
      if field ∈ tokenFields then none else kv.secretMap.lookup field := by
  unfold withoutTokenFields tokenFields
  simp only [UnorderedMap.lookup_erase_eq_ite, List.mem_cons, List.not_mem_nil, or_false]
  split_ifs <;> simp_all

/-- The access token of a secret and its expiry, as they are stored. -/
def accessTokenOf (kv : KeyValueSecret) : Option String × Option String :=
  (kv.secretMap.lookup "access_token", kv.secretMap.lookup "expires_at")

theorem accessTokenOf_withTokenFields
    (kv : KeyValueSecret)
    (accessToken expiresAtIso8601 refreshToken : String) :
    accessTokenOf (withTokenFields kv accessToken expiresAtIso8601 refreshToken) =
      (some accessToken, some expiresAtIso8601) := by
  unfold accessTokenOf
  simp [lookup_withTokenFields]

theorem accessTokenOf_withoutTokenFields (kv : KeyValueSecret) :
    accessTokenOf (withoutTokenFields kv) = (none, none) := by
  unfold accessTokenOf
  rw [lookup_withoutTokenFields, lookup_withoutTokenFields, if_pos (by decide),
    if_pos (by decide)]

/-- The refresh token stays, or it is the new one. -/
theorem refreshToken_withTokenFields
    (kv : KeyValueSecret)
    (accessToken expiresAtIso8601 : String)
    (flowFn : FlowFn)
    (tokens : TokenResponse) :
    (withTokenFields kv accessToken expiresAtIso8601
        (persistedRefreshToken flowFn tokens)).secretMap.lookup "refresh_token" =
      kv.secretMap.lookup "refresh_token" ∨
    (withTokenFields kv accessToken expiresAtIso8601
        (persistedRefreshToken flowFn tokens)).secretMap.lookup "refresh_token" =
      some tokens.refreshToken := by
  rw [lookup_withTokenFields]
  by_cases unrotated : persistedRefreshToken flowFn tokens = ""
  · exact .inl (by simp [unrotated])
  · rw [if_pos ⟨rfl, unrotated⟩]
    cases flowFn with
    | login => exact absurd rfl unrotated
    | refresh => exact .inr rfl
    | deviceLogin => exact .inr rfl

namespace Client

variable {State Event : Type} {platform : Platform State Event} {client : Client State}
variable {label : Label Event} {number : Nat} {flow : Flow} {accessor : SecretAccessor}
variable {tokens : TokenResponse} {nowS : Int} {secretName : String} {entry : SecretEntry}
variable {kv : KeyValueSecret}

/-! ## What is held under a name -/

/-- A key-value secret that can be found under a name, or was copied by a call on it. -/
inductive Held
    (platform : Platform State Event)
    (client : Client State)
    (secretName : String)
    (entry : SecretEntry)
    (kv : KeyValueSecret) : Prop
  | stored
      (canFind : platform.secretManager.CanFind client.secrets secretName entry)
      (secret_eq : entry.secret = .keyValue kv) :
      Held platform client secretName entry kv
  | copied
      (number : Nat)
      (flow : Flow)
      (onItsWay : client.flows.lookup number = some flow)
      (name_eq : flow.secretName = secretName)
      (copies : flow.stage.copy = some { entry := some entry, kv := some kv }) :
      Held platform client secretName entry kv

/-- What is held after a step. -/
inductive Arises
    (platform : Platform State Event)
    (client : Client State)
    (label : Label Event)
    (secretName : String) : SecretEntry → KeyValueSecret → Prop
  | held
      (entry : SecretEntry)
      (kv : KeyValueSecret)
      (before : Held platform client secretName entry kv) :
      Arises platform client label secretName entry kv
  | created
      (entry : SecretEntry)
      (kv : KeyValueSecret)
      (transaction : Nat)
      (creates : label = .createSecret transaction secretName entry)
      (secret_eq : entry.secret = .keyValue kv) :
      Arises platform client label secretName entry kv
  | loggedOut
      (entry : SecretEntry)
      (kv : KeyValueSecret)
      (before : Held platform client secretName entry kv) :
      Arises platform client label secretName
        { entry with secret := .keyValue (withoutTokenFields kv) } (withoutTokenFields kv)
  | persisted
      (number : Nat)
      (flow : Flow)
      (entry : SecretEntry)
      (kv : KeyValueSecret)
      (tokens : TokenResponse)
      (nowS : Int)
      (name_eq : flow.secretName = secretName)
      (before : Held platform client secretName entry kv)
      (progress : client.progressOf platform label =
        some (number, flow, .persists { entry := some entry, kv := some kv } tokens nowS)) :
      Arises platform client label secretName
        { entry with secret := .keyValue (withTokenFields kv tokens.accessToken
          (isoOf platform (nowS + tokens.expiresIn))
          (persistedRefreshToken flow.flowFn tokens)) }
        (withTokenFields kv tokens.accessToken (isoOf platform (nowS + tokens.expiresIn))
          (persistedRefreshToken flow.flowFn tokens))

/-- Who writes back a copy holds it. -/
theorem held_of_progress
    (progress : client.progressOf platform label =
      some (number, flow, .persists { entry := some entry, kv := some kv } tokens nowS)) :
    Held platform client flow.secretName entry kv := by
  obtain ⟨-, onItsWay, made⟩ := progressOf_eq_some_iff.mp progress
  obtain ⟨copies, -⟩ := answered_of_persists made
  exact .copied number flow onItsWay rfl copies

theorem arises_of_held
    (findsRegistered : platform.secretManager.FindsRegistered)
    (held : Held platform (step platform client label) secretName entry kv) :
    Arises platform client label secretName entry kv := by
  cases held with
  | stored canFind secret_eq =>
      cases stores_step findsRegistered canFind with
      | stays _ before => exact .held entry kv (.stored before secret_eq)
      | created transaction _ creates => exact .created entry kv transaction creates secret_eq
      | loggedOut transaction before old _ found old_eq =>
          cases secret_eq
          exact .loggedOut before old (.stored (SecretManager.canFind_of_found found) old_eq)
      | persisted number flow before old tokens nowS name_eq progress =>
          cases secret_eq
          have held := held_of_progress progress
          rw [name_eq] at held
          exact .persisted number flow before old tokens nowS name_eq held progress
  | copied number flow onItsWay name_eq copies =>
      rcases copy_step onItsWay copies
        with ⟨before, found, _, sameName, copied⟩ | ⟨_, _, opens⟩
      · exact .held entry kv (.copied number before found (sameName.trans name_eq) copied)
      · obtain ⟨stored, old, opened⟩ := opened_of_openSecret opens
        cases opened.accessor_eq
        rw [name_eq] at opened
        exact .held entry kv
          (.stored (SecretManager.canFind_of_found opened.found) opened.secret_eq)

/-- Each copy is one of an opened secret. -/
def Copied (client : Client State) : Prop :=
  ∀ number flow accessor, client.flows.lookup number = some flow →
    flow.stage.copy = some accessor →
      ∃ entry kv, accessor = { entry := some entry, kv := some kv }

theorem copied_step
    (copied : Copied client) :
    Copied (step platform client label) := by
  intro number flow accessor onItsWay copies
  rcases copy_step onItsWay copies with ⟨before, found, _, _, copies⟩ | ⟨_, _, opens⟩
  · exact copied number before accessor found copies
  · obtain ⟨entry, kv, opened⟩ := opened_of_openSecret opens
    exact ⟨entry, kv, opened.accessor_eq⟩

theorem copied_run
    (platform : Platform State Event)
    (start : State)
    (labels : List (Label Event)) :
    Copied (run platform (initial start) labels) := by
  apply Machine.run_invariant (step platform) (fun client label => copied_step) labels
  intro number flow accessor onItsWay
  cases onItsWay

/-- What holds of everything held at the start and everything created, and lasts through
logouts and tokens written back, holds of everything held in a run. -/
theorem held_run
    {start : Client State}
    (findsRegistered : platform.secretManager.FindsRegistered)
    (holds : List (Label Event) → String → SecretEntry → KeyValueSecret → Prop)
    (lasts : ∀ labels label secretName entry kv,
      holds labels secretName entry kv → holds (labels ++ [label]) secretName entry kv)
    (initially : ∀ secretName entry kv,
      Held platform start secretName entry kv → holds [] secretName entry kv)
    (created : ∀ labels transaction secretName entry kv, entry.secret = .keyValue kv →
      holds (labels ++ [.createSecret transaction secretName entry]) secretName entry kv)
    (loggedOut : ∀ labels label secretName entry kv, holds labels secretName entry kv →
      holds (labels ++ [label]) secretName
        { entry with secret := .keyValue (withoutTokenFields kv) } (withoutTokenFields kv))
    (persisted : ∀ labels label number flow entry kv tokens nowS,
      holds labels flow.secretName entry kv →
      (run platform start labels).progressOf platform label =
        some (number, flow, .persists { entry := some entry, kv := some kv } tokens nowS) →
      holds (labels ++ [label]) flow.secretName
        { entry with secret := .keyValue (withTokenFields kv tokens.accessToken
          (isoOf platform (nowS + tokens.expiresIn))
          (persistedRefreshToken flow.flowFn tokens)) }
        (withTokenFields kv tokens.accessToken (isoOf platform (nowS + tokens.expiresIn))
          (persistedRefreshToken flow.flowFn tokens)))
    (labels : List (Label Event))
    (held : Held platform (run platform start labels) secretName entry kv) :
    holds labels secretName entry kv := by
  induction labels using List.reverseRecOn generalizing secretName entry kv with
  | nil => exact initially secretName entry kv held
  | append_singleton labels label inductionHypothesis =>
      rw [run, Machine.run_append] at held
      cases arises_of_held findsRegistered held with
      | held _ _ before => exact lasts _ _ _ _ _ (inductionHypothesis before)
      | created _ _ transaction creates secret_eq =>
          subst creates
          exact created labels transaction secretName entry kv secret_eq
      | loggedOut old oldKv before => exact loggedOut _ _ _ _ _ (inductionHypothesis before)
      | persisted number flow old oldKv tokens nowS name_eq before progress =>
          subst name_eq
          exact persisted _ _ _ _ _ _ _ _ (inductionHypothesis before) progress

/-! ## What calls ask -/

/-- The endpoint that a call asks first. -/
def firstEndpoint : Stage → Option String
  | .exchanging accessor => some (accessor.get "token_endpoint")
  | .authorizing accessor => some (accessor.get "device_authorization_endpoint")
  | _ => none

/-- A call begins only with all that its first request needs. -/
theorem request_of_beginFlow
    {getSecretByName : String → Option SecretEntry}
    {endpoint : String}
    (begun : beginFlow getSecretByName flow.flowFn flow.secretName = .ok flow.stage)
    (first : firstEndpoint flow.stage = some endpoint) :
    ∃ request, flow.request = some request ∧ request.url = bytesOf endpoint := by
  obtain ⟨transaction, flowFn, secretName, forAcquire, stage⟩ := flow
  cases begins_of_beginFlow begun with
  | login accessor _ hasEndpoint hasClient =>
      cases first
      unfold Flow.request exchangeRequest Requests.acquireTokenClientCredentials
      simp only [bytesOf_eq_nil_iff]
      rw [if_neg (not_or_intro hasEndpoint fun empty => hasClient (.inl empty))]
      exact ⟨_, rfl, rfl⟩
  | refresh accessor _ hasEndpoint hasToken =>
      cases first
      unfold Flow.request exchangeRequest Requests.acquireTokenRefreshToken
      simp only [bytesOf_eq_nil_iff]
      rw [if_neg (not_or_intro hasEndpoint hasToken)]
      exact ⟨_, rfl, rfl⟩
  | deviceLogin accessor _ hasDeviceEndpoint hasClient =>
      cases first
      unfold Flow.request Requests.requestDeviceAuthorization
      simp only [bytesOf_eq_nil_iff]
      rw [if_neg (not_or_intro hasDeviceEndpoint fun empty => hasClient (.inr empty))]
      exact ⟨_, rfl, rfl⟩

/-- A poll that brings tokens was sent. -/
theorem request_of_poll
    {auth : DeviceAuthorizationResponse}
    {intervalS deadlineMs : Int}
    {response : Option Response}
    (isPolling : flow.stage = .polling accessor auth intervalS deadlineMs)
    (read : (pollDeviceTokenEndpoint platform.backend (accessor.get "token_endpoint")
      (accessor.get "client_id") auth.deviceCode response).tokens = some tokens) :
    ∃ request, flow.request = some request ∧
      request.url = bytesOf (accessor.get "token_endpoint") := by
  unfold pollDeviceTokenEndpoint at read
  split at read
  · cases read
  · next complete =>
      unfold Flow.request
      rw [isPolling]
      unfold Requests.pollDeviceTokenEndpoint
      simp only [bytesOf_eq_nil_iff]
      rw [if_neg complete]
      exact ⟨_, rfl, rfl⟩

/-- Each call that has just begun has a request out. -/
def Asking (client : Client State) : Prop :=
  ∀ number flow endpoint, client.flows.lookup number = some flow →
    firstEndpoint flow.stage = some endpoint →
      ∃ request, flow.request = some request ∧ request.url = bytesOf endpoint

theorem asking_step
    (asking : Asking client) :
    Asking (step platform client label) := by
  intro number after endpoint onItsWay first
  cases moves_step onItsWay with
  | stays _ earlier => exact asking number after endpoint earlier first
  | called transaction flowFn secretName stage _ _ begun =>
      exact request_of_beginFlow begun first
  | acquired => cases first
  | persisted => cases first
  | advanced flow stage progress =>
      obtain ⟨-, isFound, made⟩ := progressOf_eq_some_iff.mp progress
      have advanced := advances platform (client.found platform flow.transaction) flow label
      rw [made] at advanced
      cases advanced with
      | stays => exact asking number flow endpoint isFound first
      | opens _ starting begun => exact request_of_beginFlow begun first
      | authorized => cases first
      | polls => cases first
      | waits => cases first

theorem asking_run
    (platform : Platform State Event)
    (start : State)
    (labels : List (Label Event)) :
    Asking (run platform (initial start) labels) := by
  apply Machine.run_invariant (step platform) (fun client label => asking_step) labels
  intro number flow endpoint onItsWay
  cases onItsWay

/-- A call on a name takes tokens from the answer to a request to an endpoint. -/
inductive Issues
    (platform : Platform State Event)
    (secretName endpoint : String)
    (tokens : TokenResponse)
    (nowS : Int)
    (client : Client State)
    (label : Label Event) : Prop
  | answered
      (number : Nat)
      (flow : Flow)
      (accessor : SecretAccessor)
      (request : PostRequestBytes)
      (response : Option Response)
      (name_eq : flow.secretName = secretName)
      (asked : flow.request = some request)
      (url_eq : request.url = bytesOf endpoint)
      (arrives : answerOf label = some (response, nowS))
      (read : tokensOf platform.backend response = some tokens)
      (takes : client.progressOf platform label =
        some (number, flow, .persists accessor tokens nowS)) :
      Issues platform secretName endpoint tokens nowS client label

/-- Tokens are written back only where they were issued. -/
theorem issues_of_progress
    (asking : Asking client)
    (progress : client.progressOf platform label =
      some (number, flow, .persists accessor tokens nowS)) :
    Issues platform flow.secretName (accessor.get "token_endpoint") tokens nowS client
      label := by
  obtain ⟨-, onItsWay, made⟩ := progressOf_eq_some_iff.mp progress
  have advanced := advances platform (client.found platform flow.transaction) flow label
  rw [made] at advanced
  cases advanced with
  | exchanged _ _ _ response exchanges answered read =>
      obtain ⟨request, asked, url_eq⟩ := asking number flow _ onItsWay
        (congrArg firstEndpoint exchanges)
      exact .answered number flow accessor request response rfl asked url_eq answered read
        progress
  | polled _ auth intervalS deadlineMs _ _ response isPolling answered read =>
      obtain ⟨request, asked, url_eq⟩ := request_of_poll isPolling read
      exact .answered number flow accessor request response rfl asked url_eq answered
        (tokensOf_of_poll read) progress

end Client
end Acquire
end QuackOauth
