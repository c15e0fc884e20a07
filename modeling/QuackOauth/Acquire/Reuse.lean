import QuackOauth.Acquire.WriteBack

/-!
# Using a token until it expires

The expiry of a token is written as a text and read back when the next token is asked for.
Between them nothing is lost up to the year 9999: who finds the secret as it was written
back is handed the token out exactly up to its expiry less the time by which tokens are
renewed early, and from then on the secret is enough to get the next one.
-/

namespace QuackOauth
namespace Acquire

open Lib Calendar Jwt Secret

/-! ## Times as texts -/

/-- The text of a time is ASCII. -/
theorem ascii_isoText
    {dt : DateTime}
    {c : UInt8}
    (exists' : dt.Exists)
    (year_lt : dt.year < 10000)
    (member : c ∈ isoText dt) :
    c.toNat < 128 := by
  obtain ⟨-, month_le, -, day_le, hour_lt, minute_lt, second_lt⟩ := exists'
  have day_le := Nat.le_trans day_le (monthLength_le _ _)
  have digits {number : Nat} (small : number < 100) (isDigit : c ∈ twoDigits number) :
      c.toNat < 128 := by
    have bounds := of_decide_eq_true (isDigit_of_mem_twoDigits small isDigit)
    omega
  unfold isoText fourDigits at member
  simp only [List.mem_append, List.mem_cons, List.not_mem_nil, or_false] at member
  rcases member with (high | low) | rfl | month | rfl | day | rfl | hour | rfl | minute |
    rfl | second | rfl
  · exact digits (by omega) high
  · exact digits (by omega) low
  · decide
  · exact digits (by omega) month
  · decide
  · exact digits (by omega) day
  · decide
  · exact digits (by omega) hour
  · decide
  · exact digits (by omega) minute
  · decide
  · exact digits (by omega) second
  · decide

/-- ASCII bytes are those of the string that they spell. -/
theorem bytesOf_ofList_ascii
    {text : List UInt8}
    (ascii : ∀ c ∈ text, c.toNat < 128) :
    bytesOf (String.ofList (text.map fun c => Char.ofNat c.toNat)) = text := by
  rw [bytesOf_ofList, List.flatMap_map]
  induction text with
  | nil => rfl
  | cons c text inductionHypothesis =>
      have isByte := Requests.utf8EncodeChar_ofNat c.toNat (ascii c List.mem_cons_self)
      rw [List.flatMap_cons, inductionHypothesis fun d member =>
        ascii d (List.mem_cons_of_mem _ member)]
      rw [isByte, UInt8.ofNat_toNat, List.singleton_append]

/-- A time that is written on a secret is read back from it. -/
theorem parse_isoOf
    {State Event : Type}
    (platform : Platform State Event)
    {unixSeconds : Int}
    (positive : 0 < unixSeconds)
    (within : unixSeconds < 253402300800) :
    parseIso8601ToUnixSeconds (bytesOf (isoOf platform unixSeconds)) = unixSeconds := by
  obtain ⟨t, rfl⟩ := Int.eq_ofNat_of_zero_le (Int.le_of_lt positive)
  have exists' := exists_ofUnixTime t
  have year_lt := year_ofUnixTime_lt (t := t) (by omega)
  have later := year_ofUnixTime_ge t
  have counted : DaysCounted (ofUnixTime t).year := .inl (by omega)
  change parseIso8601ToUnixSeconds (bytesOf (String.ofList
    ((formatUtcIso8601 t).map fun c => Char.ofNat c.toNat))) = t
  rw [formatUtcIso8601_eq (by omega),
    bytesOf_ofList_ascii fun c => ascii_isoText exists' year_lt,
    parse_isoText exists' year_lt, (seconds_tmOf_eq_iff exists').mpr counted,
    unixTime_ofUnixTime]

namespace Client

variable {State Event : Type} {platform : Platform State Event} {client : Client State}
variable {label : Label Event} {number : Nat} {flow : Flow} {tokens : TokenResponse}
variable {nowS : Int} {secretName : String} {entry : SecretEntry} {kv : KeyValueSecret}
variable {getSecretByName : String → Option SecretEntry}

/-! ## What a call needs -/

/-- The copy of a call has what the call needs. -/
structure Equipped (flow : Flow) (kv : KeyValueSecret) : Prop where
  type_eq : kv.type = "quack_oauth"
  name_ne : flow.secretName ≠ ""
  hasEndpoint : valueOf kv "token_endpoint" ≠ ""
  hasCredentials : match flow.flowFn with
    | .refresh => valueOf kv "refresh_token" ≠ ""
    | .login => valueOf kv "client_id" ≠ "" ∧ valueOf kv "client_secret" ≠ ""
    | .deviceLogin => valueOf kv "client_id" ≠ "" ∧
        valueOf kv "device_authorization_endpoint" ≠ ""

theorem equipped_of_beginFlow
    {entry : SecretEntry}
    (begun : beginFlow getSecretByName flow.flowFn flow.secretName = .ok flow.stage)
    (copies : flow.stage.copy = some { entry := some entry, kv := some kv }) :
    Equipped flow kv := by
  obtain ⟨transaction, flowFn, secretName, forAcquire, stage⟩ := flow
  cases begins_of_beginFlow begun with
  | login accessor opens hasEndpoint hasClient =>
      cases copies
      obtain ⟨entry, kv, opened⟩ := opened_of_openSecret opens
      cases opened.accessor_eq
      obtain ⟨hasId, hasSecret⟩ := not_or.mp hasClient
      exact ⟨opened.type_eq _ rfl, opened.name_ne, hasEndpoint, hasId, hasSecret⟩
  | refresh accessor opens hasEndpoint hasToken =>
      cases copies
      obtain ⟨entry, kv, opened⟩ := opened_of_openSecret opens
      cases opened.accessor_eq
      exact ⟨opened.type_eq _ rfl, opened.name_ne, hasEndpoint, hasToken⟩
  | deviceLogin accessor opens hasDeviceEndpoint hasClient =>
      cases copies
      obtain ⟨entry, kv, opened⟩ := opened_of_openSecret opens
      cases opened.accessor_eq
      obtain ⟨hasEndpoint, hasId⟩ := not_or.mp hasClient
      exact ⟨opened.type_eq _ rfl, opened.name_ne, hasEndpoint, hasId, hasDeviceEndpoint⟩

/-- Every call with a copy is equipped. -/
def AllEquipped (client : Client State) : Prop :=
  ∀ number flow entry kv, client.flows.lookup number = some flow →
    flow.stage.copy = some { entry := some entry, kv := some kv } → Equipped flow kv

theorem allEquipped_step
    (equipped : AllEquipped client) :
    AllEquipped (step platform client label) := by
  intro number after entry kv onItsWay copies
  cases moves_step onItsWay with
  | stays _ isFound => exact equipped number after entry kv isFound copies
  | called transaction flowFn secretName stage _ _ begun => exact equipped_of_beginFlow begun copies
  | acquired => cases copies
  | persisted => cases copies
  | advanced flow stage progress =>
      obtain ⟨-, isFound, made⟩ := progressOf_eq_some_iff.mp progress
      have kept (copied : flow.stage.copy = some { entry := some entry, kv := some kv }) :
          Equipped { flow with stage } kv := by
        obtain ⟨type_eq, name_ne, hasEndpoint, hasCredentials⟩ :=
          equipped number flow entry kv isFound copied
        exact ⟨type_eq, name_ne, hasEndpoint, hasCredentials⟩
      have advanced := advances platform (client.found platform flow.transaction) flow label
      rw [made] at advanced
      cases advanced with
      | stays => exact kept copies
      | opens _ starting begun => exact equipped_of_beginFlow begun copies
      | authorized _ _ _ _ _ asked => exact kept (by rw [asked]; exact copies)
      | polls _ _ _ _ _ _ isWaiting => exact kept (by rw [isWaiting]; exact copies)
      | waits _ _ _ _ _ _ _ _ isPolling => exact kept (by rw [isPolling]; exact copies)

theorem allEquipped_run
    (platform : Platform State Event)
    (start : State)
    (labels : List (Label Event)) :
    AllEquipped (run platform (initial start) labels) := by
  apply Machine.run_invariant (step platform) (fun client label => allEquipped_step) labels
  intro number flow entry kv onItsWay
  cases onItsWay

/-! ## The next acquisition -/

/-- What an acquisition sees of a secret. -/
def viewOf (kv : KeyValueSecret) : ClientSecretView where
  accessToken := valueOf kv "access_token"
  expiresAtUnixS := parseIso8601ToUnixSeconds (bytesOf (valueOf kv "expires_at"))
  refreshToken := valueOf kv "refresh_token"
  clientId := valueOf kv "client_id"
  clientSecret := valueOf kv "client_secret"
  tokenEndpoint := valueOf kv "token_endpoint"
  deviceAuthorizationEndpoint := valueOf kv "device_authorization_endpoint"
  scope := valueOf kv "scope"

/-- The error for a secret that no flow can use. -/
def unconfigured (secretName : String) : Failure :=
  .invalidInput ("quack_oauth_acquire: SECRET '" ++ secretName ++ "' is " ++
    acquireFlowName .unconfigured ++ ". " ++
    ("SECRET has no usable credentials: need either a fresh access_token, " ++
      "or refresh_token + token_endpoint + client_id, " ++
      "or client_id + client_secret + token_endpoint, " ++
      "or client_id + token_endpoint + device_authorization_endpoint"))

/-- How a secret gets its next token. -/
def renewalOf (secretName : String) (kv : KeyValueSecret) : Acquisition :=
  if valueOf kv "client_id" = "" then .returns (.error (unconfigured secretName))
  else if valueOf kv "refresh_token" ≠ "" then .runs .refresh
  else if valueOf kv "client_secret" ≠ "" then .runs .login
  else .runs .deviceLogin

/-- A secret of the right type is what the acquisition sees. -/
theorem loadClientSecretView_eq
    (found : getSecretByName secretName = some entry)
    (secret_eq : entry.secret = .keyValue kv)
    (type_eq : kv.type = "quack_oauth")
    (name_ne : secretName ≠ "") :
    loadClientSecretView getSecretByName secretName = .ok (viewOf kv) := by
  unfold loadClientSecretView openSecret
  rw [if_neg name_ne, found]
  dsimp only
  rw [secret_eq]
  dsimp only
  rw [if_neg (not_not.mpr type_eq)]
  rfl

/-- The choice of an acquisition for a secret that has been used before. -/
theorem beginAcquire_eq
    (nowS renewSkewS : Int)
    (found : getSecretByName secretName = some entry)
    (secret_eq : entry.secret = .keyValue kv)
    (type_eq : kv.type = "quack_oauth")
    (name_ne : secretName ≠ "")
    (hasEndpoint : valueOf kv "token_endpoint" ≠ "")
    (renewable : valueOf kv "refresh_token" ≠ "" ∨ valueOf kv "client_secret" ≠ "" ∨
      valueOf kv "device_authorization_endpoint" ≠ "") :
    beginAcquire getSecretByName secretName nowS renewSkewS =
      if accessTokenIsFresh (viewOf kv) nowS renewSkewS then
        .returns (.ok (valueOf kv "access_token"))
      else renewalOf secretName kv := by
  unfold beginAcquire
  rw [if_neg name_ne, loadClientSecretView_eq found secret_eq type_eq name_ne]
  dsimp only
  unfold decideAcquireFlow renewalOf
  by_cases fresh : accessTokenIsFresh (viewOf kv) nowS renewSkewS = true
  · rw [if_pos fresh, if_pos fresh]
    rfl
  · rw [if_neg fresh, if_neg fresh]
    have refreshes : canRefresh (viewOf kv) = true ↔
        valueOf kv "refresh_token" ≠ "" ∧ valueOf kv "client_id" ≠ "" := by
      unfold canRefresh viewOf
      simp only [Bool.and_eq_true, decide_eq_true_eq]
      tauto
    have logsIn : canClientCredentials (viewOf kv) = true ↔
        valueOf kv "client_id" ≠ "" ∧ valueOf kv "client_secret" ≠ "" := by
      unfold canClientCredentials viewOf
      simp only [Bool.and_eq_true, decide_eq_true_eq]
      tauto
    have authorizes : canDeviceCode (viewOf kv) = true ↔
        valueOf kv "client_id" ≠ "" ∧
          valueOf kv "device_authorization_endpoint" ≠ "" := by
      unfold canDeviceCode viewOf
      simp only [Bool.and_eq_true, decide_eq_true_eq]
      tauto
    by_cases unnamed : valueOf kv "client_id" = ""
    · rw [if_neg fun can => (refreshes.mp can).2 unnamed,
        if_neg fun can => (logsIn.mp can).1 unnamed,
        if_neg fun can => (authorizes.mp can).1 unnamed, if_pos unnamed]
      rfl
    · rw [if_neg unnamed]
      by_cases hasToken : valueOf kv "refresh_token" ≠ ""
      · rw [if_pos (refreshes.mpr ⟨hasToken, unnamed⟩), if_pos hasToken]
      · rw [if_neg fun can => hasToken (refreshes.mp can).1, if_neg hasToken]
        by_cases hasSecret : valueOf kv "client_secret" ≠ ""
        · rw [if_pos (logsIn.mpr ⟨unnamed, hasSecret⟩), if_pos hasSecret]
        · have hasDevice := (renewable.resolve_left hasToken).resolve_left hasSecret
          rw [if_neg fun can => hasSecret (logsIn.mp can).2, if_neg hasSecret,
            if_pos (authorizes.mpr ⟨unnamed, hasDevice⟩)]

/-- The fields that tokens leave alone read as before. -/
theorem valueOf_withTokenFields
    {accessToken expiresAtIso8601 refreshToken field : String}
    (isConfig : field ∉ tokenFields) :
    valueOf (withTokenFields kv accessToken expiresAtIso8601 refreshToken) field =
      valueOf kv field := by
  obtain ⟨noAccess, noRefresh, noExpiry⟩ : field ≠ "access_token" ∧
      field ≠ "refresh_token" ∧ field ≠ "expires_at" := by
    simpa [tokenFields] using isConfig
  unfold valueOf
  rw [lookup_withTokenFields, if_neg fun rotated => noRefresh rotated.1, if_neg noExpiry,
    if_neg noAccess]

/-- A refresh token is replaced, not dropped. -/
theorem refreshToken_ne_of_withTokenFields
    {accessToken expiresAtIso8601 refreshToken : String}
    (hasToken : valueOf kv "refresh_token" ≠ "") :
    valueOf (withTokenFields kv accessToken expiresAtIso8601 refreshToken)
      "refresh_token" ≠ "" := by
  unfold valueOf at hasToken ⊢
  rw [lookup_withTokenFields]
  by_cases rotated : refreshToken = ""
  · simpa [rotated] using hasToken
  · simp [rotated]

/-- A secret that has been used once can be used again. -/
theorem Equipped.renewable
    {accessToken expiresAtIso8601 refreshToken : String}
    (equipped : Equipped flow kv) :
    let after := withTokenFields kv accessToken expiresAtIso8601 refreshToken
    valueOf after "refresh_token" ≠ "" ∨ valueOf after "client_secret" ≠ "" ∨
      valueOf after "device_authorization_endpoint" ≠ "" := by
  intro after
  obtain ⟨-, -, -, hasCredentials⟩ := equipped
  cases isFlow : flow.flowFn with
  | refresh =>
      rw [isFlow] at hasCredentials
      exact .inl (refreshToken_ne_of_withTokenFields hasCredentials)
  | login =>
      rw [isFlow] at hasCredentials
      refine .inr (.inl ?_)
      rw [valueOf_withTokenFields (by decide)]
      exact hasCredentials.2
  | deviceLogin =>
      rw [isFlow] at hasCredentials
      refine .inr (.inr ?_)
      rw [valueOf_withTokenFields (by decide)]
      exact hasCredentials.2

/-- A token written back is fresh up to its expiry, less the time to renew it early. -/
theorem accessTokenIsFresh_withTokenFields
    {refreshToken : String}
    {expiry : Int}
    (hasToken : tokens.accessToken ≠ "")
    (positive : 0 < expiry)
    (within : expiry < 253402300800)
    (t renewSkewS : Int) :
    accessTokenIsFresh (viewOf (withTokenFields kv tokens.accessToken
        (isoOf platform expiry) refreshToken)) t renewSkewS = true ↔
      t + renewSkewS < expiry := by
  have isToken : valueOf (withTokenFields kv tokens.accessToken (isoOf platform expiry)
      refreshToken) "access_token" = tokens.accessToken := by
    unfold valueOf
    rw [lookup_withTokenFields]
    rfl
  have isExpiry : valueOf (withTokenFields kv tokens.accessToken (isoOf platform expiry)
      refreshToken) "expires_at" = isoOf platform expiry := by
    unfold valueOf
    rw [lookup_withTokenFields]
    rfl
  unfold accessTokenIsFresh viewOf
  dsimp only
  rw [isToken, isExpiry, parse_isoOf platform positive within, if_neg hasToken,
    if_neg (Int.not_le.mpr positive), decide_eq_true_iff]

/-- Once a call has written a token back that expires before the year 10000, an acquisition
whose transaction finds what was written hands that token out without asking anybody up to
its expiry, less the time to renew it early; from then on it runs the flow that the secret
allows. -/
theorem acquire_reuses
    (platform : Platform State Event)
    (start : State)
    (labels : List (Label Event))
    (label : Label Event)
    (number : Nat)
    (flow : Flow)
    (accessor : SecretAccessor)
    (tokens : TokenResponse)
    (nowS : Int)
    (secrets : State)
    (after : List (Label Event))
    (transaction : Nat)
    (t renewSkewS : Int)
    (findsOwn : platform.secretManager.FindsOwn)
    (progress : (run platform (initial start) labels).progressOf platform label =
      some (number, flow, .persists accessor tokens nowS))
    (written : (run platform (initial start) labels).writeBack platform flow accessor tokens
      nowS = .ok secrets)
    (findsWritten : (run platform (initial start) (labels ++ label :: after)).found platform
        transaction flow.secretName =
      (run platform (initial start) (labels ++ [label])).found platform flow.transaction
        flow.secretName)
    (positive : 0 < nowS + tokens.expiresIn)
    (within : nowS + tokens.expiresIn < 253402300800) :
    ∃ entry kv, accessor = { entry := some entry, kv := some kv } ∧
      beginAcquire ((run platform (initial start) (labels ++ label :: after)).found platform
          transaction) flow.secretName t renewSkewS =
        if t + renewSkewS < nowS + tokens.expiresIn then .returns (.ok tokens.accessToken)
        else renewalOf flow.secretName (withTokenFields kv tokens.accessToken
          (isoOf platform (nowS + tokens.expiresIn))
          (persistedRefreshToken flow.flowFn tokens)) := by
  obtain ⟨-, onItsWay, made⟩ := progressOf_eq_some_iff.mp progress
  obtain ⟨copies, response, -, read⟩ := answered_of_persists made
  obtain ⟨entry, kv, rfl⟩ := copied_run platform start labels number flow accessor onItsWay
    copies
  have equipped := allEquipped_run platform start labels number flow entry kv onItsWay copies
  have own := found_of_writeBack findsOwn progress written
  refine ⟨entry, kv, rfl, ?_⟩
  have runs : run platform (initial start) (labels ++ [label]) =
      step platform (run platform (initial start) labels) label := by
    rw [run, Machine.run_append]
    rfl
  rw [runs, own] at findsWritten
  rw [beginAcquire_eq t renewSkewS findsWritten rfl equipped.type_eq equipped.name_ne
    (by rw [valueOf_withTokenFields (by decide)]; exact equipped.hasEndpoint)
    equipped.renewable]
  simp only [accessTokenIsFresh_withTokenFields (accessToken_ne_of_tokensOf read) positive
    within]
  unfold valueOf
  rw [lookup_withTokenFields]
  rfl

/-- Another transaction is handed the sample token out a quarter of an hour later. -/
theorem acquire_reuses_sample :
    ∃ entry kv, sampleCopy = { entry := some entry, kv := some kv } ∧
      beginAcquire ((run samplePlatform (initial sampleSecrets)
          ([.call 1 .refresh "s"] ++ .tokenResponse 0 sampleAnswer 1000 ::
            [.createSecret 2 "t" { secret := .other }])).found samplePlatform 3) "s" 1900 60 =
        if (1900 + 60 : Int) < 1000 + 3600 then .returns (.ok "a")
        else renewalOf "s" (withTokenFields kv "a" (isoOf samplePlatform (1000 + 3600)) "") :=
  acquire_reuses samplePlatform sampleSecrets [.call 1 .refresh "s"]
    (.tokenResponse 0 sampleAnswer 1000) 0 sampleFlow sampleCopy
    { accessToken := "a", expiresIn := 3600 } 1000
    (run samplePlatform (initial sampleSecrets) sampleRefresh).secrets
    [.createSecret 2 "t" { secret := .other }] 3 1900 60
    SecretManager.sequential_findsOwn (by rfl) (by rfl) (by rfl) (by decide) (by decide)

end Client
end Acquire
end QuackOauth
