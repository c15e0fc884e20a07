import QuackOauth.Lib.Form
import QuackOauth.Lib.JsonObject
import QuackOauth.Opaque.Responses

/-!
# The bodies of outgoing requests

Tokens and codes are any bytes when they are put into the body of a request: a form, into
which one of three copies of the percent-encoder puts them, or a JSON object.  Read as
such, each body has the intended parameters with the original bytes.
-/

namespace QuackOauth
namespace Requests

open Lib Form Opaque

/-! ## The encoders -/

def kHex : List UInt8 :=
  bytesOf "0123456789ABCDEF"

/-- The encoder of the JSON helpers. -/
def PicojsonHelpers.urlEncode (input : List UInt8) : List UInt8 :=
  input.flatMap (percentWord isUnreserved kHex)

/-- The copy at the token endpoint. -/
def TokenEndpoint.urlEncode (input : List UInt8) : List UInt8 :=
  input.flatMap (percentWord isUnreserved kHex)

/-- The copy for device codes. -/
def DeviceCode.urlEncode (input : List UInt8) : List UInt8 :=
  input.flatMap (percentWord isUnreserved kHex)

def lowerHex : List UInt8 :=
  bytesOf "0123456789abcdef"

/-- A byte in a JSON string. -/
def jsonEscapeByte (c : UInt8) : List UInt8 :=
  if c = '"'.toUInt8 then bytesOf "\\\""
  else if c = '\\'.toUInt8 then bytesOf "\\\\"
  else if c = 8 then bytesOf "\\b"
  else if c = 12 then bytesOf "\\f"
  else if c = '\n'.toUInt8 then bytesOf "\\n"
  else if c = '\r'.toUInt8 then bytesOf "\\r"
  else if c = '\t'.toUInt8 then bytesOf "\\t"
  else if c.toNat < 32 then
    bytesOf "\\u00" ++ [lowerHex.getD (c.toNat / 16) 0, lowerHex.getD (c.toNat % 16) 0]
  else [c]

def jsonEscape (s : List UInt8) : List UInt8 :=
  s.flatMap jsonEscapeByte

/-! ## The requests -/

/-- A POST request, in bytes. -/
structure PostRequestBytes where
  url : List UInt8
  body : List UInt8
  contentType : List UInt8
  basicUser : List UInt8 := []
  basicPass : List UInt8 := []
  deriving DecidableEq, Repr

def formContentType : List UInt8 :=
  bytesOf "application/x-www-form-urlencoded"

/-- The request of an introspection. -/
def introspectToken
    (endpoint clientId clientSecret token : List UInt8) : Option PostRequestBytes :=
  if endpoint = [] ∨ token = [] then none
  else some {
    url := endpoint
    contentType := formContentType
    body := bytesOf "token=" ++ PicojsonHelpers.urlEncode token ++
      bytesOf "&token_type_hint=access_token"
    basicUser := clientId
    basicPass := clientSecret }

/-- The request for token information. -/
def queryTokeninfo (endpoint token : List UInt8) : Option PostRequestBytes :=
  if endpoint = [] ∨ token = [] then none
  else some {
    url := endpoint
    contentType := formContentType
    body := bytesOf "access_token=" ++ PicojsonHelpers.urlEncode token }

/-- The request for a token in exchange for the client's own credentials. -/
def acquireTokenClientCredentials
    (tokenEndpoint clientId clientSecret scope : List UInt8) : Option PostRequestBytes :=
  if tokenEndpoint = [] ∨ clientId = [] then none
  else some {
    url := tokenEndpoint
    contentType := formContentType
    body := bytesOf "grant_type=client_credentials" ++
      (if scope = [] then [] else bytesOf "&scope=" ++ TokenEndpoint.urlEncode scope)
    basicUser := clientId
    basicPass := clientSecret }

/-- The request for a token in exchange for a refresh token.  The client is named in the
body, and in the header as well if it has a secret. -/
def acquireTokenRefreshToken
    (tokenEndpoint clientId clientSecret refreshToken scope : List UInt8) :
    Option PostRequestBytes :=
  if tokenEndpoint = [] ∨ refreshToken = [] then none
  else some {
    url := tokenEndpoint
    contentType := formContentType
    body := bytesOf "grant_type=refresh_token&refresh_token=" ++
      TokenEndpoint.urlEncode refreshToken ++
      (if scope = [] then [] else bytesOf "&scope=" ++ TokenEndpoint.urlEncode scope) ++
      (if clientId = [] then []
        else bytesOf "&client_id=" ++ TokenEndpoint.urlEncode clientId)
    basicUser := if clientSecret = [] then [] else clientId
    basicPass := clientSecret }

/-- The request for a device code. -/
def requestDeviceAuthorization
    (deviceAuthorizationEndpoint clientId clientSecret scope : List UInt8) :
    Option PostRequestBytes :=
  if deviceAuthorizationEndpoint = [] ∨ clientId = [] then none
  else some {
    url := deviceAuthorizationEndpoint
    contentType := formContentType
    body := bytesOf "client_id=" ++ DeviceCode.urlEncode clientId ++
      (if scope = [] then [] else bytesOf "&scope=" ++ DeviceCode.urlEncode scope)
    basicUser := if clientSecret = [] then [] else clientId
    basicPass := clientSecret }

/-- The request for a token in exchange for a device code. -/
def pollDeviceTokenEndpoint
    (tokenEndpoint clientId clientSecret deviceCode : List UInt8) :
    Option PostRequestBytes :=
  if tokenEndpoint = [] ∨ clientId = [] ∨ deviceCode = [] then none
  else some {
    url := tokenEndpoint
    contentType := formContentType
    body := bytesOf "grant_type=urn:ietf:params:oauth:grant-type:device_code" ++
      (bytesOf "&device_code=" ++ DeviceCode.urlEncode deviceCode) ++
      (bytesOf "&client_id=" ++ DeviceCode.urlEncode clientId)
    basicUser := if clientSecret = [] then [] else clientId
    basicPass := clientSecret }

/-- The request to check a token for a GitHub application; it is sent for every token
that is not empty. -/
def validateTokenViaGithubCheck
    (checkUrl clientId clientSecret token : List UInt8) : Option PostRequestBytes :=
  if token = [] then none
  else some {
    url := checkUrl
    contentType := bytesOf "application/json"
    basicUser := clientId
    basicPass := clientSecret
    body := bytesOf "\x7b\"access_token\":\"" ++ jsonEscape token ++ bytesOf "\"\x7d" }

/-! ## Encoders and readers -/

theorem isTable_kHex : Hex.IsTable kHex := by decide

theorem isTable_lowerHex : Hex.IsTable lowerHex := by decide

theorem arePlain_isUnreserved : ArePlain isUnreserved := by
  intro c unreserved
  refine ⟨?_, ?_, ?_, ?_⟩
  all_goals
    rintro rfl
    revert unreserved
    decide

theorem isCode_jsonEscapeByte : Code.IsCode jsonEscapeByte JsonObject.readByte where
  word_ne_nil := by
    intro c
    unfold jsonEscapeByte
    split_ifs
    all_goals exact List.cons_ne_nil _ _
  readWord_append := by
    intro c rest
    unfold jsonEscapeByte
    split_ifs with quote backslash backspace formFeed newline return' tab control
    · subst quote
      rfl
    · subst backslash
      rfl
    · subst backspace
      rfl
    · subst formFeed
      rfl
    · subst newline
      rfl
    · subst return'
      rfl
    · subst tab
      rfl
    · have zero : Hex.byteOf '0'.toUInt8 '0'.toUInt8 = some 0 := by decide
      have low := Hex.byteOf_getD isTable_lowerHex c
      exact JsonObject.readByte_escape zero low (by omega) rest
    · rw [List.singleton_append, JsonObject.readByte, if_neg (by simp [quote, control]),
        if_neg backslash]

/-- The copies of the encoder are the same function. -/
theorem urlEncode_copies :
    TokenEndpoint.urlEncode = PicojsonHelpers.urlEncode ∧
      DeviceCode.urlEncode = PicojsonHelpers.urlEncode :=
  ⟨rfl, rfl⟩

/-! ## What the bodies say -/

/-- A parameter with a name and a value that the code writes itself. -/
theorem means_constant
    {name value : String}
    (literal : Literal (bytesOf name) ∧ Literal (bytesOf value)) :
    Means (bytesOf name, bytesOf value) (bytesOf name, bytesOf value) :=
  means_of_literal literal.1 literal.2

/-- A parameter whose value goes through the encoder. -/
theorem means_encoded
    {name : String}
    (literal : Literal (bytesOf name))
    (value : List UInt8) :
    Means (bytesOf name, PicojsonHelpers.urlEncode value) (bytesOf name, value) :=
  means_of_percentWord arePlain_isUnreserved isTable_kHex literal value

/-- A parameter that is left out if it is empty. -/
def optional (name : String) (value : List UInt8) : List (List UInt8 × List UInt8) :=
  if value = [] then [] else [(bytesOf name, value)]

/-- The same, encoded. -/
def optionalText (name : String) (value : List UInt8) : List (List UInt8 × List UInt8) :=
  if value = [] then [] else [(bytesOf name, PicojsonHelpers.urlEncode value)]

theorem means_optional
    {name : String}
    (literal : Literal (bytesOf name))
    (value : List UInt8) :
    List.Forall₂ Means (optionalText name value) (optional name value) := by
  unfold optionalText optional
  by_cases empty : value = []
  · rw [if_pos empty, if_pos empty]
    exact .nil
  · rw [if_neg empty, if_neg empty]
    exact .cons (means_encoded literal value) .nil

/-- How an optional parameter is appended. -/
theorem flatMap_optionalText
    {name front : String}
    (front_eq : bytesOf front = '&'.toUInt8 :: (bytesOf name ++ ['='.toUInt8]))
    (value : List UInt8) :
    (optionalText name value).flatMap laterText =
      if value = [] then [] else bytesOf front ++ PicojsonHelpers.urlEncode value := by
  unfold optionalText
  by_cases empty : value = []
  · rw [if_pos empty, if_pos empty]
    rfl
  · rw [if_neg empty, if_neg empty, List.flatMap_singleton, front_eq]
    simp [laterText, pairText]

theorem decodeForm_introspectToken (token : List UInt8) :
    decodeForm (bytesOf "token=" ++ PicojsonHelpers.urlEncode token ++
        bytesOf "&token_type_hint=access_token") =
      [(bytesOf "token", token), (bytesOf "token_type_hint", bytesOf "access_token")] := by
  have body : bytesOf "token=" ++ PicojsonHelpers.urlEncode token ++
        bytesOf "&token_type_hint=access_token" =
      pairText (bytesOf "token", PicojsonHelpers.urlEncode token) ++
        [(bytesOf "token_type_hint", bytesOf "access_token")].flatMap laterText := rfl
  rw [body]
  exact decodeForm_of_means
    (.cons (means_encoded (by decide) token) (.cons (means_constant (by decide)) .nil))

theorem decodeForm_queryTokeninfo (token : List UInt8) :
    decodeForm (bytesOf "access_token=" ++ PicojsonHelpers.urlEncode token) =
      [(bytesOf "access_token", token)] := by
  have body : bytesOf "access_token=" ++ PicojsonHelpers.urlEncode token =
      pairText (bytesOf "access_token", PicojsonHelpers.urlEncode token) ++
        [].flatMap laterText := (List.append_nil _).symm
  rw [body]
  exact decodeForm_of_means (.cons (means_encoded (by decide) token) .nil)

theorem decodeForm_acquireTokenClientCredentials (scope : List UInt8) :
    decodeForm (bytesOf "grant_type=client_credentials" ++
        (if scope = [] then [] else bytesOf "&scope=" ++ TokenEndpoint.urlEncode scope)) =
      (bytesOf "grant_type", bytesOf "client_credentials") :: optional "scope" scope := by
  have scopeText : (optionalText "scope" scope).flatMap laterText =
      if scope = [] then [] else bytesOf "&scope=" ++ TokenEndpoint.urlEncode scope :=
    flatMap_optionalText (by decide) scope
  have first : bytesOf "grant_type=client_credentials" =
      pairText (bytesOf "grant_type", bytesOf "client_credentials") := rfl
  rw [← scopeText, first]
  exact decodeForm_of_means
    (.cons (means_constant (by decide)) (means_optional (by decide) scope))

theorem decodeForm_acquireTokenRefreshToken (refreshToken scope clientId : List UInt8) :
    decodeForm (bytesOf "grant_type=refresh_token&refresh_token=" ++
        TokenEndpoint.urlEncode refreshToken ++
        (if scope = [] then [] else bytesOf "&scope=" ++ TokenEndpoint.urlEncode scope) ++
        (if clientId = [] then []
          else bytesOf "&client_id=" ++ TokenEndpoint.urlEncode clientId)) =
      (bytesOf "grant_type", bytesOf "refresh_token") ::
        (bytesOf "refresh_token", refreshToken) ::
          (optional "scope" scope ++ optional "client_id" clientId) := by
  have scopeText : (optionalText "scope" scope).flatMap laterText =
      if scope = [] then [] else bytesOf "&scope=" ++ TokenEndpoint.urlEncode scope :=
    flatMap_optionalText (by decide) scope
  have clientText : (optionalText "client_id" clientId).flatMap laterText =
      if clientId = [] then []
      else bytesOf "&client_id=" ++ TokenEndpoint.urlEncode clientId :=
    flatMap_optionalText (by decide) clientId
  have first : bytesOf "grant_type=refresh_token&refresh_token=" ++
        TokenEndpoint.urlEncode refreshToken =
      pairText (bytesOf "grant_type", bytesOf "refresh_token") ++
        laterText (bytesOf "refresh_token", PicojsonHelpers.urlEncode refreshToken) := rfl
  rw [← scopeText, ← clientText, first, List.append_assoc, List.append_assoc,
    ← List.flatMap_append, ← List.flatMap_cons]
  exact decodeForm_of_means (.cons (means_constant (by decide))
    (.cons (means_encoded (by decide) refreshToken)
      (List.rel_append (means_optional (by decide) scope)
        (means_optional (by decide) clientId))))

theorem decodeForm_requestDeviceAuthorization (clientId scope : List UInt8) :
    decodeForm (bytesOf "client_id=" ++ DeviceCode.urlEncode clientId ++
        (if scope = [] then [] else bytesOf "&scope=" ++ DeviceCode.urlEncode scope)) =
      (bytesOf "client_id", clientId) :: optional "scope" scope := by
  have scopeText : (optionalText "scope" scope).flatMap laterText =
      if scope = [] then [] else bytesOf "&scope=" ++ DeviceCode.urlEncode scope :=
    flatMap_optionalText (by decide) scope
  have first : bytesOf "client_id=" ++ DeviceCode.urlEncode clientId =
      pairText (bytesOf "client_id", PicojsonHelpers.urlEncode clientId) := rfl
  rw [← scopeText, first]
  exact decodeForm_of_means
    (.cons (means_encoded (by decide) clientId) (means_optional (by decide) scope))

theorem decodeForm_pollDeviceTokenEndpoint (deviceCode clientId : List UInt8) :
    decodeForm (bytesOf "grant_type=urn:ietf:params:oauth:grant-type:device_code" ++
        (bytesOf "&device_code=" ++ DeviceCode.urlEncode deviceCode) ++
        (bytesOf "&client_id=" ++ DeviceCode.urlEncode clientId)) =
      [(bytesOf "grant_type", bytesOf "urn:ietf:params:oauth:grant-type:device_code"),
        (bytesOf "device_code", deviceCode), (bytesOf "client_id", clientId)] := by
  have body : bytesOf "grant_type=urn:ietf:params:oauth:grant-type:device_code" ++
        (bytesOf "&device_code=" ++ DeviceCode.urlEncode deviceCode) ++
        (bytesOf "&client_id=" ++ DeviceCode.urlEncode clientId) =
      pairText (bytesOf "grant_type",
          bytesOf "urn:ietf:params:oauth:grant-type:device_code") ++
        [(bytesOf "device_code", PicojsonHelpers.urlEncode deviceCode),
          (bytesOf "client_id", PicojsonHelpers.urlEncode clientId)].flatMap laterText := by
    rw [List.append_assoc, List.flatMap_cons, List.flatMap_singleton]
    rfl
  rw [body]
  exact decodeForm_of_means (.cons (means_constant (by decide))
    (.cons (means_encoded (by decide) deviceCode)
      (.cons (means_encoded (by decide) clientId) .nil)))

theorem readObject_validateTokenViaGithubCheck (token : List UInt8) :
    JsonObject.readObject
        (bytesOf "\x7b\"access_token\":\"" ++ jsonEscape token ++ bytesOf "\"\x7d") =
      some [(bytesOf "access_token", token)] := by
  have name : (bytesOf "access_token").flatMap jsonEscapeByte = bytesOf "access_token" := by
    decide
  have body : bytesOf "\x7b\"access_token\":\"" ++ jsonEscape token ++ bytesOf "\"\x7d" =
      JsonObject.singleton ((bytesOf "access_token").flatMap jsonEscapeByte)
        (token.flatMap jsonEscapeByte) := by
    rw [name]
    rfl
  rw [body]
  exact JsonObject.readObject_singleton isCode_jsonEscapeByte _ token

/-- Every body that is sent says exactly what is meant, with the original bytes. -/
theorem bodies_carry_parameters :
    (∀ endpoint clientId clientSecret token,
      (introspectToken endpoint clientId clientSecret token).map
          (fun request => decodeForm request.body) =
        if endpoint = [] ∨ token = [] then none
        else some [(bytesOf "token", token),
          (bytesOf "token_type_hint", bytesOf "access_token")]) ∧
    (∀ endpoint token,
      (queryTokeninfo endpoint token).map (fun request => decodeForm request.body) =
        if endpoint = [] ∨ token = [] then none
        else some [(bytesOf "access_token", token)]) ∧
    (∀ tokenEndpoint clientId clientSecret refreshToken scope,
      (acquireTokenRefreshToken tokenEndpoint clientId clientSecret refreshToken scope).map
          (fun request => decodeForm request.body) =
        if tokenEndpoint = [] ∨ refreshToken = [] then none
        else some ((bytesOf "grant_type", bytesOf "refresh_token") ::
          (bytesOf "refresh_token", refreshToken) ::
            (optional "scope" scope ++ optional "client_id" clientId))) ∧
    (∀ tokenEndpoint clientId clientSecret deviceCode,
      (pollDeviceTokenEndpoint tokenEndpoint clientId clientSecret deviceCode).map
          (fun request => decodeForm request.body) =
        if tokenEndpoint = [] ∨ clientId = [] ∨ deviceCode = [] then none
        else some [
          (bytesOf "grant_type", bytesOf "urn:ietf:params:oauth:grant-type:device_code"),
          (bytesOf "device_code", deviceCode), (bytesOf "client_id", clientId)]) ∧
    ∀ checkUrl clientId clientSecret token,
      (validateTokenViaGithubCheck checkUrl clientId clientSecret token).map
          (fun request => JsonObject.readObject request.body) =
        if token = [] then none else some (some [(bytesOf "access_token", token)]) := by
  refine ⟨?_, ?_, ?_, ?_, ?_⟩
  · intro endpoint clientId clientSecret token
    unfold introspectToken
    rw [apply_ite (Option.map _), Option.map_none, Option.map_some,
      decodeForm_introspectToken]
  · intro endpoint token
    unfold queryTokeninfo
    rw [apply_ite (Option.map _), Option.map_none, Option.map_some,
      decodeForm_queryTokeninfo]
  · intro tokenEndpoint clientId clientSecret refreshToken scope
    unfold acquireTokenRefreshToken
    rw [apply_ite (Option.map _), Option.map_none, Option.map_some,
      decodeForm_acquireTokenRefreshToken]
  · intro tokenEndpoint clientId clientSecret deviceCode
    unfold pollDeviceTokenEndpoint
    rw [apply_ite (Option.map _), Option.map_none, Option.map_some,
      decodeForm_pollDeviceTokenEndpoint]
  · intro checkUrl clientId clientSecret token
    unfold validateTokenViaGithubCheck
    rw [apply_ite (Option.map _), Option.map_none, Option.map_some,
      readObject_validateTokenViaGithubCheck]

/-! ## Requests as strings -/

/-- A request of the validators, in bytes. -/
def toBytes (request : PostRequest) : PostRequestBytes where
  url := bytesOf request.url
  body := bytesOf request.body
  contentType := bytesOf request.contentType
  basicUser := bytesOf request.basicUser
  basicPass := bytesOf request.basicPass

theorem utf8EncodeChar_hexDigit :
    ∀ number < 16, String.utf8EncodeChar (hexDigit upperHexDigits number) =
      [kHex.getD number 0] := by decide

theorem utf8EncodeChar_ofNat :
    ∀ number < 128, String.utf8EncodeChar (Char.ofNat number) = [UInt8.ofNat number] := by
  decide

/-- Bytes beyond ASCII are escaped. -/
theorem isUnreserved_of_high
    {c : UInt8}
    (high : 128 ≤ c.toNat) :
    isUnreserved c = false := by
  unfold isUnreserved
  simp only [Bool.or_eq_false_iff, Bool.and_eq_false_iff, decide_eq_false_iff_not,
    UInt8.le_iff_toNat_le, ← UInt8.toNat_inj]
  simp
  omega

/-- Encoding a string and encoding its bytes come to the same. -/
theorem bytesOf_urlEncode (input : String) :
    bytesOf (urlEncode input) = PicojsonHelpers.urlEncode (bytesOf input) := by
  unfold urlEncode PicojsonHelpers.urlEncode
  rw [bytesOf_ofList, List.flatMap_assoc]
  apply List.flatMap_congr
  intro c _
  have small := c.toNat_lt
  unfold percentWord
  by_cases unreserved : isUnreserved c = true
  · have ascii : c.toNat < 128 := by
      by_contra high
      rw [isUnreserved_of_high (by omega)] at unreserved
      cases unreserved
    rw [if_pos unreserved, if_pos unreserved, List.flatMap_singleton,
      utf8EncodeChar_ofNat _ ascii, UInt8.ofNat_toNat]
  · have percent : String.utf8EncodeChar '%' = ['%'.toUInt8] := by decide
    rw [if_neg unreserved, if_neg unreserved]
    simp only [List.flatMap_cons, List.flatMap_nil]
    rw [percent, utf8EncodeChar_hexDigit _ (by omega), utf8EncodeChar_hexDigit _ (by omega)]
    rfl

/-- Bytes beyond ASCII stand for themselves in a JSON string. -/
theorem jsonEscapeByte_of_high
    {c : UInt8}
    (high : 128 ≤ c.toNat) :
    jsonEscapeByte c = [c] := by
  have other : ∀ d : UInt8, d.toNat < 128 → c ≠ d := by
    rintro d low rfl
    omega
  unfold jsonEscapeByte
  rw [if_neg (other _ (by decide)), if_neg (other _ (by decide)),
    if_neg (other _ (by decide)), if_neg (other _ (by decide)),
    if_neg (other _ (by decide)), if_neg (other _ (by decide)),
    if_neg (other _ (by decide)), if_neg (by omega)]

/-- The escape of a character in the model on strings. -/
def jsonEscapeChar (c : Char) : List Char :=
  if c = '"' then ['\\', '"']
  else if c = '\\' then ['\\', '\\']
  else if c.toNat = 8 then ['\\', 'b']
  else if c.toNat = 12 then ['\\', 'f']
  else if c = '\n' then ['\\', 'n']
  else if c = '\r' then ['\\', 'r']
  else if c = '\t' then ['\\', 't']
  else if c.toNat < 32 then
    ['\\', 'u', '0', '0', hexDigit lowerHexDigits (c.toNat / 16),
      hexDigit lowerHexDigits (c.toNat % 16)]
  else [c]

theorem flatMap_jsonEscapeChar_ofNat :
    ∀ number < 128, (jsonEscapeChar (Char.ofNat number)).flatMap String.utf8EncodeChar =
      jsonEscapeByte (UInt8.ofNat number) := by decide +kernel

/-- Escaping a character and escaping its bytes come to the same. -/
theorem flatMap_jsonEscapeChar (c : Char) :
    (jsonEscapeChar c).flatMap String.utf8EncodeChar =
      (String.utf8EncodeChar c).flatMap jsonEscapeByte := by
  by_cases ascii : c.toNat < 128
  · have own := flatMap_jsonEscapeChar_ofNat c.toNat ascii
    have bytes := utf8EncodeChar_ofNat c.toNat ascii
    rw [Char.ofNat_toNat] at own bytes
    rw [own, bytes, List.flatMap_singleton]
  · have other : ∀ d : Char, d.toNat < 128 → c ≠ d := by
      rintro d low rfl
      exact ascii low
    have kept : jsonEscapeChar c = [c] := by
      unfold jsonEscapeChar
      rw [if_neg (other _ (by decide)), if_neg (other _ (by decide)), if_neg (by omega),
        if_neg (by omega), if_neg (other _ (by decide)), if_neg (other _ (by decide)),
        if_neg (other _ (by decide)), if_neg (by omega)]
    have bytesKept : (String.utf8EncodeChar c).flatMap jsonEscapeByte =
        (String.utf8EncodeChar c).flatMap fun b => [b] := by
      apply List.flatMap_congr
      intro b member
      exact jsonEscapeByte_of_high (high_of_mem_utf8EncodeChar
        (show ¬ c.val.toNat ≤ 127 from fun low => ascii (Nat.lt_succ_of_le low)) member)
    rw [kept, bytesKept, List.flatMap_singleton, List.flatMap_singleton']

theorem bytesOf_jsonEscape (s : String) :
    bytesOf (Opaque.jsonEscape s) = jsonEscape (bytesOf s) := by
  have chars : Opaque.jsonEscape s = String.ofList (s.toList.flatMap jsonEscapeChar) := rfl
  unfold jsonEscape
  rw [chars, bytesOf_ofList, bytesOf_eq_flatMap, List.flatMap_assoc, List.flatMap_assoc]
  exact List.flatMap_congr fun c _ => flatMap_jsonEscapeChar c

/-- The requests of the validators of opaque tokens are these requests. -/
theorem toBytes_introspectRequest (endpoint clientId clientSecret token : String) :
    (introspectRequest endpoint clientId clientSecret token).map toBytes =
      introspectToken (bytesOf endpoint) (bytesOf clientId) (bytesOf clientSecret)
        (bytesOf token) := by
  unfold introspectRequest introspectToken
  simp only [bytesOf_eq_nil_iff]
  rw [apply_ite (Option.map _), Option.map_none, Option.map_some]
  unfold toBytes
  simp only [bytesOf_append, bytesOf_urlEncode]
  rfl

theorem toBytes_tokeninfoRequest (endpoint token : String) :
    (tokeninfoRequest endpoint token).map toBytes =
      queryTokeninfo (bytesOf endpoint) (bytesOf token) := by
  unfold tokeninfoRequest queryTokeninfo
  simp only [bytesOf_eq_nil_iff]
  rw [apply_ite (Option.map _), Option.map_none, Option.map_some]
  unfold toBytes
  simp only [bytesOf_append, bytesOf_urlEncode]
  rfl

theorem toBytes_githubCheckRequest
    {token : String}
    (nonempty : token ≠ "")
    (checkUrl clientId clientSecret : String) :
    some (toBytes (githubCheckRequest checkUrl clientId clientSecret token)) =
      validateTokenViaGithubCheck (bytesOf checkUrl) (bytesOf clientId)
        (bytesOf clientSecret) (bytesOf token) := by
  unfold validateTokenViaGithubCheck
  rw [if_neg fun empty => nonempty (bytesOf_eq_nil_iff.mp empty)]
  unfold githubCheckRequest toBytes
  simp only [bytesOf_append, bytesOf_jsonEscape]

end Requests
end QuackOauth
