import QuackOauth.Policy.Evaluate
import QuackOauth.Validator.Validate

/-!
# Requests and responses for opaque tokens

What is posted to an introspection, a tokeninfo or a GitHub endpoint, and what is
read of the response.
-/

namespace QuackOauth
namespace Opaque

open Jwt Policy
open Validator (Response)

/-- A POST request.  Without credentials there is no authorization header. -/
structure PostRequest where
  url : String
  body : String
  contentType : String
  basicUser : String := ""
  basicPass : String := ""
  deriving DecidableEq

/-! ## Escaping -/

/-- A byte that is sent as it is. -/
def isUnreserved (c : UInt8) : Bool :=
  (65 ≤ c && c ≤ 90) || (97 ≤ c && c ≤ 122) || (48 ≤ c && c ≤ 57) ||
    c = 45 || c = 95 || c = 46 || c = 126

/-- The digit of a number below sixteen. -/
def hexDigit (digits : List Char) (n : Nat) : Char :=
  digits.getD n '0'

def upperHexDigits : List Char := "0123456789ABCDEF".toList

def lowerHexDigits : List Char := "0123456789abcdef".toList

/-- Percent-encode a string for a form body. -/
def urlEncode (input : String) : String :=
  String.ofList ((bytesOf input).flatMap fun c =>
    if isUnreserved c then [Char.ofNat c.toNat]
    else ['%', hexDigit upperHexDigits (c.toNat / 16),
      hexDigit upperHexDigits (c.toNat % 16)])

/-- Escape a string for a JSON string literal. -/
def jsonEscape (s : String) : String :=
  String.ofList (s.toList.flatMap fun c =>
    if c = '"' then ['\\', '"']
    else if c = '\\' then ['\\', '\\']
    else if c.toNat = 8 then ['\\', 'b']
    else if c.toNat = 12 then ['\\', 'f']
    else if c = '\n' then ['\\', 'n']
    else if c = '\r' then ['\\', 'r']
    else if c = '\t' then ['\\', 't']
    else if c.toNat < 32 then
      ['\\', 'u', '0', '0', hexDigit lowerHexDigits (c.toNat / 16),
        hexDigit lowerHexDigits (c.toNat % 16)]
    else [c])

/-- The words of a scope string. -/
def splitScope (scope : String) : List String :=
  ((scope.toList.splitOn ' ').filter fun word => word ≠ []).map String.ofList

/-! ## Introspection -/

/-- A response of an introspection endpoint. -/
structure IntrospectionResponse where
  active : Bool := false
  subject : String := ""
  issuer : String := ""
  audience : List String := []
  scope : String := ""
  scp : List String := []
  exp : Int := 0
  iat : Int := 0
  nbf : Int := 0
  clientId : String := ""
  username : String := ""

/-- The audience, given as a string or as an array. -/
def extractAudience (fields : List (String × Json)) : List String :=
  match Json.find fields "aud" with
  | some (.string audience) => [audience]
  | some (.array values) => Json.strings values
  | _ => []

def extractScp (fields : List (String × Json)) : List String :=
  match Json.find fields "scp" with
  | some (.array values) => Json.strings values
  | _ => []

/-- Parse an introspection response.  It must say whether the token is active. -/
def parseIntrospectionResponse
    (backend : Backend)
    (json : String) : Option IntrospectionResponse :=
  if json = "" then none
  else
    match backend.parseJson json with
    | some (.object fields) =>
        match Json.find fields "active" with
        | some (.bool active) => some {
            active
            subject := Json.getStringOrEmpty fields "sub"
            issuer := Json.getStringOrEmpty fields "iss"
            scope := Json.getStringOrEmpty fields "scope"
            clientId := Json.getStringOrEmpty fields "client_id"
            username := Json.getStringOrEmpty fields "username"
            exp := Json.asIntFlexible fields "exp"
            iat := Json.asIntFlexible fields "iat"
            nbf := Json.asIntFlexible fields "nbf"
            audience := extractAudience fields
            scp := extractScp fields }
        | _ => none
    | _ => none

/-- The introspection request for a token; none without an endpoint or a token. -/
def introspectRequest
    (endpoint clientId clientSecret token : String) : Option PostRequest :=
  if endpoint = "" ∨ token = "" then none
  else some {
    url := endpoint
    contentType := "application/x-www-form-urlencoded"
    body := "token=" ++ urlEncode token ++ "&token_type_hint=access_token"
    basicUser := clientId
    basicPass := clientSecret }

/-- What an introspection endpoint said, if it answered. -/
def introspectToken
    (backend : Backend)
    (response : Option Response) : Option IntrospectionResponse :=
  match response with
  | none => none
  | some response =>
      if response.statusCode ≠ 200 then none
      else parseIntrospectionResponse backend response.body

/-! ## Tokeninfo -/

/-- A response of a tokeninfo endpoint. -/
structure TokeninfoResponse where
  active : Bool := false
  azp : String := ""
  aud : String := ""
  subject : String := ""
  scope : String := ""
  exp : Int := 0
  expiresIn : Int := 0
  email : String := ""
  emailVerified : Bool := false

/-- Parse a tokeninfo response. -/
def parseTokeninfoResponse
    (backend : Backend)
    (json : String)
    (active : Bool) : Option TokeninfoResponse :=
  if json = "" then none
  else
    match backend.parseJson json with
    | some (.object fields) => some {
        active
        azp := Json.getStringOrEmpty fields "azp"
        aud := Json.getStringOrEmpty fields "aud"
        subject := Json.getStringOrEmpty fields "sub"
        scope := Json.getStringOrEmpty fields "scope"
        email := Json.getStringOrEmpty fields "email"
        exp := Json.asIntFlexible fields "exp"
        expiresIn := Json.asIntFlexible fields "expires_in"
        emailVerified := Json.asBoolFlexible fields "email_verified" }
    | _ => none

/-- The tokeninfo request for a token; none without an endpoint or a token. -/
def tokeninfoRequest (endpoint token : String) : Option PostRequest :=
  if endpoint = "" ∨ token = "" then none
  else some {
    url := endpoint
    contentType := "application/x-www-form-urlencoded"
    body := "access_token=" ++ urlEncode token }

/-- What a tokeninfo endpoint said, if it answered.  It answers 400 for a token that
is not active. -/
def queryTokeninfo
    (backend : Backend)
    (response : Option Response) : Option TokeninfoResponse :=
  match response with
  | none => none
  | some response =>
      if response.statusCode = 200 then parseTokeninfoResponse backend response.body true
      else if response.statusCode = 400 then some {}
      else none

/-! ## GitHub -/

/-- The request to check a token for a GitHub application. -/
def githubCheckRequest (checkUrl clientId clientSecret token : String) : PostRequest where
  url := checkUrl
  contentType := "application/json"
  basicUser := clientId
  basicPass := clientSecret
  body := "\x7b\"access_token\":\"" ++ jsonEscape token ++ "\"\x7d"

/-- The subject for a GitHub user id. -/
def githubSubject : Json → Option String
  | .int id => some ("gh:" ++ toString id)
  | .double truncated => some ("gh:" ++ toString truncated)
  | .string id => some ("gh:" ++ id)
  | _ => none

/-- Parse the response for a token that GitHub recognised. -/
def parseGithubCheckResponse (backend : Backend) (json : String) : Option Principal :=
  if json = "" then none
  else
    match backend.parseJson json with
    | some (.object fields) =>
        match Json.find fields "user" with
        | some (.object user) => do
            let id ← Json.find user "id"
            let subject ← githubSubject id
            pure {
              subject
              issuer := "https://api.github.com"
              scopes :=
                match Json.find fields "scopes" with
                | some (.array values) => Json.strings values
                | _ => [] }
        | _ => none
    | _ => none

example : urlEncode "a b/é~" = "a%20b%2F%C3%A9~" := by decide

example : splitScope " read  write " = ["read", "write"] := by decide

end Opaque
end QuackOauth
