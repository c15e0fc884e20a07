import QuackOauth.Json
import QuackOauth.Lib.Separator

/-!
# URLs: what is accepted and what is contacted

The check every configured endpoint passes, and the splitter by which the HTTP client
finds the host and the port it connects to.  Each reads a URL in its own way.
-/

namespace QuackOauth
namespace Http

open Lib Separator

/-! ## The check -/

/-- Names and addresses of this machine. -/
def isLoopbackHost (host : List Char) : Bool :=
  let lower := host.map Char.toLower
  !host.isEmpty &&
    (lower = "localhost".toList || lower = "::1".toList || lower = "[::1]".toList ||
      ("127.".toList.isPrefixOf lower &&
        (lower.drop 4).all fun c => c = '.' || c.isDigit))

/-- A character at which the authority of a URL ends. -/
def endsAuthority (c : Char) : Bool :=
  c = '/' || c = '?' || c = '#'

/-- A URL that asks for TLS. -/
def isHttps (url : String) : Bool :=
  "https://".toList.isPrefixOf url.toList

/-- A URL with the scheme of plain HTTP. -/
def isHttp (url : String) : Bool :=
  "http://".toList.isPrefixOf url.toList

/-- What follows a scheme, up to the first `/`, `?` or `#`. -/
def authorityAfter (schemeLength : Nat) (url : String) : List Char :=
  (url.toList.drop schemeLength).takeWhile fun c => !endsAuthority c

/-- The authority of a URL with one of the two schemes. -/
def authorityOf (url : String) : List Char :=
  authorityAfter (if isHttps url then 8 else 7) url

/-- The host and the port of an authority.  A host in brackets loses them, and only a
port may follow it. -/
def hostAndPort (authority : List Char) : Option (List Char × List Char) :=
  match authority with
  | '[' :: inner =>
      match cutFirst ']' inner with
      | none => none
      | some (host, []) => some (host, [])
      | some (host, c :: port) => if c = ':' then some (host, port) else none
  | authority =>
      match cutFirst ':' authority with
      | some (host, port) => some (host, port)
      | none => some (authority, [])

/-- The number spelt by decimal digits. -/
def decimalValue (digits : List Char) : Nat :=
  digits.foldl (fun number digit => 10 * number + (digit.toNat - '0'.toNat)) 0

/-- A missing port is fine, and so is a number of 16 bits other than zero. -/
def acceptsPort (port : List Char) : Bool :=
  port.isEmpty ||
    (port.length ≤ 5 && port.all Char.isDigit &&
      0 < decimalValue port && decimalValue port ≤ 65535)

/-- Plain HTTP to this machine. -/
def isLocalhostUrl (url : String) : Bool :=
  let authority := authorityAfter 7 url
  isHttp url && !authority.isEmpty && !authority.contains '@' &&
    match hostAndPort authority with
    | none => false
    | some (host, port) => acceptsPort port && !host.isEmpty && isLoopbackHost host

/-- A character no URL may contain. -/
def isForbidden (c : Char) : Bool :=
  c.toNat < 32 || c.toNat = 127 || c = '"' || c = '\'' || c = '\\' || c = ' '

/-- The check of a configured URL; the error is the text of the exception. -/
def validateHttpUrl (fieldName url : String) : Except String Unit :=
  if url.isEmpty then .ok ()
  else if 2048 < url.utf8ByteSize then
    .error ("quack_oauth: " ++ fieldName ++
      " exceeds maximum allowed length of 2048 characters")
  else if url.toList.any isForbidden then
    .error ("quack_oauth: " ++ fieldName ++ " contains invalid or control characters")
  else if !isHttps url && !isHttp url then
    .error ("quack_oauth: " ++ fieldName ++
      " must begin with 'https://' (or 'http://localhost' for local development)")
  else if (authorityOf url).contains '@' then
    .error ("quack_oauth: " ++ fieldName ++ " must not contain userinfo ('@')")
  else if isHttp url && !isLocalhostUrl url then
    .error ("quack_oauth: " ++ fieldName ++ " must use 'https://' " ++
      "(plain 'http://' is only allowed for localhost development)")
  else .ok ()

/-! ## The client -/

/-- The `stoi` of the standard library; none where it throws. -/
def stoi (text : List Char) : Option Int :=
  (Json.stoll (String.ofList text)).filter fun value =>
    -2147483648 ≤ value ∧ value ≤ 2147483647

/-- A URL as the client splits it; the path includes the query. -/
structure UrlParts where
  scheme : String
  host : String
  port : Int
  path : String
  deriving DecidableEq

/-- The host and the port of the client's host part: its last colon starts the port. -/
def splitHostPart (defaultPort : Int) (hostPart : List Char) : Option (List Char × Int) :=
  match cutLast ':' hostPart with
  | none => some (hostPart, defaultPort)
  | some (host, port) => (stoi port).map fun port => (host, port)

/-- The client's splitter: the host part ends at the first slash, and only there. -/
def parseUrl (url : String) : Option UrlParts :=
  match cutAt "://".toList url.toList with
  | none => none
  | some (scheme, rest) =>
      let hostPart := rest.takeWhile fun c => c != '/'
      let path := match rest.dropWhile fun c => c != '/' with
        | [] => ['/']
        | path => path
      match splitHostPart (if scheme = "https".toList then 443 else 80) hostPart with
      | none => none
      | some (host, port) =>
          if host.isEmpty then none
          else some {
            scheme := String.ofList scheme
            host := String.ofList host
            port := port
            path := String.ofList path }

/-- The peer a request goes to. -/
structure Connection where
  tls : Bool
  host : String
  port : Int
  deriving DecidableEq

structure Response where
  statusCode : Int
  body : String
  deriving DecidableEq

structure PostRequest where
  url : String
  body : String
  contentType : String
  basicUser : String
  basicPass : String

/-- What the client sends on a connection.  Credentials without a user are left out. -/
inductive Message
  | get (path : String)
  | post (path body contentType : String) (credentials : Option (String × String))

/-- The connection a parsed URL asks for: TLS with the certificate verified for
`https`, plain for `http`, none for another scheme. -/
def connectionFor (parts : UrlParts) : Option Connection :=
  if parts.scheme = "https" then some ⟨true, parts.host, parts.port⟩
  else if parts.scheme = "http" then some ⟨false, parts.host, parts.port⟩
  else none

variable (exchange : Connection → Message → Option Response)

/-- A `GET`, over a network that answers or does not. -/
def get (url : String) : Option Response :=
  (parseUrl url).bind fun parts =>
    (connectionFor parts).bind fun connection => exchange connection (.get parts.path)

/-- A `POST`, over a network that answers or does not. -/
def post (request : PostRequest) : Option Response :=
  (parseUrl request.url).bind fun parts =>
    (connectionFor parts).bind fun connection =>
      exchange connection (.post parts.path request.body request.contentType
        (if request.basicUser.isEmpty then none
          else some (request.basicUser, request.basicPass)))

example : validateHttpUrl "jwks_uri" "http://[::1]/jwks" = .ok () := by decide

end Http
end QuackOauth
