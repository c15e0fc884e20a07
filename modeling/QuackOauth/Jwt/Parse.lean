import Mathlib.Data.Option.Basic
import QuackOauth.Jwks.Key
import QuackOauth.Jwt.Backend

/-!
# Parsing tokens and JWKS documents

Neither parser checks a signature.  Both reject kids that are too long or hold
control characters; a kid that passed holds no newline, the separator of the cache
keys.
-/

namespace QuackOauth
namespace Jwt

open Jwks

/-- A parsed token.  A claim that is absent leaves its field at the default. -/
structure JwtParsed where
  alg : String := ""
  kid : String := ""
  typ : String := ""
  subject : String := ""
  issuer : String := ""
  audience : List String := []
  exp : Int := 0
  nbf : Int := 0
  iat : Int := 0
  scope : String := ""
  scp : List String := []
  roles : List String := []

/-- Longest kid, in bytes. -/
def kMaxKidBytes : Nat := 256

/-- A character below the space, or the delete character. -/
def isControl (c : Char) : Bool :=
  c.toNat < 32 || c.toNat = 127

/-- A kid of tolerable length without control characters. -/
def kidAcceptable (kid : String) : Bool :=
  decide (kid.utf8ByteSize ≤ kMaxKidBytes) && kid.toList.all fun c => !isControl c

/-- Parse a token without verifying it. -/
def parseJwt (backend : Backend) (token : String) : Option JwtParsed :=
  if token = "" then none
  else do
    let decoded ← backend.decode token
    let alg ← decoded.algorithm.read ""
    let kid ← decoded.keyId.read ""
    guard (kidAcceptable kid)
    let typ ← decoded.type.read ""
    let subject ← decoded.subject.read ""
    let issuer ← decoded.issuer.read ""
    let audience ← decoded.audience.read []
    let exp ← decoded.expiresAt.read 0
    let nbf ← decoded.notBefore.read 0
    let iat ← decoded.issuedAt.read 0
    pure {
      alg, kid, typ, subject, issuer, audience, exp, nbf, iat
      scope := decoded.scope.readLenient ""
      scp := Json.strings (decoded.scp.readLenient [])
      roles := Json.strings (decoded.roles.readLenient []) }

/-- Parse one element of the `keys` array. -/
def parseSingleJwk : Json → Option Jwk
  | .object fields => do
      let kid ← Json.asString fields "kid"
      let kty ← Json.asString fields "kty"
      guard (kty = "RSA" ∨ kty = "EC" ∨ kty = "OKP")
      guard (kid ≠ "" ∧ kidAcceptable kid)
      pure {
        kid, kty
        alg := Json.getStringOrEmpty fields "alg"
        use := Json.getStringOrEmpty fields "use"
        n := Json.getStringOrEmpty fields "n"
        e := Json.getStringOrEmpty fields "e"
        crv := Json.getStringOrEmpty fields "crv"
        x := Json.getStringOrEmpty fields "x"
        y := Json.getStringOrEmpty fields "y" }
  | _ => none

/-- Parse a JWKS document; elements that are no usable key are dropped. -/
def parseJwksJson (backend : Backend) (json : String) : List Jwk :=
  if json = "" then []
  else
    match backend.parseJson json with
    | some (.object fields) =>
        match Json.find fields "keys" with
        | some (.array values) => values.filterMap parseSingleJwk
        | _ => []
    | _ => []

/-! ## Kids that passed a parser -/

theorem newline_notMem_of_kidAcceptable
    {kid : String}
    (acceptable : kidAcceptable kid = true) :
    '\n' ∉ kid.toList := by
  intro member
  have printable := (Bool.and_eq_true _ _ ▸ acceptable).2
  have newlinePrintable := List.all_eq_true.mp printable '\n' member
  exact absurd newlinePrintable (by decide)

/-- The kid of every key of a parsed document is a name that was accepted. -/
theorem kid_of_mem_parseJwksJson
    {backend : Backend}
    {json : String}
    {k : Jwk}
    (member : k ∈ parseJwksJson backend json) :
    k.kid ≠ "" ∧ kidAcceptable k.kid = true := by
  unfold parseJwksJson at member
  split at member
  · cases member
  · split at member
    · split at member
      · obtain ⟨element, -, parses⟩ := List.mem_filterMap.mp member
        unfold parseSingleJwk at parses
        split at parses
        · simp only [Option.bind_eq_bind, Option.bind_eq_some_iff, Option.pure_def,
            Option.some.injEq, Option.guard_eq_some'] at parses
          obtain ⟨kid, _, kty, _, _, _, _, accepted, rfl⟩ := parses
          exact accepted
        · cases parses
      · cases member
    · cases member

theorem kidAcceptable_of_mem_parseJwksJson
    {backend : Backend}
    {json : String}
    {k : Jwk}
    (member : k ∈ parseJwksJson backend json) :
    kidAcceptable k.kid = true :=
  (kid_of_mem_parseJwksJson member).2

/-- The kid of a parsed token was accepted, and its header names the algorithm. -/
theorem parseJwt_some
    {backend : Backend}
    {token : String}
    {parsed : JwtParsed}
    (succeeds : parseJwt backend token = some parsed) :
    token ≠ "" ∧
      kidAcceptable parsed.kid = true ∧
      ∃ decoded, backend.decode token = some decoded ∧
        decoded.algorithm.read "" = some parsed.alg ∧
        decoded.keyId.read "" = some parsed.kid := by
  unfold parseJwt at succeeds
  split at succeeds
  · cases succeeds
  · next nonempty =>
      simp only [Option.bind_eq_bind, Option.bind_eq_some_iff, Option.pure_def,
        Option.some.injEq, Option.guard_eq_some'] at succeeds
      obtain ⟨decoded, decodes, alg, algRead, kid, kidRead, _, acceptable, _, _, _, _,
        _, _, _, _, _, _, _, _, _, _, rfl⟩ := succeeds
      exact ⟨nonempty, acceptable, decoded, decodes, algRead, kidRead⟩

end Jwt
end QuackOauth
