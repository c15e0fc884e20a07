import QuackOauth.Json

/-!
# The libraries under the validator

What the validator uses of its token, JSON and cryptography libraries, as one
structure of functions.  Nothing is assumed about them beyond their types.
-/

namespace QuackOauth
namespace Jwt

/-- A claim as its typed accessor sees it. -/
inductive Claim (α : Type)
  | absent
  /-- Present with another type: the accessor throws. -/
  | malformed
  | value (content : α)

namespace Claim

/-- Read a claim if it is present; none where the accessor throws. -/
def read {α : Type} (fallback : α) : Claim α → Option α
  | .absent => some fallback
  | .malformed => none
  | .value content => some content

/-- Read a claim of the expected type, and ignore any other. -/
def readLenient {α : Type} (fallback : α) : Claim α → α
  | .value content => content
  | _ => fallback

end Claim

/-- A decoded compact token: header and payload claims. -/
structure DecodedJwt where
  algorithm : Claim String := .absent
  keyId : Claim String := .absent
  type : Claim String := .absent
  subject : Claim String := .absent
  issuer : Claim String := .absent
  audience : Claim (List String) := .absent
  expiresAt : Claim Int := .absent
  notBefore : Claim Int := .absent
  issuedAt : Claim Int := .absent
  scope : Claim String := .absent
  scp : Claim (List Json) := .absent
  roles : Claim (List Json) := .absent

/-- What the code reads of a public key: its bits and its PEM form, if it has one. -/
structure EvpPkey where
  bits : Nat
  pem : Option String

/-- The claim errors of the token verifier. -/
inductive TokenVerificationError
  | wrongAlgorithm
  | missingClaim
  | claimTypeMissmatch
  | claimValueMissmatch
  | tokenExpired
  | audienceMissmatch
  | other
  deriving DecidableEq, Repr

/-- How the verifier ends. -/
inductive VerifierOutcome
  /-- The algorithm does not accept the key. -/
  | keyRejected
  | ok
  | signatureError
  | tokenError (error : TokenVerificationError)
  deriving DecidableEq, Repr

/-- A configured verifier; an issuer or audience of none is not checked. -/
structure VerifierConfig where
  algorithm : String
  pem : String
  issuer : Option String
  audience : Option String
  leewayS : Nat
  nowS : Int

/-- The third-party functions. -/
structure Backend where
  /-- Decode a compact token; none where decoding throws. -/
  decode : String → Option DecodedJwt
  /-- Parse JSON; none on a parse error. -/
  parseJson : String → Option Json
  /-- An RSA key from its modulus and exponent. -/
  rsaFromData : List UInt8 → List UInt8 → Option EvpPkey
  /-- An elliptic-curve key from a group name and an encoded point. -/
  ecFromData : String → List UInt8 → Option EvpPkey
  /-- A raw public key from an algorithm name and its bytes. -/
  rawPublicKey : String → List UInt8 → Option EvpPkey
  /-- Verify a token's signature and claims. -/
  verify : VerifierConfig → String → VerifierOutcome

end Jwt
end QuackOauth
