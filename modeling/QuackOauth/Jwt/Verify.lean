import QuackOauth.Jwt.Parse
import QuackOauth.Text

/-!
# Verifying a token against one key

Base64url, conversion of a key to PEM, the algorithm gates, and the verdict on a
token under a single key.
-/

namespace QuackOauth
namespace Jwt

open Jwks

/-- Verdict on a token. -/
inductive VerifyResult
  | ok
  | malformed
  | disallowedAlgorithm
  | invalidSignature
  | expired
  | notYetValid
  | wrongIssuer
  | wrongAudience
  | unsupportedKeyType
  | unusableKey
  | noMatchingKey
  -- The last three come from the validator, never from a single key.
  | unknownKid
  | jwksFetchFailed
  | jwksThrottled
  deriving DecidableEq, Repr

/-- What the caller asks of a token; empty issuer and audience ask nothing. -/
structure VerifyOptions where
  expectedIssuer : String := ""
  expectedAudience : String := ""
  clockSkewS : Int := 60
  nowS : Int := 0
  /-- Empty means the default list. -/
  allowedAlgorithms : List String := []

/-! ## Base64url -/

/-- The six bits a character stands for. -/
def base64UrlValue (c : UInt8) : Option UInt32 :=
  if 65 ≤ c ∧ c ≤ 90 then some (c - 65).toUInt32
  else if 97 ≤ c ∧ c ≤ 122 then some ((c - 97).toUInt32 + 26)
  else if 48 ≤ c ∧ c ≤ 57 then some ((c - 48).toUInt32 + 52)
  else if c = 45 then some 62
  else if c = 95 then some 63
  else none

/-- Decode the rest of the input into `out`; an equals sign ends it. -/
def base64UrlLoop :
    List UInt8 → UInt32 → Nat → List UInt8 → Option (List UInt8)
  | [], _, _, out => some out
  | c :: rest, buffer, bits, out =>
      if c = 61 then some out
      else
        match base64UrlValue c with
        | none => none
        | some v =>
            let buffer := (buffer <<< 6) ||| v
            let bits := bits + 6
            if bits ≥ 8 then
              let bits := bits - 8
              base64UrlLoop rest buffer bits
                (out ++ [((buffer >>> UInt32.ofNat bits) &&& 0xFF).toUInt8])
            else base64UrlLoop rest buffer bits out

/-- Decode unpadded base64url; trailing padding is tolerated. -/
def base64UrlDecode (input : List UInt8) : Option (List UInt8) :=
  if input = [] then none else base64UrlLoop input 0 0 []

/-! ## Keys to PEM -/

/-- PEM form of an RSA key, and whether it was refused for its size only. -/
def rsaPublicKeyToPem
    (backend : Backend)
    (n e : List UInt8) : Option String × Bool :=
  match backend.rsaFromData n e with
  | none => (none, false)
  | some pkey =>
      if 512 ≤ pkey.bits ∧ pkey.bits < 2048 then (none, true)
      else if pkey.bits < 512 then (none, false)
      else (pkey.pem, false)

/-- PEM form of an RSA key; the flag reports a key of 512 to 2047 bits. -/
def jwkRsaToPem (backend : Backend) (jwk : Jwk) : Option String × Bool :=
  if jwk.n = "" ∨ jwk.e = "" then (none, false)
  else
    match base64UrlDecode (bytesOf jwk.n), base64UrlDecode (bytesOf jwk.e) with
    | some n, some e => rsaPublicKeyToPem backend n e
    | _, _ => (none, false)

/-- PEM form of a curve point, encoded uncompressed. -/
def ecPublicKeyToPem
    (backend : Backend)
    (groupName : String)
    (x y : List UInt8) : Option String :=
  if y.length ≠ x.length then none
  else (backend.ecFromData groupName (0x04 :: x ++ y)).bind EvpPkey.pem

/-- PEM form of an elliptic-curve key on one of the two supported curves. -/
def jwkEcToPem (backend : Backend) (jwk : Jwk) : Option String :=
  if jwk.x = "" ∨ jwk.y = "" ∨ jwk.crv = "" then none
  else if jwk.crv = "P-256" ∨ jwk.crv = "P-384" then do
    let x ← base64UrlDecode (bytesOf jwk.x)
    let y ← base64UrlDecode (bytesOf jwk.y)
    ecPublicKeyToPem backend jwk.crv x y
  else none

/-- PEM form of a raw public key. -/
def okpPublicKeyToPem
    (backend : Backend)
    (algName : String)
    (x : List UInt8) : Option String :=
  (backend.rawPublicKey algName x).bind EvpPkey.pem

/-- PEM form of an Ed25519 key. -/
def jwkOkpToPem (backend : Backend) (jwk : Jwk) : Option String :=
  if jwk.x = "" ∨ jwk.crv = "" then none
  else if jwk.crv ≠ "Ed25519" then none
  else (base64UrlDecode (bytesOf jwk.x)).bind (okpPublicKeyToPem backend "ED25519")

/-- Whether a key has valid material of sufficient size. -/
def isUsableSigningKey (backend : Backend) (jwk : Jwk) : Bool :=
  if jwk.kty = "RSA" then
    let (pem, sub2048) := jwkRsaToPem backend jwk
    pem.isSome && !sub2048
  else if jwk.kty = "EC" then (jwkEcToPem backend jwk).isSome
  else if jwk.kty = "OKP" then (jwkOkpToPem backend jwk).isSome
  else false

/-! ## Algorithm gates -/

/-- A string starts with another. -/
def startsWith (s start : String) : Bool :=
  start.toList.isPrefixOf s.toList

/-- No algorithm, `none`, and the symmetric ones are refused whatever the caller
allows. -/
def isForbiddenAlgorithm (alg : String) : Bool :=
  alg = "" || alg = "none" || startsWith alg "HS"

/-- The algorithms allowed by default. -/
def defaultAllowedAlgorithms : List String :=
  ["RS256", "RS384", "RS512", "ES256", "ES384", "EdDSA"]

/-- Whether an algorithm is on the list; the empty list means the default. -/
def isAlgorithmAllowed (alg : String) (allowed : List String) : Bool :=
  decide (alg ∈ if allowed = [] then defaultAllowedAlgorithms else allowed)

/-! ## The verdict -/

/-- A claim error of the verifier as a verdict. -/
def mapVerificationError : TokenVerificationError → VerifyResult
  | .tokenExpired => .expired
  | .audienceMissmatch => .wrongAudience
  | .wrongAlgorithm => .disallowedAlgorithm
  -- The issuer is the only other claim that is configured.
  | .claimValueMissmatch => .wrongIssuer
  | .claimTypeMissmatch => .wrongIssuer
  | .missingClaim => .wrongIssuer
  | .other => .invalidSignature

/-- An empty setting configures nothing. -/
def configured (setting : String) : Option String :=
  if setting = "" then none else some setting

/-- Run the verifier on a decoded token. -/
def verifyWithVerifier
    (backend : Backend)
    (token : String)
    (decoded : DecodedJwt)
    (pem alg : String)
    (opts : VerifyOptions) : VerifyResult :=
  if alg ∉ defaultAllowedAlgorithms then .disallowedAlgorithm
  else
    let clampedSkew := max 0 (min opts.clockSkewS 3600)
    let outcome := backend.verify {
      algorithm := alg
      pem
      issuer := configured opts.expectedIssuer
      audience := configured opts.expectedAudience
      leewayS := clampedSkew.toNat
      nowS := opts.nowS } token
    match outcome with
    | .keyRejected => .invalidSignature
    | .ok => .ok
    | .signatureError => .invalidSignature
    -- The verifier reports every failed time check as an expiry.
    | .tokenError .tokenExpired =>
        match decoded.notBefore with
        | .value nbf =>
            if opts.nowS + clampedSkew < nbf then .notYetValid else .expired
        | _ => .expired
    | .tokenError error => mapVerificationError error

/-- PEM form of a key of any family, or the verdict that there is none. -/
def jwkToPem (backend : Backend) (jwk : Jwk) : Except VerifyResult String :=
  if jwk.kty = "RSA" then
    match jwkRsaToPem backend jwk with
    | (_, true) => .error .unsupportedKeyType
    | (some pem, false) => .ok pem
    | (none, false) => .error .unusableKey
  else if jwk.kty = "EC" then
    match jwkEcToPem backend jwk with
    | some pem => .ok pem
    | none => .error .unusableKey
  else if jwk.kty = "OKP" then
    match jwkOkpToPem backend jwk with
    | some pem => .ok pem
    | none => .error .unusableKey
  else .error .unsupportedKeyType

/-- The verdict on a token under one key.  An algorithm that is no string makes the
source throw here; the validator has parsed the token before, which refuses it. -/
def verifyJwt
    (backend : Backend)
    (token : String)
    (jwk : Jwk)
    (opts : VerifyOptions) : VerifyResult :=
  if token = "" then .malformed
  else
    match backend.decode token with
    | none => .malformed
    | some decoded =>
        let alg := (decoded.algorithm.read "").getD ""
        if isForbiddenAlgorithm alg ||
            !isAlgorithmAllowed alg opts.allowedAlgorithms then .disallowedAlgorithm
        else
          match jwkToPem backend jwk with
          | .error verdict => verdict
          | .ok pem => verifyWithVerifier backend token decoded pem alg opts

/-- A key that is accepted is a usable one. -/
theorem isUsableSigningKey_of_jwkToPem
    {backend : Backend}
    {jwk : Jwk}
    {pem : String}
    (converts : jwkToPem backend jwk = .ok pem) :
    isUsableSigningKey backend jwk = true := by
  unfold jwkToPem at converts
  unfold isUsableSigningKey
  split at converts
  · next isRsa =>
      rw [if_pos isRsa]
      split at converts <;> simp_all
  · next notRsa =>
      rw [if_neg notRsa]
      split at converts
      · next isEc =>
          rw [if_pos isEc]
          split at converts <;> simp_all
      · next notEc =>
          rw [if_neg notEc]
          split at converts
          · next isOkp =>
              rw [if_pos isOkp]
              split at converts <;> simp_all
          · cases converts

/-- And a usable key converts. -/
theorem jwkToPem_of_isUsableSigningKey
    {backend : Backend}
    {jwk : Jwk}
    (usable : isUsableSigningKey backend jwk = true) :
    ∃ pem, jwkToPem backend jwk = .ok pem := by
  unfold isUsableSigningKey at usable
  unfold jwkToPem
  split at usable
  · next isRsa =>
      rw [if_pos isRsa]
      split <;> simp_all
  · next notRsa =>
      rw [if_neg notRsa]
      split at usable
      · next isEc =>
          rw [if_pos isEc]
          split <;> simp_all
      · next notEc =>
          rw [if_neg notEc]
          split at usable
          · next isOkp =>
              rw [if_pos isOkp]
              split <;> simp_all
          · cases usable

/-- A key that does not convert has a type or material that cannot be used. -/
theorem jwkToPem_error
    {backend : Backend}
    {jwk : Jwk}
    {verdict : VerifyResult}
    (refuses : jwkToPem backend jwk = .error verdict) :
    verdict = .unsupportedKeyType ∨ verdict = .unusableKey := by
  unfold jwkToPem at refuses
  split at refuses
  · split at refuses <;> cases refuses
    · exact .inl rfl
    · exact .inr rfl
  · split at refuses
    · split at refuses <;> cases refuses
      exact .inr rfl
    · split at refuses
      · split at refuses <;> cases refuses
        exact .inr rfl
      · cases refuses
        exact .inl rfl

end Jwt
end QuackOauth
