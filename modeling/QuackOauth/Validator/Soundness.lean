import QuackOauth.Validator.Pieces

/-!
# A positive verdict rests on a trusted key

Whatever others do to the cache while a request is out, a call accepts its token
only under one key: a signing key whose algorithm fits the header, under which the
signature and the claims verify, and which the issuer published for exactly the
token's kid.
-/

namespace QuackOauth
namespace Validator

open Lib Jwks Jwt

/-- The header that the checks before any lookup admit. -/
structure TrustedHeader
    (backend : Backend)
    (call : Call)
    (kid alg : String) : Prop where
  decoded : ∃ decoded, backend.decode call.token = some decoded ∧
    decoded.keyId = .value kid ∧ decoded.algorithm = .value alg
  kid_ne : kid ≠ ""
  kidAcceptable : kidAcceptable kid = true
  alg_ne : alg ≠ ""
  alg_ne_none : alg ≠ "none"
  notSymmetric : startsWith alg "HS" = false
  allowed : isAlgorithmAllowed alg call.opts.allowedAlgorithms = true

/-- A key that verifies the token and may be used for its header. -/
structure VerifyingKey
    (backend : Backend)
    (call : Call)
    (alg : String)
    (k : Jwk) : Prop where
  verifies : verifyJwt backend call.token k call.opts = .ok
  use_eq : k.use = "" ∨ k.use = "sig"
  alg_eq : k.alg = "" ∨ k.alg = alg

/-- Where the key came from, by the path the call took.  Without a request it was
cached when the call began.  After a refresh it was cached right after the commit
attempt or at the end of the call.  After a cold fetch it was published by the
call's own document or cached at the end. -/
def KeyProvenance
    (backend : Backend)
    (get : Get)
    (call : Call)
    (before : JwksCache)
    (outcome : Outcome)
    (kid : String)
    (k : Jwk) : Prop :=
  match beginValidation backend call before with
  | .finished _ => StoredFor before call.jwksUri kid k
  | .fetching parked requesting =>
      match parked.route with
      | .refresh reservationId _ =>
          StoredFor (cacheAfterCommit backend parked reservationId
            (get call.jwksUri requesting).1 (get call.jwksUri requesting).2)
            call.jwksUri kid k ∨
          StoredFor outcome.cache call.jwksUri kid k
      | .cold =>
          Published backend (get call.jwksUri requesting).1 kid k ∨
          StoredFor outcome.cache call.jwksUri kid k

theorem Claim.eq_value_of_read
    {claim : Claim String}
    {content : String}
    (reads : claim.read "" = some content)
    (nonempty : content ≠ "") :
    claim = .value content := by
  cases claim with
  | absent =>
      cases reads
      exact absurd rfl nonempty
  | malformed => cases reads
  | value other =>
      cases reads
      rfl

theorem HeaderAdmitted.trusted
    {backend : Backend}
    {call : Call}
    {parsed : JwtParsed}
    (admitted : HeaderAdmitted backend call parsed) :
    TrustedHeader backend call parsed.kid parsed.alg := by
  have notForbidden := admitted.notForbidden
  simp only [isForbiddenAlgorithm, Bool.or_eq_false_iff,
    decide_eq_false_iff_not] at notForbidden
  obtain ⟨⟨alg_ne, alg_ne_none⟩, notSymmetric⟩ := notForbidden
  obtain ⟨-, acceptable, decoded, decodes, algRead, kidRead⟩ := parseJwt_some admitted.parses
  exact {
    decoded := ⟨decoded, decodes, Claim.eq_value_of_read kidRead admitted.kid_ne,
      Claim.eq_value_of_read algRead alg_ne⟩
    kid_ne := admitted.kid_ne
    kidAcceptable := acceptable
    alg_ne
    alg_ne_none
    notSymmetric
    allowed := admitted.allowed }

theorem AcceptedBy.verifyingKey
    {backend : Backend}
    {call : Call}
    {alg : String}
    {k : Jwk}
    (accepted : AcceptedBy backend call.token alg call.opts .ok k) :
    VerifyingKey backend call alg k := by
  obtain ⟨matching, verifies⟩ := accepted
  simp only [jwkMatchesTokenHeader, isSigningKey, Bool.and_eq_true, Bool.or_eq_true,
    decide_eq_true_eq] at matching
  exact ⟨verifies, matching.1, matching.2⟩

/-- A token is accepted only with a trusted header and under a trusted key. -/
theorem validateToken_sound
    (backend : Backend)
    (get : Get)
    (order : IterationOrder String (List Jwk))
    (call : Call)
    (cache : JwksCache)
    (accepts : (validateToken backend get order call cache).verdict = .ok) :
    ∃ kid alg, TrustedHeader backend call kid alg ∧
      ∃ k, VerifyingKey backend call alg k ∧
        KeyProvenance backend get call cache
          (validateToken backend get order call cache) kid k := by
  have spec := beginValidation_spec backend call cache
  unfold KeyProvenance
  unfold validateToken at accepts ⊢
  cases begun : beginValidation backend call cache with
  | finished outcome =>
      simp only [begun] at accepts ⊢
      obtain ⟨parsed, admitted, k, stored, accepted⟩ :=
        (spec.1 outcome begun).accepted accepts
      exact ⟨_, _, admitted.trusted, k, accepted.verifyingKey, stored⟩
  | fetching parked requesting =>
      simp only [begun] at accepts ⊢
      obtain ⟨rfl, admitted, -, reserved⟩ := spec.2 parked requesting begun
      refine ⟨_, _, admitted.trusted, ?_⟩
      unfold finishValidation at accepts ⊢
      cases route : parked.route with
      | refresh reservationId cachedResult =>
          simp only [route] at accepts ⊢
          obtain ⟨-, -, -, rejected⟩ := reserved _ _ route
          obtain ⟨k, accepted, stored⟩ := (finishRefresh_spec rejected).accepted accepts
          exact ⟨k, accepted.verifyingKey, stored⟩
      | cold =>
          simp only [route] at accepts ⊢
          obtain ⟨k, accepted, provenance⟩ := (finishCold_spec route).accepted accepts
          exact ⟨k, accepted.verifyingKey, provenance.imp_left And.right⟩

/-! ## A small issuer -/

/-- An Ed25519 key as a JWKS document lists it. -/
def sampleKey (kid x : String) : Json :=
  .object [("kid", .string kid), ("kty", .string "OKP"),
    ("crv", .string "Ed25519"), ("x", .string x)]

/-- The kid of each sample token, and the PEM form of the key that signed it. -/
def sampleTokens : List (String × String × String) :=
  [("a-old", "a", "old"), ("a-new", "a", "new"), ("b-old", "b", "old")]

/-- The sample documents, by body: before kid `b` is there, before and after the key
of kid `a` is replaced, and while both its keys are published. -/
def sampleDocuments : List (String × List Json) :=
  [("first", [sampleKey "a" "AQ"]),
    ("before", [sampleKey "a" "AQ", sampleKey "b" "AQ"]),
    ("both", [sampleKey "a" "AQ", sampleKey "a" "Ag", sampleKey "b" "AQ"]),
    ("after", [sampleKey "a" "Ag", sampleKey "b" "AQ"])]

/-- Libraries that know the sample tokens and documents. -/
def sampleBackend : Backend where
  decode token := (sampleTokens.lookup token).map fun signed =>
    { algorithm := .value "EdDSA", keyId := .value signed.1 }
  parseJson body := (sampleDocuments.lookup body).map fun keys =>
    .object [("keys", .array keys)]
  rsaFromData _ _ := none
  ecFromData _ _ := none
  rawPublicKey _ bytes :=
    if bytes = [1] then some { bits := 256, pem := some "old" }
    else if bytes = [2] then some { bits := 256, pem := some "new" }
    else none
  verify config token :=
    match sampleTokens.lookup token with
    | some signed => if signed.2 = config.pem then .ok else .signatureError
    | none => .signatureError

/-- A call for the sample issuer. -/
def sampleCall (token : String) (nowS : Int) : Call where
  token := token
  opts := { nowS := nowS }
  jwksUri := "https://idp.test/jwks"

/-- The response with a sample document. -/
def sampleResponse (body : String) : Option Response :=
  some { statusCode := 200, body := body }

theorem validateToken_sound_sample :
    ∃ kid alg, TrustedHeader sampleBackend (sampleCall "a-old" 1000) kid alg ∧
      ∃ k, VerifyingKey sampleBackend (sampleCall "a-old" 1000) alg k ∧
        KeyProvenance sampleBackend (fun _ cache => (sampleResponse "before", cache))
          (sampleCall "a-old" 1000) (JwksCache.create 300 1000)
          (validateToken sampleBackend (fun _ cache => (sampleResponse "before", cache))
            .stored (sampleCall "a-old" 1000) (JwksCache.create 300 1000)) kid k :=
  validateToken_sound sampleBackend (fun _ cache => (sampleResponse "before", cache))
    .stored (sampleCall "a-old" 1000) (JwksCache.create 300 1000) (by decide)

end Validator
end QuackOauth
