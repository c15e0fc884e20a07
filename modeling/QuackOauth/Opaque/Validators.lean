import QuackOauth.Opaque.DecisionCache
import QuackOauth.Opaque.Responses

/-!
# Validators of opaque tokens

Three validators ask an identity provider about a token, each in its own way, and
share the decision cache.  Like the validator of signed tokens they give up the mutex
during their request, and are written as two pieces: `beginOpaque` looks into the
cache and sends the request, `finishOpaque` judges the response and caches a positive
decision.
-/

namespace QuackOauth
namespace Opaque

open Jwt Policy
open Validator (Response)

/-! ## Contexts -/

/-- Where and how to introspect; an empty issuer or audience asks nothing. -/
structure IntrospectContext where
  endpoint : String
  clientId : String := ""
  clientSecret : String := ""
  expectedIssuer : String := ""
  expectedAudience : String := ""
  deriving DecidableEq

/-- Where to ask for token information. -/
structure TokeninfoContext where
  endpoint : String
  expectedAudience : String := ""
  deriving DecidableEq

/-- A GitHub application. -/
structure GithubContext where
  checkUrl : String
  clientId : String := ""
  clientSecret : String := ""
  deriving DecidableEq

/-- The mode of validation with its settings. -/
inductive TrustContext
  | introspect (ctx : IntrospectContext)
  | tokeninfo (ctx : TokeninfoContext)
  | githubCheck (ctx : GithubContext)
  deriving DecidableEq

/-! ## Judging a response -/

def audienceMatches (actual : List String) (expected : String) : Bool :=
  decide (expected ∈ actual)

/-- Judge an introspection response.  Issuer and audience are checked where the
response has them. -/
def judgeIntrospection
    (ctx : IntrospectContext)
    (resp : Option IntrospectionResponse) : Except VerifyResult Principal :=
  match resp with
  | none => .error .jwksFetchFailed
  | some resp =>
      if !resp.active then .error .invalidSignature
      else if ctx.expectedIssuer ≠ "" ∧ resp.issuer ≠ "" ∧
          resp.issuer ≠ ctx.expectedIssuer then .error .wrongIssuer
      else if ctx.expectedAudience ≠ "" ∧ resp.audience ≠ [] ∧
          audienceMatches resp.audience ctx.expectedAudience = false then
        .error .wrongAudience
      else .ok {
        subject := resp.subject
        issuer := resp.issuer
        scopes := splitScope resp.scope ++ resp.scp
        exp := resp.exp }

/-- Judge a tokeninfo response.  Either of the two audience fields may match. -/
def judgeTokeninfo
    (ctx : TokeninfoContext)
    (opts : VerifyOptions)
    (resp : Option TokeninfoResponse) : Except VerifyResult Principal :=
  match resp with
  | none => .error .jwksFetchFailed
  | some resp =>
      if !resp.active then .error .invalidSignature
      else if ctx.expectedAudience ≠ "" ∧ resp.aud ≠ ctx.expectedAudience ∧
          resp.azp ≠ ctx.expectedAudience then .error .wrongAudience
      else if resp.exp > 0 ∧ opts.nowS > resp.exp + opts.clockSkewS then .error .expired
      else .ok {
        subject := if resp.subject = "" then resp.azp else resp.subject
        scopes := splitScope resp.scope
        exp := resp.exp }

/-- Judge the response for a GitHub token.  A refusal of the application's own
credentials says nothing about the token. -/
def judgeGithubCheck
    (backend : Backend)
    (response : Option Response) : Except VerifyResult Principal :=
  match response with
  | none => .error .jwksFetchFailed
  | some response =>
      if response.statusCode ≥ 500 then .error .jwksFetchFailed
      else if response.statusCode = 404 then .error .invalidSignature
      else if response.statusCode ≠ 200 then .error .jwksFetchFailed
      else
        match parseGithubCheckResponse backend response.body with
        | none => .error .malformed
        | some principal => .ok principal

namespace TrustContext

/-- The request for a token; none if there is nobody to ask. -/
def request (token : String) : TrustContext → Option PostRequest
  | .introspect ctx =>
      introspectRequest ctx.endpoint ctx.clientId ctx.clientSecret token
  | .tokeninfo ctx => tokeninfoRequest ctx.endpoint token
  | .githubCheck ctx =>
      some (githubCheckRequest ctx.checkUrl ctx.clientId ctx.clientSecret token)

/-- The verdict on a response. -/
def judge
    (backend : Backend)
    (opts : VerifyOptions)
    (response : Option Response) : TrustContext → Except VerifyResult Principal
  | .introspect ctx => judgeIntrospection ctx (introspectToken backend response)
  | .tokeninfo ctx => judgeTokeninfo ctx opts (queryTokeninfo backend response)
  | .githubCheck _ => judgeGithubCheck backend response

end TrustContext

/-! ## The two pieces of a validation -/

/-- A call of one of the validators. -/
structure OpaqueCall where
  token : String
  opts : VerifyOptions
  context : TrustContext

/-- How a validation ends. -/
structure OpaqueOutcome where
  verdict : VerifyResult
  principal : Option Principal := none
  cache : DecisionCache

/-- Judge the response and cache a positive decision. -/
def finishOpaque
    (backend : Backend)
    (keyOf : String → String)
    (call : OpaqueCall)
    (response : Option Response)
    (cache : DecisionCache) : OpaqueOutcome :=
  match call.context.judge backend call.opts response with
  | .error verdict => { verdict, cache }
  | .ok principal => {
      verdict := .ok
      principal := some principal
      cache := cache.store (keyOf call.token) principal call.opts.nowS }

/-- How far a validation gets without a response. -/
inductive OpaqueProgress
  | finished (outcome : OpaqueOutcome)
  | posting (request : PostRequest) (cache : DecisionCache)

/-- Look the token up, and prepare the request if it is not cached. -/
def beginOpaque
    (backend : Backend)
    (keyOf : String → String)
    (call : OpaqueCall)
    (cache : DecisionCache) : OpaqueProgress :=
  if call.token = "" then .finished { verdict := .malformed, cache }
  else
    match cache.lookup (keyOf call.token) call.opts.nowS with
    | (some principal, cache) =>
        .finished { verdict := .ok, principal := some principal, cache }
    | (none, cache) =>
        match call.context.request call.token with
        | none => .finished (finishOpaque backend keyOf call none cache)
        | some request => .posting request cache

variable {backend : Backend} {keyOf : String → String} {call : OpaqueCall}
variable {cache : DecisionCache}

/-- Without a response nothing is accepted. -/
theorem judge_none (context : TrustContext) (opts : VerifyOptions) :
    context.judge backend opts none = .error .jwksFetchFailed := by
  cases context <;> rfl

/-- A response that is refused is not refused as valid. -/
theorem verdict_ne_ok
    {context : TrustContext}
    {opts : VerifyOptions}
    {response : Option Response}
    {verdict : VerifyResult}
    (refused : context.judge backend opts response = .error verdict) :
    verdict ≠ .ok := by
  rintro rfl
  cases context with
  | introspect ctx =>
      unfold TrustContext.judge judgeIntrospection at refused
      dsimp only at refused
      split at refused
      · cases refused
      · split_ifs at refused <;> cases refused
  | tokeninfo ctx =>
      unfold TrustContext.judge judgeTokeninfo at refused
      dsimp only at refused
      split at refused
      · cases refused
      · split_ifs at refused <;> cases refused
  | githubCheck ctx =>
      unfold TrustContext.judge judgeGithubCheck at refused
      dsimp only at refused
      split at refused
      · cases refused
      · split_ifs at refused with failed unknown unexpected
        · cases refused
        · cases refused
        · cases refused
        · split at refused <;> cases refused

/-- A validation that needs no response either fails or finds the token cached. -/
theorem beginOpaque_finished
    {outcome : OpaqueOutcome}
    (finishes : beginOpaque backend keyOf call cache = .finished outcome) :
    (outcome.verdict ≠ .ok ∧
      (outcome.cache = cache ∨
        outcome.cache = (cache.lookup (keyOf call.token) call.opts.nowS).2)) ∨
    ∃ principal,
      (cache.lookup (keyOf call.token) call.opts.nowS).1 = some principal ∧
      outcome.principal = some principal ∧
      outcome.cache = (cache.lookup (keyOf call.token) call.opts.nowS).2 := by
  unfold beginOpaque at finishes
  split at finishes
  · cases finishes
    exact .inl ⟨VerifyResult.noConfusion, .inl rfl⟩
  · cases looked : cache.lookup (keyOf call.token) call.opts.nowS with
    | mk found after =>
        rw [looked] at finishes
        cases found with
        | some principal =>
            cases finishes
            exact .inr ⟨principal, rfl, rfl, rfl⟩
        | none =>
            dsimp only at finishes
            split at finishes
            · cases finishes
              rw [finishOpaque, judge_none]
              exact .inl ⟨VerifyResult.noConfusion, .inr rfl⟩
            · cases finishes

/-- A request is sent after a lookup that found nothing. -/
theorem beginOpaque_posting
    {request : PostRequest}
    {after : DecisionCache}
    (posts : beginOpaque backend keyOf call cache = .posting request after) :
    call.context.request call.token = some request ∧
      after = (cache.lookup (keyOf call.token) call.opts.nowS).2 := by
  unfold beginOpaque at posts
  split at posts
  · cases posts
  · cases looked : cache.lookup (keyOf call.token) call.opts.nowS with
    | mk found unlocked =>
        rw [looked] at posts
        cases found with
        | some principal => cases posts
        | none =>
            dsimp only at posts
            split at posts
            · cases posts
            · next asked =>
                cases posts
                exact ⟨asked, rfl⟩

/-- A validation that ends well has judged its response so. -/
theorem finishOpaque_ok
    {response : Option Response}
    (accepted : (finishOpaque backend keyOf call response cache).verdict = .ok) :
    ∃ principal,
      call.context.judge backend call.opts response = .ok principal ∧
      (finishOpaque backend keyOf call response cache).principal = some principal := by
  unfold finishOpaque at accepted ⊢
  cases judged : call.context.judge backend call.opts response with
  | error verdict =>
      rw [judged] at accepted
      exact absurd accepted (verdict_ne_ok judged)
  | ok principal => exact ⟨principal, rfl, rfl⟩

/-- A validation on which nobody else steps in. -/
def validateOpaque
    (backend : Backend)
    (keyOf : String → String)
    (http : PostRequest → Option Response)
    (call : OpaqueCall)
    (cache : DecisionCache) : OpaqueOutcome :=
  match beginOpaque backend keyOf call cache with
  | .finished outcome => outcome
  | .posting request cache => finishOpaque backend keyOf call (http request) cache

def validateTokenViaIntrospection
    (backend : Backend)
    (keyOf : String → String)
    (http : PostRequest → Option Response)
    (token : String)
    (opts : VerifyOptions)
    (ctx : IntrospectContext) : DecisionCache → OpaqueOutcome :=
  validateOpaque backend keyOf http { token, opts, context := .introspect ctx }

def validateTokenViaTokeninfo
    (backend : Backend)
    (keyOf : String → String)
    (http : PostRequest → Option Response)
    (token : String)
    (opts : VerifyOptions)
    (ctx : TokeninfoContext) : DecisionCache → OpaqueOutcome :=
  validateOpaque backend keyOf http { token, opts, context := .tokeninfo ctx }

def validateTokenViaGithubCheck
    (backend : Backend)
    (keyOf : String → String)
    (http : PostRequest → Option Response)
    (token : String)
    (opts : VerifyOptions)
    (ctx : GithubContext) : DecisionCache → OpaqueOutcome :=
  validateOpaque backend keyOf http { token, opts, context := .githubCheck ctx }

end Opaque
end QuackOauth
