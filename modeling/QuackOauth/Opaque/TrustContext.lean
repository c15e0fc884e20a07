import Mathlib.Data.List.Induction
import QuackOauth.Lib.Machine
import QuackOauth.Opaque.Validators

/-!
# Decisions and the contexts they come from

Calls of the three validators, interleaved over one decision cache.  A cached decision
is found by the token alone, whatever the settings of the call that looks it up.  So
a positive verdict rests on a response that passed the checks of the context it was
obtained under, which need not be the context of the call.
-/

namespace QuackOauth
namespace Opaque

open Lib Jwt Policy
open Validator (Response)

/-- The shared cache and the calls that wait for a response. -/
structure OpaqueSystem where
  cache : DecisionCache
  inFlight : UnorderedMap Nat OpaqueCall := ∅
  /-- The number of the next request. -/
  nextRequest : Nat := 0

/-- One step under the mutex. -/
inductive OpaqueLabel
  | begin (call : OpaqueCall)
  /-- The response to a request arrives. -/
  | resume (request : Nat) (response : Option Response)

/-! ## What a response proves -/

/-- Whether a response passes the active, issuer and audience checks of a context.
Issuer and audience are advisory where the provider leaves them out. -/
def passesChecks
    (backend : Backend)
    (response : Option Response) : TrustContext → Bool
  | .introspect ctx =>
      match introspectToken backend response with
      | none => false
      | some resp => resp.active &&
          (ctx.expectedIssuer = "" || resp.issuer = "" ||
            resp.issuer = ctx.expectedIssuer) &&
          (ctx.expectedAudience = "" || resp.audience = [] ||
            decide (ctx.expectedAudience ∈ resp.audience))
  | .tokeninfo ctx =>
      match queryTokeninfo backend response with
      | none => false
      | some resp => resp.active &&
          (ctx.expectedAudience = "" || resp.aud = ctx.expectedAudience ||
            resp.azp = ctx.expectedAudience)
  | .githubCheck _ =>
      match response with
      | none => false
      | some response => response.statusCode = 200 &&
          (parseGithubCheckResponse backend response.body).isSome

variable {backend : Backend} {keyOf : String → String}

theorem passesChecks_of_judgeIntrospection
    {ctx : IntrospectContext}
    {response : Option Response}
    {principal : Principal}
    (accepted : judgeIntrospection ctx (introspectToken backend response) =
      .ok principal) :
    passesChecks backend response (.introspect ctx) = true := by
  unfold passesChecks
  dsimp only
  cases answer : introspectToken backend response with
  | none =>
      rw [answer] at accepted
      cases accepted
  | some resp =>
      rw [answer] at accepted
      unfold judgeIntrospection at accepted
      dsimp only at accepted
      split_ifs at accepted with active issuer audience
      simp only [audienceMatches, decide_eq_false_iff_not, not_and, not_not,
        Bool.not_eq_true', Bool.not_eq_false] at active issuer audience
      simp only [active, Bool.true_and, Bool.and_eq_true, Bool.or_eq_true,
        decide_eq_true_eq]
      refine ⟨?_, ?_⟩
      · by_cases asked : ctx.expectedIssuer = ""
        · exact .inl (.inl asked)
        · by_cases said : resp.issuer = ""
          · exact .inl (.inr said)
          · exact .inr (issuer asked said)
      · by_cases asked : ctx.expectedAudience = ""
        · exact .inl (.inl asked)
        · by_cases said : resp.audience = []
          · exact .inl (.inr said)
          · exact .inr (audience asked said)

theorem passesChecks_of_judgeTokeninfo
    {ctx : TokeninfoContext}
    {opts : VerifyOptions}
    {response : Option Response}
    {principal : Principal}
    (accepted : judgeTokeninfo ctx opts (queryTokeninfo backend response) =
      .ok principal) :
    passesChecks backend response (.tokeninfo ctx) = true := by
  unfold passesChecks
  dsimp only
  cases answer : queryTokeninfo backend response with
  | none =>
      rw [answer] at accepted
      cases accepted
  | some resp =>
      rw [answer] at accepted
      unfold judgeTokeninfo at accepted
      dsimp only at accepted ⊢
      split at accepted
      · cases accepted
      · next active =>
          rw [Bool.not_eq_true', Bool.not_eq_false] at active
          split at accepted
          · cases accepted
          · next audience =>
              simp only [not_and, not_not] at audience
              simp only [active, Bool.true_and, Bool.or_eq_true, decide_eq_true_eq]
              by_cases asked : ctx.expectedAudience = ""
              · exact .inl (.inl asked)
              · by_cases matchesAud : resp.aud = ctx.expectedAudience
                · exact .inl (.inr matchesAud)
                · exact .inr (audience asked matchesAud)

theorem passesChecks_of_judgeGithubCheck
    {ctx : GithubContext}
    {response : Option Response}
    {principal : Principal}
    (accepted : judgeGithubCheck backend response = .ok principal) :
    passesChecks backend response (.githubCheck ctx) = true := by
  unfold passesChecks
  cases response with
  | none => cases accepted
  | some response =>
      unfold judgeGithubCheck at accepted
      dsimp only at accepted
      split_ifs at accepted with failed unknown success
      cases parsed : parseGithubCheckResponse backend response.body with
      | none =>
          rw [parsed] at accepted
          cases accepted
      | some principal => simp [not_not.mp success, parsed]

/-- A response that is accepted passes the checks. -/
theorem passesChecks_of_judge
    {context : TrustContext}
    {opts : VerifyOptions}
    {response : Option Response}
    {principal : Principal}
    (accepted : context.judge backend opts response = .ok principal) :
    passesChecks backend response context = true := by
  cases context with
  | introspect ctx => exact passesChecks_of_judgeIntrospection accepted
  | tokeninfo ctx => exact passesChecks_of_judgeTokeninfo accepted
  | githubCheck ctx => exact passesChecks_of_judgeGithubCheck accepted

namespace OpaqueSystem

/-- No call yet. -/
def initial (maxEntries : Nat) (defaultTtlS : Int) : OpaqueSystem where
  cache := DecisionCache.create maxEntries defaultTtlS

/-- Take a step.  A response nobody waits for does nothing. -/
def step
    (backend : Backend)
    (keyOf : String → String)
    (system : OpaqueSystem) : OpaqueLabel → OpaqueSystem
  | .begin call =>
      match beginOpaque backend keyOf call system.cache with
      | .finished outcome => { system with cache := outcome.cache }
      | .posting _ cache => {
          cache
          inFlight := system.inFlight.insert system.nextRequest call
          nextRequest := system.nextRequest + 1 }
  | .resume request response =>
      match system.inFlight.lookup request with
      | none => system
      | some call => { system with
          cache := (finishOpaque backend keyOf call response system.cache).cache
          inFlight := system.inFlight.erase request }

/-- The state after a list of steps. -/
abbrev run
    (backend : Backend)
    (keyOf : String → String) : OpaqueSystem → List OpaqueLabel → OpaqueSystem :=
  Machine.run (step backend keyOf)

/-- The call that a step finishes, and how. -/
def outcomeOf
    (backend : Backend)
    (keyOf : String → String)
    (system : OpaqueSystem) : OpaqueLabel → Option (OpaqueCall × OpaqueOutcome)
  | .begin call =>
      match beginOpaque backend keyOf call system.cache with
      | .finished outcome => some (call, outcome)
      | .posting _ _ => none
  | .resume request response =>
      (system.inFlight.lookup request).map fun call =>
        (call, finishOpaque backend keyOf call response system.cache)

/-- The response that a step receives, with the call that asked for it. -/
def answerOf (system : OpaqueSystem) : OpaqueLabel → Option (OpaqueCall × Option Response)
  | .begin _ => none
  | .resume request response =>
      (system.inFlight.lookup request).map fun call => (call, response)

/-- The responses received in a run. -/
def answers
    (backend : Backend)
    (keyOf : String → String) :
    OpaqueSystem → List OpaqueLabel → List (OpaqueCall × Option Response) :=
  Machine.observations (step backend keyOf) answerOf

/-- Whether an answer is for the call's token, is the call's own or recent enough, and
passes the checks of a context. -/
def Supports
    (backend : Backend)
    (defaultTtlS : Int)
    (call : OpaqueCall)
    (context : TrustContext)
    (answer : OpaqueCall × Option Response) : Prop :=
  answer.1.token = call.token ∧
    (answer.1 = call ∨ call.opts.nowS < answer.1.opts.nowS + defaultTtlS) ∧
    answer.1.context = context ∧
    passesChecks backend answer.2 context = true

/-- Whether an entry caches the judgement on an answer. -/
def Records
    (backend : Backend)
    (keyOf : String → String)
    (defaultTtlS : Int)
    (answer : OpaqueCall × Option Response)
    (entry : DecisionEntry) : Prop :=
  keyOf answer.1.token = entry.key ∧
    answer.1.context.judge backend answer.1.opts answer.2 = .ok entry.principal ∧
    entry.expiresAtS ≤ answer.1.opts.nowS + defaultTtlS

/-! ## What a step does -/

variable {system : OpaqueSystem} {label : OpaqueLabel}

variable (backend keyOf system) in
/-- Without an answer a step leaves the cache as it is, or as a lookup leaves it. -/
theorem cache_begin (call : OpaqueCall) :
    (step backend keyOf system (.begin call)).cache = system.cache ∨
      (step backend keyOf system (.begin call)).cache =
        (system.cache.lookup (keyOf call.token) call.opts.nowS).2 := by
  cases begun : beginOpaque backend keyOf call system.cache with
  | finished outcome =>
      simp only [step, begun]
      rcases beginOpaque_finished begun with ⟨-, unchanged⟩ | ⟨_, -, -, looked⟩
      · exact unchanged
      · exact .inr looked
  | posting request after =>
      simp only [step, begun]
      exact .inr (beginOpaque_posting begun).2

variable (backend keyOf system) in
/-- With an answer it stores the principal that the answer supports, if any. -/
theorem cache_resume (request : Nat) (response : Option Response) :
    (step backend keyOf system (.resume request response)).cache = system.cache ∨
      ∃ call principal,
        answerOf system (.resume request response) = some (call, response) ∧
        call.context.judge backend call.opts response = .ok principal ∧
        (step backend keyOf system (.resume request response)).cache =
          system.cache.store (keyOf call.token) principal call.opts.nowS := by
  cases waiting : system.inFlight.lookup request with
  | none =>
      left
      simp only [step, waiting]
  | some call =>
      simp only [step, answerOf, finishOpaque, waiting, Option.map_some]
      cases judged : call.context.judge backend call.opts response with
      | error verdict => exact .inl rfl
      | ok principal => exact .inr ⟨call, principal, rfl, judged, rfl⟩

/-- The cache is indexed, and keeps decisions for the configured time. -/
structure WellFormed (defaultTtlS : Int) (system : OpaqueSystem) : Prop where
  indexed : system.cache.Indexed
  defaultTtlS_eq : system.cache.defaultTtlS = defaultTtlS

theorem WellFormed.of_cache_eq
    {defaultTtlS : Int}
    {after : OpaqueSystem}
    (well : WellFormed defaultTtlS system)
    (unchanged : after.cache = system.cache) :
    WellFormed defaultTtlS after where
  indexed := by
    rw [unchanged]
    exact well.indexed
  defaultTtlS_eq := by
    rw [unchanged]
    exact well.defaultTtlS_eq

theorem step_wellFormed
    {defaultTtlS : Int}
    (label : OpaqueLabel)
    (well : WellFormed defaultTtlS system) :
    WellFormed defaultTtlS (step backend keyOf system label) := by
  cases label with
  | begin call =>
      rcases cache_begin backend keyOf system call with unchanged | looked
      · exact well.of_cache_eq unchanged
      · constructor
        · rw [looked]
          exact DecisionCache.lookup_indexed well.indexed
        · rw [looked, DecisionCache.defaultTtlS_lookup]
          exact well.defaultTtlS_eq
  | resume request response =>
      rcases cache_resume backend keyOf system request response with
        unchanged | ⟨call, principal, -, -, stored⟩
      · exact well.of_cache_eq unchanged
      · constructor
        · rw [stored]
          exact DecisionCache.store_indexed well.indexed
        · rw [stored, DecisionCache.defaultTtlS_store]
          exact well.defaultTtlS_eq

/-- An entry after a step was there before or records the step's answer. -/
theorem mem_step
    (indexed : system.cache.Indexed)
    {node : Nat × DecisionEntry}
    (member : node ∈ (step backend keyOf system label).cache.entries.nodes) :
    node ∈ system.cache.entries.nodes ∨
      ∃ answer, answerOf system label = some answer ∧
        Records backend keyOf system.cache.defaultTtlS answer node.2 := by
  cases label with
  | begin call =>
      rcases cache_begin backend keyOf system call with unchanged | looked
      · rw [unchanged] at member
        exact .inl member
      · rw [looked] at member
        exact .inl (DecisionCache.mem_of_mem_lookup member)
  | resume request response =>
      rcases cache_resume backend keyOf system request response with
        unchanged | ⟨call, principal, answered, judged, stored⟩
      · rw [unchanged] at member
        exact .inl member
      · rw [stored] at member
        rcases DecisionCache.mem_store indexed member with earlier | ⟨key, own, expires⟩
        · exact .inl earlier
        · refine .inr ⟨_, answered, key.symm, ?_, expires⟩
          rw [own]
          exact judged

/-- A call that waits after a step waited before, or the step began it. -/
theorem inFlight_step
    {request : Nat}
    {call : OpaqueCall}
    (waiting : (step backend keyOf system label).inFlight.lookup request = some call) :
    system.inFlight.lookup request = some call ∨ label = .begin call := by
  cases label with
  | begin begun =>
      unfold step at waiting
      dsimp only at waiting
      split at waiting
      · exact .inl waiting
      · rw [UnorderedMap.lookup_insert_eq_ite] at waiting
        split_ifs at waiting
        · cases waiting
          exact .inr rfl
        · exact .inl waiting
  | resume resumed response =>
      left
      unfold step at waiting
      dsimp only at waiting
      split at waiting
      · exact waiting
      · rw [UnorderedMap.lookup_erase_eq_ite] at waiting
        split_ifs at waiting
        exact waiting

/-! ## What a run leaves -/

variable {maxEntries : Nat} {defaultTtlS : Int} {labels : List OpaqueLabel}

theorem run_wellFormed :
    WellFormed defaultTtlS
      (run backend keyOf (initial maxEntries defaultTtlS) labels) :=
  Machine.run_invariant (step backend keyOf) (fun _ label => step_wellFormed label) labels
    ⟨DecisionCache.create_indexed maxEntries defaultTtlS, rfl⟩

/-- A call that waits was begun in the run. -/
theorem begin_mem_of_inFlight
    {request : Nat}
    {call : OpaqueCall}
    (waiting : (run backend keyOf (initial maxEntries defaultTtlS)
      labels).inFlight.lookup request = some call) :
    .begin call ∈ labels := by
  induction labels using List.reverseRecOn with
  | nil => cases waiting
  | append_singleton labels label inductionHypothesis =>
      rw [run, Machine.run_append] at waiting
      rcases inFlight_step waiting with earlier | rfl
      · exact List.mem_append_left _ (inductionHypothesis earlier)
      · exact List.mem_append_right _ List.mem_cons_self

/-- A call that was answered was begun in the run. -/
theorem begin_mem_of_answers
    {answer : OpaqueCall × Option Response}
    (answered : answer ∈
      answers backend keyOf (initial maxEntries defaultTtlS) labels) :
    .begin answer.1 ∈ labels := by
  induction labels using List.reverseRecOn with
  | nil => cases answered
  | append_singleton labels label inductionHypothesis =>
      rw [answers, Machine.observations_append_singleton, List.mem_append] at answered
      apply List.mem_append_left
      rcases answered with earlier | now
      · exact inductionHypothesis earlier
      · cases label with
        | begin call => cases now
        | resume request response =>
            obtain ⟨call, waiting, rfl⟩ :=
              Option.map_eq_some_iff.mp (Option.mem_toList.mp now)
            exact begin_mem_of_inFlight waiting

/-- Every entry records an answer of the run. -/
theorem records_of_mem
    {node : Nat × DecisionEntry}
    (member : node ∈ (run backend keyOf (initial maxEntries defaultTtlS)
      labels).cache.entries.nodes) :
    ∃ answer ∈ answers backend keyOf (initial maxEntries defaultTtlS) labels,
      Records backend keyOf defaultTtlS answer node.2 := by
  induction labels using List.reverseRecOn with
  | nil => cases member
  | append_singleton labels label inductionHypothesis =>
      rw [run, Machine.run_append] at member
      rw [answers, Machine.observations_append_singleton]
      rcases mem_step run_wellFormed.indexed member with earlier | ⟨answer, answered, records⟩
      · obtain ⟨answer, answered, records⟩ := inductionHypothesis earlier
        exact ⟨answer, List.mem_append_left _ answered, records⟩
      · rw [run_wellFormed.defaultTtlS_eq] at records
        exact ⟨answer, List.mem_append_right _ (Option.mem_toList.mpr answered), records⟩

/-! ## Positive verdicts -/

/-- A positive verdict for a token rests on a response for the same token, the call's
own or one not older than the cache keeps decisions, that passed the checks of the
context it was obtained under. -/
theorem supported_of_ok
    (backend : Backend)
    (keyOf : String → String)
    (maxEntries : Nat)
    (defaultTtlS : Int)
    (labels : List OpaqueLabel)
    (label : OpaqueLabel)
    (call : OpaqueCall)
    (outcome : OpaqueOutcome)
    (finishes : outcomeOf backend keyOf
      (run backend keyOf (initial maxEntries defaultTtlS) labels) label =
        some (call, outcome))
    (accepted : outcome.verdict = .ok)
    (collisionFree : ∀ other, .begin other ∈ labels →
      keyOf other.token = keyOf call.token → other.token = call.token) :
    ∃ answer ∈ answers backend keyOf (initial maxEntries defaultTtlS)
        (labels ++ [label]),
      Supports backend defaultTtlS call answer.1.context answer ∧
      ∃ principal, outcome.principal = some principal ∧
        answer.1.context.judge backend answer.1.opts answer.2 = .ok principal := by
  rw [answers, Machine.observations_append_singleton]
  cases label with
  | begin begun =>
      cases begins : beginOpaque backend keyOf begun
          (run backend keyOf (initial maxEntries defaultTtlS) labels).cache with
      | posting request after =>
          simp only [outcomeOf, begins] at finishes
          cases finishes
      | finished ended =>
          simp only [outcomeOf, begins] at finishes
          cases finishes
          rcases beginOpaque_finished begins with ⟨fails, -⟩ | ⟨principal, hit, own, -⟩
          · exact absurd accepted fails
          · obtain ⟨node, member, isKey, isPrincipal, unexpired⟩ :=
              DecisionCache.lookup_some run_wellFormed.indexed hit
            obtain ⟨answer, answered, sameKey, judged, expires⟩ := records_of_mem member
            rw [isPrincipal] at judged
            refine ⟨answer, List.mem_append_left _ answered, ⟨?_, ?_, rfl, ?_⟩,
              principal, own, judged⟩
            · exact collisionFree answer.1 (begin_mem_of_answers answered)
                (sameKey.trans isKey)
            · exact .inr (lt_of_lt_of_le unexpired expires)
            · exact passesChecks_of_judge judged
  | resume request response =>
      obtain ⟨waiting, found, same⟩ := Option.map_eq_some_iff.mp finishes
      cases same
      obtain ⟨principal, judged, own⟩ := finishOpaque_ok accepted
      refine ⟨(call, response), List.mem_append_right _ ?_,
        ⟨rfl, .inl rfl, rfl, passesChecks_of_judge judged⟩, principal, own, judged⟩
      rw [Option.mem_toList]
      exact Option.map_eq_some_iff.mpr ⟨call, found, rfl⟩

/-! ## Calls that nobody interrupts -/

/-- A call that nobody interrupts is a run of the system, which ends as the call
does. -/
theorem exists_run_validateOpaque
    (system : OpaqueSystem)
    (http : PostRequest → Option Response)
    (call : OpaqueCall) :
    ∃ before label,
      outcomeOf backend keyOf (run backend keyOf system before) label =
          some (call, validateOpaque backend keyOf http call system.cache) ∧
        (run backend keyOf system (before ++ [label])).cache =
          (validateOpaque backend keyOf http call system.cache).cache := by
  cases begun : beginOpaque backend keyOf call system.cache with
  | finished outcome =>
      refine ⟨[], .begin call, ?_, ?_⟩
      · simp only [run, Machine.run_nil, outcomeOf, validateOpaque, begun]
      · simp only [run, List.nil_append, Machine.run_cons, Machine.run_nil, step,
          validateOpaque, begun]
  | posting request after =>
      refine ⟨[.begin call], .resume system.nextRequest (http request), ?_, ?_⟩
      · simp only [run, Machine.run_cons, Machine.run_nil, outcomeOf, step,
          validateOpaque, begun, AList.lookup_insert, Option.map_some]
      · simp only [run, List.cons_append, List.nil_append, Machine.run_cons,
          Machine.run_nil, step, validateOpaque, begun, AList.lookup_insert]

/-! ## Crossing contexts -/

/-- Whom a context asks. -/
def endpointOf : TrustContext → String
  | .introspect ctx => ctx.endpoint
  | .tokeninfo ctx => ctx.endpoint
  | .githubCheck ctx => ctx.checkUrl

/-- Every positive verdict of a run rests on a recent response for the token from the
endpoint of the call, which passes the checks of the call. -/
def StaysInContext
    (backend : Backend)
    (keyOf : String → String)
    (maxEntries : Nat)
    (defaultTtlS : Int)
    (labels : List OpaqueLabel) : Prop :=
  ∀ before label after call outcome, labels = before ++ label :: after →
    outcomeOf backend keyOf
      (run backend keyOf (initial maxEntries defaultTtlS) before) label =
        some (call, outcome) →
    outcome.verdict = .ok →
    ∃ answer ∈ answers backend keyOf (initial maxEntries defaultTtlS)
        (before ++ [label]),
      answer.1.token = call.token ∧
        call.opts.nowS ≤ answer.1.opts.nowS + defaultTtlS ∧
        endpointOf answer.1.context = endpointOf call.context ∧
        passesChecks backend answer.2 call.context = true

/-- A provider that knows one token, meant for the audience `reports`. -/
def sampleProvider : Backend where
  decode _ := none
  parseJson body :=
    if body = "\x7b\"active\":true,\"aud\":\"reports\"\x7d" then
      some (.object [("active", .bool true), ("aud", .string "reports")])
    else none
  rsaFromData _ _ := none
  ecFromData _ _ := none
  rawPublicKey _ _ := none
  verify _ _ := .signatureError

/-- The digest of the sample token. -/
def sampleKeyOf (token : String) : String :=
  if token = "opaque-token" then
    "84d3f23da9b5f51b3269566eff05d3fb23607eeef89567f9cd280b90ca0dbc5c"
  else ""

/-- A call for the sample token under some expected audience. -/
def sampleCall (expectedAudience : String) (nowS : Int) : OpaqueCall where
  token := "opaque-token"
  opts := { nowS }
  context := .introspect { endpoint := "https://idp.test/introspect", expectedAudience }

/-- The token is introspected for its own audience. -/
def sampleIntrospection : List OpaqueLabel := [
  .begin (sampleCall "reports" 1000),
  .resume 0 (some {
    statusCode := 200
    body := "\x7b\"active\":true,\"aud\":\"reports\"\x7d" })]

/-- Asked again under the same settings, the cache answers rightly. -/
theorem supported_of_ok_sample :
    ∃ answer ∈ answers sampleProvider sampleKeyOf (initial 1000 30)
        (sampleIntrospection ++ [.begin (sampleCall "reports" 1010)]),
      Supports sampleProvider 30 (sampleCall "reports" 1010) answer.1.context answer ∧
      ∃ principal, some {} = some principal ∧
        answer.1.context.judge sampleProvider answer.1.opts answer.2 = .ok principal :=
  supported_of_ok sampleProvider sampleKeyOf 1000 30 sampleIntrospection
    (.begin (sampleCall "reports" 1010)) (sampleCall "reports" 1010)
    { verdict := .ok
      principal := some {}
      cache := (run sampleProvider sampleKeyOf (initial 1000 30)
        (sampleIntrospection ++ [.begin (sampleCall "reports" 1010)])).cache }
    (by rfl) rfl
    (by
      intro other begun _
      simp only [sampleIntrospection, List.mem_cons, OpaqueLabel.begin.injEq,
        reduceCtorEq, List.not_mem_nil, or_false] at begun
      rw [begun]
      rfl)

/-- Once the settings expect another audience, the cache still answers, though nothing that
the endpoint said passes that check. -/
theorem decision_crosses_contexts :
    ¬ StaysInContext sampleProvider sampleKeyOf 1000 30
      (sampleIntrospection ++ [.begin (sampleCall "billing" 1010)]) := by
  intro stays
  obtain ⟨answer, answered, -, -, -, passes⟩ :=
    stays sampleIntrospection (.begin (sampleCall "billing" 1010)) []
      (sampleCall "billing" 1010)
      { verdict := .ok
        principal := some {}
        cache := (run sampleProvider sampleKeyOf (initial 1000 30)
          (sampleIntrospection ++ [.begin (sampleCall "billing" 1010)])).cache }
      rfl (by rfl) rfl
  have fails : ∀ answer ∈ answers sampleProvider sampleKeyOf (initial 1000 30)
      (sampleIntrospection ++ [.begin (sampleCall "billing" 1010)]),
      passesChecks sampleProvider answer.2 (sampleCall "billing" 1010).context = false := by
    decide
  rw [fails answer answered] at passes
  cases passes

end OpaqueSystem
end Opaque
end QuackOauth
