import QuackOauth.Acquire.Origin
import QuackOauth.Secret.Create

/-!
# Requests go where creation looked

The endpoints of a client's secret are checked once, when the secret is created.  Copies
and tokens written back later change no endpoint, so each request of each call goes to a
place that passed the check.
-/

namespace QuackOauth
namespace Acquire

open Lib Http Secret
open Requests (PostRequestBytes)

namespace Client

variable {State Event : Type} {platform : Platform State Event} {client : Client State}
variable {label : Label Event} {flow : Flow}

/-- The secrets of clients that users gave hold what `CREATE SECRET` built. -/
def AllCreated
    (platform : Platform State Event)
    (start : State)
    (labels : List (Label Event)) : Prop :=
  ∀ secretName given givenKv, Gives platform start labels secretName given →
    given.secret = .keyValue givenKv → givenKv.type = "quack_oauth" →
      ∃ input kv, createClientSecret input = .ok kv ∧
        ∀ field, valueOf givenKv field = valueOf kv field

/-- Each copy is one of a client's secret. -/
def CopiesTyped (client : Client State) : Prop :=
  ∀ number flow entry kv, client.flows.lookup number = some flow →
    flow.stage.copy = some { entry := some entry, kv := some kv } → kv.type = "quack_oauth"

theorem copiesTyped_step
    (typed : CopiesTyped client) :
    CopiesTyped (step platform client label) := by
  intro number flow entry kv onItsWay copies
  rcases copy_step onItsWay copies with ⟨before, found, _, _, copied⟩ | ⟨_, _, opens⟩
  · exact typed number before entry kv found copied
  · obtain ⟨stored, old, opened⟩ := opened_of_openSecret opens
    cases opened.accessor_eq
    exact opened.type_eq _ rfl

theorem copiesTyped_run
    (platform : Platform State Event)
    (start : State)
    (labels : List (Label Event)) :
    CopiesTyped (run platform (initial start) labels) := by
  apply Machine.run_invariant (step platform) (fun client label => copiesTyped_step) labels
  intro number flow entry kv onItsWay
  cases onItsWay

/-- A request has somewhere to go. -/
theorem url_ne_of_request
    {request : PostRequestBytes}
    (asked : flow.request = some request) :
    request.url ≠ [] := by
  unfold Flow.request at asked
  split at asked
  · unfold exchangeRequest at asked
    split at asked
    · obtain ⟨complete, ⟨⟩⟩ := Option.ite_none_left_eq_some.mp asked
      exact fun empty => complete (.inl empty)
    · obtain ⟨complete, ⟨⟩⟩ := Option.ite_none_left_eq_some.mp asked
      exact fun empty => complete (.inl empty)
  · obtain ⟨complete, ⟨⟩⟩ := Option.ite_none_left_eq_some.mp asked
    exact fun empty => complete (.inl empty)
  · obtain ⟨complete, ⟨⟩⟩ := Option.ite_none_left_eq_some.mp asked
    exact fun empty => complete (.inl empty)
  · cases asked

/-- Whatever is replaced, refreshed or logged out in between, a call asks nobody but the
endpoints that passed the check when its secret was created. -/
theorem request_checked
    (platform : Platform State Event)
    (start : State)
    (labels : List (Label Event))
    (number : Nat)
    (flow : Flow)
    (request : PostRequestBytes)
    (findsRegistered : platform.secretManager.FindsRegistered)
    (allCreated : AllCreated platform start labels)
    (onItsWay : (run platform (initial start) labels).flows.lookup number = some flow)
    (asked : flow.request = some request) :
    ∃ url, request.url = bytesOf url ∧ CheckedEndpoint url := by
  obtain ⟨given, givenKv, entry, kv, copies, origin, entitled⟩ :=
    entitled_of_asked findsRegistered onItsWay asked
  have typed := copiesTyped_run platform start labels number flow entry kv onItsWay copies
  obtain ⟨input, createdKv, created, same⟩ := allCreated flow.secretName given givenKv
    origin.gives origin.given_eq (origin.type_eq.symm.trans typed)
  obtain ⟨deviceChecked, tokenChecked⟩ := endpoints_of_createClientSecret created
  rw [← valueOf, ← same] at deviceChecked tokenChecked
  have nonempty := url_ne_of_request asked
  rcases entitled.url with toToken | toDevice
  · rw [toToken, ne_eq, bytesOf_eq_nil_iff] at nonempty
    exact ⟨_, toToken, checkedEndpoint_of_validateHttpUrl tokenChecked nonempty⟩
  · rw [toDevice, ne_eq, bytesOf_eq_nil_iff] at nonempty
    exact ⟨_, toDevice, checkedEndpoint_of_validateHttpUrl deviceChecked nonempty⟩

/-- The options that the sample secret was created with. -/
def sampleOptions : CreateSecretInput where
  type := "quack_oauth"
  options := sampleSecret.secretMap

theorem allCreated_sample :
    AllCreated samplePlatform sampleSecrets [.call 1 .refresh "s"] := by
  rintro secretName given givenKv (canFind | created) given_eq -
  · have isGiven : given = { secret := .keyValue sampleSecret } := by
      have atStart := SecretManager.sequential_canFind_iff.mp canFind
      unfold sampleSecrets at atStart
      rw [UnorderedMap.lookup_insert_eq_ite] at atStart
      split at atStart
      · exact (Option.some.inj atStart).symm
      · cases atStart
    subst isGiven
    cases given_eq
    refine ⟨sampleOptions, { type := "quack_oauth", secretMap := clientSecretMap sampleOptions },
      by rfl, fun field => ?_⟩
    have copied : clientSecretMap sampleOptions =
        copyParams sampleSecret.secretMap ∅ clientFields := by
      unfold clientSecretMap
      exact if_neg (by decide)
    rw [valueOf, valueOf, copied, lookup_copyParams]
    by_cases known : field ∈ clientFields
    · cases held : sampleSecret.secretMap.lookup field <;> simp [known]
    · simp only [clientFields, List.mem_cons, not_or] at known
      simp [sampleSecret, clientFields, known, -AList.insert_empty]
  · obtain ⟨transaction, created⟩ := created
    cases List.mem_singleton.mp created

theorem request_checked_sample :
    ∃ url, sampleRequest.url = bytesOf url ∧ CheckedEndpoint url :=
  request_checked samplePlatform sampleSecrets [.call 1 .refresh "s"] 0 sampleFlow
    sampleRequest SecretManager.sequential_findsRegistered allCreated_sample (by rfl) (by decide)

end Client
end Acquire
end QuackOauth
