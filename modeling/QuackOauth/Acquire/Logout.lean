import QuackOauth.Acquire.Lineage

/-!
# Logging out

A logout takes the tokens off what its transaction finds, not off what older transactions
still find, nor off the copies of calls on their way.  Once every transaction finds what the
logout left, and no call on the name holds a copy, the tokens are gone for good: what is
found later was issued later, or given by the user.
-/

namespace QuackOauth
namespace Acquire

open Lib Jwt Secret

namespace Client

variable {State Event : Type} {platform : Platform State Event} {client : Client State}
variable {labels : List (Label Event)} {transaction : Nat} {secretName : String}
variable {entry : SecretEntry} {kv : KeyValueSecret}

/-- The tokens of a secret came with the steps after a state. -/
structure Renewed
    (platform : Platform State Event)
    (secretName : String)
    (client : Client State)
    (labels : List (Label Event))
    (kv : KeyValueSecret) : Prop where
  accessToken : accessTokenOf kv = (none, none) ∨
    (∃ transaction given givenKv, .createSecret transaction secretName given ∈ labels ∧
      given.secret = .keyValue givenKv ∧ accessTokenOf kv = accessTokenOf givenKv) ∨
    ∃ endpoint tokens nowS,
      Machine.Occurs (step platform) (Issues platform secretName endpoint tokens nowS) client
        labels ∧
      accessTokenOf kv =
        (some tokens.accessToken, some (isoOf platform (nowS + tokens.expiresIn)))
  refreshToken : kv.secretMap.lookup "refresh_token" = none ∨
    (∃ transaction given givenKv, .createSecret transaction secretName given ∈ labels ∧
      given.secret = .keyValue givenKv ∧ kv.secretMap.lookup "refresh_token" =
        givenKv.secretMap.lookup "refresh_token") ∨
    ∃ endpoint tokens nowS,
      Machine.Occurs (step platform) (Issues platform secretName endpoint tokens nowS) client
        labels ∧
      kv.secretMap.lookup "refresh_token" = some tokens.refreshToken

namespace Renewed

theorem withoutTokens
    (client : Client State)
    (labels : List (Label Event))
    (kv : KeyValueSecret) :
    Renewed platform secretName client labels (withoutTokenFields kv) where
  accessToken := .inl (accessTokenOf_withoutTokenFields kv)
  refreshToken := by
    refine .inl ?_
    rw [lookup_withoutTokenFields, if_pos (by decide)]

theorem created
    (isCreated : .createSecret transaction secretName entry ∈ labels)
    (secret_eq : entry.secret = .keyValue kv) :
    Renewed platform secretName client labels kv where
  accessToken := .inr (.inl ⟨transaction, entry, kv, isCreated, secret_eq, rfl⟩)
  refreshToken := .inr (.inl ⟨transaction, entry, kv, isCreated, secret_eq, rfl⟩)

theorem lasts
    (renewed : Renewed platform secretName client labels kv)
    (label : Label Event) :
    Renewed platform secretName client (labels ++ [label]) kv where
  accessToken := renewed.accessToken.imp_right <| Or.imp
    (fun ⟨transaction, given, givenKv, isCreated, same⟩ =>
      ⟨transaction, given, givenKv, List.mem_append_left _ isCreated, same⟩)
    fun ⟨endpoint, tokens, nowS, issued, same⟩ =>
      ⟨endpoint, tokens, nowS, issued.append _, same⟩
  refreshToken := renewed.refreshToken.imp_right <| Or.imp
    (fun ⟨transaction, given, givenKv, isCreated, same⟩ =>
      ⟨transaction, given, givenKv, List.mem_append_left _ isCreated, same⟩)
    fun ⟨endpoint, tokens, nowS, issued, same⟩ =>
      ⟨endpoint, tokens, nowS, issued.append _, same⟩

theorem persisted
    {endpoint : String}
    {tokens : TokenResponse}
    {nowS : Int}
    (renewed : Renewed platform secretName client labels kv)
    (issued : Machine.Occurs (step platform)
      (Issues platform secretName endpoint tokens nowS) client labels)
    (flowFn : FlowFn) :
    Renewed platform secretName client labels
      (withTokenFields kv tokens.accessToken (isoOf platform (nowS + tokens.expiresIn))
        (persistedRefreshToken flowFn tokens)) where
  accessToken :=
    .inr (.inr ⟨endpoint, tokens, nowS, issued, accessTokenOf_withTokenFields _ _ _ _⟩)
  refreshToken := by
    rcases refreshToken_withTokenFields kv tokens.accessToken
      (isoOf platform (nowS + tokens.expiresIn)) flowFn tokens with unrotated | rotated
    · rw [unrotated]
      exact renewed.refreshToken
    · exact .inr (.inr ⟨endpoint, tokens, nowS, issued, rotated⟩)

end Renewed

/-- Right after a logout its transaction finds the secret without tokens. -/
theorem found_of_logout
    (findsOwn : platform.secretManager.FindsOwn)
    (succeeds : client.resultOf platform (.logout transaction secretName) =
      some (.ok "true")) :
    ∃ (entry : SecretEntry) (kv : KeyValueSecret),
      (step platform client (.logout transaction secretName)).found platform transaction
          secretName =
        some { entry with secret := .keyValue (withoutTokenFields kv) } := by
  unfold resultOf at succeeds
  cases logsOut : platform.secretManager.doLogout client.secrets transaction secretName with
  | error failure =>
      simp only [logsOut] at succeeds
      cases succeeds
  | ok secrets =>
      obtain ⟨entry, kv, -, registered⟩ := SecretManager.doLogout_ok logsOut
      refine ⟨entry, kv, ?_⟩
      have left : (step platform client (.logout transaction secretName)).secrets =
          secrets := by
        change client.secretsAfter platform (.logout transaction secretName) = secrets
        unfold secretsAfter
        simp only [logsOut]
      rw [found, left]
      exact findsOwn _ _ _ _ _ registered

/-- Once all that can be found under a name is what a logout has left to its transaction,
and no call on the name holds a copy, whatever tokens are found under the name later, stored
or copied, came later. -/
theorem logout_final
    (platform : Platform State Event)
    (start : State)
    (before between after : List (Label Event))
    (transaction : Nat)
    (secretName : String)
    (entry : SecretEntry)
    (kv : KeyValueSecret)
    (findsRegistered : platform.secretManager.FindsRegistered)
    (findsOwn : platform.secretManager.FindsOwn)
    (succeeds : (run platform (initial start) before).resultOf platform
      (.logout transaction secretName) = some (.ok "true"))
    (settled : ∀ entry,
      platform.secretManager.CanFind (run platform (initial start)
        (before ++ .logout transaction secretName :: between)).secrets secretName entry →
      (run platform (initial start) (before ++ [.logout transaction secretName])).found
        platform transaction secretName = some entry)
    (alone : ∀ number flow,
      (run platform (initial start)
        (before ++ .logout transaction secretName :: between)).flows.lookup number =
          some flow →
      flow.secretName = secretName → flow.stage.copy = none)
    (held : Held platform (run platform (initial start)
      (before ++ .logout transaction secretName :: between ++ after)) secretName entry kv) :
    Renewed platform secretName
      (run platform (initial start) (before ++ .logout transaction secretName :: between))
      after kv := by
  rw [run, Machine.run_append] at held
  refine held_run findsRegistered (fun labels name _ kv => name = secretName →
    Renewed platform secretName
      (run platform (initial start) (before ++ .logout transaction secretName :: between))
      labels kv)
    ?_ ?_ ?_ ?_ ?_ after held rfl
  · intro labels label name entry kv renewed isName
    exact (renewed isName).lasts label
  · rintro name entry kv atStart rfl
    cases atStart with
    | stored canFind secret_eq =>
        have left := settled entry canFind
        rw [run, Machine.run_append] at left
        obtain ⟨old, oldKv, loggedOut⟩ := found_of_logout findsOwn succeeds
        cases loggedOut.symm.trans left
        cases secret_eq
        exact Renewed.withoutTokens _ _ oldKv
    | copied number flow onItsWay name_eq copies =>
        have none_eq := alone number flow onItsWay name_eq
        rw [none_eq] at copies
        cases copies
  · rintro labels transaction name entry kv secret_eq rfl
    exact Renewed.created (List.mem_append_right _ (List.mem_singleton.mpr rfl)) secret_eq
  · intro labels label name entry kv renewed isName
    exact Renewed.withoutTokens _ _ kv
  · rintro labels label number flow entry kv tokens nowS renewed progress rfl
    have asking := asking_run platform start
      (before ++ .logout transaction flow.secretName :: between ++ labels)
    rw [run, Machine.run_append] at asking
    exact ((renewed rfl).lasts label).persisted
      (Machine.Occurs.last (issues_of_progress asking progress)) flow.flowFn

/-- After the logout another secret is created, and a call takes a copy of it; the client of
the sample secret is about to log in again. -/
def sampleSettling : List (Label String) := [
  .createSecret 3 "t" { secret := .keyValue sampleSecret },
  .call 3 .refresh "t",
  .acquire 4 "s" 1000 60]

/-- It logs in. -/
def sampleLogin : List (Label String) := [
  .start 5,
  .tokenResponse 5 sampleAnswer 1000]

/-- The sample secret with the new token, and without the old refresh token. -/
def renewedSecret : KeyValueSecret :=
  withTokenFields (withoutTokenFields (withTokenFields sampleSecret "a"
    "1970-01-01T01:16:40Z" "")) "a" "1970-01-01T01:16:40Z" ""

theorem logout_final_sample :
    Renewed samplePlatform "s"
      (run samplePlatform (initial sampleSecrets)
        (sampleRefresh ++ .logout 2 "s" :: sampleSettling)) sampleLogin
      renewedSecret :=
  logout_final samplePlatform sampleSecrets sampleRefresh sampleSettling sampleLogin 2 "s"
    { secret := .keyValue renewedSecret } renewedSecret
    SecretManager.sequential_findsRegistered SecretManager.sequential_findsOwn (by rfl)
    (by
      intro entry canFind
      have left := SecretManager.sequential_canFind_iff.mp canFind
      rw [← left]
      rfl)
    (by
      intro number flow onItsWay isName
      change (AList.insert 5 _ (AList.insert 4 _ _) : UnorderedMap Nat Flow).lookup number =
        some flow at onItsWay
      rw [UnorderedMap.lookup_insert_eq_ite, UnorderedMap.lookup_insert_eq_ite] at onItsWay
      split_ifs at onItsWay
      · cases onItsWay
        rfl
      · cases onItsWay
        exact absurd isName (by decide)
      · cases onItsWay)
    (.stored (SecretManager.sequential_canFind_iff.mpr (by rfl)) rfl)

end Client
end Acquire
end QuackOauth
