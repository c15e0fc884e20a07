import QuackOauth.Acquire.Lineage

/-!
# Writing back

A call writes at most once, and it writes the secret as it was when the call opened it.
So what was written in between is lost, be it a logout, unless the manager refuses the
write.
-/

namespace QuackOauth
namespace Acquire

open Lib Jwt Secret
open Validator (Response)

namespace Client

variable {State Event : Type} {platform : Platform State Event} {start : State}
variable {labels : List (Label Event)} {client : Client State} {label : Label Event}
variable {number : Nat} {flow : Flow} {accessor : SecretAccessor} {tokens : TokenResponse}
variable {nowS : Int} {secrets : State}

/-! ## What is written back -/

/-- A step in which a call opens the secret that its transaction finds under a name. -/
structure Opens
    (platform : Platform State Event)
    (number transaction : Nat)
    (secretName : String)
    (entry : SecretEntry)
    (kv : KeyValueSecret)
    (client : Client State)
    (label : Label Event) : Prop where
  isOf : label = .start number ∨
    number = client.nextFlow ∧ ∃ flowFn, label = .call transaction flowFn secretName
  found : client.found platform transaction secretName = some entry
  secret_eq : entry.secret = .keyValue kv

/-- A copy is the secret as it was when the call opened it. -/
theorem opens_of_copy
    (onItsWay : (run platform (initial start) labels).flows.lookup number = some flow)
    (copies : flow.stage.copy = some accessor) :
    ∃ entry kv, accessor = { entry := some entry, kv := some kv } ∧
      Machine.Occurs (step platform) (Opens platform number flow.transaction
        flow.secretName entry kv)
        (initial start) labels := by
  induction labels using List.reverseRecOn generalizing flow with
  | nil => cases onItsWay
  | append_singleton labels label inductionHypothesis =>
      rw [run, Machine.run_append] at onItsWay
      rcases copy_step onItsWay copies
        with ⟨before, isFound, sameTransaction, sameName, copied⟩ | ⟨isOf, fnName, opens⟩
      · obtain ⟨entry, kv, isCopy, occurs⟩ := inductionHypothesis isFound copied
        rw [sameTransaction, sameName] at occurs
        exact ⟨entry, kv, isCopy, occurs.append _⟩
      · obtain ⟨entry, kv, opened⟩ := opened_of_openSecret opens
        exact ⟨entry, kv, opened.accessor_eq, Machine.Occurs.last {
          isOf := isOf
          found := opened.found
          secret_eq := opened.secret_eq }⟩

/-- What was written back is what the step leaves. -/
theorem secrets_of_writeBack
    (progress : client.progressOf platform label =
      some (number, flow, .persists accessor tokens nowS))
    (written : client.writeBack platform flow accessor tokens nowS = .ok secrets) :
    (step platform client label).secrets = secrets := by
  change client.secretsAfter platform label = secrets
  obtain ⟨isOf, -, -⟩ := progressOf_eq_some_iff.mp progress
  unfold secretsAfter
  cases label with
  | logout => cases isOf
  | createSecret => cases isOf
  | happens => cases isOf
  | _ => simp only [progress, written]

/-- After a write-back the transaction of the call finds what was written. -/
theorem found_of_writeBack
    {entry : SecretEntry}
    {kv : KeyValueSecret}
    (findsOwn : platform.secretManager.FindsOwn)
    (progress : client.progressOf platform label =
      some (number, flow, .persists { entry := some entry, kv := some kv } tokens nowS))
    (written : client.writeBack platform flow { entry := some entry, kv := some kv } tokens
      nowS = .ok secrets) :
    (step platform client label).found platform flow.transaction flow.secretName =
      some { entry with secret := .keyValue (withTokenFields kv tokens.accessToken
        (isoOf platform (nowS + tokens.expiresIn))
        (persistedRefreshToken flow.flowFn tokens)) } := by
  rw [found, secrets_of_writeBack progress written]
  exact findsOwn _ _ _ _ _ written

/-- A write-back that the manager accepts leaves to the transaction of the call the secret
as it was when the call opened it, with the new tokens, whatever was written in between. -/
theorem writeBack_restores
    (platform : Platform State Event)
    (start : State)
    (labels : List (Label Event))
    (label : Label Event)
    (number : Nat)
    (flow : Flow)
    (accessor : SecretAccessor)
    (tokens : TokenResponse)
    (nowS : Int)
    (secrets : State)
    (findsOwn : platform.secretManager.FindsOwn)
    (progress : (run platform (initial start) labels).progressOf platform label =
      some (number, flow, .persists accessor tokens nowS))
    (written : (run platform (initial start) labels).writeBack platform flow accessor tokens
      nowS = .ok secrets) :
    ∃ before opening between entry kv, labels = before ++ opening :: between ∧
      Opens platform number flow.transaction flow.secretName entry kv
        (run platform (initial start) before) opening ∧
      (run platform (initial start) (labels ++ [label])).found platform flow.transaction
          flow.secretName =
        some { entry with secret := .keyValue (withTokenFields kv tokens.accessToken
          (isoOf platform (nowS + tokens.expiresIn))
          (persistedRefreshToken flow.flowFn tokens)) } := by
  obtain ⟨-, onItsWay, made⟩ := progressOf_eq_some_iff.mp progress
  obtain ⟨copies, -⟩ := answered_of_persists made
  obtain ⟨entry, kv, rfl, before, opening, between, split, opens⟩ :=
    opens_of_copy onItsWay copies
  refine ⟨before, opening, between, entry, kv, split, opens, ?_⟩
  rw [run, Machine.run_append]
  exact found_of_writeBack findsOwn progress written

/-- While the sample secret is refreshed, another transaction logs it out, and another one
creates it anew. -/
def sampleBetween : List (Label String) := [
  .call 1 .refresh "s",
  .logout 2 "s",
  .createSecret 3 "s" { secret := .other }]

theorem writeBack_restores_sample :
    ∃ before opening between entry kv,
      sampleBetween = before ++ opening :: between ∧
      Opens samplePlatform 0 1 "s" entry kv
        (run samplePlatform (initial sampleSecrets) before) opening ∧
      (run samplePlatform (initial sampleSecrets)
          (sampleBetween ++ [.tokenResponse 0 sampleAnswer 1000])).found samplePlatform 1 "s" =
        some { entry with secret := .keyValue (withTokenFields kv "a"
          (isoOf samplePlatform (1000 + 3600)) "") } :=
  writeBack_restores samplePlatform sampleSecrets sampleBetween
    (.tokenResponse 0 sampleAnswer 1000) 0 sampleFlow sampleCopy
    { accessToken := "a", expiresIn := 3600 } 1000
    (step samplePlatform (run samplePlatform (initial sampleSecrets) sampleBetween)
      (.tokenResponse 0 sampleAnswer 1000)).secrets
    SecretManager.sequential_findsOwn (by rfl) (by rfl)

/-! ## How often a call writes -/

/-- The call that writes in a step. -/
def writerOf
    (platform : Platform State Event)
    (client : Client State)
    (label : Label Event) : Option Nat :=
  match client.progressOf platform label with
  | some (number, flow, .persists accessor tokens nowS) =>
      match client.writeBack platform flow accessor tokens nowS with
      | .ok _ => some number
      | .error _ => none
  | _ => none

/-- The calls that have written in a run. -/
def writers
    (platform : Platform State Event)
    (start : State)
    (labels : List (Label Event)) : List Nat :=
  Machine.observations (step platform) (writerOf platform) (initial start) labels

theorem writerOf_eq_some_iff :
    writerOf platform client label = some number ↔
      ∃ flow accessor tokens nowS secrets,
        client.progressOf platform label =
          some (number, flow, .persists accessor tokens nowS) ∧
        client.writeBack platform flow accessor tokens nowS = .ok secrets := by
  unfold writerOf
  constructor
  · intro writes
    split at writes
    · next writer flow accessor tokens nowS progress =>
        split at writes
        · next secrets written =>
            cases writes
            exact ⟨flow, accessor, tokens, nowS, secrets, progress, written⟩
        · cases writes
    · cases writes
  · rintro ⟨flow, accessor, tokens, nowS, secrets, progress, written⟩
    rw [progress]
    simp only [written]

/-- After its write a call is over, but for the reading of the token. -/
theorem rereads_of_writes
    {after : Flow}
    (writes : writerOf platform client label = some number)
    (onItsWay : (step platform client label).flows.lookup number = some after) :
    after.stage = .rereading := by
  obtain ⟨flow, accessor, tokens, nowS, secrets, progress, written⟩ :=
    writerOf_eq_some_iff.mp writes
  obtain ⟨isOf, -, -⟩ := progressOf_eq_some_iff.mp progress
  change (client.flowsAfter platform label).lookup number = some after at onItsWay
  unfold flowsAfter at onItsWay
  cases label with
  | call => cases isOf
  | acquire => cases isOf
  | _ =>
      simp only [progress, written] at onItsWay
      split at onItsWay
      · rw [UnorderedMap.lookup_insert_eq_ite, if_pos rfl] at onItsWay
        cases onItsWay
        rfl
      · rw [UnorderedMap.lookup_erase_eq_ite, if_pos rfl] at onItsWay
        cases onItsWay

/-- How the writers of a run and the calls on their way go together. -/
structure WrittenOnce
    (client : Client State)
    (writers : List Nat) : Prop where
  nodup : writers.Nodup
  used : ∀ number ∈ writers, number < client.nextFlow
  iff_rereading : ∀ number flow, client.flows.lookup number = some flow →
    (number ∈ writers ↔ flow.stage = .rereading)

/-- A stage with a copy is not the last one. -/
theorem ne_rereading_of_copy
    {stage : Stage}
    (copies : stage.copy = some accessor) :
    stage ≠ .rereading := by
  rintro rfl
  cases copies

/-- A step that goes on neither reaches nor leaves the last stage. -/
theorem rereading_iff_of_goesOn
    {getSecretByName : String → Option SecretEntry}
    {stage : Stage}
    (goes : advance platform getSecretByName flow label = .goesOn stage) :
    flow.stage = .rereading ↔ stage = .rereading := by
  have advanced := advances platform getSecretByName flow label
  rw [goes] at advanced
  cases advanced with
  | stays => rfl
  | opens _ starting begun =>
      obtain ⟨_, copies, -⟩ := copy_of_beginFlow begun
      rw [starting]
      exact iff_of_false (by simp) (ne_rereading_of_copy copies)
  | authorized _ _ _ _ _ asked => simp [asked]
  | polls _ _ _ _ _ _ isWaiting => simp [isWaiting]
  | waits _ _ _ _ _ _ _ _ isPolling => simp [isPolling]

/-- Who writes has not written yet. -/
theorem WrittenOnce.new_writer
    {writers : List Nat}
    (once : WrittenOnce client writers)
    (writes : writerOf platform client label = some number) :
    number ∉ writers := by
  obtain ⟨flow, accessor, tokens, nowS, secrets, progress, -⟩ :=
    writerOf_eq_some_iff.mp writes
  obtain ⟨-, onItsWay, made⟩ := progressOf_eq_some_iff.mp progress
  obtain ⟨copies, -⟩ := answered_of_persists made
  rw [once.iff_rereading number flow onItsWay]
  exact ne_rereading_of_copy copies

theorem writtenOnce_step
    {writers : List Nat}
    (numbered : Numbered client)
    (once : WrittenOnce client writers) :
    WrittenOnce (step platform client label)
      (writers ++ (writerOf platform client label).toList) where
  nodup := by
    cases writes : writerOf platform client label with
    | none => simpa using once.nodup
    | some number =>
        have isNew := once.new_writer writes
        simp only [Option.toList_some, List.nodup_append, once.nodup, List.nodup_singleton,
          List.mem_singleton, true_and]
        rintro writer wrote other rfl rfl
        exact isNew wrote
  used := by
    intro number written
    change number < client.nextFlow + 1
    rcases List.mem_append.mp written with earlier | now
    · exact Nat.lt_succ_of_lt (once.used number earlier)
    · obtain ⟨flow, accessor, tokens, nowS, secrets, progress, -⟩ :=
        writerOf_eq_some_iff.mp (Option.mem_toList.mp now)
      obtain ⟨-, onItsWay, -⟩ := progressOf_eq_some_iff.mp progress
      exact Nat.lt_succ_of_lt (numbered number flow onItsWay)
  iff_rereading := by
    intro number after onItsWay
    by_cases writes : writerOf platform client label = some number
    · have rereads := rereads_of_writes writes onItsWay
      simp [writes, rereads]
    · have unwritten : number ∉ (writerOf platform client label).toList :=
        fun now => writes (Option.mem_toList.mp now)
      rw [List.mem_append, or_iff_left unwritten]
      cases moves_step onItsWay with
      | stays _ isFound => exact once.iff_rereading number after isFound
      | called transaction flowFn secretName stage _ isNext begun =>
          obtain ⟨_, copies, -⟩ := copy_of_beginFlow begun
          subst isNext
          exact iff_of_false (fun written => Nat.lt_irrefl _ (once.used _ written))
            (ne_rereading_of_copy copies)
      | acquired _ _ _ _ _ _ isNext =>
          subst isNext
          exact iff_of_false (fun written => Nat.lt_irrefl _ (once.used _ written)) (by simp)
      | advanced flow stage progress =>
          obtain ⟨-, isFound, goes⟩ := progressOf_eq_some_iff.mp progress
          rw [once.iff_rereading number flow isFound]
          exact rereading_iff_of_goesOn goes
      | persisted flow accessor tokens nowS secrets _ progress written =>
          exact absurd (writerOf_eq_some_iff.mpr
            ⟨flow, accessor, tokens, nowS, secrets, progress, written⟩) writes

theorem writtenOnce_run
    (platform : Platform State Event)
    (start : State)
    (labels : List (Label Event)) :
    WrittenOnce (run platform (initial start) labels) (writers platform start labels) := by
  induction labels using List.reverseRecOn with
  | nil =>
      refine ⟨List.nodup_nil, ?_, ?_⟩
      · intro number written
        cases written
      · intro number flow onItsWay
        cases onItsWay
  | append_singleton labels label inductionHypothesis =>
      unfold writers at inductionHypothesis ⊢
      rw [run, Machine.run_append, Machine.observations_append_singleton]
      exact writtenOnce_step (numbered_run platform start labels) inductionHypothesis

/-- What a call returns, by what a step makes of it. -/
def returned
    (platform : Platform State Event)
    (client : Client State)
    (flow : Flow) : Progress → Option (Except Failure String)
  | .goesOn _ => none
  | .persists accessor tokens nowS =>
      match client.writeBack platform flow accessor tokens nowS with
      | .error failure => some (.error failure)
      | .ok _ =>
          if flow.forAcquire then none
          else some (.ok (isoOf platform (nowS + tokens.expiresIn)))
  | .returns result => some result

theorem resultOf_eq_returned
    {made : Progress}
    (progress : client.progressOf platform label = some (number, flow, made)) :
    client.resultOf platform label = returned platform client flow made := by
  obtain ⟨isOf, -, -⟩ := progressOf_eq_some_iff.mp progress
  cases label with
  | call => cases isOf
  | acquire => cases isOf
  | logout => cases isOf
  | createSecret => cases isOf
  | happens => cases isOf
  | _ =>
      simp only [resultOf, progress]
      cases made <;> rfl

/-- What a call returns, besides the reading of the token, tells whether it has written. -/
theorem writes_iff_ok
    {result : Except Failure String}
    (isOf : flowOf label = some number)
    (onItsWay : client.flows.lookup number = some flow)
    (returns : client.resultOf platform label = some result)
    (flows : flow.stage ≠ .rereading) :
    writerOf platform client label = some number ↔ ∃ text, result = .ok text := by
  have progress : client.progressOf platform label =
      some (number, flow, advance platform (client.found platform flow.transaction) flow
        label) :=
    progressOf_eq_some_iff.mpr ⟨isOf, onItsWay, rfl⟩
  have advanced := advances platform (client.found platform flow.transaction) flow label
  rw [resultOf_eq_returned progress] at returns
  unfold writerOf
  rw [progress]
  generalize advance platform (client.found platform flow.transaction) flow label = made
    at returns advanced
  cases made with
  | goesOn stage => cases returns
  | persists held tokens nowS =>
      unfold returned at returns
      dsimp only at returns ⊢
      cases written : client.writeBack platform flow held tokens nowS with
      | error failure =>
          rw [written] at returns
          cases returns
          exact iff_of_false (by simp) (by simp)
      | ok secrets =>
          rw [written] at returns
          dsimp only at returns
          split at returns
          · cases returns
          · cases returns
            exact iff_of_true rfl ⟨_, rfl⟩
  | returns returned =>
      cases returns
      cases advanced with
      | returns failure =>
          refine iff_of_false (by simp) ?_
          rintro ⟨text, isOk⟩
          cases isOk
      | rereads _ isReread => exact absurd isReread flows

/-- A call writes at most once.  It has written when it returns exactly if it succeeds; an
acquisition that goes on to read the token has written before. -/
theorem writers_nodup
    (platform : Platform State Event)
    (start : State)
    (labels : List (Label Event)) :
    (writers platform start labels).Nodup ∧
      ∀ label number flow result, flowOf label = some number →
        (run platform (initial start) labels).flows.lookup number = some flow →
        (run platform (initial start) labels).resultOf platform label = some result →
        (number ∈ writers platform start (labels ++ [label]) ↔
          flow.stage = .rereading ∨ ∃ text, result = .ok text) := by
  have once := writtenOnce_run platform start labels
  refine ⟨once.nodup, ?_⟩
  intro label number flow result isOf onItsWay returns
  unfold writers at once ⊢
  rw [Machine.observations_append_singleton, List.mem_append, Option.mem_toList,
    once.iff_rereading number flow onItsWay]
  by_cases rereads : flow.stage = .rereading
  · exact iff_of_true (.inl rereads) (.inl rereads)
  · rw [or_iff_right rereads, or_iff_right rereads]
    exact writes_iff_ok isOf onItsWay returns rereads

theorem writers_nodup_sample :
    0 ∈ writers samplePlatform sampleSecrets
        ([.call 1 .refresh "s"] ++ [.tokenResponse 0 sampleAnswer 1000]) ↔
      sampleFlow.stage = .rereading ∨
        ∃ text, (.ok "1970-01-01T01:16:40Z" : Except Failure String) = .ok text :=
  (writers_nodup samplePlatform sampleSecrets [.call 1 .refresh "s"]).2
    (.tokenResponse 0 sampleAnswer 1000) 0 sampleFlow (.ok "1970-01-01T01:16:40Z") rfl
    (by rfl) (by rfl)

end Client
end Acquire
end QuackOauth
