import QuackOauth.Lib.UnorderedMap

/-!
# Secrets and their accessors

A key-value secret is read through an accessor, a copy taken when the secret is opened,
of whatever the transaction of the call finds under the name.
-/

namespace QuackOauth
namespace Secret

open Lib

/-- An exception with its message. -/
inductive Failure
  | invalidInput (message : String)
  | io (message : String)
  deriving DecidableEq, Repr

/-- A secret of named values. -/
structure KeyValueSecret where
  type : String
  secretMap : UnorderedMap String String := ∅

/-- A secret of any kind. -/
inductive BaseSecret
  | keyValue (secret : KeyValueSecret)
  | other

/-- A secret with how it is kept. -/
structure SecretEntry where
  secret : BaseSecret
  persistType : String := ""
  storageMode : String := ""

/-- An opened secret; without one every field reads as empty. -/
structure SecretAccessor where
  entry : Option SecretEntry := none
  kv : Option KeyValueSecret := none

namespace SecretAccessor

/-- A field, or the empty string. -/
def get (accessor : SecretAccessor) (field : String) : String :=
  match accessor.kv with
  | none => ""
  | some kv => (kv.secretMap.lookup field).getD ""

/-- Whether the field is there, be it empty. -/
def has (accessor : SecretAccessor) (field : String) : Bool :=
  match accessor.kv with
  | none => false
  | some kv => (kv.secretMap.lookup field).isSome

end SecretAccessor

/-- Open a secret that is found under a name, of an expected type if there is one, for a
function that is named in the errors. -/
def openSecret
    (getSecretByName : String → Option SecretEntry)
    (secretName : String)
    (expectedType : Option String)
    (fnNameForErrors : String) : Except Failure SecretAccessor :=
  if secretName = "" then
    .error (.invalidInput (fnNameForErrors ++ ": secret name must be non-empty"))
  else
    match getSecretByName secretName with
    | none =>
        .error (.invalidInput (fnNameForErrors ++ ": SECRET '" ++ secretName ++ "' not found"))
    | some entry =>
        match entry.secret with
        | .other =>
            .error (.invalidInput (fnNameForErrors ++ ": SECRET '" ++ secretName ++
              "' is not a key-value secret"))
        | .keyValue kv =>
            match expectedType with
            | some expected =>
                if kv.type ≠ expected then
                  .error (.invalidInput (fnNameForErrors ++ ": SECRET '" ++ secretName ++
                    "' is not of TYPE " ++ expected ++ " (got '" ++ kv.type ++ "')"))
                else .ok { entry := some entry, kv := some kv }
            | none => .ok { entry := some entry, kv := some kv }

/-- Open a secret without raising: whatever is wrong, the accessor is empty. -/
def tryOpenSecret
    (getSecretByName : String → Option SecretEntry)
    (secretName : String)
    (expectedType : Option String) : SecretAccessor :=
  if secretName = "" then {}
  else
    match getSecretByName secretName with
    | none => {}
    | some entry =>
        match entry.secret with
        | .other => {}
        | .keyValue kv =>
            match expectedType with
            | some expected =>
                if kv.type ≠ expected then {} else { entry := some entry, kv := some kv }
            | none => { entry := some entry, kv := some kv }

/-- The copy of a secret with new tokens.  An empty refresh token leaves the old one. -/
def withTokenFields
    (kv : KeyValueSecret)
    (accessToken expiresAtIso8601 refreshToken : String) : KeyValueSecret :=
  let stamped := (kv.secretMap.insert "access_token" accessToken).insert "expires_at"
    expiresAtIso8601
  { kv with
    secretMap := if refreshToken = "" then stamped
      else stamped.insert "refresh_token" refreshToken }

/-- The copy of a secret without tokens. -/
def withoutTokenFields (kv : KeyValueSecret) : KeyValueSecret :=
  { kv with secretMap :=
      ((kv.secretMap.erase "access_token").erase "refresh_token").erase "expires_at" }

/-! ## Opened secrets -/

variable {getSecretByName : String → Option SecretEntry} {secretName : String}
variable {expectedType : Option String} {fnNameForErrors : String}
variable {accessor : SecretAccessor}

/-- What opening a secret guarantees. -/
structure Opened
    (getSecretByName : String → Option SecretEntry)
    (secretName : String)
    (expectedType : Option String)
    (accessor : SecretAccessor)
    (entry : SecretEntry)
    (kv : KeyValueSecret) : Prop where
  found : getSecretByName secretName = some entry
  secret_eq : entry.secret = .keyValue kv
  accessor_eq : accessor = { entry := some entry, kv := some kv }
  type_eq : ∀ expected, expectedType = some expected → kv.type = expected
  name_ne : secretName ≠ ""

theorem opened_of_openSecret
    (opens : openSecret getSecretByName secretName expectedType fnNameForErrors =
      .ok accessor) :
    ∃ entry kv, Opened getSecretByName secretName expectedType accessor entry kv := by
  unfold openSecret at opens
  split at opens
  · cases opens
  · next named =>
      split at opens
      · cases opens
      · next entry stored =>
          split at opens
          · cases opens
          · next kv isKeyValue =>
              split at opens
              · next expected =>
                  split at opens
                  · cases opens
                  · next sameType =>
                      cases opens
                      refine ⟨entry, kv, stored, isKeyValue, rfl, ?_, named⟩
                      rintro other ⟨⟩
                      exact not_not.mp sameType
              · cases opens
                refine ⟨entry, kv, stored, isKeyValue, rfl, ?_, named⟩
                rintro other ⟨⟩

/-- Opening softly is opening, with an empty accessor for an error. -/
theorem tryOpenSecret_eq :
    tryOpenSecret getSecretByName secretName expectedType =
      ((openSecret getSecretByName secretName expectedType fnNameForErrors).toOption).getD {} := by
  unfold tryOpenSecret openSecret
  split
  · rfl
  · split
    · rfl
    · split
      · rfl
      · split
        · split <;> rfl
        · rfl

end Secret
end QuackOauth
