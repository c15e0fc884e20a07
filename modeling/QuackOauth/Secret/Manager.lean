import QuackOauth.Lib.Fallible
import QuackOauth.Lib.Machine
import QuackOauth.Secret.Accessor

/-!
# The secret manager

The database keeps its secrets in a manager of its own, in which every access belongs to a
transaction.  What a transaction finds, and whether a registration meets a conflict, is left
open here; what the extension relies on is stated as conditions on the manager.
-/

namespace QuackOauth
namespace Secret

open Lib

/-- The secret manager of the database.  Transactions are numbered. -/
structure SecretManager (State Event : Type) where
  /-- What a transaction finds under a name. -/
  getSecretByName : State → Nat → String → Option SecretEntry
  /-- Register a secret in place of what the transaction finds under its name.  A conflict
  with another transaction raises. -/
  registerSecret : State → Nat → String → SecretEntry → Except Failure State
  /-- What happens besides: secrets are dropped, transactions begin and end. -/
  happen : State → Event → State

namespace SecretManager

variable {State Event : Type} {manager : SecretManager State Event}
variable {state after : State} {transaction : Nat} {secretName : String}
variable {entry : SecretEntry}

/-- A secret is found under a name by some transaction, now or when nothing was registered
since. -/
def CanFind
    (manager : SecretManager State Event)
    (state : State)
    (secretName : String)
    (entry : SecretEntry) : Prop :=
  ∃ (events : List Event) (transaction : Nat),
    manager.getSecretByName (Machine.run manager.happen state events) transaction
      secretName = some entry

/-- What can be found after a registration could be found before, or it is what was
registered. -/
def FindsRegistered (manager : SecretManager State Event) : Prop :=
  ∀ state after transaction secretName entry foundName found,
    manager.registerSecret state transaction secretName entry = .ok after →
      manager.CanFind after foundName found →
        manager.CanFind state foundName found ∨ foundName = secretName ∧ found = entry

/-- A transaction finds what it has registered. -/
def FindsOwn (manager : SecretManager State Event) : Prop :=
  ∀ state after transaction secretName entry,
    manager.registerSecret state transaction secretName entry = .ok after →
      manager.getSecretByName after transaction secretName = some entry

theorem canFind_of_found
    (found : manager.getSecretByName state transaction secretName = some entry) :
    manager.CanFind state secretName entry :=
  ⟨[], transaction, found⟩

theorem canFind_of_happen
    {event : Event}
    (canFind : manager.CanFind (manager.happen state event) secretName entry) :
    manager.CanFind state secretName entry := by
  obtain ⟨events, transaction, found⟩ := canFind
  exact ⟨event :: events, transaction, found⟩

/-! ## Writing tokens -/

/-- Write tokens back on the secret that an accessor opened, as it was then. -/
def persistTokenFields
    (manager : SecretManager State Event)
    (state : State)
    (transaction : Nat)
    (secretName : String)
    (accessor : SecretAccessor)
    (accessToken expiresAtIso8601 refreshToken : String) : Except Failure State :=
  match accessor.entry, accessor.kv with
  | some entry, some kv =>
      manager.registerSecret state transaction secretName { entry with
        secret := .keyValue (withTokenFields kv accessToken expiresAtIso8601 refreshToken) }
  -- Only opened secrets are written back.
  | _, _ => .ok state

/-- Take the tokens off a secret. -/
def doLogout
    (manager : SecretManager State Event)
    (state : State)
    (transaction : Nat)
    (secretName : String) : Except Failure State := do
  let accessor ← openSecret (manager.getSecretByName state transaction) secretName
    (some "quack_oauth") "quack_oauth_logout"
  match accessor.entry, accessor.kv with
  | some entry, some kv =>
      manager.registerSecret state transaction secretName { entry with
        secret := .keyValue (withoutTokenFields kv) }
  | _, _ => pure state

/-- What a logout registers. -/
theorem doLogout_ok
    (logsOut : manager.doLogout state transaction secretName = .ok after) :
    ∃ entry kv, Opened (manager.getSecretByName state transaction) secretName
        (some "quack_oauth") { entry := some entry, kv := some kv } entry kv ∧
      manager.registerSecret state transaction secretName
        { entry with secret := .keyValue (withoutTokenFields kv) } = .ok after := by
  unfold doLogout at logsOut
  obtain ⟨accessor, opens, registered⟩ := Fallible.bind_eq_ok_iff.mp logsOut
  obtain ⟨entry, kv, opened⟩ := opened_of_openSecret opens
  obtain rfl := opened.accessor_eq
  exact ⟨entry, kv, opened, registered⟩

/-! ## One transaction after another -/

/-- The manager as transactions see it that follow one another, and drop secrets. -/
def sequential : SecretManager (UnorderedMap String SecretEntry) String where
  getSecretByName secrets _ secretName := secrets.lookup secretName
  registerSecret secrets _ secretName entry := .ok (secrets.insert secretName entry)
  happen secrets dropped := secrets.erase dropped

theorem sequential_canFind_iff {secrets : UnorderedMap String SecretEntry} :
    sequential.CanFind secrets secretName entry ↔ secrets.lookup secretName = some entry := by
  constructor
  · rintro ⟨events, transaction, found⟩
    induction events generalizing secrets with
    | nil => exact found
    | cons dropped events inductionHypothesis =>
        have left := inductionHypothesis found
        change (secrets.erase dropped).lookup secretName = some entry at left
        rw [UnorderedMap.lookup_erase_eq_ite] at left
        exact (Option.ite_none_left_eq_some.mp left).2
  · intro stored
    exact ⟨[], 0, stored⟩

theorem sequential_findsRegistered : sequential.FindsRegistered := by
  intro secrets after transaction secretName entry foundName found registered canFind
  cases registered
  rw [sequential_canFind_iff, UnorderedMap.lookup_insert_eq_ite] at canFind
  split at canFind
  · next same => exact .inr ⟨same, (Option.some.inj canFind).symm⟩
  · exact .inl (sequential_canFind_iff.mpr canFind)

theorem sequential_findsOwn : sequential.FindsOwn := by
  intro secrets after transaction secretName entry registered
  cases registered
  exact AList.lookup_insert secrets

end SecretManager

end Secret
end QuackOauth
