import QuackOauth.Http.Loopback
import QuackOauth.Lib.Separator

/-!
# The guard of plain listeners

Tokens come in without TLS, so a listener has to be bound to this machine unless the
operator trusts the network.  The host is taken from the listener's URI, and a host that
starts with `127.` is believed to be an address.
-/

namespace QuackOauth
namespace PlaintextGuard

open Lib Separator Http

/-! ## The guard -/

/-- What follows the scheme, and the two slashes if there are any. -/
def quackBody (uri : List Char) : Option (List Char) :=
  if "quack://".toList.isPrefixOf uri then some (uri.drop 8)
  else if "quack:".toList.isPrefixOf uri then some (uri.drop 6)
  else none

/-- A host in brackets keeps them; another one ends at the last colon. -/
def hostOfBody (body : List Char) : List Char :=
  match body with
  | [] => []
  | '[' :: _ =>
      match cutFirst ']' body with
      | none => []
      | some (inside, _) => inside ++ [']']
  | _ =>
      match cutLast ':' body with
      | none => body
      | some (host, _) => host

/-- The host of a listener's URI; empty where there is none. -/
def hostFromQuackUri (uri : List Char) : List Char :=
  match quackBody uri with
  | none => []
  | some body => hostOfBody body

/-- The text of the exception. -/
def refusal (uri : String) : String :=
  "quack_oauth: refusing to validate a bearer token because the " ++
    "active quack listener '" ++ uri ++ "' is bound to a non-loopback host " ++
    "and `quack_oauth_trust_plaintext` is not true. Either " ++
    "terminate TLS in front of this listener and `SET " ++
    "quack_oauth_trust_plaintext = true`, or bind the listener " ++
    "to 127.0.0.1 / ::1 / localhost. (R-N-4)"

/-- The listeners one by one; one without a URI is passed over. -/
def checkListeners : List (Option String) → Except String Unit
  | [] => .ok ()
  | none :: rest => checkListeners rest
  | some uri :: rest =>
      if isLoopbackHost (hostFromQuackUri uri.toList) then checkListeners rest
      else .error (refusal uri)

/-- The guard before a token is checked.  The setting may be missing, and so may the list
of listeners, where the query for it fails. -/
def enforcePlaintextGuard
    (trustPlaintext : Option Bool)
    (listeners : Option (List (Option String))) : Except String Unit :=
  if trustPlaintext = some true then .ok ()
  else
    match listeners with
    | none => .ok ()
    | some listeners => checkListeners listeners

/-! ## What listens on this machine only -/

/-- Nothing, or a colon and a port. -/
def EndsHost (rest : List Char) : Prop :=
  rest = [] ∨ ∃ port, rest = ':' :: port ∧ ':' ∉ port

/-- The scheme, with or without slashes. -/
def IsScheme (scheme : List Char) : Prop :=
  scheme = "quack:".toList ∨ scheme = "quack://".toList

/-- A URI of a host, with or without slashes, with or without a port. -/
def HasHost (uri host : List Char) : Prop :=
  ∃ scheme rest, IsScheme scheme ∧ EndsHost rest ∧ uri = scheme ++ host ++ rest

/-- The guard lets a URI pass only if its host is this machine, and does so if the URI is
well written. -/
structure GuardsLoopback (uri : List Char) : Prop where
  loopback : isLoopbackHost (hostFromQuackUri uri) = true →
    ∃ host, HasHost uri host ∧ IsLoopback host
  admitted : ∀ host, HasHost uri host → IsLoopback host → host ≠ "::1".toList →
    isLoopbackHost (hostFromQuackUri uri) = true

/-! ## What is believed -/

/-- A host that looks like an address is one, and an address in brackets is followed by
nothing but a port. -/
structure WellWritten (uri : List Char) : Prop where
  address : ∀ host, HasHost uri host → LooksLikeAddress host → IsLoopbackAddress host
  brackets : ∀ scheme rest, IsScheme scheme →
    uri = scheme ++ "[::1]".toList ++ rest → EndsHost rest

/-! ## Finding the host -/

section Host

variable {uri scheme body host rest inner : List Char}

/-- The scheme is taken off. -/
theorem quackBody_append
    (isScheme : IsScheme scheme)
    (noSlash : '/' ∉ body.head?) :
    quackBody (scheme ++ body) = some body := by
  rcases isScheme with rfl | rfl
  · have withoutSlashes : ¬ "quack://".toList.isPrefixOf ("quack:".toList ++ body) := by
      cases body with
      | nil => decide
      | cons c rest =>
          have different : c ≠ '/' := by simpa using noSlash
          simp [List.isPrefixOf, different.symm]
    rw [quackBody, if_neg withoutSlashes, if_pos (by simp [List.isPrefixOf])]
    rfl
  · rw [quackBody, if_pos (by simp [List.isPrefixOf])]
    rfl

/-- What is left has the scheme before it. -/
theorem eq_append_of_quackBody
    (found : quackBody uri = some body) :
    ∃ scheme, IsScheme scheme ∧ uri = scheme ++ body := by
  unfold quackBody at found
  split_ifs at found with slashes plain
  · obtain rfl := Option.some.inj found
    have whole := List.prefix_iff_eq_append.mp (List.isPrefixOf_iff_prefix.mp slashes)
    exact ⟨_, .inr rfl, whole.symm⟩
  · obtain rfl := Option.some.inj found
    have whole := List.prefix_iff_eq_append.mp (List.isPrefixOf_iff_prefix.mp plain)
    exact ⟨_, .inl rfl, whole.symm⟩

/-- A host in brackets is found, whatever follows it. -/
theorem hostOfBody_bracketed
    (closes : ']' ∉ inner)
    (rest : List Char) :
    hostOfBody ('[' :: inner ++ ']' :: rest) = '[' :: inner ++ [']'] := by
  have cut : cutFirst ']' ('[' :: inner ++ ']' :: rest) = some ('[' :: inner, rest) :=
    cutFirst_eq_some_iff.mpr ⟨rfl, by simp [closes]⟩
  rw [List.cons_append] at cut ⊢
  unfold hostOfBody
  rw [cut]
  rfl

/-- Another host is found up to its port. -/
theorem hostOfBody_append
    (nonempty : host ≠ [])
    (noBracket : '[' ∉ host.head?)
    (noColon : ':' ∉ host)
    (ends : EndsHost rest) :
    hostOfBody (host ++ rest) = host := by
  obtain ⟨c, later, rfl⟩ := List.exists_cons_of_ne_nil nonempty
  have different : c ≠ '[' := by simpa using noBracket
  have opens : hostOfBody (c :: later ++ rest) =
      match cutLast ':' (c :: later ++ rest) with
      | none => c :: later ++ rest
      | some (host, _) => host := by
    unfold hostOfBody
    split
    · contradiction
    · next same => exact absurd (List.cons.inj same).1 different
    · rfl
  rw [opens]
  rcases ends with rfl | ⟨port, rfl, portPlain⟩
  · rw [List.append_nil, cutLast_eq_none_iff.mpr noColon]
  · rw [cutLast_eq_some_iff.mpr ⟨rfl, portPlain⟩]

/-- What is found is a host in brackets, or one that only a port follows. -/
theorem hostOfBody_cases
    (found : hostOfBody body = host)
    (nonempty : host ≠ []) :
    (∃ inner rest, host = '[' :: inner ∧ body = host ++ rest) ∨
      ∃ rest, EndsHost rest ∧ body = host ++ rest := by
  unfold hostOfBody at found
  split at found
  · exact absurd found.symm nonempty
  · next later =>
      cases cut : cutFirst ']' ('[' :: later) with
      | none =>
          rw [cut] at found
          exact absurd found.symm nonempty
      | some parts =>
          obtain ⟨inside, rest⟩ := parts
          rw [cut] at found
          obtain ⟨whole, -⟩ := cutFirst_eq_some_iff.mp cut
          dsimp only at found
          have body_eq : '[' :: later = host ++ rest := by
            rw [whole, ← found, List.append_assoc, List.singleton_append]
          obtain ⟨c, inner, rfl⟩ := List.exists_cons_of_ne_nil nonempty
          obtain rfl := (List.cons.inj body_eq).1
          exact .inl ⟨inner, rest, rfl, body_eq⟩
  · cases cut : cutLast ':' body with
    | none =>
        rw [cut] at found
        exact .inr ⟨[], .inl rfl, by rw [List.append_nil]; exact found⟩
    | some parts =>
        obtain ⟨front, port⟩ := parts
        rw [cut] at found
        obtain ⟨whole, noColon⟩ := cutLast_eq_some_iff.mp cut
        obtain rfl := found
        exact .inr ⟨':' :: port, .inr ⟨port, rfl, noColon⟩, whole⟩

/-- A host without marks is the one that is found. -/
theorem hostFromQuackUri_of_hasHost
    (hasHost : HasHost uri host)
    (nonempty : host ≠ [])
    (noMarks : NoMarks host) :
    hostFromQuackUri uri = host := by
  obtain ⟨scheme, rest, isScheme, ends, rfl⟩ := hasHost
  have noBracket : '[' ∉ host.head? :=
    fun first => noMarks.bracket (List.mem_of_mem_head? first)
  have noSlash : '/' ∉ (host ++ rest).head? := by
    intro first
    rw [List.head?_append_of_ne_nil _ nonempty] at first
    exact noMarks.slash (List.mem_of_mem_head? first)
  rw [hostFromQuackUri, List.append_assoc, quackBody_append isScheme noSlash]
  exact hostOfBody_append nonempty noBracket noMarks.colon ends

/-- An address in brackets is found, whatever follows it. -/
theorem hostFromQuackUri_of_bracketed
    (isScheme : IsScheme scheme)
    (rest : List Char) :
    hostFromQuackUri (scheme ++ "[::1]".toList ++ rest) = "[::1]".toList := by
  have noSlash : '/' ∉ ("[::1]".toList ++ rest).head? := by simp
  have closes : ']' ∉ "::1".toList := by decide
  rw [hostFromQuackUri, List.append_assoc, quackBody_append isScheme noSlash]
  exact hostOfBody_bracketed closes rest

example : hostFromQuackUri "quack://[::1]:9494".toList = "[::1]".toList := by decide

/-- What is found is the host of the URI, unless it is in brackets. -/
theorem hostFromQuackUri_cases
    (found : hostFromQuackUri uri = host)
    (nonempty : host ≠ []) :
    (∃ inner, host = '[' :: inner ∧
      ∃ scheme rest, IsScheme scheme ∧ uri = scheme ++ host ++ rest) ∨
      HasHost uri host := by
  unfold hostFromQuackUri at found
  cases afterScheme : quackBody uri with
  | none =>
      rw [afterScheme] at found
      exact absurd found.symm nonempty
  | some body =>
      rw [afterScheme] at found
      obtain ⟨scheme, isScheme, rfl⟩ := eq_append_of_quackBody afterScheme
      rcases hostOfBody_cases found nonempty with ⟨inner, rest, opens, rfl⟩ | ⟨rest, ends, rfl⟩
      · exact .inl ⟨inner, opens, scheme, rest, isScheme, (List.append_assoc _ _ _).symm⟩
      · exact .inr ⟨scheme, rest, isScheme, ends, (List.append_assoc _ _ _).symm⟩

end Host

/-! ## What the guard admits -/

section Admitted

variable {uri scheme host rest : List Char}

/-- A name, or what looks like an address, is the host that is judged. -/
theorem hostFromQuackUri_of_looksLikeAddress
    (looksLike : LooksLikeAddress host)
    (hasHost : HasHost uri host) :
    hostFromQuackUri uri = host :=
  hostFromQuackUri_of_hasHost hasHost looksLike.ne_nil looksLike.noMarks

/-- This machine is the host that is judged; its short name loses a colon where no port
follows. -/
theorem hostFromQuackUri_of_isLoopback
    (isLoopback : IsLoopback host)
    (hasHost : HasHost uri host) :
    hostFromQuackUri uri = host ∨
      host = "::1".toList ∧ hostFromQuackUri uri = ":".toList := by
  rcases isLoopback with isName | rfl | rfl | isAddress
  · exact .inl (hostFromQuackUri_of_hasHost hasHost (ne_nil_of_localhost isName)
      (noMarks_of_localhost isName))
  · obtain ⟨scheme, rest, isScheme, ends, rfl⟩ := hasHost
    have noSlash : '/' ∉ ("::1".toList ++ rest).head? := by simp
    rw [hostFromQuackUri, List.append_assoc, quackBody_append isScheme noSlash]
    rcases ends with rfl | ⟨port, rfl, noColon⟩
    · exact .inr ⟨rfl, by decide⟩
    · have cut : cutLast ':' ("::1".toList ++ ':' :: port) = some ("::1".toList, port) :=
        cutLast_eq_some_iff.mpr ⟨rfl, noColon⟩
      refine .inl ?_
      change (match cutLast ':' ("::1".toList ++ ':' :: port) with
        | none => "::1".toList ++ ':' :: port
        | some (host, _) => host) = "::1".toList
      rw [cut]
  · obtain ⟨scheme, rest, isScheme, -, rfl⟩ := hasHost
    exact .inl (hostFromQuackUri_of_bracketed isScheme rest)
  · exact .inl (hostFromQuackUri_of_looksLikeAddress isAddress.looksLikeAddress hasHost)

/-- A loopback host in a URI is admitted. -/
theorem admitted_of_hasHost
    (hasHost : HasHost uri host)
    (isLoopback : IsLoopback host)
    (bracketed : host ≠ "::1".toList) :
    isLoopbackHost (hostFromQuackUri uri) = true := by
  rcases hostFromQuackUri_of_isLoopback isLoopback hasHost with same | ⟨short, -⟩
  · rw [same]
    exact isLoopback.isLoopbackHost
  · exact absurd short bracketed

/-- What is admitted has the host that was judged, or an address in brackets. -/
theorem hasHost_of_admitted
    (wellWritten : WellWritten uri)
    (found : hostFromQuackUri uri = host)
    (nonempty : host ≠ [])
    (bracketed : '[' ∈ host.head? → host = "[::1]".toList) :
    HasHost uri host := by
  rcases hostFromQuackUri_cases found nonempty with ⟨inner, opens, inBrackets⟩ | hasHost
  · obtain ⟨scheme, rest, isScheme, uri_eq⟩ := inBrackets
    have address : host = "[::1]".toList := bracketed (by rw [opens]; rfl)
    rw [address] at uri_eq
    have ends := wellWritten.brackets scheme rest isScheme uri_eq
    exact ⟨scheme, rest, isScheme, ends, address ▸ uri_eq⟩
  · exact hasHost

theorem WellWritten.loopback
    (wellWritten : WellWritten uri)
    (admitted : isLoopbackHost (hostFromQuackUri uri) = true) :
    ∃ host, HasHost uri host ∧ IsLoopback host := by
  refine ⟨hostFromQuackUri uri, ?_⟩
  rcases isLoopbackHost_iff.mp admitted with isName | short | bracketed | looksLike
  · have hasHost : HasHost uri (hostFromQuackUri uri) :=
      hasHost_of_admitted wellWritten rfl (ne_nil_of_localhost isName) fun first =>
        absurd (List.mem_of_mem_head? first) (noMarks_of_localhost isName).bracket
    exact ⟨hasHost, .inl isName⟩
  · have hasHost := hasHost_of_admitted wellWritten short (by decide) (by decide)
    exact ⟨short ▸ hasHost, .inr (.inl short)⟩
  · have hasHost := hasHost_of_admitted wellWritten bracketed (by decide) fun _ => rfl
    exact ⟨bracketed ▸ hasHost, .inr (.inr (.inl bracketed))⟩
  · have hasHost : HasHost uri (hostFromQuackUri uri) :=
      hasHost_of_admitted wellWritten rfl looksLike.ne_nil fun first =>
        absurd (List.mem_of_mem_head? first) looksLike.noMarks.bracket
    exact ⟨hasHost, .inr (.inr (.inr (wellWritten.address _ hasHost looksLike)))⟩

/-- What looks like an address has to be one. -/
theorem GuardsLoopback.address
    (guards : GuardsLoopback uri)
    (hasHost : HasHost uri host)
    (looksLike : LooksLikeAddress host) :
    IsLoopbackAddress host := by
  have judged := hostFromQuackUri_of_looksLikeAddress looksLike hasHost
  have admitted : isLoopbackHost (hostFromQuackUri uri) = true := by
    rw [judged]
    exact isLoopbackHost_iff.mpr (.inr (.inr (.inr looksLike)))
  obtain ⟨other, otherHasHost, otherIsLoopback⟩ := guards.loopback admitted
  have noColon := looksLike.noMarks.colon
  rcases hostFromQuackUri_of_isLoopback otherIsLoopback otherHasHost with same | ⟨-, colon⟩
  · obtain rfl : host = other := judged.symm.trans same
    exact (isLoopback_iff.mp otherIsLoopback).2 looksLike
  · rw [← judged, colon] at noColon
    exact absurd noColon (by decide)

/-- An address in brackets has to end the host. -/
theorem GuardsLoopback.endsHost
    (guards : GuardsLoopback (scheme ++ "[::1]".toList ++ rest))
    (isScheme : IsScheme scheme) :
    EndsHost rest := by
  have judged := hostFromQuackUri_of_bracketed isScheme rest
  have admitted :
      isLoopbackHost (hostFromQuackUri (scheme ++ "[::1]".toList ++ rest)) = true := by
    rw [judged]
    decide
  obtain ⟨other, hasHost, isLoopback⟩ := guards.loopback admitted
  rcases hostFromQuackUri_of_isLoopback isLoopback hasHost with same | ⟨-, colon⟩
  · obtain rfl : "[::1]".toList = other := judged.symm.trans same
    obtain ⟨otherScheme, otherRest, otherIsScheme, ends, uri_eq⟩ := hasHost
    have noSlash : ∀ rest, '/' ∉ ("[::1]".toList ++ rest).head? := by simp
    have body := quackBody_append isScheme (noSlash rest)
    have otherBody := quackBody_append otherIsScheme (noSlash otherRest)
    rw [← List.append_assoc, uri_eq, List.append_assoc, otherBody] at body
    have rest_eq : otherRest = rest := List.append_cancel_left (Option.some.inj body)
    exact rest_eq ▸ ends
  · exact absurd (judged.symm.trans colon) (by decide)

/-- The guard does for a URI what it is there for exactly if the URI is well written. -/
theorem guardsLoopback_iff_wellWritten (uri : List Char) :
    GuardsLoopback uri ↔ WellWritten uri := by
  constructor
  · intro guards
    refine ⟨fun host hasHost looksLike => guards.address hasHost looksLike, ?_⟩
    rintro scheme rest isScheme rfl
    exact guards.endsHost isScheme
  · intro wellWritten
    exact ⟨wellWritten.loopback, fun host => admitted_of_hasHost⟩

/-- Five numbers are believed to be an address, and so is what stands in brackets,
whatever follows them. -/
theorem five_octets_not_guarded :
    ¬ GuardsLoopback "quack:127.0.0.1.5:9494".toList ∧
      ¬ GuardsLoopback "quack:[::1]example.org:9494".toList := by
  constructor
  · intro guards
    have hasHost : HasHost "quack:127.0.0.1.5:9494".toList "127.0.0.1.5".toList :=
      ⟨_, ":9494".toList, .inl rfl, .inr ⟨"9494".toList, rfl, by decide⟩, rfl⟩
    exact five_octets.2 (guards.address hasHost five_octets.1)
  · intro guards
    have written : "quack:[::1]example.org:9494".toList =
        "quack:".toList ++ "[::1]".toList ++ "example.org:9494".toList := rfl
    rw [written] at guards
    rcases guards.endsHost (.inl rfl) with nothing | ⟨port, same, -⟩
    · exact absurd nothing (by decide)
    · exact absurd (List.cons.inj same).1 (by decide)

end Admitted

/-! ## All listeners -/

section Listeners

variable {listeners : List (Option String)} {uri : String}

/-- The listeners pass if each that has a URI is admitted. -/
theorem checkListeners_eq_ok_iff :
    checkListeners listeners = .ok () ↔
      ∀ uri : String, some uri ∈ listeners →
        isLoopbackHost (hostFromQuackUri uri.toList) = true := by
  induction listeners with
  | nil => simp [checkListeners]
  | cons listener rest inductionHypothesis =>
      cases listener with
      | none =>
          rw [checkListeners, inductionHypothesis]
          simp
      | some uri =>
          rw [checkListeners]
          by_cases admitted : isLoopbackHost (hostFromQuackUri uri.toList) = true
          · rw [if_pos admitted, inductionHypothesis]
            simp [admitted]
          · rw [if_neg admitted]
            simp [admitted]

/-- A refusal names a listener that is not admitted. -/
theorem exists_of_checkListeners_eq_error
    {message : String}
    (refused : checkListeners listeners = .error message) :
    ∃ uri : String, some uri ∈ listeners ∧
      isLoopbackHost (hostFromQuackUri uri.toList) = false ∧ message = refusal uri := by
  induction listeners with
  | nil => cases refused
  | cons listener rest inductionHypothesis =>
      cases listener with
      | none =>
          obtain ⟨uri, member, named⟩ := inductionHypothesis refused
          exact ⟨uri, List.mem_cons_of_mem _ member, named⟩
      | some uri =>
          rw [checkListeners] at refused
          by_cases admitted : isLoopbackHost (hostFromQuackUri uri.toList) = true
          · rw [if_pos admitted] at refused
            obtain ⟨uri, member, named⟩ := inductionHypothesis refused
            exact ⟨uri, List.mem_cons_of_mem _ member, named⟩
          · rw [if_neg admitted] at refused
            exact ⟨uri, List.mem_cons_self, Bool.eq_false_iff.mpr admitted,
              (Except.error.inj refused).symm⟩

/-- Where tokens are checked without the operator's trust, each listener is bound to this
machine, if its URI is well written. -/
theorem enforcePlaintextGuard_loopback
    {trustPlaintext : Option Bool}
    (passed : enforcePlaintextGuard trustPlaintext (some listeners) = .ok ())
    (distrusts : trustPlaintext ≠ some true)
    (listens : some uri ∈ listeners)
    (wellWritten : WellWritten uri.toList) :
    ∃ host, HasHost uri.toList host ∧ IsLoopback host := by
  rw [enforcePlaintextGuard, if_neg distrusts] at passed
  exact wellWritten.loopback (checkListeners_eq_ok_iff.mp passed uri listens)

end Listeners

end PlaintextGuard
end QuackOauth
