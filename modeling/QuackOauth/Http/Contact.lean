import QuackOauth.Http.Loopback
import QuackOauth.Lib.Separator
import Mathlib.Data.List.TakeWhile

/-!
# The URL contacted is the URL checked

An accepted URL has an authority, and the authority a host and a port.  The client finds
the same two exactly when the URL is written plainly enough for its splitter.
-/

namespace QuackOauth
namespace Http

open Lib Separator

variable {url : String} {parts : UrlParts} {authority beyond host port : List Char}

/-! ## What a URL names -/

/-- The bracketed address an authority starts with, and what follows it. -/
def bracketed : List Char → List Char × List Char
  | '[' :: inner =>
      match cutFirst ']' inner with
      | some (address, rest) => ('[' :: address ++ [']'], rest)
      | none => ('[' :: inner, [])
  | authority => ([], authority)

/-- What stands before the port separator, the first colon outside the brackets; the
brackets belong to it. -/
def hostOf (authority : List Char) : List Char :=
  match cutFirst ':' (bracketed authority).2 with
  | some (name, _) => (bracketed authority).1 ++ name
  | none => authority

/-- What stands behind the port separator. -/
def portOf (authority : List Char) : Option (List Char) :=
  (cutFirst ':' (bracketed authority).2).map Prod.snd

/-- The number of a port: the default one where it is missing or empty, none where it
is not a number. -/
def portNumber (defaultPort : Int) : Option (List Char) → Option Int
  | none | some [] => some defaultPort
  | some digits => if digits.all Char.isDigit then some (decimalValue digits) else none

/-- The port of the scheme. -/
def defaultPort (url : String) : Int :=
  if isHttps url then 443 else 80

/-- What separates the authority from the first slash: a query or a fragment that
comes before any path. -/
def beyondAuthority (url : String) : List Char :=
  ((url.toList.drop (if isHttps url then 8 else 7)).dropWhile
    fun c => !endsAuthority c).takeWhile fun c => c != '/'

/-- The client connects to the host and the port of the authority that was checked, and
without TLS only to this machine. -/
structure ContactsChecked (url : String) (parts : UrlParts) : Prop where
  host_eq : parts.host = String.ofList (hostOf (authorityOf url))
  port_eq : portNumber (defaultPort url) (portOf (authorityOf url)) = some parts.port
  loopback : ∀ connection, connectionFor parts = some connection →
    connection.tls = false → IsLoopback connection.host.toList

/-- Without a port, no colon in the authority and nothing between it and the path; with
a port, digits only and no further colon before the path. -/
def PortPlain (authority beyond : List Char) : Prop :=
  match portOf authority with
  | none => ':' ∉ authority ∧ beyond = []
  | some port => port.all Char.isDigit = true ∧ ':' ∉ beyond

/-- A URL with nothing the client's splitter misreads.  Without TLS, the one address in
brackets is `[::1]`, and what looks like an address is one. -/
structure WrittenPlainly (url : String) : Prop where
  port : PortPlain (authorityOf url) (beyondAuthority url)
  brackets : isHttps url = false → '[' ∈ (authorityOf url).head? →
    hostOf (authorityOf url) = "[::1]".toList
  address : isHttps url = false → LooksLikeAddress (hostOf (authorityOf url)) →
    IsLoopbackAddress (hostOf (authorityOf url))

/-! ## Authorities -/

theorem bracketed_append (authority : List Char) :
    (bracketed authority).1 ++ (bracketed authority).2 = authority := by
  unfold bracketed
  split
  · next inner =>
      cases cut : cutFirst ']' inner with
      | none => exact List.append_nil _
      | some found =>
          have inner_eq := (cutFirst_eq_some_iff.mp cut).1
          simp [inner_eq]
  · rfl

theorem hostOf_of_portOf_eq_none
    (absent : portOf authority = none) :
    hostOf authority = authority := by
  unfold hostOf
  rw [Option.map_eq_none_iff.mp absent]

/-- Host, separator and port make up an authority. -/
theorem authority_eq_of_portOf
    (present : portOf authority = some port) :
    authority = hostOf authority ++ ':' :: port := by
  obtain ⟨⟨name, _⟩, found, rfl⟩ := Option.map_eq_some_iff.mp present
  have rest_eq := (cutFirst_eq_some_iff.mp found).1
  unfold hostOf
  rw [found]
  calc authority
      = (bracketed authority).1 ++ (bracketed authority).2 :=
        (bracketed_append authority).symm
    _ = _ := by rw [rest_eq, List.append_assoc]

/-- The client's host part is the authority and what lies beyond it. -/
theorem hostPart_eq (url : String) :
    (url.toList.drop (if isHttps url then 8 else 7)).takeWhile (fun c => c != '/') =
      authorityOf url ++ beyondAuthority url := by
  unfold authorityOf authorityAfter beyondAuthority
  generalize url.toList.drop (if isHttps url then 8 else 7) = rest
  have noSlash : ∀ c ∈ rest.takeWhile (fun c => !endsAuthority c), (c != '/') = true := by
    intro c member
    have inside := List.mem_takeWhile_imp member
    rw [bne_iff_ne]
    rintro rfl
    exact absurd inside (by decide)
  rw [← List.takeWhile_append_of_pos noSlash, List.takeWhile_append_dropWhile]

/-- A query or a fragment begins with its mark. -/
theorem mark_of_beyondAuthority
    {c : Char}
    (first : c ∈ (beyondAuthority url).head?) :
    c = '?' ∨ c = '#' := by
  unfold beyondAuthority at first
  generalize url.toList.drop (if isHttps url then 8 else 7) = rest at first
  have stopped := List.head?_dropWhile_not (fun c => !endsAuthority c) rest
  cases behind : rest.dropWhile (fun c => !endsAuthority c) with
  | nil => simp [behind] at first
  | cons mark tail =>
      rw [behind] at first stopped
      have ends : endsAuthority mark = true := by simpa using stopped
      rw [List.takeWhile_cons] at first
      by_cases slash : mark = '/'
      · simp [slash] at first
      · rw [if_pos (bne_iff_ne.mpr slash)] at first
        obtain rfl : mark = c := by simpa using first
        simpa [endsAuthority, slash] using ends

/-! ## Ports -/

/-- No number begins where the authority ends. -/
theorem stoi_eq_none
    (boundary : ∀ c ∈ beyond.head?, c = '?' ∨ c = '#') :
    stoi beyond = none := by
  cases beyond with
  | nil => decide
  | cons mark rest =>
      have noNumber : Json.stoll (String.ofList (mark :: rest)) = none := by
        rcases boundary mark rfl with rfl | rfl <;>
          simp [Json.stoll, Json.isSpace, Json.leadingDigits]
      unfold stoi
      rw [noNumber]
      rfl

theorem takeWhile_isDigit_append
    (digits : ∀ c ∈ port, c.isDigit = true)
    (boundary : ∀ c ∈ beyond.head?, c = '?' ∨ c = '#') :
    (port ++ beyond).takeWhile Char.isDigit = port := by
  rw [List.takeWhile_append_of_pos digits]
  cases beyond with
  | nil => exact List.append_nil port
  | cons mark rest =>
      have noDigit : mark.isDigit = false := by
        rcases boundary mark rfl with rfl | rfl <;> decide
      rw [List.takeWhile_cons, noDigit]
      exact List.append_nil port

/-- Digits are read as the number they spell, whatever mark follows them. -/
theorem stoi_of_digits
    {number : Int}
    (nonempty : port ≠ [])
    (digits : ∀ c ∈ port, c.isDigit = true)
    (boundary : ∀ c ∈ beyond.head?, c = '?' ∨ c = '#')
    (found : stoi (port ++ beyond) = some number) :
    number = decimalValue port := by
  obtain ⟨first, rest, rfl⟩ := List.exists_cons_of_ne_nil nonempty
  have spelt : Json.leadingDigits (first :: rest ++ beyond) =
      some (decimalValue (first :: rest)) := by
    unfold Json.leadingDigits
    rw [takeWhile_isDigit_append digits boundary]
    rfl
  have read : Json.stoll (String.ofList (first :: rest ++ beyond)) = some number :=
    Option.eq_some_of_filter_eq_some found
  rw [List.cons_append, Json.stoll_ofList_cons (digits first List.mem_cons_self),
    ← List.cons_append, spelt, Option.bind_some] at read
  exact (Option.some.inj (Option.ite_none_right_eq_some.mp read).2).symm

/-- What is read for the port is its number just if the port has one. -/
theorem portNumber_eq_iff
    {standard number : Int}
    (boundary : ∀ c ∈ beyond.head?, c = '?' ∨ c = '#')
    (found : stoi (port ++ beyond) = some number) :
    portNumber standard (some port) = some number ↔ port.all Char.isDigit = true := by
  cases port with
  | nil =>
      rw [List.nil_append, stoi_eq_none boundary] at found
      cases found
  | cons first rest =>
      unfold portNumber
      by_cases digits : (first :: rest).all Char.isDigit = true
      · have spelt := stoi_of_digits (List.cons_ne_nil first rest)
          (List.all_eq_true.mp digits) boundary found
        simp only [digits, if_true, spelt]
      · simp only [digits, if_false, reduceCtorEq]

/-! ## The two splitters -/

theorem splitHostPart_of_portOf_eq_none
    {standard number : Int}
    (boundary : ∀ c ∈ beyond.head?, c = '?' ∨ c = '#')
    (absent : portOf authority = none)
    (split : splitHostPart standard (authority ++ beyond) = some (host, number)) :
    host = hostOf authority ∧ portNumber standard (portOf authority) = some number ↔
      ':' ∉ authority ∧ beyond = [] := by
  rw [hostOf_of_portOf_eq_none absent, absent]
  unfold splitHostPart at split
  cases cut : cutLast ':' (authority ++ beyond) with
  | none =>
      have noColon : ':' ∉ authority ++ beyond := cutLast_eq_none_iff.mp cut
      simp only [cut, Option.some.injEq, Prod.mk.injEq] at split
      obtain ⟨rfl, rfl⟩ := split
      have authorityPlain : ':' ∉ authority :=
        fun member => noColon (List.mem_append_left beyond member)
      simp [portNumber, authorityPlain]
  | some found =>
      obtain ⟨front, back⟩ := found
      have whole := (cutLast_eq_some_iff.mp cut).1
      simp only [cut, Option.map_eq_some_iff, Prod.mk.injEq] at split
      obtain ⟨-, -, rfl, -⟩ := split
      constructor
      · rintro ⟨rfl, -⟩
        -- a colon would have to open the query
        rw [List.append_cancel_left whole] at boundary
        simpa using boundary ':' rfl
      · rintro ⟨noColon, rfl⟩
        rw [List.append_nil] at whole
        exact absurd (whole ▸ List.mem_append_right front List.mem_cons_self) noColon

theorem splitHostPart_of_portOf_eq_some
    {standard number : Int}
    (boundary : ∀ c ∈ beyond.head?, c = '?' ∨ c = '#')
    (present : portOf authority = some port)
    (split : splitHostPart standard (authority ++ beyond) = some (host, number)) :
    host = hostOf authority ∧ portNumber standard (portOf authority) = some number ↔
      port.all Char.isDigit = true ∧ ':' ∉ beyond := by
  rw [present]
  have whole : authority ++ beyond = hostOf authority ++ ':' :: (port ++ beyond) := by
    rw [← List.cons_append, ← List.append_assoc, ← authority_eq_of_portOf present]
  unfold splitHostPart at split
  by_cases plain : ':' ∈ port ++ beyond
  · cases cut : cutLast ':' (authority ++ beyond) with
    | none =>
        rw [cutLast_eq_none_iff, whole] at cut
        simp at cut
    | some found =>
        obtain ⟨front, back⟩ := found
        obtain ⟨parted, backPlain⟩ := cutLast_eq_some_iff.mp cut
        simp only [cut, Option.map_eq_some_iff, Prod.mk.injEq] at split
        obtain ⟨-, -, rfl, -⟩ := split
        constructor
        · rintro ⟨rfl, -⟩
          have back_eq := List.append_cancel_left (whole.symm.trans parted)
          rw [List.cons.injEq] at back_eq
          exact absurd (back_eq.2 ▸ plain) backPlain
        · rintro ⟨digits, beyondPlain⟩
          rcases List.mem_append.mp plain with inPort | inBeyond
          · exact absurd (List.all_eq_true.mp digits ':' inPort) (by decide)
          · exact absurd inBeyond beyondPlain
  · rw [cutLast_eq_some_iff.mpr ⟨whole, plain⟩] at split
    simp only [Option.map_eq_some_iff, Prod.mk.injEq] at split
    obtain ⟨_, found, rfl, rfl⟩ := split
    have beyondPlain : ':' ∉ beyond :=
      fun member => plain (List.mem_append_right port member)
    rw [portNumber_eq_iff boundary found]
    simp [beyondPlain]

/-- The client reads the host and the port as the check does exactly where the port is
plain. -/
theorem splitHostPart_agrees_iff
    {standard number : Int}
    (boundary : ∀ c ∈ beyond.head?, c = '?' ∨ c = '#')
    (split : splitHostPart standard (authority ++ beyond) = some (host, number)) :
    host = hostOf authority ∧ portNumber standard (portOf authority) = some number ↔
      PortPlain authority beyond := by
  cases port_eq : portOf authority with
  | none =>
      have plain : PortPlain authority beyond ↔ ':' ∉ authority ∧ beyond = [] := by
        rw [PortPlain, port_eq]
      rw [plain, ← port_eq]
      exact splitHostPart_of_portOf_eq_none boundary port_eq split
  | some port =>
      have plain : PortPlain authority beyond ↔
          port.all Char.isDigit = true ∧ ':' ∉ beyond := by
        rw [PortPlain, port_eq]
      rw [plain, ← port_eq]
      exact splitHostPart_of_portOf_eq_some boundary port_eq split

/-! ## Accepted URLs -/

/-- Only a URL with one of the two schemes is accepted, and one that asks for no TLS only
with this machine as its host. -/
theorem scheme_of_validateHttpUrl
    {fieldName : String}
    (accepted : validateHttpUrl fieldName url = .ok ())
    (nonempty : url ≠ "") :
    isHttps url = true ∨ isHttp url = true ∧ isLocalhostUrl url = true := by
  unfold validateHttpUrl at accepted
  rw [if_neg (by simpa using nonempty)] at accepted
  split_ifs at accepted with tooLong forbidden noScheme userinfo remote
  by_cases secure : isHttps url = true
  · exact .inl secure
  · have plain : isHttp url = true := by simpa [secure] using noScheme
    exact .inr ⟨plain, by simpa [plain] using remote⟩

/-- The client cuts an accepted URL behind its scheme. -/
theorem cutAt_scheme
    (schemed : isHttps url = true ∨ isHttp url = true) :
    cutAt "://".toList url.toList =
      some ((if isHttps url then "https" else "http").toList,
        url.toList.drop (if isHttps url then 8 else 7)) := by
  by_cases secure : isHttps url = true
  · rw [if_pos secure, if_pos secure]
    have whole := List.prefix_iff_eq_append.mp (List.isPrefixOf_iff_prefix.mp secure)
    rw [← whole]
    rfl
  · rw [if_neg secure, if_neg secure]
    have plain := schemed.resolve_left secure
    have whole := List.prefix_iff_eq_append.mp (List.isPrefixOf_iff_prefix.mp plain)
    rw [← whole]
    rfl

/-- The parts of an accepted URL come from its authority and what lies beyond. -/
theorem splitHostPart_of_parseUrl
    (schemed : isHttps url = true ∨ isHttp url = true)
    (parsed : parseUrl url = some parts) :
    ∃ host, splitHostPart (defaultPort url) (authorityOf url ++ beyondAuthority url) =
        some (host, parts.port) ∧
      parts.host = String.ofList host ∧
      parts.scheme = if isHttps url then "https" else "http" := by
  unfold parseUrl at parsed
  rw [cutAt_scheme schemed] at parsed
  dsimp only at parsed
  rw [hostPart_eq] at parsed
  have standard : (if (if isHttps url then "https" else "http").toList = "https".toList
      then 443 else 80) = defaultPort url := by
    unfold defaultPort
    cases isHttps url <;> rfl
  rw [standard] at parsed
  cases split : splitHostPart (defaultPort url) (authorityOf url ++ beyondAuthority url) with
  | none => simp [split] at parsed
  | some found =>
      obtain ⟨host, port⟩ := found
      simp only [split, String.ofList_toList] at parsed
      obtain ⟨-, parts_eq⟩ := Option.ite_none_left_eq_some.mp parsed
      obtain rfl := Option.some.inj parts_eq
      exact ⟨host, rfl, rfl, rfl⟩

/-! ## This machine -/

/-- The one host in brackets that is this machine. -/
theorem isLoopbackHost_bracketed_iff :
    isLoopbackHost ('[' :: host) = true ↔ '[' :: host = "[::1]".toList := by
  constructor
  · intro loopback
    have folded : ('[' :: host).map Char.toLower = "[::1]".toList := by
      simpa [isLoopbackHost] using loopback
    exact eq_of_map_toLower_eq folded (by simp)
  · intro host_eq
    rw [host_eq]
    decide

theorem hostOf_cons_bracket (inner : List Char) :
    ∃ rest, hostOf ('[' :: inner) = '[' :: rest := by
  have opens : ∃ rest, (bracketed ('[' :: inner)).1 = '[' :: rest := by
    cases cut : cutFirst ']' inner with
    | none => exact ⟨inner, by simp only [bracketed, cut]⟩
    | some found =>
        exact ⟨found.1 ++ [']'], by simp only [bracketed, cut, List.cons_append]⟩
  obtain ⟨rest, address_eq⟩ := opens
  unfold hostOf
  cases cutFirst ':' (bracketed ('[' :: inner)).2 with
  | none => exact ⟨inner, rfl⟩
  | some found => exact ⟨rest ++ found.1, by rw [address_eq]; rfl⟩

/-- The check strips the brackets of a host before it compares; the host with its
brackets is this machine in one case only. -/
theorem isLoopbackHost_hostOf_iff
    {name : List Char}
    (split : hostAndPort authority = some (name, port))
    (isLocal : isLoopbackHost name = true) :
    isLoopbackHost (hostOf authority) = true ↔
      ('[' ∈ authority.head? → hostOf authority = "[::1]".toList) := by
  by_cases opens : '[' ∈ authority.head?
  · obtain ⟨inner, rfl⟩ := List.head?_eq_some_iff.mp opens
    obtain ⟨rest, host_eq⟩ := hostOf_cons_bracket inner
    rw [host_eq, isLoopbackHost_bracketed_iff]
    exact ⟨fun same _ => same, fun same => same opens⟩
  · have noBracket : ∀ inner, authority ≠ '[' :: inner := by
      rintro inner rfl
      exact opens rfl
    have host_eq : hostOf authority = name := by
      have plain : bracketed authority = ([], authority) := by
        unfold bracketed
        split
        · next inner => exact absurd rfl (noBracket inner)
        · rfl
      unfold hostAndPort at split
      unfold hostOf
      rw [plain]
      split at split
      · next inner => exact absurd rfl (noBracket inner)
      · cases cut : cutFirst ':' authority with
        | none =>
            rw [cut] at split
            exact congrArg Prod.fst (Option.some.inj split)
        | some found =>
            rw [cut] at split
            exact congrArg Prod.fst (Option.some.inj split)
    rw [host_eq]
    exact ⟨fun _ started => absurd started opens, fun _ => isLocal⟩

/-- What was accepted without TLS goes to this machine, but for a host in brackets that
is a name or an address of another form, and for what only looks like an address. -/
theorem loopback_iff
    (scheme : isHttps url = true ∨ isHttp url = true ∧ isLocalhostUrl url = true)
    (scheme_eq : parts.scheme = if isHttps url then "https" else "http")
    (host_eq : parts.host = String.ofList (hostOf (authorityOf url))) :
    (∀ connection, connectionFor parts = some connection →
        connection.tls = false → IsLoopback connection.host.toList) ↔
      (isHttps url = false → '[' ∈ (authorityOf url).head? →
        hostOf (authorityOf url) = "[::1]".toList) ∧
      (isHttps url = false → LooksLikeAddress (hostOf (authorityOf url)) →
        IsLoopbackAddress (hostOf (authorityOf url))) := by
  by_cases secure : isHttps url = true
  · have asksTls : connectionFor parts = some ⟨true, parts.host, parts.port⟩ := by
      rw [connectionFor, scheme_eq, secure]
      rfl
    simp [asksTls, secure]
  · have plain : connectionFor parts = some ⟨false, parts.host, parts.port⟩ := by
      rw [connectionFor, scheme_eq, if_neg secure]
      rfl
    have localUrl := (scheme.resolve_left secure).2
    have authority_eq : authorityOf url = authorityAfter 7 url := by
      rw [authorityOf, if_neg secure]
    unfold isLocalhostUrl at localUrl
    rw [← authority_eq] at localUrl
    cases split : hostAndPort (authorityOf url) with
    | none => simp [split] at localUrl
    | some found =>
        obtain ⟨name, port⟩ := found
        have isLocal : isLoopbackHost name = true := by
          simp only [split, Bool.and_eq_true] at localUrl
          exact localUrl.2.2
        have contacted : (∀ connection, connectionFor parts = some connection →
            connection.tls = false → IsLoopback connection.host.toList) ↔
              IsLoopback (hostOf (authorityOf url)) := by
          rw [plain, host_eq]
          simp
        rw [contacted, isLoopback_iff, isLoopbackHost_hostOf_iff split isLocal]
        simp [secure]

/-- A URL that passed the check. -/
structure CheckedEndpoint (url : String) : Prop where
  accepted : ∃ fieldName, validateHttpUrl fieldName url = .ok ()
  /-- It asks for TLS, or its host is taken for this machine. -/
  scheme : isHttps url = true ∨ isHttp url = true ∧ isLocalhostUrl url = true
  /-- If it is written plainly, only this machine is ever contacted without TLS. -/
  contacts : WrittenPlainly url → ∀ parts connection, parseUrl url = some parts →
    connectionFor parts = some connection → connection.tls = false →
      IsLoopback connection.host.toList

theorem checkedEndpoint_of_validateHttpUrl
    {fieldName : String}
    (accepted : validateHttpUrl fieldName url = .ok ())
    (nonempty : url ≠ "") :
    CheckedEndpoint url := by
  have scheme := scheme_of_validateHttpUrl accepted nonempty
  refine ⟨⟨fieldName, accepted⟩, scheme, ?_⟩
  intro plainly parts connection parsed
  obtain ⟨host, split, host_eq, scheme_eq⟩ :=
    splitHostPart_of_parseUrl (scheme.imp_right And.left) parsed
  obtain ⟨same, -⟩ :=
    (splitHostPart_agrees_iff (fun c first => mark_of_beyondAuthority first) split).mpr
      plainly.port
  rw [same] at host_eq
  exact (loopback_iff scheme scheme_eq host_eq).mpr ⟨plainly.brackets, plainly.address⟩
    connection

/-! ## The two agree -/

/-- Of the URLs that are accepted and parsed, exactly those written plainly are
contacted at the host and the port that were checked, and without TLS on this machine
only. -/
theorem parseUrl_contactsChecked_iff
    (fieldName url : String)
    (parts : UrlParts)
    (accepted : validateHttpUrl fieldName url = .ok ())
    (parsed : parseUrl url = some parts) :
    ContactsChecked url parts ↔ WrittenPlainly url := by
  have nonempty : url ≠ "" := by
    rintro rfl
    cases parsed
  have scheme := scheme_of_validateHttpUrl accepted nonempty
  obtain ⟨host, split, host_eq, scheme_eq⟩ :=
    splitHostPart_of_parseUrl (scheme.imp_right And.left) parsed
  have boundary : ∀ c ∈ (beyondAuthority url).head?, c = '?' ∨ c = '#' :=
    fun c first => mark_of_beyondAuthority first
  have target : host = hostOf (authorityOf url) ∧
        portNumber (defaultPort url) (portOf (authorityOf url)) = some parts.port ↔
      PortPlain (authorityOf url) (beyondAuthority url) :=
    splitHostPart_agrees_iff boundary split
  constructor
  · intro checked
    have same : host = hostOf (authorityOf url) :=
      String.ofList_injective (host_eq.symm.trans checked.host_eq)
    obtain ⟨brackets, address⟩ :=
      (loopback_iff scheme scheme_eq checked.host_eq).mp checked.loopback
    exact ⟨target.mp ⟨same, checked.port_eq⟩, brackets, address⟩
  · intro plainly
    obtain ⟨same, port_eq⟩ := target.mpr plainly.port
    have contacted : parts.host = String.ofList (hostOf (authorityOf url)) := by
      rw [host_eq, same]
    exact ⟨contacted, port_eq,
      (loopback_iff scheme scheme_eq contacted).mpr ⟨plainly.brackets, plainly.address⟩⟩

/-- An address in brackets with a port. -/
theorem parseUrl_contactsChecked_sample :
    ContactsChecked "http://[::1]:8080/jwks" ⟨"http", "[::1]", 8080, "/jwks"⟩ := by
  refine (parseUrl_contactsChecked_iff "jwks_uri" _ _ (by decide) (by decide)).mpr ?_
  have port_eq : portOf (authorityOf "http://[::1]:8080/jwks") = some "8080".toList := by
    decide
  refine ⟨?_, by decide, fun _ looksLike => ?_⟩
  · rw [PortPlain, port_eq]
    exact ⟨by decide, by decide⟩
  · exact absurd looksLike.noMarks.bracket (by decide)

/-- An address in brackets without a port: the last colon of the address is taken for
the port separator.  And five numbers that are taken for an address of this machine. -/
theorem parseUrl_contactsChecked_ipv6 :
    (validateHttpUrl "jwks_uri" "http://[::1]/jwks" = .ok () ∧
      parseUrl "http://[::1]/jwks" = some ⟨"http", "[:", 1, "/jwks"⟩ ∧
      ¬ ContactsChecked "http://[::1]/jwks" ⟨"http", "[:", 1, "/jwks"⟩) ∧
    validateHttpUrl "jwks_uri" "http://127.0.0.1.5/jwks" = .ok () ∧
      parseUrl "http://127.0.0.1.5/jwks" = some ⟨"http", "127.0.0.1.5", 80, "/jwks"⟩ ∧
      ¬ ContactsChecked "http://127.0.0.1.5/jwks" ⟨"http", "127.0.0.1.5", 80, "/jwks"⟩ := by
  refine ⟨⟨by decide, by decide, fun checked => ?_⟩, by decide, by decide, fun checked => ?_⟩
  · have loopback := checked.loopback ⟨false, "[:", 1⟩ (by decide) rfl
    exact absurd loopback.isLoopbackHost (by decide)
  · have loopback := checked.loopback ⟨false, "127.0.0.1.5", 80⟩ (by decide) rfl
    exact five_octets.2 ((isLoopback_iff.mp loopback).2 five_octets.1)

end Http
end QuackOauth
