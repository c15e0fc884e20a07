import QuackOauth.Http.Url
import QuackOauth.Text

/-!
# This machine

What a host has to be to name this machine, and what the classifier of hosts believes: a
host that starts with `127.` and has nothing but digits and dots need not be an address.
-/

namespace QuackOauth
namespace Http

/-! ## The name and the addresses -/

/-- Four numbers with dots between them. -/
def dottedQuad (a b c d : Nat) : List Char :=
  Nat.toDigits 10 a ++ '.' :: Nat.toDigits 10 b ++ '.' :: Nat.toDigits 10 c ++
    '.' :: Nat.toDigits 10 d

/-- An address of four octets, of which the first is 127. -/
def IsLoopbackAddress (host : List Char) : Prop :=
  ∃ b ≤ 255, ∃ c ≤ 255, ∃ d ≤ 255, host = dottedQuad 127 b c d

/-- The name and the addresses of this machine. -/
def IsLoopback (host : List Char) : Prop :=
  host.map Char.toLower = "localhost".toList ∨ host = "::1".toList ∨
    host = "[::1]".toList ∨ IsLoopbackAddress host

/-! ## What is believed -/

/-- A host that starts with `127.` and has nothing but digits and dots. -/
def LooksLikeAddress (host : List Char) : Prop :=
  ∃ rest, host = "127.".toList ++ rest ∧ ∀ c ∈ rest, c = '.' ∨ c.isDigit = true

/-- A host has none of the marks by which it is told from what surrounds it. -/
structure NoMarks (host : List Char) : Prop where
  colon : ':' ∉ host
  bracket : '[' ∉ host
  slash : '/' ∉ host

variable {host : List Char}

theorem LooksLikeAddress.dotOrDigit
    (looksLike : LooksLikeAddress host) :
    ∀ c ∈ host, c = '.' ∨ c.isDigit = true := by
  obtain ⟨rest, rfl, digits⟩ := looksLike
  intro c member
  rcases List.mem_append.mp member with first | later
  · have start : ∀ c ∈ "127.".toList, c = '.' ∨ c.isDigit = true := by simp
    exact start c first
  · exact digits c later

theorem LooksLikeAddress.noMarks
    (looksLike : LooksLikeAddress host) :
    NoMarks host := by
  have absent : ∀ mark : Char, ¬ (mark = '.' ∨ mark.isDigit = true) → mark ∉ host :=
    fun mark other member => other (looksLike.dotOrDigit mark member)
  exact ⟨absent _ (by decide), absent _ (by decide), absent _ (by decide)⟩

theorem LooksLikeAddress.ne_nil
    (looksLike : LooksLikeAddress host) :
    host ≠ [] := by
  obtain ⟨rest, rfl, -⟩ := looksLike
  simp

/-- Digits and dots are no letters. -/
theorem toNat_of_dotOrDigit
    {c : Char}
    (dotOrDigit : c = '.' ∨ c.isDigit = true) :
    c.toNat ≤ 57 := by
  rcases dotOrDigit with rfl | digit
  · decide
  · have bounds : 48 ≤ c.toNat ∧ c.toNat ≤ 57 := by
      simpa [Char.isDigit, UInt32.le_iff_toNat_le] using digit
    exact bounds.2

theorem noMarks_of_localhost
    (isName : host.map Char.toLower = "localhost".toList) :
    NoMarks host := by
  have absent : ∀ mark : Char, mark.toLower ∉ "localhost".toList → mark ∉ host :=
    fun mark other member => other (isName ▸ List.mem_map_of_mem member)
  exact ⟨absent _ (by decide), absent _ (by decide), absent _ (by decide)⟩

theorem ne_nil_of_localhost
    (isName : host.map Char.toLower = "localhost".toList) :
    host ≠ [] := by
  rintro rfl
  exact absurd isName (by decide)

/-- An address is believed. -/
theorem IsLoopbackAddress.looksLikeAddress
    (isAddress : IsLoopbackAddress host) :
    LooksLikeAddress host := by
  obtain ⟨b, -, c, -, d, -, rfl⟩ := isAddress
  have digits : ∀ n, ∀ digit ∈ Nat.toDigits 10 n, digit.isDigit = true := fun n digit =>
    Nat.isDigit_of_mem_toDigits (by decide) (by decide)
  refine ⟨Nat.toDigits 10 b ++ '.' :: Nat.toDigits 10 c ++ '.' :: Nat.toDigits 10 d, ?_, ?_⟩
  · simp [dottedQuad, Nat.toDigits, Nat.toDigitsCore, Nat.digitChar]
  · intro digit member
    simp only [List.mem_append, List.mem_cons] at member
    rcases member with (inB | dot | inC) | dot | inD
    · exact .inr (digits b digit inB)
    · exact .inl dot
    · exact .inr (digits c digit inC)
    · exact .inl dot
    · exact .inr (digits d digit inD)

/-- What the classifier takes for this machine. -/
theorem isLoopbackHost_iff :
    isLoopbackHost host = true ↔
      host.map Char.toLower = "localhost".toList ∨ host = "::1".toList ∨
        host = "[::1]".toList ∨ LooksLikeAddress host := by
  constructor
  · intro admitted
    simp only [isLoopbackHost, Bool.and_eq_true, Bool.or_eq_true, decide_eq_true_eq,
      List.all_eq_true] at admitted
    obtain ⟨-, ((isName | short) | bracketed) | ⟨starts, digits⟩⟩ := admitted
    · exact .inl isName
    · exact .inr (.inl (eq_of_map_toLower_eq short (by simp)))
    · exact .inr (.inr (.inl (eq_of_map_toLower_eq bracketed (by simp))))
    · have whole := List.prefix_iff_eq_append.mp (List.isPrefixOf_iff_prefix.mp starts)
      have looksLike : LooksLikeAddress (host.map Char.toLower) :=
        ⟨_, whole.symm, by simpa using digits⟩
      have unchanged : host = host.map Char.toLower := by
        refine eq_of_map_toLower_eq rfl fun c member => ?_
        have bounds := toNat_of_dotOrDigit (looksLike.dotOrDigit c member)
        omega
      rw [unchanged]
      exact .inr (.inr (.inr looksLike))
  · rintro (isName | rfl | rfl | looksLike)
    · have nonempty := ne_nil_of_localhost isName
      simp [isLoopbackHost, isName, nonempty]
    · decide
    · decide
    · have unchanged : host.map Char.toLower = host := by
        refine (List.map_congr_left fun c member => ?_).trans (List.map_id host)
        have bounds := toNat_of_dotOrDigit (looksLike.dotOrDigit c member)
        exact toLower_of_notUpper (by omega)
      obtain ⟨rest, rfl, digits⟩ := looksLike
      simp only [isLoopbackHost, unchanged]
      simpa [List.isPrefixOf] using digits

/-- The names and addresses of this machine are taken for it. -/
theorem IsLoopback.isLoopbackHost
    (isLoopback : IsLoopback host) :
    isLoopbackHost host = true := by
  rw [isLoopbackHost_iff]
  exact isLoopback.imp_right
    (Or.imp_right (Or.imp_right IsLoopbackAddress.looksLikeAddress))

/-- What is taken for this machine is this machine, unless it looks like an address and is
none. -/
theorem isLoopback_iff :
    IsLoopback host ↔
      isLoopbackHost host = true ∧ (LooksLikeAddress host → IsLoopbackAddress host) := by
  constructor
  · intro isLoopback
    refine ⟨isLoopback.isLoopbackHost, fun looksLike => ?_⟩
    rcases isLoopback with isName | rfl | rfl | isAddress
    · obtain ⟨rest, rfl, -⟩ := looksLike
      exact absurd isName (by simp)
    · exact absurd looksLike.noMarks.colon (by decide)
    · exact absurd looksLike.noMarks.colon (by decide)
    · exact isAddress
  · rintro ⟨believed, written⟩
    rcases isLoopbackHost_iff.mp believed with isName | short | bracketed | looksLike
    · exact .inl isName
    · exact .inr (.inl short)
    · exact .inr (.inr (.inl bracketed))
    · exact .inr (.inr (.inr (written looksLike)))

theorem count_dots (a b c d : Nat) : (dottedQuad a b c d).count '.' = 3 := by
  have noDot : ∀ n, (Nat.toDigits 10 n).count '.' = 0 := by
    intro n
    refine List.count_eq_zero.mpr fun member => ?_
    have digit := Nat.isDigit_of_mem_toDigits (by decide) (by decide) member
    exact absurd digit (by decide)
  simp [dottedQuad, noDot]

/-- Five numbers are believed to be an address. -/
theorem five_octets :
    LooksLikeAddress "127.0.0.1.5".toList ∧ ¬IsLoopbackAddress "127.0.0.1.5".toList := by
  refine ⟨⟨"0.0.1.5".toList, rfl, by simp⟩, ?_⟩
  rintro ⟨b, -, c, -, d, -, same⟩
  have dots := congrArg (List.count '.') same
  rw [count_dots] at dots
  exact absurd dots (by decide)

end Http
end QuackOauth
