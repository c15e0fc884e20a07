import Mathlib.Data.List.TakeWhile

/-!
# JSON values and their lenient accessors

JSON as the parser hands it over, and the accessors that read a field of an object
and tolerate the encodings identity providers differ in.
-/

namespace QuackOauth

/-- A JSON value.  A floating-point number appears as the 64-bit integer the code
converts it to, the only thing it reads of one. -/
inductive Json
  | null
  | bool (value : Bool)
  | int (value : Int)
  | double (truncated : Int)
  | string (value : String)
  | array (values : List Json)
  | object (fields : List (String × Json))

namespace Json

/-- The value of a field. -/
def find (fields : List (String × Json)) (key : String) : Option Json :=
  (fields.find? fun field => field.1 = key).map Prod.snd

/-- A field that is a string. -/
def asString (fields : List (String × Json)) (key : String) : Option String :=
  match find fields key with
  | some (.string value) => some value
  | _ => none

/-- A field that is a string, or the empty string. -/
def getStringOrEmpty (fields : List (String × Json)) (key : String) : String :=
  (asString fields key).getD ""

/-- The strings of an array, others skipped. -/
def strings (values : List Json) : List String :=
  values.filterMap fun
    | .string value => some value
    | _ => none

/-- White space as `isspace` sees it. -/
def isSpace (c : Char) : Bool :=
  c = ' ' || (9 ≤ c.toNat && c.toNat ≤ 13)

/-- The number spelt by the leading decimal digits; none without a digit. -/
def leadingDigits (chars : List Char) : Option Nat :=
  match chars.takeWhile Char.isDigit with
  | [] => none
  | digits => some (digits.foldl
      (fun number digit => 10 * number + (digit.toNat - '0'.toNat)) 0)

/-- The `stoll` of the standard library: white space, a sign, digits, anything;
none where it throws, that is without a digit or out of range. -/
def stoll (text : String) : Option Int :=
  let inRange (value : Int) : Option Int :=
    if -9223372036854775808 ≤ value ∧ value ≤ 9223372036854775807 then some value
    else none
  match text.toList.dropWhile isSpace with
  | '-' :: rest => (leadingDigits rest).bind fun number => inRange (-number)
  | '+' :: rest => (leadingDigits rest).bind fun number => inRange number
  | rest => (leadingDigits rest).bind fun number => inRange number

/-- A numeric field given as a number or as a string; zero otherwise. -/
def asIntFlexible (fields : List (String × Json)) (key : String) : Int :=
  match find fields key with
  | some (.int value) => value
  | some (.double truncated) => truncated
  | some (.string text) => if text = "" then 0 else (stoll text).getD 0
  | _ => 0

/-- A boolean field given as a boolean or as a string; false otherwise. -/
def asBoolFlexible (fields : List (String × Json)) (key : String) : Bool :=
  match find fields key with
  | some (.bool value) => value
  | some (.string text) => text = "true" || text = "True" || text = "TRUE"
  | _ => false

example : stoll " -42abc" = some (-42) := by decide

/-- Behind a digit there is neither a blank nor a sign to skip. -/
theorem stoll_ofList_cons
    {first : Char}
    (digit : first.isDigit = true)
    (rest : List Char) :
    stoll (String.ofList (first :: rest)) =
      (leadingDigits (first :: rest)).bind fun number =>
        if -9223372036854775808 ≤ (number : Int) ∧ (number : Int) ≤ 9223372036854775807
          then some (number : Int) else none := by
  have code := Char.isDigit_iff_toNat.mp digit
  have noSpace : isSpace first = false := by
    have blank : first ≠ ' ' := by
      rintro rfl
      exact absurd digit (by decide)
    have bound : 48 ≤ first.toNat := code.1
    simp only [isSpace, blank, decide_false, Bool.false_or, Bool.and_eq_false_iff,
      decide_eq_false_iff_not]
    omega
  unfold stoll
  rw [String.toList_ofList, List.dropWhile_cons_of_neg (by simp [noSpace])]
  split
  · next minus =>
      rw [List.cons.injEq] at minus
      exact absurd (minus.1 ▸ digit) (by decide)
  · next plus =>
      rw [List.cons.injEq] at plus
      exact absurd (plus.1 ▸ digit) (by decide)
  · rfl

/-- The leading digits of digits are all of them. -/
theorem leadingDigits_of_digits
    {first : Char}
    {rest : List Char}
    (digits : ∀ c ∈ first :: rest, c.isDigit = true) :
    leadingDigits (first :: rest) = some ((first :: rest).foldl
      (fun number digit => 10 * number + (digit.toNat - '0'.toNat)) 0) := by
  have all : (first :: rest).takeWhile Char.isDigit = first :: rest := by
    rw [List.takeWhile_eq_self_iff]
    exact digits
  unfold leadingDigits
  rw [all]

end Json
end QuackOauth
