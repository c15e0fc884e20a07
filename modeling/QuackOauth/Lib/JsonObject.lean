import QuackOauth.Lib.Code
import QuackOauth.Lib.Hex

/-!
# JSON objects of strings

The text of a JSON object whose members are strings, read byte by byte.  Bytes beyond
ASCII stand for themselves, and escapes of characters beyond ASCII are not read.
-/

namespace Lib
namespace JsonObject

/-- White space between tokens. -/
def isSpace (c : UInt8) : Bool :=
  c = ' '.toUInt8 || c = '\t'.toUInt8 || c = '\n'.toUInt8 || c = '\r'.toUInt8

def skipSpace (input : List UInt8) : List UInt8 :=
  input.dropWhile isSpace

/-- The byte of an escape sequence, behind its backslash. -/
def unescape : List UInt8 → Option (UInt8 × List UInt8)
  | [] => none
  | kind :: rest =>
      if kind = '"'.toUInt8 ∨ kind = '\\'.toUInt8 ∨ kind = '/'.toUInt8 then some (kind, rest)
      else if kind = 'b'.toUInt8 then some (8, rest)
      else if kind = 'f'.toUInt8 then some (12, rest)
      else if kind = 'n'.toUInt8 then some (10, rest)
      else if kind = 'r'.toUInt8 then some (13, rest)
      else if kind = 't'.toUInt8 then some (9, rest)
      else if kind = 'u'.toUInt8 then
        match rest with
        | h₁ :: h₂ :: h₃ :: h₄ :: rest =>
            match Hex.byteOf h₁ h₂, Hex.byteOf h₃ h₄ with
            | some high, some low =>
                if high = 0 ∧ low.toNat < 128 then some (low, rest) else none
            | _, _ => none
        | _ => none
      else none

/-- The first byte of a string; none at its closing quote or at a control character. -/
def readByte : List UInt8 → Option (UInt8 × List UInt8)
  | [] => none
  | c :: rest =>
      if c = '"'.toUInt8 ∨ c.toNat < 32 then none
      else if c = '\\'.toUInt8 then unescape rest
      else some (c, rest)

/-- A byte written by its number. -/
theorem readByte_escape
    {h₁ h₂ h₃ h₄ c : UInt8}
    (high : Hex.byteOf h₁ h₂ = some 0)
    (low : Hex.byteOf h₃ h₄ = some c)
    (ascii : c.toNat < 128)
    (rest : List UInt8) :
    readByte ('\\'.toUInt8 :: 'u'.toUInt8 :: h₁ :: h₂ :: h₃ :: h₄ :: rest) =
      some (c, rest) := by
  have escaped : unescape ('u'.toUInt8 :: h₁ :: h₂ :: h₃ :: h₄ :: rest) = some (c, rest) := by
    rw [unescape, if_neg (by decide), if_neg (by decide), if_neg (by decide),
      if_neg (by decide), if_neg (by decide), if_neg (by decide), if_pos rfl]
    simp only [high, low]
    exact if_pos ⟨trivial, ascii⟩
  rw [readByte, if_neg (by decide), if_pos rfl, escaped]

/-- A token of one byte. -/
def expect (token : UInt8) (input : List UInt8) : Option (List UInt8) :=
  match skipSpace input with
  | [] => none
  | c :: rest => if c = token then some rest else none

/-- A string with its quotes. -/
def readString (input : List UInt8) : Option (List UInt8 × List UInt8) :=
  match expect '"'.toUInt8 input with
  | none => none
  | some inside =>
      match Code.readText readByte inside with
      | (_, []) => none
      | (text, c :: rest) => if c = '"'.toUInt8 then some (text, rest) else none

/-- A member: a name, a colon and a string. -/
def readMember (input : List UInt8) : Option ((List UInt8 × List UInt8) × List UInt8) :=
  (readString input).bind fun name =>
    (expect ':'.toUInt8 name.2).bind fun behindColon =>
      (readString behindColon).map fun value => ((name.1, value.1), value.2)

/-- The members up to the closing brace; at most so many are read. -/
def readMembers : Nat → List UInt8 → Option (List (List UInt8 × List UInt8) × List UInt8)
  | 0, _ => none
  | members + 1, input =>
      match readMember input with
      | none => none
      | some (member, rest) =>
          match expect '\x7d'.toUInt8 rest with
          | some rest => some ([member], rest)
          | none =>
              match expect ','.toUInt8 rest with
              | none => none
              | some rest => (readMembers members rest).map fun (later, rest) =>
                  (member :: later, rest)

/-- The members of an object, if a text is one. -/
def readObject (input : List UInt8) : Option (List (List UInt8 × List UInt8)) :=
  match expect '\x7b'.toUInt8 input with
  | none => none
  | some inside =>
      let members :=
        match expect '\x7d'.toUInt8 inside with
        | some rest => some ([], rest)
        | none => readMembers inside.length inside
      match members with
      | none => none
      | some (members, rest) => if skipSpace rest = [] then some members else none

variable {word : UInt8 → List UInt8}

/-- A string with its quotes, written byte by byte. -/
def quoted (word : UInt8 → List UInt8) (text : List UInt8) : List UInt8 :=
  '"'.toUInt8 :: (text.flatMap word ++ ['"'.toUInt8])

theorem quoted_append (text rest : List UInt8) :
    quoted word text ++ rest =
      '"'.toUInt8 :: (text.flatMap word ++ '"'.toUInt8 :: rest) := by
  rw [quoted, List.cons_append, List.append_assoc, List.singleton_append]

/-- A string written byte by byte is read back. -/
theorem readString_quoted_append
    (isCode : Code.IsCode word readByte)
    (text rest : List UInt8) :
    readString (quoted word text ++ rest) = some (text, rest) := by
  have opened : expect '"'.toUInt8
      ('"'.toUInt8 :: (text.flatMap word ++ '"'.toUInt8 :: rest)) =
        some (text.flatMap word ++ '"'.toUInt8 :: rest) := rfl
  have whole : Code.readText readByte (text.flatMap word ++ '"'.toUInt8 :: rest) =
      (text, '"'.toUInt8 :: rest) :=
    isCode.readText_append text rfl
  rw [quoted_append]
  unfold readString
  rw [opened]
  dsimp only
  rw [whole]
  exact if_pos rfl

/-- A member written byte by byte is read back. -/
theorem readMember_quoted_append
    (isCode : Code.IsCode word readByte)
    (name value rest : List UInt8) :
    readMember (quoted word name ++ ':'.toUInt8 :: (quoted word value ++ rest)) =
      some ((name, value), rest) := by
  have colon : expect ':'.toUInt8 (':'.toUInt8 :: (quoted word value ++ rest)) =
      some (quoted word value ++ rest) := rfl
  unfold readMember
  rw [readString_quoted_append isCode, Option.bind_some, colon, Option.bind_some,
    readString_quoted_append isCode, Option.map_some]

/-- An object of one member. -/
def singleton (name value : List UInt8) : List UInt8 :=
  '\x7b'.toUInt8 :: '"'.toUInt8 :: (name ++ '"'.toUInt8 :: ':'.toUInt8 :: '"'.toUInt8 ::
    (value ++ ['"'.toUInt8, '\x7d'.toUInt8]))

theorem singleton_flatMap (name value : List UInt8) :
    singleton (name.flatMap word) (value.flatMap word) =
      '\x7b'.toUInt8 :: (quoted word name ++ ':'.toUInt8 ::
        (quoted word value ++ ['\x7d'.toUInt8])) := by
  rw [quoted_append, quoted_append]
  rfl

/-- An object of one member is read back. -/
theorem readObject_singleton
    (isCode : Code.IsCode word readByte)
    (name value : List UInt8) :
    readObject (singleton (name.flatMap word) (value.flatMap word)) =
      some [(name, value)] := by
  have opened : expect '\x7b'.toUInt8 (singleton (name.flatMap word) (value.flatMap word)) =
      some (quoted word name ++ ':'.toUInt8 ::
        (quoted word value ++ ['\x7d'.toUInt8])) := by
    rw [singleton_flatMap]
    rfl
  have notClosed : expect '\x7d'.toUInt8 (quoted word name ++ ':'.toUInt8 ::
      (quoted word value ++ ['\x7d'.toUInt8])) = none := rfl
  have closed : expect '\x7d'.toUInt8 ['\x7d'.toUInt8] = some [] := rfl
  have memberRead := readMember_quoted_append isCode name value ['\x7d'.toUInt8]
  unfold readObject
  rw [opened]
  dsimp only
  rw [notClosed]
  dsimp only
  rw [quoted, List.cons_append, List.length_cons, readMembers, ← List.cons_append, ← quoted,
    memberRead]
  dsimp only
  rw [closed]
  rfl

end JsonObject
end Lib
