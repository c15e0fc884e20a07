import QuackOauth.Lib.Delimited
import QuackOauth.Text

/-!
# Table names in queries

The operator names the policy table and the audit table.  A name is put into the text of
a query with each of its segments in quotes, by two functions that were written twice.
What the parser of the query reads there is the name and nothing else.
-/

namespace QuackOauth
namespace Sql

open Lib

def quoteByte : UInt8 := '"'.toUInt8

def dotByte : UInt8 := '.'.toUInt8

/-- The loop of both copies: a segment is flushed at each dot and at the end. -/
def flushSegments
    (flush : List UInt8 → List UInt8 → Bool → List UInt8) :
    List UInt8 → List UInt8 → List UInt8 → List UInt8
  | [], out, segment => flush out segment false
  | c :: rest, out, segment =>
      if c = dotByte then flushSegments flush rest (flush out segment true) []
      else flushSegments flush rest out (segment ++ [c])

end Sql

/-! ## The name of the policy table -/

namespace Policy

open Sql

/-- The segment is quoted aside, and then added to the text. -/
def flushSegment (out segment : List UInt8) (more : Bool) : List UInt8 :=
  let quoted := segment.foldl
    (fun quoted c =>
      if c = quoteByte then quoted ++ [quoteByte, quoteByte] else quoted ++ [c])
    [quoteByte]
  let quoted := quoted ++ [quoteByte]
  let out := out ++ quoted
  if more then out ++ [dotByte] else out

def quoteQualifiedIdentifier (qualified : List UInt8) : List UInt8 :=
  flushSegments flushSegment qualified [] []

/-- What stands before the name of the table in the query for a policy. -/
def selectColumns (objectPattern columnPattern : Bool) : List UInt8 :=
  bytesOf "SELECT priority, subject, any_scope, actions, allow" ++
    (if objectPattern then bytesOf ", object_pattern" else []) ++
    (if columnPattern then bytesOf ", column_pattern" else []) ++
    bytesOf " FROM "

def orderByPriority : List UInt8 :=
  bytesOf " ORDER BY priority"

/-- The query for the rows of the policy table. -/
def selectText
    (objectPattern columnPattern : Bool)
    (qualifiedTable : List UInt8) : List UInt8 :=
  selectColumns objectPattern columnPattern ++ quoteQualifiedIdentifier qualifiedTable ++
    orderByPriority

end Policy

/-! ## The name of the audit table -/

namespace Audit

open Sql

/-- The segment is added to the text byte by byte, a quote behind another one. -/
def flushSegment (out segment : List UInt8) (more : Bool) : List UInt8 :=
  let out := out ++ [quoteByte]
  let out := segment.foldl
    (fun out c =>
      let out := if c = quoteByte then out ++ [quoteByte] else out
      out ++ [c])
    out
  let out := out ++ [quoteByte]
  if more then out ++ [dotByte] else out

def quoteQualifiedIdentifier (qualified : List UInt8) : List UInt8 :=
  flushSegments flushSegment qualified [] []

def insertInto : List UInt8 :=
  bytesOf "INSERT INTO "

/-- The columns and the values of a row. -/
def insertColumns : List UInt8 :=
  bytesOf (" (timestamp_unix_s, event_type, subject, issuer, kid, token_hash, " ++
    "action, reason) VALUES (?, ?, ?, ?, ?, ?, ?, ?)")

/-- The statement for a row of the audit table. -/
def insertText (table : List UInt8) : List UInt8 :=
  insertInto ++ quoteQualifiedIdentifier table ++ insertColumns

end Audit

/-! ## What is read there -/

namespace Sql

open Lib

variable {flush : List UInt8 → List UInt8 → Bool → List UInt8}
  {qualified out segment rest : List UInt8} {more : Bool}

/-- The segments of a name. -/
def segments (qualified : List UInt8) : List (List UInt8) :=
  qualified.splitOn dotByte

/-- Quoted identifiers with dots between them, and the rest of the text. -/
def readIdentifiers (text : List UInt8) : Option (List (List UInt8) × List UInt8) :=
  Delimited.readQualified quoteByte dotByte text

/-- A flush adds the segment in quotes, and a dot if there is more. -/
def FlushesQuoted (flush : List UInt8 → List UInt8 → Bool → List UInt8) : Prop :=
  ∀ out segment more, flush out segment more =
    out ++ Delimited.delimit quoteByte segment ++ if more then [dotByte] else []

theorem segments_ne_nil : segments qualified ≠ [] :=
  List.splitOn_ne_nil _ _

/-- What the loop has left to do is to quote the segments, the first of which has begun. -/
theorem flushSegments_eq
    (flushes : FlushesQuoted flush)
    (within : dotByte ∉ segment) :
    flushSegments flush rest out segment =
      out ++ Delimited.qualify quoteByte dotByte (segments (segment ++ rest)) := by
  induction rest generalizing out segment with
  | nil =>
      rw [flushSegments, flushes, List.append_nil, segments,
        List.splitOn_eq_singleton within, Delimited.qualify_singleton]
      simp
  | cons c rest inductionHypothesis =>
      rw [flushSegments]
      by_cases dot : c = dotByte
      · have split : segments (segment ++ c :: rest) = segment :: segments rest := by
          rw [dot]
          exact List.splitOn_append_cons_self_of_not_mem within rest
        rw [if_pos dot, inductionHypothesis List.not_mem_nil, flushes, split,
          Delimited.qualify_cons segment segments_ne_nil]
        simp
      · have longer : dotByte ∉ segment ++ [c] := by
          simpa using ⟨within, Ne.symm dot⟩
        rw [if_neg dot, inductionHypothesis longer, List.append_assoc,
          List.singleton_append]

/-- Any such loop puts a name into quotes. -/
theorem flushSegments_nil
    (flushes : FlushesQuoted flush)
    (qualified : List UInt8) :
    flushSegments flush qualified [] [] =
      Delimited.qualify quoteByte dotByte (segments qualified) :=
  flushSegments_eq flushes List.not_mem_nil

theorem flushesQuoted_policy : FlushesQuoted Policy.flushSegment := by
  intro out segment more
  have letters :
      (fun (quoted : List UInt8) c =>
          if c = quoteByte then quoted ++ [quoteByte, quoteByte] else quoted ++ [c]) =
        fun quoted c => quoted ++ Delimited.doubled quoteByte c := by
    funext quoted c
    unfold Delimited.doubled
    split <;> rfl
  unfold Policy.flushSegment
  rw [letters, List.foldl_append_eq_append]
  cases more with
  | false => simp [Delimited.delimit, List.flatMap]
  | true => simp [Delimited.delimit, List.flatMap]

theorem flushesQuoted_audit : FlushesQuoted Audit.flushSegment := by
  intro out segment more
  have letters :
      (fun (out : List UInt8) c =>
          (if c = quoteByte then out ++ [quoteByte] else out) ++ [c]) =
        fun out c => out ++ Delimited.doubled quoteByte c := by
    funext out c
    unfold Delimited.doubled
    split
    · next isQuote => simp [isQuote]
    · rfl
  unfold Audit.flushSegment
  dsimp only
  rw [letters, List.foldl_append_eq_append]
  cases more with
  | false => simp [Delimited.delimit, List.flatMap]
  | true => simp [Delimited.delimit, List.flatMap]

/-- The policy table's name is put into quotes segment by segment. -/
theorem policy_quoteQualifiedIdentifier_eq (qualified : List UInt8) :
    Policy.quoteQualifiedIdentifier qualified =
      Delimited.qualify quoteByte dotByte (segments qualified) :=
  flushSegments_nil flushesQuoted_policy qualified

/-- The audit table's name is put into quotes segment by segment. -/
theorem audit_quoteQualifiedIdentifier_eq (qualified : List UInt8) :
    Audit.quoteQualifiedIdentifier qualified =
      Delimited.qualify quoteByte dotByte (segments qualified) :=
  flushSegments_nil flushesQuoted_audit qualified

/-- Of a quoted name, nothing but its segments is read, and the text goes on behind it. -/
theorem readIdentifiers_qualify_append
    (leaves : Delimited.Leaves quoteByte dotByte rest) :
    readIdentifiers (Delimited.qualify quoteByte dotByte (segments qualified) ++ rest) =
      some (segments qualified, rest) :=
  Delimited.readQualified_qualify_append (by decide) segments_ne_nil leaves

/-- Both copies write the same text, and of all of it the segments of the name are read
back. -/
theorem readIdentifiers_quoteQualifiedIdentifier (qualified : List UInt8) :
    readIdentifiers (Policy.quoteQualifiedIdentifier qualified) =
        some (qualified.splitOn '.'.toUInt8, []) ∧
      Audit.quoteQualifiedIdentifier qualified =
        Policy.quoteQualifiedIdentifier qualified := by
  rw [policy_quoteQualifiedIdentifier_eq, audit_quoteQualifiedIdentifier_eq]
  exact ⟨Delimited.readQualified_qualify (by decide) segments_ne_nil, rfl⟩

example : Policy.quoteQualifiedIdentifier (bytesOf "main.a\"b") =
    bytesOf "\"main\".\"a\"\"b\"" := by decide

/-! ## In the queries -/

/-- The query for a policy reads the named table, in the order of the priorities. -/
theorem readIdentifiers_selectText
    (objectPattern columnPattern : Bool)
    (qualifiedTable : List UInt8) :
    readIdentifiers
        ((Policy.selectText objectPattern columnPattern qualifiedTable).drop
          (Policy.selectColumns objectPattern columnPattern).length) =
      some (segments qualifiedTable, Policy.orderByPriority) := by
  rw [Policy.selectText, List.append_assoc, List.drop_left,
    policy_quoteQualifiedIdentifier_eq]
  exact readIdentifiers_qualify_append (by decide)

/-- The statement for an audit event writes to the named table, in the columns given. -/
theorem readIdentifiers_insertText (table : List UInt8) :
    readIdentifiers ((Audit.insertText table).drop Audit.insertInto.length) =
      some (segments table, Audit.insertColumns) := by
  rw [Audit.insertText, List.append_assoc, List.drop_left,
    audit_quoteQualifiedIdentifier_eq]
  exact readIdentifiers_qualify_append (by decide)

end Sql
end QuackOauth
