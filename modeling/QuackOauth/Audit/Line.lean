import Mathlib.Data.List.TakeDrop
import QuackOauth.Lib.Code
import QuackOauth.Lib.Decimal
import QuackOauth.Lib.Hex
import QuackOauth.Lib.Separator
import QuackOauth.Text

/-!
# Audit lines

An audit event is written as one line of `key=value` pairs, in which a value that could be
mistaken for something else is quoted and escaped.  A reader that knows of quotes and
escapes gets the event back, whatever bytes its fields have.
-/

namespace QuackOauth
namespace Audit

open Lib Separator

/-! ## The writer -/

/-- What happened. -/
inductive AuditEventType
  | tokenAccepted
  | tokenRejected
  | authzAllow
  | authzDeny
  | jwksRefresh
  deriving DecidableEq, Repr

def auditEventTypeName : AuditEventType → List UInt8
  | .tokenAccepted => bytesOf "token_accepted"
  | .tokenRejected => bytesOf "token_rejected"
  | .authzAllow => bytesOf "authz_allow"
  | .authzDeny => bytesOf "authz_deny"
  | .jwksRefresh => bytesOf "jwks_refresh"

/-- The outcome of a step of authentication.  An empty field is one that is not known. -/
structure AuditEvent where
  timestampUnixS : Int := 0
  eventType : AuditEventType := .tokenRejected
  subject : List UInt8 := []
  issuer : List UInt8 := []
  kid : List UInt8 := []
  tokenHash : List UInt8 := []
  action : List UInt8 := []
  reason : List UInt8 := []
  deriving DecidableEq, Repr

/-- A control character. -/
def isControl (c : UInt8) : Bool :=
  decide (c.toNat < 32 ∨ c.toNat = 127)

/-- A byte on account of which a value is quoted. -/
def needsQuoting (c : UInt8) : Bool :=
  c = ' '.toUInt8 || c = '='.toUInt8 || c = '"'.toUInt8 || c = '\\'.toUInt8 || isControl c

def hexTable : List UInt8 :=
  bytesOf "0123456789abcdef"

/-- A byte inside quotes. -/
def escapeByte (c : UInt8) : List UInt8 :=
  if c = '"'.toUInt8 ∨ c = '\\'.toUInt8 then ['\\'.toUInt8, c]
  else if c = '\r'.toUInt8 then ['\\'.toUInt8, 'r'.toUInt8]
  else if c = '\n'.toUInt8 then ['\\'.toUInt8, 'n'.toUInt8]
  else if c = '\t'.toUInt8 then ['\\'.toUInt8, 't'.toUInt8]
  else if isControl c then
    ['\\'.toUInt8, 'x'.toUInt8, hexTable.getD (c.toNat / 16) 0, hexTable.getD (c.toNat % 16) 0]
  else [c]

/-- Quote a value that is empty or has a byte that asks for it. -/
def maybeQuote (v : List UInt8) : List UInt8 :=
  if v = [] ∨ v.any needsQuoting = true then
    '"'.toUInt8 :: v.flatMap escapeByte ++ ['"'.toUInt8]
  else v

/-- A field of the line, if it is not empty. -/
def field (key : String) (value : List UInt8) : List UInt8 :=
  if value = [] then [] else ' '.toUInt8 :: bytesOf key ++ '='.toUInt8 :: maybeQuote value

/-- The line of an event. -/
def formatAuditLine (e : AuditEvent) : List UInt8 :=
  bytesOf "ts=" ++ Decimal.writeInt e.timestampUnixS ++ bytesOf " event=" ++
    auditEventTypeName e.eventType ++ field "sub" e.subject ++ field "iss" e.issuer ++
    field "kid" e.kid ++ field "action" e.action ++ field "reason" e.reason ++
    field "token" e.tokenHash

/-! ## The reader -/

/-- The byte that an escape sequence stands for, behind its backslash. -/
def unescape : List UInt8 → Option (UInt8 × List UInt8)
  | [] => none
  | kind :: rest =>
      if kind = '"'.toUInt8 ∨ kind = '\\'.toUInt8 then some (kind, rest)
      else if kind = 'r'.toUInt8 then some ('\r'.toUInt8, rest)
      else if kind = 'n'.toUInt8 then some ('\n'.toUInt8, rest)
      else if kind = 't'.toUInt8 then some ('\t'.toUInt8, rest)
      else if kind = 'x'.toUInt8 then
        match rest with
        | high :: low :: rest => (Hex.byteOf high low).map fun c => (c, rest)
        | _ => none
      else none

/-- The first byte inside quotes; none at the closing quote. -/
def readEscaped : List UInt8 → Option (UInt8 × List UInt8)
  | [] => none
  | c :: rest =>
      if c = '"'.toUInt8 then none
      else if c = '\\'.toUInt8 then unescape rest
      else some (c, rest)

theorem isTable_hexTable : Hex.IsTable hexTable := by decide

theorem readEscaped_escapeByte
    (c : UInt8)
    (rest : List UInt8) :
    readEscaped (escapeByte c ++ rest) = some (c, rest) := by
  unfold escapeByte
  split_ifs with special isReturn isNewline isTab control
  · rcases special with rfl | rfl <;> rfl
  · subst isReturn
    rfl
  · subst isNewline
    rfl
  · subst isTab
    rfl
  · change (Hex.byteOf _ _).map (fun byte => (byte, rest)) = _
    rw [Hex.byteOf_getD isTable_hexTable, Option.map_some]
  · rw [not_or] at special
    rw [List.singleton_append, readEscaped, if_neg special.1, if_neg special.2]

theorem escapeByte_ne_nil (c : UInt8) : escapeByte c ≠ [] := by
  unfold escapeByte
  split_ifs <;> exact List.cons_ne_nil _ _

/-- What is escaped inside quotes can be read back. -/
theorem isCode_escapeByte : Code.IsCode escapeByte readEscaped where
  word_ne_nil := escapeByte_ne_nil
  readWord_append := readEscaped_escapeByte

/-- The value at the start of a text, quoted or up to the next blank. -/
def readValue : List UInt8 → Option (List UInt8 × List UInt8)
  | [] => some ([], [])
  | c :: rest =>
      if c = '"'.toUInt8 then
        match Code.readText readEscaped rest with
        | (value, close :: rest) => if close = '"'.toUInt8 then some (value, rest) else none
        | (_, []) => none
      else some ((c :: rest).span fun c => c ≠ ' '.toUInt8)

/-- The pairs of a line, separated by single blanks; at most so many are read. -/
def readPairs : Nat → List UInt8 → Option (List (List UInt8 × List UInt8))
  | 0, _ => none
  | pairs + 1, line =>
      match cutFirst '='.toUInt8 line with
      | none => none
      | some (key, text) =>
          match readValue text with
          | none => none
          | some (value, []) => some [(key, value)]
          | some (value, c :: rest) =>
              if c = ' '.toUInt8 then
                (readPairs pairs rest).map fun later => (key, value) :: later
              else none

/-- The pairs of a whole line. -/
def splitAuditLine (line : List UInt8) : Option (List (List UInt8 × List UInt8)) :=
  readPairs line.length line

def allEventTypes : List AuditEventType :=
  [.tokenAccepted, .tokenRejected, .authzAllow, .authzDeny, .jwksRefresh]

/-- The event that the pairs of a line tell of. -/
def eventOfPairs (pairs : List (List UInt8 × List UInt8)) : Option AuditEvent :=
  let valueOf := fun key => (pairs.lookup (bytesOf key)).getD []
  match Decimal.readInt (valueOf "ts"),
      allEventTypes.find? fun eventType => auditEventTypeName eventType = valueOf "event" with
  | some timestampUnixS, some eventType => some {
      timestampUnixS
      eventType
      subject := valueOf "sub"
      issuer := valueOf "iss"
      kid := valueOf "kid"
      tokenHash := valueOf "token"
      action := valueOf "action"
      reason := valueOf "reason" }
  | _, _ => none

/-- The fields of an event that are not empty, by key. -/
def presentFields (e : AuditEvent) : List (List UInt8 × List UInt8) :=
  [(bytesOf "sub", e.subject), (bytesOf "iss", e.issuer), (bytesOf "kid", e.kid),
    (bytesOf "action", e.action), (bytesOf "reason", e.reason),
    (bytesOf "token", e.tokenHash)].filter fun pair => pair.2 ≠ []

/-- What a line says: the time, the type and the fields that are not empty. -/
def pairsOf (e : AuditEvent) : List (List UInt8 × List UInt8) :=
  (bytesOf "ts", Decimal.writeInt e.timestampUnixS) ::
    (bytesOf "event", auditEventTypeName e.eventType) :: presentFields e

/-! ## Values -/

variable {c : UInt8} {rest v key : List UInt8} {e : AuditEvent}

/-- What may follow a value: nothing, or a blank. -/
def EndsValue (rest : List UInt8) : Prop :=
  ∀ c, rest.head? = some c → c = ' '.toUInt8

theorem takeWhile_eq_nil_of_endsValue
    (ends : EndsValue rest) :
    rest.takeWhile (fun c => c ≠ ' '.toUInt8) = [] := by
  cases rest with
  | nil => rfl
  | cons c rest =>
      have isBlank := ends c rfl
      rw [isBlank]
      rfl

/-- A value is read back, whatever bytes it has. -/
theorem readValue_maybeQuote
    (v : List UInt8)
    (ends : EndsValue rest) :
    readValue (maybeQuote v ++ rest) = some (v, rest) := by
  unfold maybeQuote
  by_cases special : v = [] ∨ v.any needsQuoting = true
  · have whole : Code.readText readEscaped (v.flatMap escapeByte ++ '"'.toUInt8 :: rest) =
        (v, '"'.toUInt8 :: rest) :=
      isCode_escapeByte.readText_append v rfl
    rw [if_pos special, List.cons_append, List.cons_append, List.append_assoc,
      List.singleton_append, readValue, if_pos rfl, whole]
    exact if_pos rfl
  · rw [not_or] at special
    obtain ⟨nonempty, plain⟩ := special
    have notSpecial : ∀ c ∈ v, needsQuoting c = false := by simpa using plain
    have taken : ∀ c ∈ v, decide (c ≠ ' '.toUInt8) = true := by
      intro c member
      apply decide_eq_true
      rintro rfl
      cases notSpecial _ member
    rw [if_neg (by simp [nonempty, plain])]
    cases v with
    | nil => exact absurd rfl nonempty
    | cons c v =>
        have unquoted : c ≠ '"'.toUInt8 := by
          rintro rfl
          cases notSpecial _ List.mem_cons_self
        rw [List.cons_append, readValue, if_neg unquoted, ← List.cons_append,
          List.span_eq_takeWhile_dropWhile, List.takeWhile_append_of_pos taken,
          List.dropWhile_append_of_pos taken, takeWhile_eq_nil_of_endsValue ends,
          List.append_nil]
        have kept := List.takeWhile_append_dropWhile (p := fun c => decide (c ≠ ' '.toUInt8))
          (l := rest)
        rw [takeWhile_eq_nil_of_endsValue ends, List.nil_append] at kept
        rw [kept]

/-! ## Lines -/

/-- A pair as it is written. -/
def pairText (pair : List UInt8 × List UInt8) : List UInt8 :=
  pair.1 ++ '='.toUInt8 :: maybeQuote pair.2

/-- A pair behind another one. -/
def laterText (pair : List UInt8 × List UInt8) : List UInt8 :=
  ' '.toUInt8 :: pairText pair

theorem endsValue_flatMap_laterText (later : List (List UInt8 × List UInt8)) :
    EndsValue (later.flatMap laterText) := by
  intro c isHead
  cases later with
  | nil => cases isHead
  | cons pair later => exact (Option.some.inj isHead).symm

/-- A line is split into its pairs. -/
theorem readPairs_line
    {pairs : Nat}
    {pair : List UInt8 × List UInt8}
    {later : List (List UInt8 × List UInt8)}
    (keys : ∀ other ∈ pair :: later, '='.toUInt8 ∉ other.1)
    (enough : later.length < pairs) :
    readPairs pairs (pairText pair ++ later.flatMap laterText) = some (pair :: later) := by
  induction later generalizing pairs pair with
  | nil =>
      cases pairs with
      | zero => cases enough
      | succ pairs =>
          have cut : cutFirst '='.toUInt8 (pair.1 ++ '='.toUInt8 :: maybeQuote pair.2) =
              some (pair.1, maybeQuote pair.2) :=
            cutFirst_eq_some_iff.mpr ⟨rfl, keys pair List.mem_cons_self⟩
          have value : readValue (maybeQuote pair.2 ++ []) = some (pair.2, []) :=
            readValue_maybeQuote pair.2 (by simp [EndsValue])
          rw [List.append_nil] at value
          rw [List.flatMap_nil, List.append_nil, readPairs, pairText, cut]
          dsimp only
          rw [value]
  | cons next later inductionHypothesis =>
      cases pairs with
      | zero => cases enough
      | succ pairs =>
          have cut : cutFirst '='.toUInt8 (pair.1 ++ '='.toUInt8 ::
                (maybeQuote pair.2 ++ (next :: later).flatMap laterText)) =
              some (pair.1, maybeQuote pair.2 ++ (next :: later).flatMap laterText) :=
            cutFirst_eq_some_iff.mpr ⟨rfl, keys pair List.mem_cons_self⟩
          have value := readValue_maybeQuote pair.2
            (endsValue_flatMap_laterText (next :: later))
          have rest : readPairs pairs (pairText next ++ later.flatMap laterText) =
              some (next :: later) :=
            inductionHypothesis (fun other member => keys other (List.mem_cons_of_mem _ member))
              (by simpa using enough)
          rw [readPairs, pairText, List.append_assoc, List.cons_append, cut]
          dsimp only
          rw [value, List.flatMap_cons, laterText, List.cons_append]
          dsimp only
          rw [if_pos rfl, rest, Option.map_some]

/-! ## Events -/

theorem flatMap_filter_eq
    {α β : Type}
    (keep : α → Bool)
    (text : α → List β)
    (list : List α) :
    (list.filter keep).flatMap text = list.flatMap fun a => if keep a then text a else [] := by
  induction list with
  | nil => rfl
  | cons a list inductionHypothesis =>
      rw [List.filter_cons, List.flatMap_cons, ← inductionHypothesis]
      cases keep a with
      | false => rfl
      | true => rfl

theorem field_eq (key : String) (value : List UInt8) :
    field key value = if decide (value ≠ []) then laterText (bytesOf key, value) else [] := by
  unfold field
  by_cases empty : value = []
  · simp [empty]
  · simp [empty, laterText, pairText]

/-- A value that is not empty and has nothing special is written as it is. -/
theorem maybeQuote_eq_self
    (nonempty : v ≠ [])
    (plain : ∀ c ∈ v, needsQuoting c = false) :
    maybeQuote v = v := by
  have notSpecial : ¬ (v = [] ∨ v.any needsQuoting = true) := by
    simpa [nonempty] using plain
  exact if_neg notSpecial

theorem needsQuoting_writeInt (number : Int) :
    ∀ c ∈ Decimal.writeInt number, needsQuoting c = false := by
  intro c member
  rcases Decimal.mem_writeInt member with rfl | isDigit
  · rfl
  · have bounds := of_decide_eq_true isDigit
    have others : ∀ d : UInt8, d.toNat < 48 ∨ 57 < d.toNat → c ≠ d := by
      rintro d outside rfl
      omega
    unfold needsQuoting isControl
    simp only [Bool.or_eq_false_iff, decide_eq_false_iff_not]
    refine ⟨⟨⟨⟨others _ (by decide), others _ (by decide)⟩, others _ (by decide)⟩,
      others _ (by decide)⟩, by omega⟩

theorem maybeQuote_writeInt (number : Int) :
    maybeQuote (Decimal.writeInt number) = Decimal.writeInt number :=
  maybeQuote_eq_self Decimal.writeInt_ne_nil (needsQuoting_writeInt number)

theorem maybeQuote_auditEventTypeName (eventType : AuditEventType) :
    maybeQuote (auditEventTypeName eventType) = auditEventTypeName eventType := by
  cases eventType <;> rfl

/-- A line is its pairs, one after the other. -/
theorem formatAuditLine_eq (e : AuditEvent) :
    formatAuditLine e = pairText (bytesOf "ts", Decimal.writeInt e.timestampUnixS) ++
      ((bytesOf "event", auditEventTypeName e.eventType) :: presentFields e).flatMap
        laterText := by
  have fields : (presentFields e).flatMap laterText =
      field "sub" e.subject ++ (field "iss" e.issuer ++ (field "kid" e.kid ++
        (field "action" e.action ++ (field "reason" e.reason ++
          field "token" e.tokenHash)))) := by
    unfold presentFields
    rw [flatMap_filter_eq]
    simp only [List.flatMap_cons, List.flatMap_nil, List.append_nil, field_eq]
  rw [List.flatMap_cons, fields]
  unfold formatAuditLine laterText pairText
  rw [maybeQuote_writeInt, maybeQuote_auditEventTypeName]
  have timeKey : bytesOf "ts=" = bytesOf "ts" ++ ['='.toUInt8] := by decide
  have eventKey : bytesOf " event=" =
      ' '.toUInt8 :: (bytesOf "event" ++ ['='.toUInt8]) := by decide
  rw [timeKey, eventKey]
  simp only [List.append_assoc, List.cons_append, List.nil_append]

/-- The keys of a line. -/
def auditKeys : List (List UInt8) :=
  ["ts", "event", "sub", "iss", "kid", "action", "reason", "token"].map bytesOf

theorem key_mem_auditKeys
    {pair : List UInt8 × List UInt8}
    (member : pair ∈ pairsOf e) :
    pair.1 ∈ auditKeys := by
  unfold pairsOf presentFields at member
  simp only [List.mem_cons, List.mem_filter, List.not_mem_nil, or_false] at member
  rcases member with rfl | rfl | ⟨rfl | rfl | rfl | rfl | rfl | rfl, -⟩ <;>
    simp [auditKeys]

theorem keys_pairsOf
    {pair : List UInt8 × List UInt8}
    (member : pair ∈ pairsOf e) :
    '='.toUInt8 ∉ pair.1 := by
  have without : ∀ key ∈ auditKeys, '='.toUInt8 ∉ key := by decide
  exact without pair.1 (key_mem_auditKeys member)

theorem length_le_length_flatMap_laterText (later : List (List UInt8 × List UInt8)) :
    later.length ≤ (later.flatMap laterText).length := by
  induction later with
  | nil => exact Nat.le_refl _
  | cons pair later inductionHypothesis =>
      rw [List.flatMap_cons, List.length_append, List.length_cons]
      unfold laterText at inductionHypothesis ⊢
      rw [List.length_cons]
      omega

/-- The line of an event is split into what the event says. -/
theorem splitAuditLine_formatAuditLine (e : AuditEvent) :
    splitAuditLine (formatAuditLine e) = some (pairsOf e) := by
  unfold splitAuditLine
  rw [formatAuditLine_eq]
  refine readPairs_line (fun pair member => ?_) ?_
  · have inPairs : pair ∈ pairsOf e := member
    exact keys_pairsOf inPairs
  · have bound := length_le_length_flatMap_laterText
      ((bytesOf "event", auditEventTypeName e.eventType) :: presentFields e)
    have nonempty :
        0 < (pairText (bytesOf "ts", Decimal.writeInt e.timestampUnixS)).length := by
      unfold pairText
      rw [List.length_append, List.length_cons]
      omega
    rw [List.length_append]
    omega

/-- Empty values say as much as none. -/
theorem getD_lookup_filter
    {pairs : List (List UInt8 × List UInt8)}
    (distinct : (pairs.map Prod.fst).Nodup) :
    ((pairs.filter fun pair => pair.2 ≠ []).lookup key).getD [] =
      (pairs.lookup key).getD [] := by
  induction pairs with
  | nil => rfl
  | cons pair pairs inductionHypothesis =>
      rw [List.map_cons, List.nodup_cons] at distinct
      have later := inductionHypothesis distinct.2
      obtain ⟨name, value⟩ := pair
      rw [List.filter_cons, List.lookup_cons]
      by_cases isKey : key = name
      · subst isKey
        have absent : (pairs.filter fun pair => pair.2 ≠ []).lookup key = none := by
          rw [List.lookup_eq_none_iff]
          intro other member
          rw [bne_iff_ne]
          intro isKey
          have inPairs : other.1 ∈ pairs.map Prod.fst :=
            List.mem_map_of_mem (List.mem_filter.mp member).1
          rw [← isKey] at inPairs
          exact distinct.1 inPairs
        rw [beq_self_eq_true]
        cases value with
        | nil =>
            change ((pairs.filter fun pair => pair.2 ≠ []).lookup key).getD [] = _
            rw [absent]
            rfl
        | cons c value => simp
      · have other : (key == name) = false := by simpa using isKey
        rw [other]
        dsimp only
        rw [← later]
        cases value with
        | nil => rfl
        | cons c value => simp [List.lookup_cons, other]

/-- The pairs of an event tell of it. -/
theorem eventOfPairs_pairsOf (e : AuditEvent) : eventOfPairs (pairsOf e) = some e := by
  have distinct : ([(bytesOf "sub", e.subject), (bytesOf "iss", e.issuer),
      (bytesOf "kid", e.kid), (bytesOf "action", e.action), (bytesOf "reason", e.reason),
      (bytesOf "token", e.tokenHash)].map Prod.fst).Nodup := by
    change [bytesOf "sub", bytesOf "iss", bytesOf "kid", bytesOf "action", bytesOf "reason",
      bytesOf "token"].Nodup
    decide
  have found : ∀ key : String, (bytesOf key == bytesOf "ts") = false →
      (bytesOf key == bytesOf "event") = false →
      (pairsOf e).lookup (bytesOf key) = (presentFields e).lookup (bytesOf key) := by
    intro key notTime notEvent
    unfold pairsOf
    rw [List.lookup_cons, notTime, List.lookup_cons, notEvent]
  have time : (pairsOf e).lookup (bytesOf "ts") =
      some (Decimal.writeInt e.timestampUnixS) := rfl
  have event : (pairsOf e).lookup (bytesOf "event") =
      some (auditEventTypeName e.eventType) := rfl
  have eventType : allEventTypes.find? (fun eventType =>
      auditEventTypeName eventType = auditEventTypeName e.eventType) = some e.eventType := by
    cases e.eventType <;> decide
  unfold eventOfPairs
  simp only [time, event, Option.getD_some, Decimal.readInt_writeInt, eventType,
    found "sub" rfl rfl, found "iss" rfl rfl, found "kid" rfl rfl, found "token" rfl rfl,
    found "action" rfl rfl, found "reason" rfl rfl]
  unfold presentFields
  simp only [getD_lookup_filter distinct]
  rfl

/-! ## Control characters -/

/-- A text without control characters. -/
def isPlain (text : List UInt8) : Bool :=
  text.all fun c => !isControl c

theorem isPlain_append (front back : List UInt8) :
    isPlain (front ++ back) = (isPlain front && isPlain back) :=
  List.all_append

theorem isPlain_cons (c : UInt8) (rest : List UInt8) :
    isPlain (c :: rest) = (!isControl c && isPlain rest) :=
  List.all_cons

theorem isPlain_escapeByte (c : UInt8) : isPlain (escapeByte c) = true := by
  have digit : ∀ number < 16, isControl (hexTable.getD number 0) = false := by decide
  have small := c.toNat_lt
  unfold escapeByte
  split_ifs with special isReturn isNewline isTab control
  · rcases special with rfl | rfl
    · rfl
    · rfl
  · rfl
  · rfl
  · rfl
  · rw [isPlain_cons, isPlain_cons, isPlain_cons, isPlain_cons, digit _ (by omega),
      digit _ (by omega)]
    rfl
  · rw [isPlain_cons, Bool.eq_false_iff.mpr control]
    rfl

theorem isPlain_maybeQuote (v : List UInt8) : isPlain (maybeQuote v) = true := by
  unfold maybeQuote
  split_ifs with special
  · have inside : isPlain (v.flatMap escapeByte) = true := by
      unfold isPlain
      rw [List.all_flatMap, List.all_eq_true]
      exact fun c _ => isPlain_escapeByte c
    rw [isPlain_append, isPlain_cons, inside]
    rfl
  · refine List.all_eq_true.mpr fun c member => ?_
    have unquoted : needsQuoting c = false := by
      rw [Bool.eq_false_iff]
      intro quoted
      exact special (.inr (List.any_eq_true.mpr ⟨c, member, quoted⟩))
    have control : isControl c = false := (Bool.or_eq_false_iff.mp unquoted).2
    rw [control]
    rfl

theorem isPlain_pairText
    {pair : List UInt8 × List UInt8}
    (plainKey : isPlain pair.1 = true) :
    isPlain (pairText pair) = true := by
  rw [pairText, isPlain_append, isPlain_cons, plainKey, isPlain_maybeQuote]
  rfl

theorem isPlain_key
    {pair : List UInt8 × List UInt8}
    (member : pair ∈ pairsOf e) :
    isPlain pair.1 = true := by
  have plain : ∀ key ∈ auditKeys, isPlain key = true := by decide
  exact plain pair.1 (key_mem_auditKeys member)

/-- A line has no control characters; in particular it is one line. -/
theorem isPlain_formatAuditLine (e : AuditEvent) : isPlain (formatAuditLine e) = true := by
  rw [formatAuditLine_eq, isPlain_append, Bool.and_eq_true]
  constructor
  · have isPair : (bytesOf "ts", Decimal.writeInt e.timestampUnixS) ∈ pairsOf e :=
      List.mem_cons_self
    exact isPlain_pairText (isPlain_key isPair)
  · unfold isPlain
    rw [List.all_flatMap, List.all_eq_true]
    intro pair isLater
    have isPair : pair ∈ pairsOf e := List.mem_cons_of_mem _ isLater
    change isPlain (' '.toUInt8 :: pairText pair) = true
    rw [isPlain_cons, isPlain_pairText (isPlain_key isPair)]
    rfl

/-! ## No two events have one line -/

/-- The event that a line tells of. -/
def readAuditLine (line : List UInt8) : Option AuditEvent :=
  (splitAuditLine line).bind eventOfPairs

/-- A line has no control characters, a reader splits it into exactly what the event says
and gets the event back; so different events have different lines. -/
theorem formatAuditLine_unambiguous :
    (∀ e, ∀ c ∈ formatAuditLine e, 32 ≤ c.toNat ∧ c.toNat ≠ 127) ∧
      (∀ e, splitAuditLine (formatAuditLine e) = some (pairsOf e)) ∧
      (∀ e, readAuditLine (formatAuditLine e) = some e) ∧
      ∀ e e', formatAuditLine e = formatAuditLine e' → e = e' := by
  have reads : ∀ e, readAuditLine (formatAuditLine e) = some e := by
    intro e
    unfold readAuditLine
    rw [splitAuditLine_formatAuditLine, Option.bind_some, eventOfPairs_pairsOf]
  refine ⟨?_, splitAuditLine_formatAuditLine, reads, ?_⟩
  · intro e c member
    have plain := List.all_eq_true.mp (isPlain_formatAuditLine e) c member
    rw [Bool.not_eq_true', isControl, decide_eq_false_iff_not] at plain
    omega
  · intro e e' sameLine
    apply Option.some.inj
    rw [← reads e, sameLine, reads e']

/-- A kid that imitates another field. -/
example : formatAuditLine { timestampUnixS := -5, kid := bytesOf "a sub=root\n\"" } =
    bytesOf "ts=-5 event=token_rejected kid=\"a sub=root\\n\\\"\"" := by decide

end Audit
end QuackOauth
