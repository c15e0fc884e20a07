import Mathlib.Data.List.Forall2
import QuackOauth.Lib.Code
import QuackOauth.Lib.Hex
import QuackOauth.Lib.Separator

/-!
# Form bodies

Parameters of a form as one text: pairs `name=value` joined by `&`, in which bytes that
could be mistaken are percent-encoded.  The reader is lenient, as servers are: a blank
may be written as `+`, and a percent sign without two digits stands for itself.
-/

namespace Lib
namespace Form

open Separator

/-! ## Percent-encoding -/

/-- A byte, percent-encoded unless it is plain. -/
def percentWord (plain : UInt8 → Bool) (table : List UInt8) (c : UInt8) : List UInt8 :=
  if plain c then [c]
  else ['%'.toUInt8, table.getD (c.toNat / 16) 0, table.getD (c.toNat % 16) 0]

/-- The first byte of a component. -/
def readByte : List UInt8 → Option (UInt8 × List UInt8)
  | [] => none
  | c :: rest =>
      if c = '+'.toUInt8 then some (' '.toUInt8, rest)
      else if c = '%'.toUInt8 then
        match rest with
        | high :: low :: later =>
            match Hex.byteOf high low with
            | some b => some (b, later)
            | none => some (c, rest)
        | _ => some (c, rest)
      else some (c, rest)

/-- A component of a pair, decoded. -/
def decodeComponent (text : List UInt8) : List UInt8 :=
  (Code.readText readByte text).1

/-- A text with neither separator. -/
def Separate (text : List UInt8) : Prop :=
  '&'.toUInt8 ∉ text ∧ '='.toUInt8 ∉ text

instance (text : List UInt8) : Decidable (Separate text) :=
  inferInstanceAs (Decidable (_ ∧ _))

/-- Plain bytes mean themselves and separate nothing. -/
def ArePlain (plain : UInt8 → Bool) : Prop :=
  ∀ c, plain c = true →
    c ≠ '%'.toUInt8 ∧ c ≠ '+'.toUInt8 ∧ c ≠ '&'.toUInt8 ∧ c ≠ '='.toUInt8

variable {plain : UInt8 → Bool} {table : List UInt8}

theorem isCode_percentWord
    (arePlain : ArePlain plain)
    (isTable : Hex.IsTable table) :
    Code.IsCode (percentWord plain table) readByte where
  word_ne_nil := by
    intro c
    unfold percentWord
    split_ifs <;> exact List.cons_ne_nil _ _
  readWord_append := by
    intro c rest
    unfold percentWord
    split_ifs with isPlain
    · obtain ⟨notPercent, notPlus, -⟩ := arePlain c isPlain
      rw [List.singleton_append]
      unfold readByte
      dsimp only
      rw [if_neg notPlus, if_neg notPercent]
    · change (match Hex.byteOf _ _ with
        | some b => some (b, rest)
        | none => _) = _
      rw [Hex.byteOf_getD isTable c]

/-- An encoded component has neither separator. -/
theorem separate_flatMap_percentWord
    (arePlain : ArePlain plain)
    (isTable : Hex.IsTable table)
    (component : List UInt8) :
    Separate (component.flatMap (percentWord plain table)) := by
  have apart : ∀ c, ∀ b ∈ percentWord plain table c,
      b ≠ '&'.toUInt8 ∧ b ≠ '='.toUInt8 := by
    intro c b member
    have small := c.toNat_lt
    have notDigit : ∀ number < 16, table.getD number 0 ≠ '&'.toUInt8 ∧
        table.getD number 0 ≠ '='.toUInt8 := by
      intro number below
      have bounds := Hex.bounds_getD isTable below
      refine ⟨fun same => ?_, fun same => ?_⟩
      · rw [same] at bounds
        revert bounds
        decide
      · rw [same] at bounds
        revert bounds
        decide
    unfold percentWord at member
    split_ifs at member with isPlain
    · rw [List.mem_singleton.mp member]
      exact (arePlain c isPlain).2.2
    · simp only [List.mem_cons, List.not_mem_nil, or_false] at member
      rcases member with rfl | rfl | rfl
      · decide
      · exact notDigit _ (by omega)
      · exact notDigit _ (by omega)
  refine ⟨fun member => ?_, fun member => ?_⟩
  · obtain ⟨c, -, inWord⟩ := List.mem_flatMap.mp member
    exact (apart c _ inWord).1 rfl
  · obtain ⟨c, -, inWord⟩ := List.mem_flatMap.mp member
    exact (apart c _ inWord).2 rfl

/-! ## Forms -/

/-- A pair at its first `=`. -/
def decodePair (piece : List UInt8) : List UInt8 × List UInt8 :=
  match cutFirst '='.toUInt8 piece with
  | some (name, value) => (decodeComponent name, decodeComponent value)
  | none => (decodeComponent piece, [])

/-- The parameters of a form, in order. -/
def decodeForm (body : List UInt8) : List (List UInt8 × List UInt8) :=
  ((body.splitOn '&'.toUInt8).filter fun piece => piece ≠ []).map decodePair

/-- A percent-encoded component is decoded. -/
theorem decodeComponent_flatMap_percentWord
    (arePlain : ArePlain plain)
    (isTable : Hex.IsTable table)
    (component : List UInt8) :
    decodeComponent (component.flatMap (percentWord plain table)) = component := by
  unfold decodeComponent
  rw [(isCode_percentWord arePlain isTable).readText_flatMap rfl]

/-- A pair of texts as one piece of a form. -/
def pairText (pair : List UInt8 × List UInt8) : List UInt8 :=
  pair.1 ++ '='.toUInt8 :: pair.2

/-- A pair of texts behind another piece. -/
def laterText (pair : List UInt8 × List UInt8) : List UInt8 :=
  '&'.toUInt8 :: pairText pair

/-- The parameter that a pair of texts stands for. -/
def parameterOf (pair : List UInt8 × List UInt8) : List UInt8 × List UInt8 :=
  (decodeComponent pair.1, decodeComponent pair.2)

/-- A pair is cut at the `=` between its texts. -/
theorem decodePair_pairText
    {pair : List UInt8 × List UInt8}
    (separate : Separate pair.1) :
    decodePair (pairText pair) = parameterOf pair := by
  have cut : cutFirst '='.toUInt8 (pairText pair) = some (pair.1, pair.2) :=
    cutFirst_eq_some_iff.mpr ⟨rfl, separate.2⟩
  unfold decodePair
  rw [cut]
  rfl

theorem append_flatMap_laterText
    (text : List UInt8 × List UInt8)
    (later : List (List UInt8 × List UInt8)) :
    pairText text ++ later.flatMap laterText =
      ['&'.toUInt8].intercalate ((text :: later).map pairText) := by
  induction later generalizing text with
  | nil => simp [List.intercalate]
  | cons next later inductionHypothesis =>
      rw [List.flatMap_cons, laterText, List.cons_append, inductionHypothesis]
      simp [List.intercalate]

/-- A form is decoded to the parameters whose texts it joins. -/
theorem decodeForm_append
    {first : List UInt8 × List UInt8}
    {later : List (List UInt8 × List UInt8)}
    (separate : ∀ pair ∈ first :: later, Separate pair.1 ∧ Separate pair.2) :
    decodeForm (pairText first ++ later.flatMap laterText) =
      (first :: later).map parameterOf := by
  have apart : ∀ piece ∈ (first :: later).map pairText, '&'.toUInt8 ∉ piece := by
    intro piece member
    obtain ⟨pair, inTexts, rfl⟩ := List.mem_map.mp member
    obtain ⟨name, value⟩ := separate pair inTexts
    unfold pairText
    rw [List.mem_append, List.mem_cons, not_or, not_or]
    exact ⟨name.1, by decide, value.1⟩
  have nonempty : ∀ piece ∈ (first :: later).map pairText, decide (piece ≠ []) = true := by
    intro piece member
    obtain ⟨pair, -, rfl⟩ := List.mem_map.mp member
    apply decide_eq_true
    unfold pairText
    simp
  unfold decodeForm
  rw [append_flatMap_laterText, List.splitOn_intercalate _ apart (by simp),
    List.filter_eq_self.mpr nonempty, List.map_map]
  apply List.map_congr_left
  intro pair inTexts
  exact decodePair_pairText (separate pair inTexts).1

/-- A pair of texts that stands for a parameter and can be told from its neighbours. -/
structure Means (text parameter : List UInt8 × List UInt8) : Prop where
  separate : Separate text.1 ∧ Separate text.2
  decoded : parameterOf text = parameter

/-- Texts that are plain and decode to themselves stand for themselves. -/
def Literal (text : List UInt8) : Prop :=
  Separate text ∧ decodeComponent text = text

instance (text : List UInt8) : Decidable (Literal text) :=
  inferInstanceAs (Decidable (_ ∧ _))

theorem means_of_literal
    {name value : List UInt8}
    (literalName : Literal name)
    (literalValue : Literal value) :
    Means (name, value) (name, value) where
  separate := ⟨literalName.1, literalValue.1⟩
  decoded := Prod.ext literalName.2 literalValue.2

theorem means_of_percentWord
    {name : List UInt8}
    (arePlain : ArePlain plain)
    (isTable : Hex.IsTable table)
    (literalName : Literal name)
    (value : List UInt8) :
    Means (name, value.flatMap (percentWord plain table)) (name, value) where
  separate := ⟨literalName.1, separate_flatMap_percentWord arePlain isTable value⟩
  decoded := Prod.ext literalName.2
    (decodeComponent_flatMap_percentWord arePlain isTable value)

/-- A form whose texts stand for parameters is decoded to these, in order. -/
theorem decodeForm_of_means
    {first : List UInt8 × List UInt8}
    {later parameters : List (List UInt8 × List UInt8)}
    (means : List.Forall₂ Means (first :: later) parameters) :
    decodeForm (pairText first ++ later.flatMap laterText) = parameters := by
  have both : ∀ {texts parameters}, List.Forall₂ Means texts parameters →
      (∀ pair ∈ texts, Separate pair.1 ∧ Separate pair.2) ∧
        texts.map parameterOf = parameters := by
    intro texts parameters means
    induction means with
    | nil => exact ⟨by simp, rfl⟩
    | cons head _ inductionHypothesis =>
        obtain ⟨separate, decoded⟩ := inductionHypothesis
        refine ⟨List.forall_mem_cons.mpr ⟨head.separate, separate⟩, ?_⟩
        rw [List.map_cons, head.decoded, decoded]
  obtain ⟨separate, decoded⟩ := both means
  rw [decodeForm_append separate, decoded]

end Form
end Lib
