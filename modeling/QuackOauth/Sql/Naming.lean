import QuackOauth.Lib.Separator
import QuackOauth.Sql.Effect
import QuackOauth.Text

/-!
# Names of objects

What a policy is asked about is a table, a table function, a schema or a catalog, and
each is put to it as one string.  Quoted identifiers may contain the characters by which
such a string is put together.
-/

namespace QuackOauth
namespace Sql

open Lib Separator

/-- What is surfaced under a tag. -/
inductive TaggedKind
  | function
  | schema
  | catalog
  deriving DecidableEq

namespace TaggedKind

def tag : TaggedKind → String
  | .function => "fn:"
  | .schema => "schema:"
  | .catalog => "catalog:"

/-- A name that neither goes without an object nor is a reason to refuse. -/
def admits (name : String) : TaggedKind → Bool
  | .function =>
      !isExemptFunction name && name ≠ "query" && name ≠ "query_table" && !touchesState name
  | .schema => true
  | .catalog => true

end TaggedKind

/-- What an object of a request stands for, under its names in lower case. -/
inductive Target
  /-- A table, a view or a type. -/
  | relation (sch name : String)
  | tagged (kind : TaggedKind) (name : String)
  deriving DecidableEq

/-- A name that is not empty, in lower case. -/
def Lowered (name : String) : Prop :=
  name ≠ "" ∧ ∀ c ∈ name.toList, c.toLower = c

/-- A name has at most its last character for a dot. -/
def DotLast (name : String) : Prop :=
  ∀ front back, name.toList = front ++ '.' :: back → back = []

namespace Target

/-- The string that the policy is asked about. -/
def object : Target → String
  | .relation sch name => sch ++ "." ++ name
  | .tagged kind name => kind.tag ++ name

/-- Nothing in the names of a target can be read as a part of the string that is put
together from them.  The schema of a relation does not begin with a tag and has no dot,
unless in front or right behind a schema of the system; no other name has a dot, unless
at its end. -/
def Plain : Target → Prop
  | .relation sch name =>
      (∀ kind : TaggedKind, ¬ kind.tag.toList <+: sch.toList) ∧
        (∀ front back, sch.toList = front ++ '.' :: back →
          front = [] ∨ isSystemSchema (String.ofList front) = true) ∧
        DotLast name
  | .tagged _ name => DotLast name

/-- A target that can be surfaced by a request that is not refused. -/
def Surfaceable : Target → Prop
  | .relation sch name =>
      Lowered sch ∧ Lowered name ∧ isSystemSchema sch = false ∧
        ¬ (sch = "main" ∧ looksLikeUnqualifiedSystemView name = true)
  | .tagged kind name => Lowered name ∧ kind.admits name = true

end Target

variable {sch name : String} {chars front back : List Char}

/-! ## Lower case -/

theorem toList_lowerAscii (name : String) :
    (lowerAscii name).toList = name.toList.map Char.toLower :=
  String.toList_ofList

theorem lowered_lowerAscii (nonempty : lowerAscii name ≠ "") : Lowered (lowerAscii name) := by
  refine ⟨nonempty, ?_⟩
  rw [toList_lowerAscii]
  intro c member
  obtain ⟨original, -, rfl⟩ := List.mem_map.mp member
  exact toLower_toLower original

theorem Lowered.lowerAscii_eq (lowered : Lowered name) : lowerAscii name = name := by
  apply String.toList_inj.mp
  rw [toList_lowerAscii]
  exact (List.map_congr_left lowered.2).trans (List.map_id _)

theorem lowered_ofList
    (nonempty : chars ≠ [])
    (fixed : ∀ c ∈ chars, c.toLower = c) :
    Lowered (String.ofList chars) := by
  refine ⟨?_, by rwa [String.toList_ofList]⟩
  intro empty
  exact nonempty (String.ofList_injective (empty.trans String.ofList_nil.symm))

theorem toLower_around_dot
    (frontFixed : ∀ c ∈ front, c.toLower = c)
    (backFixed : ∀ c ∈ back, c.toLower = c) :
    ∀ c ∈ front ++ '.' :: back, c.toLower = c := by
  intro c member
  rcases List.mem_append.mp member with inFront | inRest
  · exact frontFixed c inFront
  · rcases List.mem_cons.mp inRest with rfl | inBack
    · decide
    · exact backFixed c inBack

/-! ## Names with a dot -/

/-- The names that are told apart from others have no dots. -/
theorem dot_notMem_of_isSystemSchema (system : isSystemSchema name = true) :
    '.' ∉ name.toList := by
  simp only [isSystemSchema, Bool.or_eq_true, decide_eq_true_eq] at system
  rcases system with rfl | rfl <;> decide

theorem dot_notMem_of_looksLikeUnqualifiedSystemView
    (view : looksLikeUnqualifiedSystemView name = true) :
    '.' ∉ name.toList := by
  have dotless : ∀ view ∈ unqualifiedSystemViews, '.' ∉ view.toList := by
    decide +kernel
  exact dotless name (of_decide_eq_true view)

theorem admits_of_dot
    (dot : '.' ∈ name.toList)
    (kind : TaggedKind) :
    kind.admits name = true := by
  have different {other : String} (dotless : '.' ∉ other.toList) : name ≠ other := by
    rintro rfl
    exact dotless dot
  cases kind with
  | function =>
      simp [TaggedKind.admits, isExemptFunction, touchesState,
        different (by decide : '.' ∉ "duckdb_tables".toList),
        different (by decide : '.' ∉ "duckdb_columns".toList),
        different (by decide : '.' ∉ "query".toList),
        different (by decide : '.' ∉ "query_table".toList),
        different (by decide : '.' ∉ "current_setting".toList),
        different (by decide : '.' ∉ "getvariable".toList),
        different (by decide : '.' ∉ "nextval".toList),
        different (by decide : '.' ∉ "currval".toList)]
  | schema => rfl
  | catalog => rfl

/-! ## Strings put together -/

theorem dot_notMem_tag (kind : TaggedKind) : '.' ∉ kind.tag.toList := by
  cases kind with
  | function => decide
  | schema => decide
  | catalog => decide

theorem toList_object_relation :
    (Target.relation sch name).object.toList = sch.toList ++ '.' :: name.toList := by
  simp [Target.object]

theorem toList_object_tagged {kind : TaggedKind} :
    (Target.tagged kind name).object.toList = kind.tag.toList ++ name.toList :=
  String.toList_append

/-- No tag begins another. -/
theorem eq_of_tag_append
    {kind otherKind : TaggedKind}
    (same : kind.tag.toList ++ front = otherKind.tag.toList ++ back) :
    kind = otherKind ∧ front = back := by
  cases kind with
  | function => cases otherKind <;> simp_all [TaggedKind.tag]
  | schema => cases otherKind <;> simp_all [TaggedKind.tag]
  | catalog => cases otherKind <;> simp_all [TaggedKind.tag]

/-- No other target has the string of one with plain names. -/
theorem Target.Plain.unique
    {target other : Target}
    (plain : target.Plain)
    (surfaceable : other.Surfaceable)
    (same : other.object = target.object) :
    other = target := by
  have chars := congrArg String.toList same
  cases target with
  | relation sch name =>
      obtain ⟨untagged, dots, dotLast⟩ := plain
      rw [toList_object_relation] at chars
      cases other with
      | relation otherSch otherName =>
          obtain ⟨schLowered, nameLowered, notSystem, -⟩ := surfaceable
          rw [toList_object_relation, append_separator_eq_iff] at chars
          rcases chars with ⟨sch_eq, name_eq⟩ | ⟨between, -, cut⟩ | ⟨between, cut, -⟩
          · rw [String.toList_inj.mp sch_eq, String.toList_inj.mp name_eq]
          · have empty := dotLast between otherName.toList cut
            exact absurd (String.toList_eq_nil_iff.mp empty) nameLowered.1
          · rcases dots otherSch.toList between cut with empty | system
            · exact absurd (String.toList_eq_nil_iff.mp empty) schLowered.1
            · rw [String.ofList_toList, notSystem] at system
              cases system
      | tagged kind otherName =>
          rw [toList_object_tagged] at chars
          obtain ⟨between, sch_eq, -⟩ :=
            (append_separator_eq_append_iff (dot_notMem_tag kind)).mp chars.symm
          exact absurd ⟨between, sch_eq.symm⟩ (untagged kind)
  | tagged kind name =>
      rw [toList_object_tagged] at chars
      cases other with
      | relation otherSch otherName =>
          rw [toList_object_relation] at chars
          obtain ⟨between, -, cut⟩ :=
            (append_separator_eq_append_iff (dot_notMem_tag kind)).mp chars
          have empty := plain between otherName.toList cut
          exact absurd (String.toList_eq_nil_iff.mp empty) surfaceable.2.1.1
      | tagged otherKind otherName =>
          rw [toList_object_tagged] at chars
          obtain ⟨rfl, name_eq⟩ := eq_of_tag_append chars
          rw [String.toList_inj.mp name_eq]

/-! ## Names that are not plain -/

theorem toLower_of_mem_tag
    {kind : TaggedKind}
    {c : Char}
    (member : c ∈ kind.tag.toList) :
    c.toLower = c := by
  have fixed : ∀ c ∈ kind.tag.toList, c.toLower = c := by
    cases kind with
    | function => simp [TaggedKind.tag]
    | schema => simp [TaggedKind.tag]
    | catalog => simp [TaggedKind.tag]
  exact fixed c member

/-- A relation that may be surfaced, from the characters of its schema and its name. -/
theorem surfaceable_relation
    (frontNonempty : front ≠ [])
    (backNonempty : back ≠ [])
    (frontFixed : ∀ c ∈ front, c.toLower = c)
    (backFixed : ∀ c ∈ back, c.toLower = c)
    (notSystem : isSystemSchema (String.ofList front) = false)
    (notView : front ≠ "main".toList ∨ '.' ∈ back) :
    (Target.relation (String.ofList front) (String.ofList back)).Surfaceable := by
  refine ⟨lowered_ofList frontNonempty frontFixed, lowered_ofList backNonempty backFixed,
    notSystem, ?_⟩
  rintro ⟨isMain, view⟩
  rcases notView with notMain | dot
  · apply notMain
    rw [← isMain, String.toList_ofList]
  · have dotless := dot_notMem_of_looksLikeUnqualifiedSystemView view
    rw [String.toList_ofList] at dotless
    exact dotless dot

theorem not_isSystemSchema_of_dot (dot : '.' ∈ front) :
    isSystemSchema (String.ofList front) = false := by
  rw [Bool.eq_false_iff]
  intro system
  have dotless := dot_notMem_of_isSystemSchema system
  rw [String.toList_ofList] at dotless
  exact dotless dot

/-- A tag ends in a colon, which the names that are told apart do not have. -/
theorem colon_mem_tag (kind : TaggedKind) : ':' ∈ kind.tag.toList := by
  cases kind with
  | function => decide
  | schema => decide
  | catalog => decide

theorem tag_append_ne_main
    (kind : TaggedKind)
    (rest : List Char) :
    kind.tag.toList ++ rest ≠ "main".toList := by
  intro isMain
  have colon : ':' ∈ "main".toList := isMain ▸ List.mem_append_left rest (colon_mem_tag kind)
  exact absurd colon (by decide)

theorem not_isSystemSchema_of_tag
    (kind : TaggedKind)
    (rest : List Char) :
    isSystemSchema (String.ofList (kind.tag.toList ++ rest)) = false := by
  rw [Bool.eq_false_iff]
  intro system
  have colon : ':' ∈ (String.ofList (kind.tag.toList ++ rest)).toList := by
    rw [String.toList_ofList]
    exact List.mem_append_left rest (colon_mem_tag kind)
  simp only [isSystemSchema, Bool.or_eq_true, decide_eq_true_eq] at system
  rcases system with isSystem | isSystem
  · rw [isSystem] at colon
    exact absurd colon (by decide)
  · rw [isSystem] at colon
    exact absurd colon (by decide)

/-- A relation whose schema begins with a tag has the string of what the tag is for. -/
theorem exists_twin_of_tag
    {kind : TaggedKind}
    (schLowered : Lowered sch)
    (nameLowered : Lowered name)
    (sch_eq : sch.toList = kind.tag.toList ++ back) :
    ∃ other : Target, other.Surfaceable ∧ other.object = (Target.relation sch name).object ∧
      other ≠ .relation sch name := by
  refine ⟨.tagged kind (String.ofList (back ++ '.' :: name.toList)), ⟨?_, ?_⟩, ?_, ?_⟩
  · refine lowered_ofList (by simp) (toLower_around_dot ?_ nameLowered.2)
    exact fun c inBack => schLowered.2 c (sch_eq ▸ List.mem_append_right _ inBack)
  · apply admits_of_dot
    simp
  · apply String.toList_inj.mp
    rw [toList_object_tagged, toList_object_relation, String.toList_ofList, sch_eq,
      List.append_assoc]
  · exact Target.noConfusion

/-- A schema with a dot inside leaves another schema when it is cut there. -/
theorem exists_twin_of_schema
    (schLowered : Lowered sch)
    (nameLowered : Lowered name)
    (cut : sch.toList = front ++ '.' :: back)
    (nonempty : front ≠ [])
    (notSystem : isSystemSchema (String.ofList front) = false) :
    ∃ other : Target, other.Surfaceable ∧ other.object = (Target.relation sch name).object ∧
      other ≠ .relation sch name := by
  have inSch : ∀ c ∈ front ++ '.' :: back, c.toLower = c := cut ▸ schLowered.2
  refine ⟨.relation (String.ofList front) (String.ofList (back ++ '.' :: name.toList)),
    ?_, ?_, ?_⟩
  · refine surfaceable_relation nonempty (by simp) ?_ ?_ notSystem (.inr (by simp))
    · exact fun c member => inSch c (List.mem_append_left _ member)
    · refine toLower_around_dot ?_ nameLowered.2
      exact fun c inBack =>
        inSch c (List.mem_append_right _ (List.mem_cons_of_mem _ inBack))
  · apply String.toList_inj.mp
    rw [toList_object_relation, toList_object_relation, String.toList_ofList,
      String.toList_ofList, cut, List.append_assoc, List.cons_append]
  · intro twin
    have lengths := congrArg List.length ((congrArg String.toList
      (Target.relation.inj twin).1).symm.trans String.toList_ofList)
    rw [cut, List.length_append, List.length_cons] at lengths
    omega

/-- What stands in front of a dot in a name, and in the string in front of the name, may
be read as a schema. -/
theorem exists_twin_of_name
    {target : Target}
    (lead : List Char)
    (leadFixed : ∀ c ∈ lead, c.toLower = c)
    (leadNonempty : lead ≠ [])
    (nameLowered : Lowered name)
    (object_eq : target.object.toList = lead ++ name.toList)
    (cut : name.toList = front ++ '.' :: back)
    (nonempty : back ≠ [])
    (notSystem : isSystemSchema (String.ofList (lead ++ front)) = false)
    (notMain : lead ++ front ≠ "main".toList)
    (different : ∀ sch, target ≠ .relation sch (String.ofList back)) :
    ∃ other : Target, other.Surfaceable ∧ other.object = target.object ∧ other ≠ target := by
  have inName : ∀ c ∈ front ++ '.' :: back, c.toLower = c := cut ▸ nameLowered.2
  refine ⟨.relation (String.ofList (lead ++ front)) (String.ofList back), ?_, ?_, ?_⟩
  · refine surfaceable_relation (by simp [leadNonempty]) nonempty ?_ ?_ notSystem
      (.inl notMain)
    · intro c member
      rcases List.mem_append.mp member with inLead | inFront
      · exact leadFixed c inLead
      · exact inName c (List.mem_append_left _ inFront)
    · exact fun c member => inName c (List.mem_append_right _ (List.mem_cons_of_mem _ member))
  · apply String.toList_inj.mp
    rw [toList_object_relation, object_eq, String.toList_ofList, String.toList_ofList, cut,
      List.append_assoc]
  · exact fun twin => different _ twin.symm

/-- A target whose string no other has has plain names. -/
theorem Target.Surfaceable.plain_of_unique
    {target : Target}
    (surfaceable : target.Surfaceable)
    (unique : ∀ other : Target, other.Surfaceable → other.object = target.object →
      other = target) :
    target.Plain := by
  have noTwin : ¬ ∃ other : Target, other.Surfaceable ∧ other.object = target.object ∧
      other ≠ target := by
    rintro ⟨other, otherSurfaceable, same, different⟩
    exact different (unique other otherSurfaceable same)
  cases target with
  | relation sch name =>
      obtain ⟨schLowered, nameLowered, -, -⟩ := surfaceable
      refine ⟨?untagged, ?dots, ?dotLast⟩
      case untagged =>
        rintro kind ⟨between, sch_eq⟩
        exact noTwin (exists_twin_of_tag schLowered nameLowered sch_eq.symm)
      case dots =>
        intro front back cut
        by_contra inside
        rw [not_or, Bool.not_eq_true] at inside
        exact noTwin (exists_twin_of_schema schLowered nameLowered cut inside.1 inside.2)
      case dotLast =>
        intro front back cut
        by_contra nonempty
        have dot : '.' ∈ sch.toList ++ ['.'] ++ front := by simp
        refine noTwin (exists_twin_of_name (sch.toList ++ ['.']) ?_ (by simp) nameLowered ?_
          cut nonempty (not_isSystemSchema_of_dot dot) ?_ ?_)
        · exact toLower_around_dot schLowered.2 (by simp)
        · rw [toList_object_relation, List.append_assoc, List.singleton_append]
        · intro isMain
          rw [isMain] at dot
          exact absurd dot (by decide)
        · intro otherSch same
          have lengths := congrArg List.length ((congrArg String.toList
            (Target.relation.inj same).2).trans String.toList_ofList)
          rw [cut, List.length_append, List.length_cons] at lengths
          omega
  | tagged kind name =>
      intro front back cut
      by_contra nonempty
      refine noTwin (exists_twin_of_name kind.tag.toList (fun _ => toLower_of_mem_tag)
        (List.ne_nil_of_mem (colon_mem_tag kind)) surfaceable.1 toList_object_tagged cut nonempty
        (not_isSystemSchema_of_tag kind front) (tag_append_ne_main kind front) ?_)
      exact fun _ => Target.noConfusion

end Sql
end QuackOauth
