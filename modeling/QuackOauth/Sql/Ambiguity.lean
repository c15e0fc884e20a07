import QuackOauth.Sql.Inspect
import QuackOauth.Sql.Naming

/-!
# Objects with one string

Requests surface tables, table functions, schemas and catalogs, each under its string.
Exactly the targets with plain names share it with no other target, of the same request
or of any other.
-/

namespace QuackOauth
namespace Sql

open Policy

/-- The target that an event of a node surfaces. -/
def Event.target (node : Node) : Event → Option Target
  | .object target =>
      (objectOf target).map fun _ => .relation (schemaOf target) (lowerAscii target.name)
  | .function name =>
      (functionObjectOf name).map fun _ =>
        .tagged .function (lowerAscii (if name = "" then "?" else name))
  | .namedObject _ =>
      match node with
      | .statement (.createSchema target _) =>
          some (.tagged .schema (lowerAscii target.schema))
      | .statement (.detach name) => some (.tagged .catalog (lowerAscii name))
      | _ => none
  | _ => none

/-- A node of the statements surfaces a target. -/
def Surfaces (statements : List Statement) (target : Target) : Prop :=
  ∃ scope node event, OccursIn statements scope node ∧
    .emit event ∈ parts scope node ∧ event.target node = some target

/-- No request that is not refused surfaces another target under the same string. -/
def Unambiguous (target : Target) : Prop :=
  ∀ statements other, (inspectStatements statements).isUnsafe = false →
    Surfaces statements other → other.object = target.object → other = target

variable {statements : List Statement} {target : Target} {scope : Scope} {node : Node}
variable {event : Event} {object : String}

/-! ## Objects are strings of targets -/

theorem map_object_target (contributes : Contributes scope node event) :
    (event.target node).map Target.object = event.surfacedObject := by
  have named (qualified : QualifiedName) :
      ((Event.object qualified).target node).map Target.object =
        (Event.object qualified).surfacedObject := by
    simp only [Event.target, Event.surfacedObject, Option.map_map]
    cases surfaced : objectOf qualified with
    | none => rfl
    | some object =>
        unfold objectOf at surfaced
        split_ifs at surfaced
        exact surfaced
  cases contributes with
  | tableFunction hasName =>
      simp only [Event.target, Event.surfacedObject, functionObjectOf, functionObject,
        if_neg hasName]
      split_ifs <;> rfl
  | schema => rfl
  | catalog name => rfl
  | baseTable unbound notPath => exact named _
  | showTarget unbound => exact named _
  | insertTarget => exact named _
  | copyTarget => exact named _
  | definition defines => exact named _
  | _ => rfl

/-- The objects of a request are the strings of the targets that it surfaces. -/
theorem mem_objects_iff_surfaces :
    object ∈ (inspectStatements statements).objects ↔
      ∃ target, Surfaces statements target ∧ target.object = object := by
  rw [mem_objects_iff]
  constructor
  · rintro ⟨event, ⟨scope, node, occurs, emitted⟩, surfaced⟩
    rw [← map_object_target (contributes_of_emit_mem_parts emitted)] at surfaced
    obtain ⟨target, isTarget, rfl⟩ := Option.map_eq_some_iff.mp surfaced
    exact ⟨target, ⟨scope, node, event, occurs, emitted, isTarget⟩, rfl⟩
  · rintro ⟨target, ⟨scope, node, event, occurs, emitted, isTarget⟩, rfl⟩
    refine ⟨event, ⟨scope, node, occurs, emitted⟩, ?_⟩
    rw [← map_object_target (contributes_of_emit_mem_parts emitted), isTarget]
    rfl

/-! ## Targets of accepted requests -/

theorem lowered_schemaOf (qualified : QualifiedName) : Lowered (schemaOf qualified) := by
  unfold schemaOf
  split_ifs with unnamed
  · exact ⟨by decide, by simp⟩
  · exact lowered_lowerAscii (lowerAscii_ne_empty unnamed)

theorem surfaceable_of_objectOf
    {qualified : QualifiedName}
    (surfaced : objectOf qualified = some object) :
    (Target.relation (schemaOf qualified) (lowerAscii qualified.name)).Surfaceable := by
  unfold objectOf at surfaced
  split_ifs at surfaced with unnamed system view
  exact ⟨lowered_schemaOf qualified, lowered_lowerAscii (lowerAscii_ne_empty unnamed),
    Bool.eq_false_iff.mpr system, view⟩

/-- A table function of an accepted request neither runs SQL nor touches state. -/
theorem admits_functionName
    {function : Expr}
    {hasSubquery : Bool}
    {subquery : QueryNode}
    (accepted : Accepted statements)
    (occurs : OccursIn statements scope
      (.tableRef (.tableFunction function hasSubquery subquery)))
    (named : function.functionName ≠ "")
    (gated : isExemptFunction (lowerAscii function.functionName) = false) :
    TaggedKind.function.admits (lowerAscii function.functionName) = true := by
  have notDynamic : ¬ (lowerAscii function.functionName = "query" ∨
      lowerAscii function.functionName = "query_table") := by
    intro dynamic
    have refused : .refuse "dynamic SQL table function" ∈
        functionNameEvents function.functionName := by
      simp [functionNameEvents, named, dynamic]
    exact accepted.no_refusal occurs _
      (List.mem_append_left _ (List.mem_map_of_mem refused))
  have below : OccursIn statements scope (.expr function) :=
    occurs.below (List.mem_append_right _ List.mem_cons_self)
  have stateless : touchesState (lowerAscii function.functionName) = false := by
    cases function with
    | function name children =>
        rw [Bool.eq_false_iff]
        intro touches
        have refused : .emit (.refuse "state-reading or mutating scalar function") ∈
            parts scope (.expr (.function name children)) := by
          have touchesName : touchesState (lowerAscii name) = true := touches
          simp [unlessPart, touchesName]
        exact accepted.no_refusal below _ refused
    | _ => exact absurd rfl named
  rw [not_or] at notDynamic
  simp [TaggedKind.admits, gated, notDynamic, stateless]

/-- What an accepted request surfaces has names that can be surfaced. -/
theorem Surfaces.surfaceable
    (accepted : Accepted statements)
    (surfaces : Surfaces statements target) :
    target.Surfaceable := by
  obtain ⟨scope, node, event, occurs, emitted, isTarget⟩ := surfaces
  have named (qualified : QualifiedName)
      (isTarget : (Event.object qualified).target node = some target) :
      target.Surfaceable := by
    obtain ⟨object, surfaced, rfl⟩ := Option.map_eq_some_iff.mp isTarget
    exact surfaceable_of_objectOf surfaced
  cases contributes_of_emit_mem_parts emitted with
  | @tableFunction function _ _ hasName =>
      obtain ⟨object, surfaced, rfl⟩ := Option.map_eq_some_iff.mp isTarget
      rw [functionObjectOf, if_neg hasName] at surfaced
      obtain ⟨gated, -⟩ := Option.ite_none_left_eq_some.mp surfaced
      rw [if_neg hasName]
      exact ⟨lowered_lowerAscii (lowerAscii_ne_empty hasName),
        admits_functionName accepted occurs hasName (Bool.eq_false_iff.mpr gated)⟩
  | @schema qualified options =>
      cases isTarget
      refine ⟨lowered_lowerAscii (lowerAscii_ne_empty ?_), rfl⟩
      intro unnamed
      exact accepted.no_refusal occurs "unnamed CREATE SCHEMA" (by simp [unnamed])
  | catalog name =>
      cases isTarget
      refine ⟨lowered_lowerAscii ?_, rfl⟩
      intro unnamed
      exact accepted.no_refusal occurs "unnamed DETACH target" (by simp [unnamed])
  | baseTable unbound notPath => exact named _ isTarget
  | showTarget unbound => exact named _ isTarget
  | insertTarget => exact named _ isTarget
  | copyTarget => exact named _ isTarget
  | definition defines => exact named _ isTarget
  | _ => cases isTarget

/-! ## Requests for targets -/

/-- A statement that surfaces a target and nothing else. -/
def surfacing : Target → Statement
  | .relation sch name => .drop true { schema := sch, name }
  | .tagged .function name =>
      .select (.node [] [] (.select (.tableFunction (.function name []) false .null)
        [.constant "1"] .null .null .null []))
  | .tagged .schema name => .createSchema { schema := name } []
  | .tagged .catalog name => .detach name

/-- The one event of such a statement. -/
def surfacingEvent : Target → Event
  | .relation sch name => .object { schema := sch, name }
  | .tagged .function name => .function name
  | .tagged .schema name => .namedObject ("schema:" ++ lowerAscii name)
  | .tagged .catalog name => .namedObject ("catalog:" ++ lowerAscii name)

theorem requestVerb_surfacing :
    requestVerb [surfacing target] = verb (surfacing target) := by
  have notNull : (surfacing target).isNull = false := by
    cases target with
    | relation sch name => rfl
    | tagged kind name => cases kind <;> rfl
  rw [requestVerb, leadingVerb, if_neg (Bool.eq_false_iff.mp notNull)]

theorem requestEvents_surfacing (surfaceable : target.Surfaceable) :
    requestEvents [surfacing target] = [surfacingEvent target] := by
  rw [requestEvents, requestVerb_surfacing, List.flatMap_singleton]
  cases target with
  | relation sch name =>
      have nonempty : name ≠ "" := surfaceable.2.1.1
      simp [surfacing, surfacingEvent, statementEvents, Statement.isNull, classifyEvents,
        events_eq, unlessPart, namedTargetEvents, nonempty]
  | tagged kind name =>
      obtain ⟨lowered, admitted⟩ := surfaceable
      have nonempty := lowered.1
      have folded := lowered.lowerAscii_eq
      cases kind with
      | function =>
          simp only [TaggedKind.admits, Bool.and_eq_true, decide_eq_true_eq,
            Bool.not_eq_true'] at admitted
          simp [surfacing, surfacingEvent, statementEvents, Statement.isNull, classifyEvents,
            events_eq, cteParts, exprParts, unlessPart, functionNameEvents,
            Expr.functionName, nonempty, folded, admitted]
      | schema =>
          simp [surfacing, surfacingEvent, statementEvents, Statement.isNull, classifyEvents,
            events_eq, unlessPart, requiredParts, nonempty]
      | catalog =>
          simp [surfacing, surfacingEvent, statementEvents, Statement.isNull, classifyEvents,
            events_eq, folded, nonempty]

theorem schemaOf_of_lowered {sch name : String} (lowered : Lowered sch) :
    schemaOf { schema := sch, name } = sch := by
  rw [schemaOf, if_neg lowered.1, lowered.lowerAscii_eq]

/-- Whatever has names that can be surfaced has an accepted request. -/
theorem Target.Surfaceable.isUnsafe_surfacing (surfaceable : target.Surfaceable) :
    (inspectStatements [surfacing target]).isUnsafe = false := by
  rw [inspectStatements_eq, requestEvents_surfacing surfaceable, Bool.eq_false_iff, ne_eq,
    isUnsafe_applyEvents]
  rintro (initial | ⟨event, happens, refuses⟩)
  · cases initial
  · rw [List.mem_singleton] at happens
    subst happens
    cases target with
    | relation sch name =>
        obtain ⟨schLowered, nameLowered, notSystem, notView⟩ := surfaceable
        have admitted : refusesName { schema := sch, name } = false := by
          simp only [refusesName, schemaOf_of_lowered schLowered,
            nameLowered.lowerAscii_eq, notSystem]
          simpa using fun _ => notView
        exact absurd refuses (Bool.eq_false_iff.mp admitted)
    | tagged kind name => cases kind <;> cases refuses

/-- That request surfaces it. -/
theorem Target.Surfaceable.surfaces_surfacing (surfaceable : target.Surfaceable) :
    Surfaces [surfacing target] target := by
  have atStatement : OccursIn [surfacing target] [] (.statement (surfacing target)) :=
    occursIn_of_mem List.mem_cons_self
  cases target with
  | relation sch name =>
      obtain ⟨schLowered, nameLowered, notSystem, notView⟩ := surfaceable
      refine ⟨[], _, .object { schema := sch, name }, atStatement, ?_, ?_⟩
      · simp [surfacing, namedTargetEvents, nameLowered.1]
      · have surfaced : objectOf { schema := sch, name } = some (sch ++ "." ++ name) := by
          unfold objectOf objectName
          rw [schemaOf_of_lowered schLowered, nameLowered.lowerAscii_eq,
            if_neg nameLowered.1, if_neg (Bool.eq_false_iff.mp notSystem), if_neg notView]
        rw [Event.target, surfaced, schemaOf_of_lowered schLowered,
          nameLowered.lowerAscii_eq]
        rfl
  | tagged kind name =>
      obtain ⟨lowered, admitted⟩ := surfaceable
      cases kind with
      | function =>
          simp only [TaggedKind.admits, Bool.and_eq_true, Bool.not_eq_true'] at admitted
          have atQuery := atStatement.below List.mem_cons_self
          have atBody : OccursIn [surfacing (.tagged .function name)] []
              (.queryBody (.select (.tableFunction (.function name []) false .null)
                [.constant "1"] .null .null .null [])) :=
            atQuery.below (by simp [cteParts, bindCtes])
          have atFunction := atBody.below List.mem_cons_self
          refine ⟨[], _, .function name, atFunction, ?_, ?_⟩
          · simp [functionNameEvents, Expr.functionName, lowered.1]
          · rw [Event.target, functionObjectOf, if_neg lowered.1, lowered.lowerAscii_eq,
              if_neg (Bool.eq_false_iff.mp admitted.1.1.1)]
            rfl
      | schema =>
          refine ⟨[], _, .namedObject ("schema:" ++ lowerAscii name), atStatement, ?_, ?_⟩
          · simp [surfacing, lowered.1]
          · exact congrArg (fun name => some (Target.tagged .schema name)) lowered.lowerAscii_eq
      | catalog =>
          refine ⟨[], _, .namedObject ("catalog:" ++ lowerAscii name), atStatement, ?_, ?_⟩
          · simp [surfacing, lowered.1, lowered.lowerAscii_eq]
          · exact congrArg (fun name => some (Target.tagged .catalog name)) lowered.lowerAscii_eq

/-! ## One object, one string -/

/-- Of the targets that requests surface, exactly those with plain names share their
string with no other one. -/
theorem unambiguous_iff_plain
    (statements : List Statement)
    (target : Target)
    (safe : (inspectStatements statements).isUnsafe = false)
    (surfaces : Surfaces statements target) :
    Unambiguous target ↔ target.Plain := by
  have surfaceable := surfaces.surfaceable (accepted_of_isUnsafe_eq_false safe)
  constructor
  · intro unambiguous
    refine surfaceable.plain_of_unique ?_
    intro other otherSurfaceable same
    exact unambiguous [surfacing other] other otherSurfaceable.isUnsafe_surfacing
      otherSurfaceable.surfaces_surfacing same
  · intro plain later other laterSafe otherSurfaces same
    have otherSurfaceable :=
      otherSurfaces.surfaceable (accepted_of_isUnsafe_eq_false laterSafe)
    exact plain.unique otherSurfaceable same

/-- `DROP TABLE orders`. -/
theorem unambiguous_iff_plain_sample :
    Unambiguous (.relation "main" "orders") ↔ (Target.relation "main" "orders").Plain :=
  unambiguous_iff_plain [.drop true { name := "orders" }] _ (by decide)
    ⟨[], _, .object { name := "orders" }, occursIn_of_mem List.mem_cons_self,
      by simp [namedTargetEvents], by decide⟩

/-- `INSERT INTO "fn:a".b SELECT 1 FROM "a.b"()`. -/
def insertsFromFunction : Statement :=
  .insert [] (.mk { schema := "fn:a", name := "b" }
    (.node [] [] (.select (.tableFunction (.function "a.b" []) false .null)
      [.constant "1"] .null .null .null []))
    .null [] .null .null)

/-- A table and a table function that one statement names have one string. -/
theorem insertsFromFunction_ambiguous :
    (inspectStatements [insertsFromFunction]).isUnsafe = false ∧
      Surfaces [insertsFromFunction] (.relation "fn:a" "b") ∧
      Surfaces [insertsFromFunction] (.tagged .function "a.b") ∧
      (Target.relation "fn:a" "b").object = (Target.tagged .function "a.b").object := by
  have atStatement : OccursIn [insertsFromFunction] [] (.statement insertsFromFunction) :=
    occursIn_of_mem List.mem_cons_self
  have atInsert := atStatement.below (List.mem_append_right _ List.mem_cons_self)
  have atQuery := atInsert.below (List.mem_cons_of_mem _ List.mem_cons_self)
  have atBody := atQuery.below (List.mem_append_right _ List.mem_cons_self)
  have atFunction := atBody.below List.mem_cons_self
  refine ⟨by decide, ⟨_, _, .object { schema := "fn:a", name := "b" }, atInsert, ?_, ?_⟩,
    ⟨_, _, .function "a.b", atFunction, ?_, ?_⟩, by decide⟩
  · exact List.mem_cons_self
  · decide
  · simp [functionNameEvents, Expr.functionName]
  · decide

end Sql
end QuackOauth
