import TypedTemplate.Proofs.CanonicalOrder
import TypedTemplate.Proofs.LegalKeywords
import TypedTemplate.Proofs.UsableOperands

/-!
# Judged data

Data that is held against the schema of a template is accepted, or it is reported what it violates,
unless the check comes to a number that its step does not measure or to a text for a pattern that
cannot be read. Keywords are checked in the order of their names and a check ends with the first
violation, so it comes there only if all else that the schema states beside keeps the value.
-/
namespace TypedTemplate

theorem Violation.toFault_missing (location : List DataStep) (name : Text) (names : List Text) :
    Violation.toFault ⟨location, .missing (.text name) (names.map .text)⟩ =
      .violation (dataPath location ++ absentPlace (.text name))
        (Breach.printedText name ++ " is a required property") := by
  have hnested : (names.map Value.text).any Value.isNested = false := by
    rw [List.any_map, List.any_eq_false]
    exact fun _ _ => nofun
  simp only [toFault, hnested]
  rfl

namespace Report

section each

variable {α : Type} {check : α → Report} {l : List α} {f : Fault}

end each
end Report

namespace Validate

end Validate

namespace Assertion

variable {f : Fault}

end Assertion

namespace Validate

theorem mem_canonicalOperands_iff {follow : Follow} {fields : Keyed Value}
    {entry : Text × Operand} :
    entry ∈ canonicalOperands follow fields ↔ ∃ name w, (name, w) ∈ fields ∧
      entry = (name, operandOf follow (Canonical.canonicalizeField name w)) := by
  rw [canonicalOperands, operandsOf_eq_map,
    ((Canonical.sortFields_perm fields).map _).mem_iff, List.map_map, List.mem_map]
  constructor
  · rintro ⟨⟨name, w⟩, hm, rfl⟩
    exact ⟨name, w, hm, rfl⟩
  · rintro ⟨name, w, hm, rfl⟩
    exact ⟨(name, w), hm, rfl⟩

theorem applyField_leaf {l : Leaf} (h : l.IsProper) {name : Text} {w : Value}
    (hw : Keyed.get? name l.keywordFields = some w) (v : Value) :
    (∃ c : Constraint, name = c.kind.schemaKeyword ∧
      Keyed.get? c.kind.schemaKeyword l.keywords = some c.operand ∧
      ∀ follow siblings here, applyField follow siblings name
        (operandOf follow (Canonical.canonicalizeField name w)) here v =
          c.kind.check c.operand v) ∨
    (name = "type".toList ∧ ∀ follow siblings here, applyField follow siblings name
        (operandOf follow (Canonical.canonicalizeField name w)) here v =
          Assertion.type (typeOperand l.type l.nullable) v) ∨
    ∃ format, Keywords.format? l.type = some format ∧ name = "format".toList ∧
      ∀ follow siblings here, applyField follow siblings name
        (operandOf follow (Canonical.canonicalizeField name w)) here v =
          Assertion.format (.text format) v := by
  rw [Leaf.get?_keywordFields h] at hw
  rcases Option.or_eq_some_iff.1 hw with hw | ⟨-, hw⟩
  · obtain ⟨c, rfl, rfl⟩ := h.ofConstraint _ _ (Keyed.mem_of_get? hw)
    refine .inl ⟨c, rfl, hw, fun follow siblings here => ?_⟩
    rw [canonicalizeField_operand, applyField_constraint]
  · rcases List.mem_cons.1 (Keyed.mem_of_get? hw) with he | hm
    · obtain ⟨rfl, rfl⟩ := Prod.mk.inj he
      refine .inr (.inl ⟨rfl, fun follow siblings here => ?_⟩)
      refine (congrArg (fun w => applyField follow _ _ (operandOf follow w) here v)
        (canonicalizeField_typeOperand l.type l.nullable)).trans ?_
      rw [applyField_type]
    · obtain ⟨format, hf, he⟩ := List.mem_map.1 hm
      obtain ⟨rfl, rfl⟩ := Prod.mk.inj he
      exact .inr (.inr ⟨format, Option.mem_toList.1 hf, rfl, fun follow siblings here =>
        applyField_format follow siblings (.text format) here v⟩)

end Validate

namespace JsonSchema

/-- Whether a value keeps what the schema of a leaf states beside a constraint: the format of its
type and the other constraints. The type itself is checked last. -/
structure KeepsBeside (sub : Value) (kind : ConstraintKind) (v : Value) : Prop where
  format : ∀ f, sub.field? "format" = some (.text f) → Assertion.format (.text f) v = .empty
  constraints : ∀ (other : ConstraintKind) operand, other ≠ kind →
    sub.field? other.schemaKeyword = some operand → other.check operand v = .empty

/-- What the schema of a leaf cannot judge: a number that its step does not measure and a text for
a pattern that cannot be read, if all that is stated beside keeps it. -/
inductive CannotJudge (sub : Value) : Value → Prop
  | step {n step : Number} : sub.field? "multipleOf" = some (.number step) →
      ¬n.IsMeasuredBy step → KeepsBeside sub .step (.number n) → CannotJudge sub (.number n)
  | pattern {t source : Text} : sub.field? "pattern" = some (.text source) →
      (∀ p, Pattern.read source ≠ .ok p) → KeepsBeside sub .pattern (.text t) →
      CannotJudge sub (.text t)

section leaf

variable {follow : Follow} {a : Semantics} {l : Leaf} {siblings : Keyed Operand}
variable {here : Standpoint} {v : Value} {kind : ConstraintKind}

/-- What comes before a constraint is kept by what keeps all that stands beside it. -/
theorem KeepsBeside.before (h : l.IsProper) (hk : KeepsBeside (ofNode (.leaf a l)) kind v)
    (htype : Text.le kind.schemaKeyword "type" = true) {other : Text} {w : Value}
    (hw : Keyed.get? other l.keywordFields = some w)
    (hlt : Text.le kind.schemaKeyword other = false) :
    Validate.applyField follow siblings other
      (Validate.operandOf follow (Canonical.canonicalizeField other w)) here v = .empty := by
  rcases Validate.applyField_leaf h hw v with
    ⟨c, rfl, hc, happly⟩ | ⟨rfl, happly⟩ | ⟨format, hformat, rfl, happly⟩
  · rw [happly]
    refine hk.constraints c.kind c.operand ?_ ((field?_constraint_ofNode h c.kind).trans hc)
    rintro rfl
    rcases Text.le_total c.kind.schemaKeyword c.kind.schemaKeyword with hle | hle <;>
      exact absurd (hlt.symm.trans hle) nofun
  · exact absurd (hlt.symm.trans htype) nofun
  · rw [happly]
    exact hk.format format ((field?_format_ofNode h).trans (congrArg _ hformat))

end leaf
end JsonSchema

namespace Validate

variable {follow : Follow} {here : Standpoint} {v : Value} {f : Fault}

theorem applyField_typeText {type : Text} {b : Bool} (h : Assertion.hasType type v = .ok b)
    (follow : Follow) (siblings : Keyed Operand) (here : Standpoint) :
    applyField follow siblings "type"
        (operandOf follow (Canonical.canonicalizeField "type" (.text type))) here v =
      .require b (.type v [.text type]) := by
  have hs : Assertion.hasSomeType [.text type] v = .ok b := by
    rw [hasSomeType_cons h]
    cases b <;> rfl
  exact (applyField_type follow siblings (.text type) here v).trans (type_eq_require rfl hs)

end Validate

/-- Data that holds nothing but a part at a position. -/
def Value.holding (part : Value) : SchemaPosition → Value
  | [] => part
  | .property name :: rest => .object [(name, holding part rest)]
  | .items :: rest => .list [holding part rest]

namespace SchemaNode

variable {follow : Follow} {here : Standpoint} {node : SchemaNode} {f : Fault}

end SchemaNode

namespace JsonSchema

theorem CannotJudge.congr {sub other v : Value}
    (h : ∀ key : Text, key ≠ "$schema".toList → sub.field? key = other.field? key)
    (hv : CannotJudge sub v) : CannotJudge other v := by
  have hbeside : ∀ {kind : ConstraintKind} {w : Value}, KeepsBeside sub kind w →
      KeepsBeside other kind w := by
    intro kind w hk
    refine ⟨fun f hf => hk.format f ((h _ (by decide)).trans hf), fun k operand hne ho => ?_⟩
    have hkey : k.schemaKeyword ≠ "$schema".toList := by cases k <;> decide
    exact hk.constraints k operand hne ((h _ hkey).trans ho)
  cases hv with
  | step hstep hnot hk => exact .step ((h _ (by decide)).symm.trans hstep) hnot (hbeside hk)
  | pattern hpattern hnot hk =>
    exact .pattern ((h _ (by decide)).symm.trans hpattern) hnot (hbeside hk)

end JsonSchema

end TypedTemplate
