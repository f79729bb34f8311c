import Mathlib.Data.List.Forall2
import TypedTemplate.Proofs.NestedScopes
import TypedTemplate.Proofs.NullableLeaves

/-!
# Agreeing data

Data agree over a schema when they hold the same at every position that it describes: the same
value where it has a leaf, as many items where it has an array, and an object or none where it
has an object. What is absent counts as null. What the schema does not describe may differ.
-/
namespace TypedTemplate

namespace Value

/-- The value at a position; null where there is no such part. -/
def reach (position : List DataStep) (v : Value) : Value := (at? position v).getD .null

/-- How many items a list has. -/
def length? : Value → Option Nat
  | .list items => some items.length
  | _ => none

theorem length?_eq_some_iff {v : Value} {n : Nat} :
    v.length? = some n ↔ ∃ items, v = .list items ∧ items.length = n := by
  cases v <;> simp [length?]

theorem length?_eq_none_iff {v : Value} : v.length? = none ↔ ∀ items, v ≠ .list items := by
  cases v <;> simp [length?]

def isObject : Value → Bool
  | .object _ => true
  | _ => false

theorem reach_null (position : List DataStep) : reach position .null = .null := by
  cases position with
  | nil => rfl
  | cons step rest => rcases step with name | (n | n) <;> rfl

theorem reach_cons (step : DataStep) (rest : List DataStep) (v : Value) :
    reach (step :: rest) v = reach rest ((part? step v).getD .null) := by
  rw [reach, at?_cons]
  cases part? step v with
  | none => exact (reach_null rest).symm
  | some w => rfl

theorem part?_key (name : Text) (v : Value) : part? (.key name) v = v.field? name := by
  cases v <;> rfl

theorem getD_part?_index (index : Nat) (v : Value) :
    (part? (.index index) v).getD .null = v.item index := by
  cases v <;> rfl

end Value

namespace SchemaKind

/-- What two values have in common that agree at a position of some kind. -/
def Same : SchemaKind → Value → Value → Prop
  | .leaf, v, w => v = w
  | .array, v, w => v.length? = w.length?
  | .object, v, w => v.isObject = w.isObject

theorem Same.refl (kind : SchemaKind) (v : Value) : kind.Same v v := by
  cases kind <;> rfl

end SchemaKind

namespace SchemaNode

/-- Two values agree wherever a node describes them. -/
def SameOver (node : SchemaNode) (v w : Value) : Prop :=
  ∀ position found, node.at? (position.map DataStep.schemaStep) = some found →
    found.kind.Same (v.reach position) (w.reach position)

namespace SameOver

variable {node found child : SchemaNode} {v w : Value}

theorem refl (node : SchemaNode) (v : Value) : node.SameOver v v :=
  fun position found _ => .refl found.kind (v.reach position)

theorem same (h : node.SameOver v w) : node.kind.Same v w := h [] node rfl

theorem part (h : node.SameOver v w) (step : DataStep)
    (hc : node.child? step.schemaStep = some child) :
    child.SameOver ((v.part? step).getD .null) ((w.part? step).getD .null) := by
  intro position found hf
  rw [← Value.reach_cons, ← Value.reach_cons]
  apply h (step :: position)
  rw [List.map_cons, at?_cons, hc]
  exact hf

theorem field (h : node.SameOver v w) {name : Text}
    (hc : node.child? (.property name) = some child) :
    child.SameOver ((v.field? name).getD .null) ((w.field? name).getD .null) := by
  rw [← Value.part?_key, ← Value.part?_key]
  exact h.part (.key name) hc

theorem follow (h : node.SameOver v w) {keys : List Text}
    (hf : node.at? (keys.map .property) = some found) :
    found.SameOver (DynamicScope.follow v keys) (DynamicScope.follow w keys) := by
  induction keys generalizing node v w with
  | nil =>
    obtain rfl := Option.some.inj hf
    exact h
  | cons key keys ih =>
    obtain ⟨child, hc, hf⟩ := Option.bind_eq_some_iff.1 hf
    rw [DynamicScope.follow_cons, DynamicScope.follow_cons]
    exact ih (h.field hc) hf

theorem item {a : Semantics} {items : SchemaNode} (h : (SchemaNode.array a items).SameOver v w)
    (index : Nat) : items.SameOver (v.item index) (w.item index) := by
  rw [← Value.getD_part?_index, ← Value.getD_part?_index]
  exact h.part (.index index) rfl

theorem lists {a : Semantics} {items : SchemaNode} (h : (SchemaNode.array a items).SameOver v w) :
    (∃ vs ws, v = .list vs ∧ w = .list ws ∧ List.Forall₂ items.SameOver vs ws) ∨
      ((∀ vs, v ≠ .list vs) ∧ ∀ ws, w ≠ .list ws) := by
  have hlength : v.length? = w.length? := h.same
  cases hv : v.length? with
  | none =>
    rw [hv] at hlength
    exact .inr ⟨Value.length?_eq_none_iff.1 hv, Value.length?_eq_none_iff.1 hlength.symm⟩
  | some n =>
    rw [hv] at hlength
    obtain ⟨vs, rfl, hvs⟩ := Value.length?_eq_some_iff.1 hv
    obtain ⟨ws, rfl, hws⟩ := Value.length?_eq_some_iff.1 hlength.symm
    refine .inl ⟨vs, ws, rfl, rfl, List.forall₂_iff_get.2 ⟨hvs.trans hws.symm, ?_⟩⟩
    intro index hiv hiw
    have hitem := h.item index
    simpa [Value.item, hiv, hiw] using hitem

end SameOver
end SchemaNode

namespace JsonSchema

/-- The kind of position that a schema describes, by the type that it states. -/
def kind (schema : Value) : SchemaKind :=
  if schema.field? "type" = some (.text "array") then .array
  else if schema.field? "type" = some (.text "object") then .object
  else .leaf

/-- Two values agree on everything that a schema describes. -/
def Agree (schema first second : Value) : Prop :=
  ∀ position sub, at? (position.map DataStep.schemaStep) schema = some sub →
    (kind sub).Same (first.reach position) (second.reach position)

theorem kind_of_typeOf {schema : Value} {node : SchemaNode}
    (h : schema.field? "type" = some (typeOf node)) : kind schema = node.kind := by
  rw [kind, h]
  cases node with
  | array a items => rfl
  | object a properties => rfl
  | leaf a l =>
    obtain ⟨type, nullable, keywords, conditional⟩ := l
    cases type <;> cases nullable <;> rfl

theorem Agree.sameOver {tree : SchemaNode} (h : tree.Proper) {first second : Value}
    (ha : Agree (ofRoot tree) first second) : tree.SameOver first second := by
  intro position found hf
  obtain ⟨sub, hsub, hfield⟩ := exists_at?_ofRoot h hf
  have hkind : kind sub = found.kind :=
    kind_of_typeOf ((hfield "type" (by decide)).trans (field?_type_ofNode (proper_at? h hf)))
  exact hkind ▸ ha position sub hsub

theorem agree_set {schema : Value} (hk : kind schema = .object) {key : Text}
    (hn : part? (.property key) schema = none) (fields : Keyed Value) (v : Value) :
    Agree schema (.object fields) (.object (Keyed.set key v fields)) := by
  intro position sub hs
  cases position with
  | nil =>
    obtain rfl := Option.some.inj hs
    rw [hk]
    rfl
  | cons step rest =>
    have hpart : Value.part? step (.object (Keyed.set key v fields)) =
        Value.part? step (.object fields) := by
      cases step with
      | index n => rcases n with n | n <;> rfl
      | key name =>
        have hne : name ≠ key := by
          rintro rfl
          rw [List.map_cons, at?_cons, DataStep.schemaStep, hn] at hs
          cases hs
        exact Keyed.get?_set_ne v fields hne
    rw [Value.reach_cons, Value.reach_cons, hpart]
    exact .refl _ _

end JsonSchema
end TypedTemplate
