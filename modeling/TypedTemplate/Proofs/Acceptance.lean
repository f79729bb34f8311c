import TypedTemplate.Proofs.CompiledSchemas
import TypedTemplate.Schema.Validate

/-!
# Acceptance

Data is accepted by the schema of a tree exactly when it fits the tree: a leaf admits values of
its type that keep its constraints, an array the lists all of whose items fit, an object the
objects that have what is required and whose properties fit where they are present. Validation
goes keyword by keyword, so this is shown keyword by keyword, and by induction on the tree.
-/
namespace TypedTemplate

/-- What a constraint asks of a value, by its kind and what it compares with. -/
def ConstraintKind.check : ConstraintKind → Value → Value → Report
  | .choices => Assertion.enum
  | .minimum => Assertion.minimum
  | .maximum => Assertion.maximum
  | .exclusiveMinimum => Assertion.exclusiveMinimum
  | .exclusiveMaximum => Assertion.exclusiveMaximum
  | .step => Assertion.multipleOf
  | .pattern => Assertion.pattern
  | .fixed => Assertion.const
  | .minLength => Assertion.minLength
  | .maxLength => Assertion.maxLength

/-- A leaf admits a value of its type, or null if it is nullable, that has the format of the type
and keeps every constraint. -/
structure Leaf.Admits (l : Leaf) (v : Value) : Prop where
  type : Assertion.hasType (Keywords.jsonType l.type) v = .ok true ∨
    (l.nullable = true ∧ v = .null)
  format : ∀ f, Keywords.format? l.type = some f → Assertion.format (.text f) v = .empty
  constraints : ∀ (k : ConstraintKind) operand,
    Keyed.get? k.schemaKeyword l.keywords = some operand → k.check operand v = .empty

namespace SchemaNode

/-- Data that a tree describes. Other properties than those of the tree may be anything. -/
inductive Fits : SchemaNode → Value → Prop
  | leaf {a : Semantics} {l : Leaf} {v : Value} : l.Admits v → Fits (.leaf a l) v
  | array {a : Semantics} {items : SchemaNode} {vs : List Value} :
      (∀ v ∈ vs, Fits items v) → Fits (.array a items) (.list vs)
  | object {a : Semantics} {properties : Keyed SchemaNode} {fields : Keyed Value} :
      (∀ name node, (name, node) ∈ properties → node.isRequired = true →
        Keyed.has name fields = true) →
      (∀ name node v, (name, node) ∈ properties → Keyed.get? name fields = some v →
        Fits node v) →
      Fits (.object a properties) (.object fields)

end SchemaNode

namespace Validate

theorem schema_subschema (follow : Follow) (v : Value) : (subschema follow v).schema = v := by
  cases v <;> rfl

def operandOf (follow : Follow) (v : Value) : Operand :=
  ⟨subschema follow v, eachOf follow v, namedOf follow v⟩

theorem operandsOf_eq_map (follow : Follow) (fields : Keyed Value) :
    operandsOf follow fields = fields.map fun e => (e.1, operandOf follow e.2) := by
  induction fields with
  | nil => rfl
  | cons entry rest ih =>
    rw [operandsOf, ih]
    rfl

theorem tableOf_eq_map (follow : Follow) (fields : Keyed Value) :
    tableOf follow fields = fields.map fun e => (e.1, subschema follow e.2) := by
  induction fields with
  | nil => rfl
  | cons entry rest ih =>
    rw [tableOf, ih]
    rfl

def canonicalOperands (follow : Follow) (fields : Keyed Value) : Keyed Operand :=
  operandsOf follow (Canonical.sortFields (Canonical.canonicalizeFields fields))

theorem report_canonicalize_eq_empty_iff {follow : Follow} {fields : Keyed Value}
    {here : Standpoint} {v : Value} :
    (subschema follow (Canonical.canonicalize (.object fields))).report here v = .empty ↔
      ∀ name w, (name, w) ∈ fields →
        applyField follow (canonicalOperands follow fields) name
          (operandOf follow (Canonical.canonicalizeField name w)) here v = .empty := by
  rw [Canonical.canonicalize, report_object, applyAll, Report.each_eq_empty_iff]
  constructor
  · intro h name w hm
    refine h (name, _) ?_
    rw [operandsOf_eq_map]
    refine List.mem_map.2 ⟨(name, Canonical.canonicalizeField name w), ?_, rfl⟩
    rw [(Canonical.sortFields_perm fields).mem_iff]
    exact List.mem_map.2 ⟨(name, w), hm, rfl⟩
  · rintro h ⟨name, operand⟩ hm
    rw [operandsOf_eq_map] at hm
    obtain ⟨⟨key, w'⟩, hm, he⟩ := List.mem_map.1 hm
    rw [(Canonical.sortFields_perm fields).mem_iff] at hm
    obtain ⟨⟨key', w⟩, hfield, he'⟩ := List.mem_map.1 hm
    obtain ⟨rfl, rfl⟩ := Prod.mk.inj he'
    obtain ⟨rfl, rfl⟩ := Prod.mk.inj he
    exact h key' w hfield

theorem get?_canonicalOperands {follow : Follow} {fields : Keyed Value} {name : Text}
    (h : Keyed.get? name fields = none) :
    Keyed.get? name (canonicalOperands follow fields) = none := by
  rw [Keyed.get?_eq_none_iff] at h ⊢
  intro hm
  apply h
  rw [canonicalOperands, operandsOf_eq_map, Keyed.keys, List.map_map] at hm
  obtain ⟨e, he, rfl⟩ := List.mem_map.1 hm
  rw [(Canonical.sortFields_perm fields).mem_iff] at he
  obtain ⟨e', he', rfl⟩ := List.mem_map.1 he
  exact List.mem_map.2 ⟨e', he', rfl⟩

theorem applyField_eq_empty {follow : Follow} {siblings : Keyed Operand} {name : Text}
    (h : Keyword.ofName? name = none) (operand : Operand) (here : Standpoint) (v : Value) :
    applyField follow siblings name operand here v = .empty := by
  rw [applyField, h]

theorem ofName?_of_mem_annotationNames {name : Text} (h : name ∈ Keywords.annotationNames) :
    Keyword.ofName? name = none := by
  have hall : ∀ name ∈ Keywords.annotationNames, Keyword.ofName? name = none := by decide
  exact hall name h

theorem report_ofNode_eq_empty_iff {follow : Follow} {node : SchemaNode} (h : node.Proper)
    {here : Standpoint} {v : Value} :
    (subschema follow (JsonSchema.ofNode node)).report here v = .empty ↔
      ∀ name w, Keyed.get? name node.statedFields = some w →
        applyField follow (canonicalOperands follow node.fields) name
          (operandOf follow (Canonical.canonicalizeField name w)) here v = .empty := by
  rw [JsonSchema.ofNode, SchemaNode.toSchema_eq, report_canonicalize_eq_empty_iff]
  constructor
  · intro hall name w hw
    by_cases ha : name ∈ Keywords.annotationNames
    · exact applyField_eq_empty (ofName?_of_mem_annotationNames ha) _ _ _
    · rw [← SchemaNode.get?_fields node ha] at hw
      exact hall name w (Keyed.mem_of_get? hw)
  · intro hall name w hw
    by_cases ha : name ∈ Keywords.annotationNames
    · exact applyField_eq_empty (ofName?_of_mem_annotationNames ha) _ _ _
    · have hget := Keyed.get?_of_mem (SchemaNode.nodup_keys_fields h) hw
      rw [SchemaNode.get?_fields node ha] at hget
      exact hall name w hget

theorem held_ofNode {follow : Follow} {node : SchemaNode} (h : node.Proper) (here : Standpoint)
    (v : Value) :
    (subschema follow (JsonSchema.ofNode node)).held here v =
      (subschema follow (JsonSchema.ofNode node)).report here v := by
  have hid : (JsonSchema.ofNode node).field? "$id" = none := by
    rw [JsonSchema.field?_ofNode h, SchemaNode.get?_fields_eq_none h (by decide)]
    rfl
  rw [Subschema.held, schema_subschema, Standpoint.enter]
  rw [JsonSchema.ofNode, SchemaNode.toSchema_eq, Canonical.canonicalize] at hid ⊢
  have hidentifier : ∀ fields : Keyed Value, (Value.object fields).field? "$id" = none →
      identifier? (.object fields) = .ok none := by
    intro fields hf
    rw [Value.field?] at hf
    rw [identifier?, hf]
  rw [hidentifier _ hid]
  rfl

theorem descend_ofNode {follow : Follow} {node : SchemaNode} (h : node.Proper)
    (here : Standpoint) (step : DataStep) (v : Value) :
    (subschema follow (JsonSchema.ofNode node)).descend here step v =
      ((subschema follow (JsonSchema.ofNode node)).report here v).inside step := by
  rw [← held_ofNode h, Subschema.descend, schema_subschema, JsonSchema.ofNode,
    SchemaNode.toSchema_eq]
  rfl

theorem descend_ofNode_eq_empty_iff {follow : Follow} {node : SchemaNode} (h : node.Proper)
    {here : Standpoint} {step : DataStep} {v : Value} :
    (subschema follow (JsonSchema.ofNode node)).descend here step v = .empty ↔
      (subschema follow (JsonSchema.ofNode node)).report here v = .empty := by
  rw [descend_ofNode h, Report.inside_eq_empty_iff]

theorem exists_hasType (type : DataType) (v : Value) :
    ∃ b, Assertion.hasType (Keywords.jsonType type) v = .ok b := by
  cases type <;> exact ⟨_, rfl⟩

theorem hasSomeType_cons {type : Text} {v : Value} {b : Bool}
    (h : Assertion.hasType type v = .ok b) (rest : List Value) :
    Assertion.hasSomeType (.text type :: rest) v =
      if b then .ok true else Assertion.hasSomeType rest v := by
  rw [Assertion.hasSomeType, h]
  cases b <;> rfl

theorem type_eq_require {operand v : Value} {types : List Value} {b : Bool}
    (hn : Assertion.namedTypes operand = .ok types)
    (hs : Assertion.hasSomeType types v = .ok b) :
    Assertion.type operand v = .require b (.type v types) := by
  simp only [Assertion.type, bind, Except.bind, hn, hs]
  rfl

theorem type_text_eq_empty_iff {type : Text} {v : Value} {b : Bool}
    (h : Assertion.hasType type v = .ok b) :
    Assertion.type (.text type) v = .empty ↔ b = true := by
  have hs : Assertion.hasSomeType [.text type] v = .ok b := by
    rw [hasSomeType_cons h]
    cases b <;> rfl
  rw [type_eq_require rfl hs, Report.require_eq_empty_iff]

def typeOperand (type : DataType) (nullable : Bool) : Value :=
  if nullable then .list [.text (Keywords.jsonType type), .text "null"]
  else .text (Keywords.jsonType type)

theorem exists_type_eq_require {type : DataType} {v : Value} {b : Bool} (nullable : Bool)
    (h : Assertion.hasType (Keywords.jsonType type) v = .ok b) :
    ∃ types, Assertion.type (typeOperand type nullable) v =
      .require (b || (nullable && v == .null)) (.type v types) := by
  cases nullable with
  | false =>
    have hs : Assertion.hasSomeType [.text (Keywords.jsonType type)] v = .ok b := by
      rw [hasSomeType_cons h]
      cases b <;> rfl
    rw [Bool.false_and, Bool.or_false]
    exact ⟨_, type_eq_require rfl hs⟩
  | true =>
    have hnull : Assertion.hasType "null" v = .ok (v == .null) := rfl
    have hs : Assertion.hasSomeType [.text (Keywords.jsonType type), .text "null"] v =
        .ok (b || v == .null) := by
      rw [hasSomeType_cons h, hasSomeType_cons hnull]
      cases b <;> cases v == Value.null <;> rfl
    rw [Bool.true_and]
    exact ⟨_, type_eq_require rfl hs⟩

theorem type_eq_empty_iff (type : DataType) (nullable : Bool) (v : Value) :
    Assertion.type (typeOperand type nullable) v = .empty ↔
      Assertion.hasType (Keywords.jsonType type) v = .ok true ∨ (nullable = true ∧ v = .null) := by
  obtain ⟨b, hb⟩ := exists_hasType type v
  obtain ⟨types, hrequire⟩ := exists_type_eq_require nullable hb
  rw [hrequire, Report.require_eq_empty_iff, hb]
  simp

theorem applyField_name (follow : Follow) (siblings : Keyed Operand) (keyword : Keyword)
    (operand : Operand) (here : Standpoint) (v : Value) :
    applyField follow siblings keyword.name operand here v =
      apply follow siblings operand keyword here v := by
  rw [applyField, Keyword.ofName?_name]

theorem applyField_constraint (follow : Follow) (siblings : Keyed Operand) (k : ConstraintKind)
    (w : Value) (here : Standpoint) (v : Value) :
    applyField follow siblings k.schemaKeyword (operandOf follow w) here v = k.check w v := by
  have hw : (operandOf follow w).whole.schema = w := schema_subschema follow w
  have hk : ∃ keyword : Keyword, k.schemaKeyword = keyword.name ∧
      apply follow siblings (operandOf follow w) keyword here v = k.check w v := by
    cases k with
    | choices => exact ⟨.enum, rfl, by rw [apply, hw, ConstraintKind.check]⟩
    | minimum => exact ⟨.minimum, rfl, by rw [apply, hw, ConstraintKind.check]⟩
    | maximum => exact ⟨.maximum, rfl, by rw [apply, hw, ConstraintKind.check]⟩
    | exclusiveMinimum => exact ⟨.exclusiveMinimum, rfl, by rw [apply, hw, ConstraintKind.check]⟩
    | exclusiveMaximum => exact ⟨.exclusiveMaximum, rfl, by rw [apply, hw, ConstraintKind.check]⟩
    | step => exact ⟨.multipleOf, rfl, by rw [apply, hw, ConstraintKind.check]⟩
    | pattern => exact ⟨.pattern, rfl, by rw [apply, hw, ConstraintKind.check]⟩
    | fixed => exact ⟨.const, rfl, by rw [apply, hw, ConstraintKind.check]⟩
    | minLength => exact ⟨.minLength, rfl, by rw [apply, hw, ConstraintKind.check]⟩
    | maxLength => exact ⟨.maxLength, rfl, by rw [apply, hw, ConstraintKind.check]⟩
  obtain ⟨keyword, hname, happly⟩ := hk
  rw [hname, applyField_name, happly]

theorem applyField_type (follow : Follow) (siblings : Keyed Operand) (w : Value)
    (here : Standpoint) (v : Value) :
    applyField follow siblings "type" (operandOf follow w) here v = Assertion.type w v := by
  refine (applyField_name follow siblings .type _ here v).trans ?_
  rw [apply, operandOf, schema_subschema]

theorem applyField_format (follow : Follow) (siblings : Keyed Operand) (w : Value)
    (here : Standpoint) (v : Value) :
    applyField follow siblings "format" (operandOf follow w) here v = Assertion.format w v := by
  refine (applyField_name follow siblings .format _ here v).trans ?_
  rw [apply, operandOf, schema_subschema]

theorem canonicalizeItems_map_literals (values : List Literal) :
    Canonical.canonicalizeItems (values.map Literal.toValue) = values.map Literal.toValue := by
  induction values with
  | nil => rfl
  | cons value rest ih =>
    rw [List.map_cons, Canonical.canonicalizeItems, ih]
    cases value <;> rfl

/-- What constraints compare with is in canonical form. -/
theorem canonicalizeField_operand (c : Constraint) :
    Canonical.canonicalizeField c.kind.schemaKeyword c.operand = c.operand := by
  cases c with
  | choices values =>
    have hne : ("enum" : Text) ≠ "required".toList := by decide
    have hkey : (Constraint.choices values).kind.schemaKeyword = "enum".toList := rfl
    rw [hkey, Constraint.operand, Canonical.canonicalizeField, if_neg hne,
      canonicalizeItems_map_literals]
  | fixed value => cases value <;> rfl
  | bound b n => rfl
  | pattern t => rfl
  | minLength n => rfl
  | maxLength n => rfl

theorem canonicalizeField_typeOperand (type : DataType) (nullable : Bool) :
    Canonical.canonicalizeField "type" (typeOperand type nullable) =
      typeOperand type nullable := by
  have hne : ("type" : Text) ≠ "required".toList := by decide
  cases nullable with
  | false => rfl
  | true =>
    rw [typeOperand, if_pos rfl, Canonical.canonicalizeField, if_neg hne]
    rfl

theorem report_leaf_eq_empty_iff {follow : Follow} {a : Semantics} {l : Leaf} (h : l.IsProper)
    {here : Standpoint} {v : Value} :
    (subschema follow (JsonSchema.ofNode (.leaf a l))).report here v = .empty ↔ l.Admits v := by
  rw [report_ofNode_eq_empty_iff (.leaf h), SchemaNode.statedFields]
  simp only [Leaf.get?_keywordFields h]
  have hother : ∀ name : Text,
      name ∈ ([("type" : Text), "format", "properties", "items"] : List Text) →
      Keyed.get? name l.keywords = none := fun name hn =>
    Leaf.get?_keywords_eq_none h (JsonSchema.schemaKeyword_ne hn)
  constructor
  · intro hall
    refine ⟨?_, ?_, ?_⟩
    · have htype := hall "type" (typeOperand l.type l.nullable)
        (by rw [hother "type" (by simp)]; rfl)
      rw [canonicalizeField_typeOperand, applyField_type] at htype
      exact (type_eq_empty_iff _ _ _).1 htype
    · intro f hf
      have hformat := hall "format" (.text f) (by
        rw [hother "format" (by simp), Keywords.ofType, hf]
        rfl)
      rwa [applyField_format] at hformat
    · intro k operand hk
      have hkept := hall k.schemaKeyword operand (by rw [hk]; rfl)
      obtain ⟨c, hc, rfl⟩ := h.ofConstraint _ _ (Keyed.mem_of_get? hk)
      rwa [hc, canonicalizeField_operand, ← hc, applyField_constraint] at hkept
  · intro hadmits name w hw
    rcases Option.or_eq_some_iff.1 hw with hw | ⟨-, hw⟩
    · obtain ⟨c, rfl, rfl⟩ := h.ofConstraint _ _ (Keyed.mem_of_get? hw)
      rw [canonicalizeField_operand, applyField_constraint]
      exact hadmits.constraints c.kind _ hw
    · rcases List.mem_cons.1 (Keyed.mem_of_get? hw) with he | hm
      · obtain ⟨rfl, rfl⟩ := Prod.mk.inj he
        refine (congrArg (fun w => applyField follow _ _ (operandOf follow w) here v)
          (canonicalizeField_typeOperand l.type l.nullable)).trans ?_
        rw [applyField_type]
        exact (type_eq_empty_iff _ _ _).2 hadmits.type
      · obtain ⟨f, hf, he⟩ := List.mem_map.1 hm
        obtain ⟨rfl, rfl⟩ := Prod.mk.inj he
        refine (applyField_format follow _ (.text f) here v).trans ?_
        exact hadmits.format f (Option.mem_toList.1 hf)

theorem type_array_eq_empty_iff (v : Value) :
    Assertion.type (.text "array") v = .empty ↔ ∃ vs, v = .list vs := by
  cases v with
  | list vs => exact iff_of_true rfl ⟨vs, rfl⟩
  | null | bool _ | number _ | text _ | object _ =>
    refine (type_text_eq_empty_iff rfl).trans (iff_of_false Bool.false_ne_true ?_)
    rintro ⟨vs, h⟩
    cases h

theorem type_object_eq_empty_iff (v : Value) :
    Assertion.type (.text "object") v = .empty ↔ ∃ fields, v = .object fields := by
  cases v with
  | object fields => exact iff_of_true rfl ⟨fields, rfl⟩
  | null | bool _ | number _ | text _ | list _ =>
    refine (type_text_eq_empty_iff rfl).trans (iff_of_false Bool.false_ne_true ?_)
    rintro ⟨fields, h⟩
    cases h

theorem descendItems_eq_empty_iff {here : Standpoint} {s : Subschema} {Holds : Value → Prop}
    (h : ∀ i v, s.descend here (.index i) v = .empty ↔ Holds v) (i : Int) (vs : List Value) :
    descendItems here s i vs = .empty ↔ ∀ v ∈ vs, Holds v := by
  induction vs generalizing i with
  | nil => simp [descendItems]
  | cons v rest ih => rw [descendItems, Report.andThen_eq_empty_iff, h, ih, List.forall_mem_cons]

theorem items_list {siblings : Keyed Operand} {operand : Operand} {fields : Keyed Value}
    (hp : Keyed.get? "prefixItems" siblings = none)
    (hs : operand.whole.schema = .object fields) (here : Standpoint) (vs : List Value) :
    items siblings operand here (.list vs) = descendItems here operand.whole 0 vs := by
  have hlen : prefixLength siblings = .ok 0 := by rw [prefixLength, hp]
  simp only [items, hlen, bind, Except.bind, hs]
  rfl

theorem applyField_items_list {follow : Follow} {siblings : Keyed Operand} {node : SchemaNode}
    (hp : Keyed.get? "prefixItems" siblings = none) (here : Standpoint) (vs : List Value) :
    applyField follow siblings "items" (operandOf follow (JsonSchema.ofNode node)) here
        (.list vs) =
      descendItems here (subschema follow (JsonSchema.ofNode node)) 0 vs := by
  have hschema : (operandOf follow (JsonSchema.ofNode node)).whole.schema =
      .object (Canonical.sortFields (Canonical.canonicalizeFields node.fields)) := by
    rw [operandOf, schema_subschema, JsonSchema.ofNode, SchemaNode.toSchema_eq,
      Canonical.canonicalize]
  exact (applyField_name follow siblings .items _ here (.list vs)).trans
    (items_list hp hschema here vs)

theorem applyField_items {follow : Follow} {siblings : Keyed Operand} {node : SchemaNode}
    (h : node.Proper) (hp : Keyed.get? "prefixItems" siblings = none) {here : Standpoint}
    {vs : List Value} :
    applyField follow siblings "items" (operandOf follow (JsonSchema.ofNode node)) here (.list vs)
        = .empty ↔
      ∀ v ∈ vs, (subschema follow (JsonSchema.ofNode node)).report here v = .empty := by
  rw [applyField_items_list hp]
  exact descendItems_eq_empty_iff (fun _ _ => descend_ofNode_eq_empty_iff h) 0 vs

theorem report_array_eq_empty_iff {follow : Follow} {a : Semantics} {items : SchemaNode}
    (h : items.Proper) {here : Standpoint} {v : Value} :
    (subschema follow (JsonSchema.ofNode (.array a items))).report here v = .empty ↔
      ∃ vs, v = .list vs ∧
        ∀ w ∈ vs, (subschema follow (JsonSchema.ofNode items)).report here w = .empty := by
  have hkeys : (Keyed.keys (SchemaNode.statedFields (.array a items))).Nodup := by
    show List.Nodup [("type" : Text), "items"]
    decide
  have hprefix : Keyed.get? "prefixItems"
      (canonicalOperands follow (SchemaNode.fields (.array a items))) = none :=
    get?_canonicalOperands (SchemaNode.get?_fields_eq_none (.array h) (by decide))
  rw [report_ofNode_eq_empty_iff (.array h), Keyed.forall_get?_iff hkeys, SchemaNode.statedFields,
    List.forall_mem_cons, List.forall_mem_singleton, JsonSchema.canonicalizeField_toSchema]
  rw [applyField_type]
  refine (and_congr_left' (type_array_eq_empty_iff v)).trans ?_
  constructor
  · rintro ⟨⟨vs, rfl⟩, hitems⟩
    exact ⟨vs, rfl, (applyField_items h hprefix).1 hitems⟩
  · rintro ⟨vs, rfl, hitems⟩
    exact ⟨⟨vs, rfl⟩, (applyField_items h hprefix).2 hitems⟩

def neededNames (properties : Keyed SchemaNode) : List Text :=
  Canonical.sort Text.le (Keyed.keys (properties.filter (·.2.isRequired)))

theorem canonicalizeField_requiredNames (properties : Keyed SchemaNode) :
    Canonical.canonicalizeField "required" (.list (SchemaNode.requiredNames properties)) =
      .list ((neededNames properties).map .text) := by
  rw [SchemaNode.requiredNames_eq_map, Canonical.canonicalizeField, if_pos rfl,
    Canonical.sortRequired_map_text, neededNames]

theorem mem_neededNames_iff {properties : Keyed SchemaNode} {name : Text} :
    name ∈ neededNames properties ↔
      ∃ node, (name, node) ∈ properties ∧ node.isRequired = true := by
  rw [neededNames, (Canonical.sort_perm _ _).mem_iff]
  constructor
  · intro hm
    obtain ⟨⟨key, node⟩, he, rfl⟩ := List.mem_map.1 hm
    exact ⟨node, List.mem_filter.1 he⟩
  · rintro ⟨node, hm, hr⟩
    exact List.mem_map.2 ⟨(name, node), List.mem_filter.2 ⟨hm, hr⟩, rfl⟩

theorem applyField_required_object {follow : Follow} {siblings : Keyed Operand}
    (names : List Text) (here : Standpoint) (fields : Keyed Value) :
    applyField follow siblings "required" (operandOf follow (.list (names.map .text))) here
        (.object fields) =
      ((names.map Value.text) |> .each fun name =>
        if name.isNested then .fail .unfitOperand
        else .require (Assertion.hasProperty fields name) (.missing name (names.map .text))) :=
  applyField_name follow siblings .required _ here (.object fields)

theorem applyField_required {follow : Follow} {siblings : Keyed Operand} (names : List Text)
    {here : Standpoint} {fields : Keyed Value} :
    applyField follow siblings "required" (operandOf follow (.list (names.map .text))) here
        (.object fields) = .empty ↔ ∀ name ∈ names, Keyed.has name fields = true := by
  rw [applyField_required_object, Report.each_eq_empty_iff, List.forall_mem_map]
  refine forall₂_congr fun name _ => ?_
  exact Report.require_eq_empty_iff

theorem descendFields_eq_empty_iff {here : Standpoint} {fields : Keyed Value}
    {table : Keyed Subschema} :
    descendFields here fields table = .empty ↔ ∀ entry ∈ table, ∀ v,
      Keyed.get? entry.1 fields = some v → entry.2.descend here (.key entry.1) v = .empty := by
  rw [descendFields, Report.each_eq_empty_iff]
  refine forall₂_congr fun entry _ => ?_
  obtain ⟨name, s⟩ := entry
  cases hg : Keyed.get? name fields <;> simp [hg]

/-- The table of the schemas of properties, as a canonical schema lists them. -/
def propertyTable (follow : Follow) (properties : Keyed SchemaNode) : Keyed Subschema :=
  tableOf follow (Canonical.sortFields
    (Canonical.canonicalizeFields (SchemaNode.propertySchemas properties)))

theorem mem_propertyTable_iff {follow : Follow} {properties : Keyed SchemaNode}
    {entry : Text × Subschema} :
    entry ∈ propertyTable follow properties ↔ ∃ name node, (name, node) ∈ properties ∧
      entry = (name, subschema follow (JsonSchema.ofNode node)) := by
  rw [propertyTable, tableOf_eq_map, ((Canonical.sortFields_perm _).map _).mem_iff, List.map_map,
    SchemaNode.propertySchemas_eq_map, List.map_map, List.mem_map]
  constructor
  · rintro ⟨⟨name, node⟩, hm, rfl⟩
    refine ⟨name, node, hm, congrArg (fun schema => (name, subschema follow schema)) ?_⟩
    exact JsonSchema.canonicalizeField_toSchema name node
  · rintro ⟨name, node, hm, rfl⟩
    refine ⟨(name, node), hm, congrArg (fun schema => (name, subschema follow schema)) ?_⟩
    exact JsonSchema.canonicalizeField_toSchema name node

theorem applyField_properties_object (follow : Follow) (siblings : Keyed Operand)
    (properties : Keyed SchemaNode) (here : Standpoint) (fields : Keyed Value) :
    applyField follow siblings "properties" (operandOf follow
        (Canonical.canonicalizeField "properties"
          (.object (SchemaNode.propertySchemas properties)))) here (.object fields) =
      descendFields here fields (propertyTable follow properties) :=
  applyField_name follow siblings .properties _ here (.object fields)

theorem applyField_properties {follow : Follow} {siblings : Keyed Operand}
    {properties : Keyed SchemaNode} (h : ∀ name node, (name, node) ∈ properties → node.Proper)
    {here : Standpoint} {fields : Keyed Value} :
    applyField follow siblings "properties" (operandOf follow
        (Canonical.canonicalizeField "properties"
          (.object (SchemaNode.propertySchemas properties)))) here (.object fields) = .empty ↔
      ∀ name node v, (name, node) ∈ properties → Keyed.get? name fields = some v →
        (subschema follow (JsonSchema.ofNode node)).report here v = .empty := by
  rw [applyField_properties_object, descendFields_eq_empty_iff]
  constructor
  · intro hall name node v hm hv
    exact (descend_ofNode_eq_empty_iff (h name node hm)).1
      (hall _ (mem_propertyTable_iff.2 ⟨name, node, hm, rfl⟩) v hv)
  · intro hall entry he v hv
    obtain ⟨name, node, hm, rfl⟩ := mem_propertyTable_iff.1 he
    exact (descend_ofNode_eq_empty_iff (h name node hm)).2 (hall name node v hm hv)

theorem report_object_eq_empty_iff {follow : Follow} {a : Semantics}
    {properties : Keyed SchemaNode} (hk : (Keyed.keys properties).Nodup)
    (hc : ∀ name node, (name, node) ∈ properties → node.Proper) {here : Standpoint} {v : Value} :
    (subschema follow (JsonSchema.ofNode (.object a properties))).report here v = .empty ↔
      ∃ fields, v = .object fields ∧
        (∀ name node, (name, node) ∈ properties → node.isRequired = true →
          Keyed.has name fields = true) ∧
        ∀ name node w, (name, node) ∈ properties → Keyed.get? name fields = some w →
          (subschema follow (JsonSchema.ofNode node)).report here w = .empty := by
  have hkeys : (Keyed.keys (SchemaNode.statedFields (.object a properties))).Nodup := by
    show List.Nodup [("type" : Text), "properties", "required"]
    decide
  rw [report_ofNode_eq_empty_iff (.object hk hc), Keyed.forall_get?_iff hkeys,
    SchemaNode.statedFields, List.forall_mem_cons, List.forall_mem_cons,
    List.forall_mem_singleton]
  rw [applyField_type]
  refine (and_congr_left' (type_object_eq_empty_iff v)).trans ?_
  rw [canonicalizeField_requiredNames]
  constructor
  · rintro ⟨⟨fields, rfl⟩, hproperties, hneeded⟩
    have hnames := (applyField_required _).1 hneeded
    exact ⟨fields, rfl, fun name node hm hr => hnames name (mem_neededNames_iff.2 ⟨node, hm, hr⟩),
      (applyField_properties hc).1 hproperties⟩
  · rintro ⟨fields, rfl, hneeded, hproperties⟩
    refine ⟨⟨fields, rfl⟩, (applyField_properties hc).2 hproperties, ?_⟩
    refine (applyField_required _).2 fun name hm => ?_
    obtain ⟨node, hnode, hr⟩ := mem_neededNames_iff.1 hm
    exact hneeded name node hnode hr

/-- The schema of a proper tree accepts what fits the tree. -/
theorem report_eq_empty_iff_fits {follow : Follow} {node : SchemaNode} (h : node.Proper)
    {here : Standpoint} {v : Value} :
    (subschema follow (JsonSchema.ofNode node)).report here v = .empty ↔ node.Fits v := by
  induction h generalizing v with
  | leaf hl =>
    rw [report_leaf_eq_empty_iff hl]
    exact ⟨.leaf, fun | .leaf hv => hv⟩
  | array hi ih =>
    rw [report_array_eq_empty_iff hi]
    simp only [ih]
    constructor
    · rintro ⟨vs, rfl, hall⟩
      exact .array hall
    · rintro (- | hall)
      exact ⟨_, rfl, hall⟩
  | object hk hc ih =>
    rw [report_object_eq_empty_iff hk hc]
    constructor
    · rintro ⟨fields, rfl, hneeded, hall⟩
      exact .object hneeded fun name node v hm hv => (ih name node hm).1 (hall name node v hm hv)
    · rintro (- | - | ⟨hneeded, hall⟩)
      exact ⟨_, rfl, hneeded, fun name node v hm hv =>
        (ih name node hm).2 (hall name node v hm hv)⟩

theorem data_eq_ok_iff_check {schema v : Value} :
    data v schema = .ok () ↔ check schema v = .empty := by
  rw [data, ← Report.first?_eq_none_iff]
  cases (check schema v).first? with
  | error e => exact ⟨nofun, nofun⟩
  | ok violation =>
    cases violation with
    | none => exact ⟨fun _ => rfl, fun _ => rfl⟩
    | some violation => exact ⟨nofun, nofun⟩

/-- Among the keywords of a tree only that of items looks at another one beside it. -/
theorem applyField_siblings {follow : Follow} {siblings others : Keyed Operand} {name : Text}
    (hn : name ∈ SchemaNode.fieldNames)
    (h : Keyed.get? "prefixItems" siblings = Keyed.get? "prefixItems" others)
    (operand : Operand) (here : Standpoint) (v : Value) :
    applyField follow siblings name operand here v =
      applyField follow others name operand here v := by
  unfold applyField
  cases hk : Keyword.ofName? name with
  | none => rfl
  | some keyword =>
    rw [← Keyword.name_of_ofName? hk] at hn
    cases keyword with
    | items =>
      have hlen : prefixLength siblings = prefixLength others := by
        rw [prefixLength, h, prefixLength]
      simp only [apply]
      cases v with
      | list vs => simp only [items, hlen]
      | null | bool _ | number _ | text _ | object _ => rfl
    | _ => first | exact absurd hn (by decide) | rfl

/-- A keyword of a tree says the same in the schema of the tree and in that of a template. -/
theorem applyField_rootFields {follow : Follow} {tree : SchemaNode} (h : tree.Proper)
    {name : Text} {w : Value} (hm : (name, w) ∈ tree.fields) (here : Standpoint) (v : Value) :
    applyField follow (canonicalOperands follow (JsonSchema.rootFields tree)) name
        (operandOf follow (Canonical.canonicalizeField name w)) here v =
      applyField follow (canonicalOperands follow tree.fields) name
        (operandOf follow (Canonical.canonicalizeField name w)) here v := by
  have hprefix : Keyed.get? "prefixItems" tree.fields = none :=
    SchemaNode.get?_fields_eq_none h (by decide)
  have hroot : Keyed.get? "prefixItems" (JsonSchema.rootFields tree) = none :=
    (JsonSchema.get?_rootFields tree (by decide)).trans hprefix
  refine applyField_siblings
    (SchemaNode.mem_fieldNames h (List.mem_map.2 ⟨(name, w), hm, rfl⟩)) ?_ _ _ _
  exact (get?_canonicalOperands hroot).trans (get?_canonicalOperands hprefix).symm

theorem applyField_dialect {follow : Follow} (siblings : Keyed Operand) (operand : Operand)
    (here : Standpoint) (v : Value) :
    applyField follow siblings "$schema" operand here v = .empty :=
  applyField_eq_empty (by decide) _ _ _

theorem report_ofRoot_eq_empty_iff {follow : Follow} {tree : SchemaNode} (h : tree.Proper)
    {here : Standpoint} {v : Value} :
    (subschema follow (JsonSchema.ofRoot tree)).report here v = .empty ↔
      (subschema follow (JsonSchema.ofNode tree)).report here v = .empty := by
  rw [JsonSchema.ofRoot_eq, JsonSchema.ofNode, SchemaNode.toSchema_eq,
    report_canonicalize_eq_empty_iff, report_canonicalize_eq_empty_iff]
  constructor
  · intro hall name w hm
    rw [← applyField_rootFields h hm]
    exact hall name w (List.mem_cons_of_mem _ hm)
  · intro hall name w hm
    rcases List.mem_cons.1 hm with he | hm
    · rw [(Prod.mk.inj he).1]
      exact applyField_dialect _ _ _ _
    · rw [applyField_rootFields h hm]
      exact hall name w hm

theorem exists_check_object {fields : Keyed Value} (hid : Keyed.get? "$id" fields = none) :
    ∃ follow here, ∀ v,
      check (.object fields) v = (subschema follow (.object fields)).report here v := by
  have hidentifier : identifier? (.object fields) = .ok none := by rw [identifier?, hid]
  let d : Document := ⟨[], .object fields, Index.ofSchema [] (.object fields)⟩
  refine ⟨followIn d deepest, d.standpoint, fun v => ?_⟩
  simp only [check, Document.ofRoot, hidentifier, bind, Except.bind]
  rfl

theorem exists_check_ofRoot {tree : SchemaNode} (h : tree.Proper) : ∃ follow here, ∀ v,
    check (JsonSchema.ofRoot tree) v =
      (subschema follow (JsonSchema.ofRoot tree)).report here v := by
  have hget : Keyed.get? "$id" (JsonSchema.rootFields tree) = none :=
    (JsonSchema.get?_rootFields tree (by decide)).trans
      (SchemaNode.get?_fields_eq_none h (by decide))
  have hsorted := Canonical.get?_sortFields (JsonSchema.nodup_keys_rootFields h) "$id"
  rw [hget] at hsorted
  rw [JsonSchema.ofRoot_eq, Canonical.canonicalize]
  exact exists_check_object hsorted

/-- Data is accepted by the schema of a template exactly when it fits the tree of the
template. -/
theorem data_eq_ok_iff_fits {tree : SchemaNode} (h : tree.Proper) (v : Value) :
    data v (JsonSchema.ofRoot tree) = .ok () ↔ tree.Fits v := by
  obtain ⟨follow, here, hcheck⟩ := exists_check_ofRoot h
  rw [data_eq_ok_iff_check, hcheck, report_ofRoot_eq_empty_iff h, report_eq_empty_iff_fits h]

end Validate
end TypedTemplate
