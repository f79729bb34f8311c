import TypedTemplate.Markup.Builder
import TypedTemplate.Proofs.Acceptance

/-!
# Nullable leaves

Data that is accepted stays accepted when a part of it is replaced by something that the schema
of the part accepts. Null is of the type of a nullable leaf, has every format and keeps every
bound; a list of choices and a fixed value are the only constraints that null does not keep. A
nullable leaf is never required, so its key may also be left out.
-/
namespace TypedTemplate

/-- The step of the schema that describes what a step of the data leads to. -/
def DataStep.schemaStep : DataStep → SchemaStep
  | .key name => .property name
  | .index _ => .items

namespace Value

def part? : DataStep → Value → Option Value
  | .key name, .object fields => Keyed.get? name fields
  | .index (.ofNat n), .list items => items[n]?
  | _, _ => none

def setPart (new : Value) : DataStep → Value → Value
  | .key name, .object fields => .object (Keyed.set name new fields)
  | .index (.ofNat n), .list items => .list (items.set n new)
  | _, v => v

def at? : List DataStep → Value → Option Value
  | [], v => some v
  | step :: rest, v => (part? step v).bind (at? rest)

def changeAt (f : Value → Value) : List DataStep → Value → Value
  | [], v => f v
  | step :: rest, v =>
    match part? step v with
    | some w => setPart (changeAt f rest w) step v
    | none => v

def dropKey (name : Text) : Value → Value
  | .object fields => .object (fields.filter fun field => field.1 != name)
  | v => v

theorem at?_cons (step : DataStep) (rest : List DataStep) (v : Value) :
    at? (step :: rest) v = (part? step v).bind (at? rest) := rfl

theorem at?_append (before after : List DataStep) (v : Value) :
    at? (before ++ after) v = (at? before v).bind (at? after) := by
  induction before generalizing v with
  | nil => rfl
  | cons step before ih =>
    rw [List.cons_append, at?_cons, at?_cons, Option.bind_assoc]
    exact Option.bind_congr fun w _ => ih w

end Value

theorem Keyed.get?_filter_ne {α : Type} (name key : Text) (l : Keyed α) :
    Keyed.get? key (l.filter fun e => e.1 != name) =
      if key = name then none else Keyed.get? key l := by
  rw [Keyed.get?_filter (· != name)]
  by_cases h : key = name <;> simp [h]

namespace SchemaNode

theorem eq_of_mem_of_nodup {properties : Keyed SchemaNode} (hk : (Keyed.keys properties).Nodup)
    {name : Text} {node other : SchemaNode} (h : (name, node) ∈ properties)
    (ho : (name, other) ∈ properties) : node = other :=
  Option.some.inj ((Keyed.get?_of_mem hk h).symm.trans (Keyed.get?_of_mem hk ho))

theorem Fits.part {node child : SchemaNode} {v w : Value} {step : DataStep} (h : node.Fits v)
    (hc : node.child? step.schemaStep = some child) (hw : v.part? step = some w) :
    child.Fits w := by
  cases h with
  | leaf hl =>
    cases step <;> cases hc
  | array hall =>
    cases step with
    | key name => cases hc
    | index n =>
      obtain rfl := Option.some.inj hc
      cases n with
      | ofNat n => exact hall w (List.mem_of_getElem? hw)
      | negSucc n => cases hw
  | object hneeded hall =>
    cases step with
    | key name => exact hall name child w (Keyed.mem_of_get? hc) hw
    | index n => cases hc

theorem fits_list_set_iff {a : Semantics} {items : SchemaNode} {vs : List Value} {n : Nat}
    {new : Value} (h : ∀ v ∈ vs, items.Fits v) (hn : n < vs.length) :
    (SchemaNode.array a items).Fits (.list (vs.set n new)) ↔ items.Fits new := by
  constructor
  · rintro (- | hset)
    exact hset new (List.mem_set hn new)
  · intro hnew
    refine .array fun x hx => ?_
    rcases List.mem_or_eq_of_mem_set hx with hx | rfl
    · exact h x hx
    · exact hnew

theorem fits_object_set_iff {a : Semantics} {properties : Keyed SchemaNode} {fields : Keyed Value}
    {name : Text} {child : SchemaNode} {new : Value} (hk : (Keyed.keys properties).Nodup)
    (h : (SchemaNode.object a properties).Fits (.object fields))
    (hchild : (name, child) ∈ properties) :
    (SchemaNode.object a properties).Fits (.object (Keyed.set name new fields)) ↔
      child.Fits new := by
  constructor
  · rintro (- | - | ⟨-, hset⟩)
    exact hset name child new hchild (Keyed.get?_set_self name new fields)
  · intro hnew
    obtain - | - | ⟨hneeded, hall⟩ := h
    refine .object (fun other node hm hr => ?_) (fun other node x hm hx => ?_)
    · have hhas := hneeded other node hm hr
      rw [Keyed.has, Keyed.get?_set]
      split
      · rfl
      · exact hhas
    · rw [Keyed.get?_set] at hx
      split at hx
      · rename_i he
        have hsame : node = child := eq_of_mem_of_nodup hk (he ▸ hm) hchild
        rw [← Option.some.inj hx, hsame]
        exact hnew
      · exact hall other node x hm hx

theorem fits_setPart_iff {node child : SchemaNode} {v w new : Value} {step : DataStep}
    (hp : node.Proper) (h : node.Fits v) (hc : node.child? step.schemaStep = some child)
    (hw : v.part? step = some w) : node.Fits (Value.setPart new step v) ↔ child.Fits new := by
  have hfits := h
  cases h with
  | leaf hl => cases step <;> cases hc
  | array hall =>
    cases step with
    | key name => cases hc
    | index n =>
      obtain rfl := Option.some.inj hc
      cases n with
      | negSucc n => cases hw
      | ofNat n => exact fits_list_set_iff hall (List.getElem?_eq_some_iff.1 hw).1
  | object hneeded hall =>
    cases step with
    | index n => cases hc
    | key name =>
      cases hp with
      | object hk hproper => exact fits_object_set_iff hk hfits (Keyed.mem_of_get? hc)

/-- Data that fits, changed at a position, fits when the changed part fits what the tree has at
that position. -/
theorem fits_changeAt_iff {node part : SchemaNode} {v w : Value} {f : Value → Value}
    {position : List DataStep} (hp : node.Proper) (h : node.Fits v)
    (hc : node.at? (position.map DataStep.schemaStep) = some part)
    (hw : v.at? position = some w) :
    part.Fits w ∧ part.Proper ∧ (node.Fits (v.changeAt f position) ↔ part.Fits (f w)) := by
  induction position generalizing node v with
  | nil =>
    obtain rfl := Option.some.inj hc
    obtain rfl := Option.some.inj hw
    exact ⟨h, hp, Iff.rfl⟩
  | cons step rest ih =>
    obtain ⟨child, hchild, hc⟩ := Option.bind_eq_some_iff.1 hc
    obtain ⟨x, hx, hw⟩ := Option.bind_eq_some_iff.1 hw
    obtain ⟨hfits, hproper, hiff⟩ :=
      ih (JsonSchema.proper_child? hp hchild) (h.part hchild hx) hc hw
    refine ⟨hfits, hproper, ?_⟩
    rw [Value.changeAt, hx, ← hiff]
    exact fits_setPart_iff hp h hchild hx

theorem Fits.dropKey {node child : SchemaNode} {v : Value} {name : Text} (hp : node.Proper)
    (h : node.Fits v) (hc : node.child? (.property name) = some child)
    (hr : child.isRequired = false) : node.Fits (v.dropKey name) := by
  cases h with
  | leaf hl => cases hc
  | array hall => cases hc
  | object hneeded hall =>
    rename_i a properties fields
    have hchild : (name, child) ∈ properties := Keyed.mem_of_get? hc
    cases hp with
    | object hk hproper =>
      refine .object (fun other node hm hreq => ?_) (fun other node x hm hx => ?_)
      · have hne : other ≠ name := by
          rintro rfl
          rw [eq_of_mem_of_nodup hk hm hchild, hr] at hreq
          cases hreq
        have hhas := hneeded other node hm hreq
        rwa [Keyed.has, Keyed.get?_filter_ne, if_neg hne]
      · rw [Keyed.get?_filter_ne] at hx
        split at hx
        · cases hx
        · exact hall other node x hm hx

end SchemaNode

/-- The constraints that null does not keep: it is no choice and no fixed value. -/
def ConstraintKind.refusesNull : ConstraintKind → Bool
  | .choices | .fixed => true
  | _ => false

theorem Constraint.check_null_eq_empty_iff (c : Constraint) :
    c.kind.check c.operand .null = .empty ↔ c.kind.refusesNull = false := by
  cases c with
  | choices values =>
    have hnone : (values.map Literal.toValue).any (·.same .null) = false := by
      rw [List.any_map, List.any_eq_false]
      intro value _
      cases value <;> simp [Literal.toValue, Value.same]
    have hcheck : ConstraintKind.choices.check (.list (values.map Literal.toValue)) .null =
        .require ((values.map Literal.toValue).any (·.same .null))
          (.choices .null (.list (values.map Literal.toValue))) := rfl
    rw [hnone] at hcheck
    exact iff_of_false (fun h => by cases hcheck.symm.trans h) nofun
  | fixed value =>
    refine iff_of_false (fun h => ?_) nofun
    cases value <;> cases h
  | bound b n => cases b <;> exact iff_of_true rfl rfl
  | pattern t => exact iff_of_true rfl rfl
  | minLength n => exact iff_of_true rfl rfl
  | maxLength n => exact iff_of_true rfl rfl

theorem Leaf.admits_null_iff {l : Leaf} (h : l.IsProper) (hn : l.nullable = true) :
    l.Admits .null ↔
      Keyed.get? "enum" l.keywords = none ∧ Keyed.get? "const" l.keywords = none := by
  have hrefused : ∀ {k : ConstraintKind} {operand : Value},
      Keyed.get? k.schemaKeyword l.keywords = some operand →
      (k.check operand .null = .empty ↔ k.refusesNull = false) := by
    intro k operand hk
    obtain ⟨c, hc, rfl⟩ := h.ofConstraint _ _ (Keyed.mem_of_get? hk)
    rw [ConstraintKind.schemaKeyword_injective hc]
    exact c.check_null_eq_empty_iff
  constructor
  · intro hadmits
    have hnone : ∀ k : ConstraintKind, k.refusesNull = true →
        Keyed.get? k.schemaKeyword l.keywords = none := by
      intro k hk
      cases hg : Keyed.get? k.schemaKeyword l.keywords with
      | none => rfl
      | some operand =>
        rw [(hrefused hg).1 (hadmits.constraints k operand hg)] at hk
        cases hk
    exact ⟨hnone .choices rfl, hnone .fixed rfl⟩
  · rintro ⟨henum, hconst⟩
    refine ⟨.inr ⟨hn, rfl⟩, fun f _ => rfl, fun k operand hk => (hrefused hk).2 ?_⟩
    cases k with
    | choices => exact absurd (henum.symm.trans hk) nofun
    | fixed => exact absurd (hconst.symm.trans hk) nofun
    | _ => rfl

namespace JsonSchema

/-- Whether a schema is that of a nullable leaf: null stands beside its type. -/
def IsNullable (schema : Value) : Prop :=
  ∃ base, schema.field? "type" = some (.list [base, .text "null"])

def typeOf : SchemaNode → Value
  | .leaf _ l => Validate.typeOperand l.type l.nullable
  | .array _ _ => .text "array"
  | .object _ _ => .text "object"

theorem field?_type_ofNode {node : SchemaNode} (h : node.Proper) :
    (ofNode node).field? "type" = some (typeOf node) := by
  rw [field?_ofNode h, SchemaNode.get?_fields node (by decide)]
  cases h with
  | leaf hl =>
    have hnone := Leaf.get?_keywords_eq_none hl (schemaKeyword_ne List.mem_cons_self)
    rw [SchemaNode.statedFields, Leaf.get?_keywordFields hl, hnone]
    exact congrArg some (Validate.canonicalizeField_typeOperand _ _)
  | array hi => rfl
  | object hk hc => rfl

theorem typeOperand_ne_nested {kind : Text} (h : kind ∈ (["array", "object"] : List Text))
    (type : DataType) (nullable : Bool) : Validate.typeOperand type nullable ≠ .text kind := by
  revert kind
  cases type <;> cases nullable <;> decide

theorem exists_leaf_of_type {node : SchemaNode} (h : node.Proper) {type : DataType}
    {nullable : Bool}
    (ht : (ofNode node).field? "type" = some (Validate.typeOperand type nullable)) :
    ∃ a l, node = .leaf a l ∧ l.IsProper := by
  rw [field?_type_ofNode h] at ht
  have htype := (Option.some.inj ht).symm
  cases h with
  | leaf hl => exact ⟨_, _, rfl, hl⟩
  | array _ => exact absurd htype (typeOperand_ne_nested (by decide) type nullable)
  | object _ _ => exact absurd htype (typeOperand_ne_nested (by decide) type nullable)

theorem exists_object_of_type {node : SchemaNode} (h : node.Proper)
    (ht : (ofNode node).field? "type" = some (.text "object")) :
    ∃ a properties, node = .object a properties := by
  rw [field?_type_ofNode h] at ht
  cases node with
  | leaf a l =>
    exact absurd (Option.some.inj ht) (typeOperand_ne_nested (by decide) l.type l.nullable)
  | array a items => cases ht
  | object a properties => exact ⟨a, properties, rfl⟩

theorem exists_leaf_of_isNullable {node : SchemaNode} (h : node.Proper)
    (hn : IsNullable (ofNode node)) : ∃ a l, node = .leaf a l ∧ l.nullable = true := by
  obtain ⟨base, hbase⟩ := hn
  rw [field?_type_ofNode h] at hbase
  cases node with
  | leaf a l =>
    refine ⟨a, l, rfl, ?_⟩
    cases hl : l.nullable with
    | true => rfl
    | false =>
      rw [typeOf, hl] at hbase
      cases hbase
  | array a items => cases hbase
  | object a properties => cases hbase

/-- A constraint stands in the schema of a leaf when the leaf carries it. -/
theorem field?_constraint_eq_none_iff {a : Semantics} {l : Leaf} (h : l.IsProper)
    (k : ConstraintKind) :
    (ofNode (.leaf a l)).field? k.schemaKeyword = none ↔
      Keyed.get? k.schemaKeyword l.keywords = none := by
  have hann : k.schemaKeyword ∉ Keywords.annotationNames := by cases k <;> decide
  have htype : Keyed.get? k.schemaKeyword (Keywords.ofType l.type l.nullable) = none := by
    rw [Keyed.get?_eq_none_iff]
    intro hm
    have hmem := (Keywords.keys_ofType l.type l.nullable).subset hm
    exact schemaKeyword_ne (List.mem_append_left [("properties" : Text), "items"] hmem) k rfl
  rw [field?_ofNode (.leaf h), SchemaNode.get?_fields _ hann, SchemaNode.statedFields,
    Leaf.get?_keywordFields h, htype, Option.or_none, Option.map_eq_none_iff]

theorem exists_node_of_at? {tree : SchemaNode} (h : tree.Proper) {position : SchemaPosition}
    {schema : Value} (hs : at? position (ofRoot tree) = some schema) :
    ∃ node, tree.at? position = some node ∧
      ∀ key : Text, key ≠ "$schema".toList → schema.field? key = (ofNode node).field? key := by
  cases position with
  | nil =>
    obtain rfl := Option.some.inj hs
    exact ⟨tree, rfl, fun key hk => field?_ofRoot h hk⟩
  | cons step rest =>
    rw [at?_ofRoot h] at hs
    obtain ⟨node, hn, rfl⟩ := Option.map_eq_some_iff.1 hs
    exact ⟨node, hn, fun _ _ => rfl⟩

theorem exists_at?_ofRoot {tree node : SchemaNode} (h : tree.Proper) {position : SchemaPosition}
    (hn : tree.at? position = some node) :
    ∃ sub, at? position (ofRoot tree) = some sub ∧
      ∀ key : Text, key ≠ "$schema".toList → sub.field? key = (ofNode node).field? key := by
  cases position with
  | nil =>
    obtain rfl := Option.some.inj hn
    exact ⟨_, rfl, fun key hk => field?_ofRoot h hk⟩
  | cons step rest =>
    refine ⟨ofNode node, ?_, fun _ _ => rfl⟩
    rw [at?_ofRoot h, hn]
    rfl

end JsonSchema

/-- Where data that is accepted has a part described as nullable, null in its place is accepted
exactly when the schema states neither choices nor a fixed value there. Leaving its key out is
always accepted. -/
theorem null_is_accepted_iff_no_choices_and_no_fixed_value {root : Node}
    {given : Option Settings} {schema data sub : Value} {position : List DataStep}
    (hs : Compile.schema given root = .ok schema) (hd : Validate.data data schema = .ok ())
    (hp : (data.at? position).isSome)
    (hsub : JsonSchema.at? (position.map DataStep.schemaStep) schema = some sub)
    (hn : JsonSchema.IsNullable sub) :
    (Validate.data (data.changeAt (fun _ => .null) position) schema = .ok () ↔
      sub.field? "enum" = none ∧ sub.field? "const" = none) ∧
    ∀ before name, position = before ++ [.key name] →
      Validate.data (data.changeAt (Value.dropKey name) before) schema = .ok () := by
  obtain ⟨settings, t, ht, rfl⟩ := Compile.schema_eq_ok hs
  have hproper := (Compile.tree_eq_ok ht).1
  rw [Validate.data_eq_ok_iff_fits hproper] at hd
  obtain ⟨w, hw⟩ := Option.isSome_iff_exists.1 hp
  obtain ⟨node, hnode, hfield⟩ := JsonSchema.exists_node_of_at? hproper hsub
  obtain ⟨hfits, hleaf, hiff⟩ := SchemaNode.fits_changeAt_iff hproper hd hnode hw
  have hnullable : JsonSchema.IsNullable (JsonSchema.ofNode node) := by
    obtain ⟨base, hbase⟩ := hn
    exact ⟨base, (hfield "type" (by decide)).symm.trans hbase⟩
  obtain ⟨a, l, rfl, hl⟩ := JsonSchema.exists_leaf_of_isNullable hleaf hnullable
  have hlproper : l.IsProper := by
    cases hleaf with
    | leaf h => exact h
  constructor
  · rw [Validate.data_eq_ok_iff_fits hproper, hiff, hfield "enum" (by decide),
      hfield "const" (by decide)]
    have hadmits : (SchemaNode.leaf a l).Fits .null ↔ l.Admits .null :=
      ⟨fun | .leaf hv => hv, .leaf⟩
    rw [hadmits, Leaf.admits_null_iff hlproper hl]
    exact and_congr (JsonSchema.field?_constraint_eq_none_iff hlproper .choices).symm
      (JsonSchema.field?_constraint_eq_none_iff hlproper .fixed).symm
  · rintro before name rfl
    rw [Value.at?_append] at hw
    obtain ⟨around, haround, -⟩ := Option.bind_eq_some_iff.1 hw
    rw [List.map_append, SchemaNode.at?_append] at hnode
    obtain ⟨holder, hholder, hchild⟩ := Option.bind_eq_some_iff.1 hnode
    obtain ⟨child, hchild, he⟩ := Option.bind_eq_some_iff.1 hchild
    obtain rfl := Option.some.inj he
    obtain ⟨hin, hinner, hiff⟩ := SchemaNode.fits_changeAt_iff hproper hd hholder haround
    rw [Validate.data_eq_ok_iff_fits hproper, hiff]
    refine hin.dropKey hinner hchild ?_
    rw [SchemaNode.isRequired, hl]
    rfl

/-- A text that may be null is accepted as null, and without its key. -/
theorem null_is_accepted_for_nullable_text : ∃ root schema,
    Node.ofMarkup "<p>\x7b\x7bx:string?\x7d\x7d</p>" = .ok root ∧
    Compile.schema (some Settings.defaults) root = .ok schema ∧
    Validate.data (.object [("x", .text "A")]) schema = .ok () ∧
    Validate.data (.object [("x", .null)]) schema = .ok () ∧
    Validate.data (.object []) schema = .ok () := by
  let markup : Text := "<p>\x7b\x7bx:string?\x7d\x7d</p>"
  let data : Value := .object [("x", .text "A")]
  let isFreeText (sub : Value) : Bool :=
    sub.field? "type" = some (.list [.text "string", .text "null"]) ∧
      sub.field? "enum" = none ∧ sub.field? "const" = none
  have hread : Fault.succeedsWith (fun schema => decide (Validate.data data schema = .ok () ∧
        (JsonSchema.at? [.property "x"] schema).any isFreeText))
      (Node.ofMarkup markup >>= Compile.schema (some Settings.defaults)) = true := by
    decide +kernel
  obtain ⟨schema, hs, htest⟩ := Fault.exists_of_succeedsWith hread
  obtain ⟨root, hm, hs⟩ := Fault.bind_eq_ok_iff.1 hs
  obtain ⟨hd, hat⟩ := of_decide_eq_true htest
  obtain ⟨sub, hsub, hfree⟩ := (Option.any_eq_true _ _).1 hat
  obtain ⟨htype, hfree⟩ := of_decide_eq_true hfree
  have hp : (data.at? [.key "x"]).isSome := rfl
  obtain ⟨hnull, hleft⟩ :=
    null_is_accepted_iff_no_choices_and_no_fixed_value hs hd hp hsub ⟨_, htype⟩
  exact ⟨root, schema, hm, hs, hd, hnull.2 hfree, hleft [] "x" rfl⟩

def gradeOfChoices : Text := "<p>\x7b\x7bx:string? (enum:A,B)\x7d\x7d</p>"

/-- Null is not accepted for a nullable text with choices, where one of them is. -/
theorem null_is_rejected_for_nullable_choice : ∃ root schema,
    Node.ofMarkup gradeOfChoices = .ok root ∧
    Compile.schema (some Settings.defaults) root = .ok schema ∧
    (∃ sub, JsonSchema.at? [.property "x"] schema = some sub ∧ JsonSchema.IsNullable sub) ∧
    Validate.data (.object [("x", .text "A")]) schema = .ok () ∧
    Validate.data (.object [("x", .null)]) schema ≠ .ok () := by
  let isNullableText (sub : Value) : Bool :=
    sub.field? "type" = some (.list [.text "string", .text "null"])
  have hread : Fault.succeedsWith (fun schema => decide (
        Validate.data (.object [("x", .text "A")]) schema = .ok () ∧
        Validate.data (.object [("x", .null)]) schema ≠ .ok () ∧
        (JsonSchema.at? [.property "x"] schema).any isNullableText))
      (Node.ofMarkup gradeOfChoices >>= Compile.schema (some Settings.defaults)) = true := by
    decide +kernel
  obtain ⟨schema, hs, htest⟩ := Fault.exists_of_succeedsWith hread
  obtain ⟨root, hm, hs⟩ := Fault.bind_eq_ok_iff.1 hs
  obtain ⟨hd, hnull, hat⟩ := of_decide_eq_true htest
  obtain ⟨sub, hsub, htype⟩ := (Option.any_eq_true _ _).1 hat
  exact ⟨root, schema, hm, hs, ⟨sub, hsub, _, of_decide_eq_true htype⟩, hd, hnull⟩

end TypedTemplate
