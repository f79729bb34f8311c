import TypedTemplate.Proofs.NullableLeaves
import Mathlib.Data.List.Sort

/-!
# Required names

Which properties an object requires is read off the tree when the schema is written, and put in
order as the properties are. So the required names of every object of a schema are the names of its
properties in their order, less those of the nullable leaves.
-/
namespace TypedTemplate

/-- Names in strict order that are among other such names stand among them in their order. -/
theorem Text.sublist_of_subset {names others : List Text} (hn : names.Pairwise (· < ·))
    (ho : others.Pairwise (· < ·)) (h : names ⊆ others) : names.Sublist others := by
  have hne : ∀ {a b : Text}, a < b → a ≠ b := fun hab he => List.lt_irrefl _ (he ▸ hab)
  exact List.sublist_of_subperm_of_pairwise (List.subperm_of_subset (hn.imp hne) h) hn ho

namespace JsonSchema

variable {properties : Keyed SchemaNode}

def shownProperties (properties : Keyed SchemaNode) : Keyed Value :=
  Canonical.sortFields (Canonical.canonicalizeFields (SchemaNode.propertySchemas properties))

theorem shownProperties_perm (properties : Keyed SchemaNode) :
    (shownProperties properties).Perm (properties.map fun e => (e.1, ofNode e.2)) := by
  have hp := Canonical.sortFields_perm (SchemaNode.propertySchemas properties)
  rw [SchemaNode.propertySchemas_eq_map, List.map_map] at hp
  have hforms : properties.map ((fun e => (e.1, Canonical.canonicalizeField e.1 e.2)) ∘
      fun e => (e.1, e.2.toSchema)) = properties.map fun e => (e.1, ofNode e.2) :=
    List.map_congr_left fun e _ => congrArg (Prod.mk e.1) (canonicalizeField_toSchema e.1 e.2)
  rw [hforms] at hp
  rw [shownProperties, SchemaNode.propertySchemas_eq_map]
  exact hp

theorem mem_shownProperties {name : Text} {child : Value}
    (h : (name, child) ∈ shownProperties properties) :
    ∃ node, (name, node) ∈ properties ∧ child = ofNode node := by
  obtain ⟨⟨_, node⟩, hm, he⟩ := List.mem_map.1 ((shownProperties_perm properties).mem_iff.1 h)
  cases he
  exact ⟨node, hm, rfl⟩

theorem pairwise_keys_shownProperties (h : (Keyed.keys properties).Nodup) :
    (Keyed.keys (shownProperties properties)).Pairwise (· < ·) := by
  have hkeys : ((Canonical.canonicalizeFields
      (SchemaNode.propertySchemas properties)).map Prod.fst).Nodup := by
    rw [Canonical.canonicalizeFields_eq_map, SchemaNode.propertySchemas_eq_map, List.map_map,
      List.map_map]
    exact h
  exact List.pairwise_map.2 (Canonical.pairwise_lt_sort Prod.fst hkeys)

theorem pairwise_neededNames (h : (Keyed.keys properties).Nodup) :
    (Validate.neededNames properties).Pairwise (· < ·) := by
  have hkeys : ((Keyed.keys (properties.filter (·.2.isRequired))).map id).Nodup := by
    rw [List.map_id]
    exact h.sublist (List.filter_sublist.map Prod.fst)
  exact Canonical.pairwise_lt_sort id hkeys

theorem neededNames_subset (properties : Keyed SchemaNode) :
    Validate.neededNames properties ⊆ Keyed.keys (shownProperties properties) := by
  intro name hm
  obtain ⟨node, hnode, -⟩ := Validate.mem_neededNames_iff.1 hm
  have hshown : (name, ofNode node) ∈ shownProperties properties :=
    (shownProperties_perm properties).mem_iff.2 (List.mem_map.2 ⟨(name, node), hnode, rfl⟩)
  exact List.mem_map.2 ⟨(name, ofNode node), hshown, rfl⟩

theorem not_mem_neededNames_iff (hk : (Keyed.keys properties).Nodup) {name : Text}
    {node : SchemaNode} (hm : (name, node) ∈ properties) :
    name ∉ Validate.neededNames properties ↔ node.isRequired = false := by
  rw [Validate.mem_neededNames_iff, ← Bool.not_eq_true, not_iff_not]
  constructor
  · rintro ⟨other, hother, hr⟩
    obtain rfl := SchemaNode.eq_of_mem_of_nodup hk hm hother
    exact hr
  · exact fun hr => ⟨node, hm, hr⟩

/-- Null stands beside the type of exactly the nodes that are not required. -/
theorem isRequired_eq_false_iff {node : SchemaNode} (h : node.Proper) :
    node.isRequired = false ↔ ∃ type : DataType, (ofNode node).field? "type" =
      some (.list [.text (Keywords.jsonType type), .text "null"]) := by
  rw [field?_type_ofNode h]
  cases node with
  | array a items => simp [SchemaNode.isRequired, typeOf]
  | object a properties => simp [SchemaNode.isRequired, typeOf]
  | leaf a l =>
    rw [SchemaNode.isRequired, Bool.not_eq_false', typeOf, Validate.typeOperand]
    constructor
    · intro hl
      exact ⟨l.type, by rw [hl]; rfl⟩
    · rintro ⟨type, htype⟩
      cases hl : l.nullable with
      | true => rfl
      | false =>
        rw [hl] at htype
        cases htype

end JsonSchema

/-- At every object of a schema the properties and the required names are in strict order, and the
required names are those of the properties that are not nullable leaves. -/
theorem required_names_leave_out_nullable_leaves {root : Node} {given : Option Settings}
    {schema sub : Value} {position : SchemaPosition}
    (hs : Compile.schema given root = .ok schema)
    (hsub : JsonSchema.at? position schema = some sub)
    (htype : sub.field? "type" = some (.text "object")) :
    ∃ (properties : Keyed Value) (names : List Text),
      sub.field? "properties" = some (.object properties) ∧
      sub.field? "required" = some (.list (names.map .text)) ∧
      (Keyed.keys properties).Pairwise (· < ·) ∧
      names.Pairwise (· < ·) ∧
      names.Sublist (Keyed.keys properties) ∧
      ∀ name child, (name, child) ∈ properties →
        (name ∉ names ↔ ∃ type : DataType, child.field? "type" =
          some (.list [.text (Keywords.jsonType type), .text "null"])) := by
  obtain ⟨settings, t, ht, rfl⟩ := Compile.schema_eq_ok hs
  have hproper := (Compile.tree_eq_ok ht).1
  obtain ⟨node, hnode, hfield⟩ := JsonSchema.exists_node_of_at? hproper hsub
  have hin : node.Proper := JsonSchema.proper_at? hproper hnode
  rw [hfield "type" (by decide)] at htype
  obtain ⟨a, properties, rfl⟩ := JsonSchema.exists_object_of_type hin htype
  obtain ⟨hk, hc⟩ : (Keyed.keys properties).Nodup ∧
      ∀ name node, (name, node) ∈ properties → SchemaNode.Proper node := by
    cases hin with
    | object hk hc => exact ⟨hk, hc⟩
  have hstated : ∀ key : Text, key ≠ "$schema".toList → key ∉ Keywords.annotationNames →
      sub.field? key = (Keyed.get? key (SchemaNode.statedFields (.object a properties))).map
        (Canonical.canonicalizeField key) := by
    intro key hkey hann
    rw [hfield key hkey, JsonSchema.field?_ofNode hin, SchemaNode.get?_fields _ hann]
  have hshown := JsonSchema.pairwise_keys_shownProperties hk
  have hneeded := JsonSchema.pairwise_neededNames hk
  refine ⟨JsonSchema.shownProperties properties, Validate.neededNames properties, ?_, ?_, hshown,
    hneeded, Text.sublist_of_subset hneeded hshown (JsonSchema.neededNames_subset properties), ?_⟩
  · rw [hstated "properties" (by decide) (by decide)]
    rfl
  · rw [hstated "required" (by decide) (by decide)]
    exact congrArg some (Validate.canonicalizeField_requiredNames properties)
  · intro name child hm
    obtain ⟨node, hnode, rfl⟩ := JsonSchema.mem_shownProperties hm
    rw [JsonSchema.not_mem_neededNames_iff hk hnode]
    exact JsonSchema.isRequired_eq_false_iff (hc name node hnode)

/-- A form whose parts are stated in several places: one of its fields bears the name `required`,
and one is nullable only where it is stated first. -/
def formWithRequiredField : Text :=
  "<div>\x7b\x7bform.title:string?\x7d\x7d<p data-if='form.required'>" ++
  "\x7b\x7bform.note:string?\x7d\x7d</p>\x7b\x7bform.title:string\x7d\x7d</div>"

/-- Whether a value is an object with just some keys, in order. -/
def Value.hasKeys (keys : List Text) : Value → Bool
  | .object fields => Keyed.keys fields = keys
  | _ => false

theorem required_names_of_form_with_required_field : ∃ root schema sub properties,
    Node.ofMarkup formWithRequiredField = .ok root ∧
    Compile.schema (some Settings.defaults) root = .ok schema ∧
    JsonSchema.at? [.property "form"] schema = some sub ∧
    sub.field? "properties" = some (.object properties) ∧
    Keyed.keys properties = ["note", "required", "title"] ∧
    sub.field? "required" = some (.list [.text "required", .text "title"]) ∧
    ∀ name child, (name, child) ∈ properties →
      (name ∉ (["required", "title"] : List Text) ↔ ∃ type : DataType, child.field? "type" =
        some (.list [.text (Keywords.jsonType type), .text "null"])) := by
  let isForm (sub : Value) : Bool :=
    sub.field? "type" = some (.text "object") ∧
      sub.field? "required" = some (.list [.text "required", .text "title"]) ∧
      (sub.field? "properties").any (·.hasKeys ["note", "required", "title"])
  have hread : Fault.succeedsWith (fun schema =>
        (JsonSchema.at? [.property "form"] schema).any isForm)
      (Node.ofMarkup formWithRequiredField >>= Compile.schema (some Settings.defaults)) = true := by
    decide +kernel
  obtain ⟨schema, hs, hat⟩ := Fault.exists_of_succeedsWith hread
  obtain ⟨root, hm, hs⟩ := Fault.bind_eq_ok_iff.1 hs
  obtain ⟨sub, hsub, hform⟩ := (Option.any_eq_true _ _).1 hat
  obtain ⟨htype, hrequired, hkeys⟩ := of_decide_eq_true hform
  obtain ⟨properties, names, hp, hn, -, -, -, hiff⟩ :=
    required_names_leave_out_nullable_leaves hs hsub htype
  rw [hp] at hkeys
  have hkeys : Keyed.keys properties = ["note", "required", "title"] := of_decide_eq_true hkeys
  have hnames : names = ["required", "title"] := by
    have hlists := Value.list.inj (Option.some.inj (hn.symm.trans hrequired))
    exact List.map_injective_iff.2 (fun _ _ => Value.text.inj) hlists
  subst hnames
  exact ⟨root, schema, sub, properties, hm, hs, hsub, hp, hkeys, hrequired, hiff⟩

end TypedTemplate
