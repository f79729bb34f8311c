import TypedTemplate.Proofs.CompiledTrees
import TypedTemplate.Proofs.SortedFields

/-!
# Compiled schemas

A schema is written from a proper tree with every key once, so the order of the keys in the
canonical form does not matter: a key holds the canonical form of what the tree wrote there. The
parts of the schema under `properties` and `items` are then the schemas of the nodes at the same
positions of the tree.
-/
namespace TypedTemplate

namespace Keywords

def annotationNames : List Text := ["description", "x-instruction", "examples"]

theorem keys_ofText (keyword : Text) (t : Option Text) :
    (Keyed.keys (ofText keyword t)).Sublist [keyword] := by
  rcases t with - | - | - <;> first | exact List.nil_sublist _ | exact List.Sublist.refl _

theorem keys_ofSemantics (a : Semantics) :
    (Keyed.keys (ofSemantics a)).Sublist annotationNames := by
  have hnames : annotationNames =
      [("description" : Text)] ++ [("x-instruction" : Text)] ++ [("examples" : Text)] := rfl
  rw [hnames, ofSemantics, Keyed.keys, List.map_append, List.map_append]
  refine ((keys_ofText _ _).append (keys_ofText _ _)).append ?_
  rcases a.examples with - | - | - <;>
    first | exact List.nil_sublist _ | exact List.Sublist.refl _

theorem get?_ofSemantics (a : Semantics) {name : Text} (h : name ∉ annotationNames) :
    Keyed.get? name (ofSemantics a) = none :=
  Keyed.get?_eq_none_iff.2 fun hm => h ((keys_ofSemantics a).subset hm)

theorem nodup_keys_ofSemantics (a : Semantics) : (Keyed.keys (ofSemantics a)).Nodup :=
  (keys_ofSemantics a).nodup (by decide)

theorem keys_ofType (type : DataType) (nullable : Bool) :
    (Keyed.keys (ofType type nullable)).Sublist ["type", "format"] := by
  cases type <;>
    first | exact List.Sublist.refl _ | exact (List.nil_sublist _).cons_cons _

theorem nodup_keys_ofType (type : DataType) (nullable : Bool) :
    (Keyed.keys (ofType type nullable)).Nodup :=
  (keys_ofType type nullable).nodup (by decide)

end Keywords

def Leaf.keywordFields (l : Leaf) : Keyed Value :=
  (Keywords.ofType l.type l.nullable).setAll l.keywords

theorem Leaf.get?_keywordFields {l : Leaf} (h : l.IsProper) (name : Text) :
    Keyed.get? name l.keywordFields =
      (Keyed.get? name l.keywords).or (Keyed.get? name (Keywords.ofType l.type l.nullable)) :=
  Keyed.get?_setAll h.nodup _ name

theorem Leaf.get?_keywords_eq_none {l : Leaf} (h : l.IsProper) {name : Text}
    (hn : ∀ k : ConstraintKind, k.schemaKeyword ≠ name) : Keyed.get? name l.keywords = none := by
  cases hg : Keyed.get? name l.keywords with
  | none => rfl
  | some operand =>
    obtain ⟨c, rfl, -⟩ := h.ofConstraint name operand (Keyed.mem_of_get? hg)
    exact absurd rfl (hn c.kind)

namespace SchemaNode

/-- The fields of the schema of a node, annotations aside. -/
def statedFields : SchemaNode → Keyed Value
  | .leaf _ l => l.keywordFields
  | .array _ items => [("type", .text "array"), ("items", toSchema items)]
  | .object _ properties =>
    [("type", .text "object"), ("properties", .object (propertySchemas properties)),
      ("required", .list (requiredNames properties))]

def annotation : SchemaNode → Semantics
  | .leaf a _ => a
  | .array a _ => a
  | .object a _ => a

def fields (node : SchemaNode) : Keyed Value :=
  match node with
  | .leaf a l => l.keywordFields.setAll (Keywords.ofSemantics a)
  | .array a _ => node.statedFields ++ Keywords.ofSemantics a
  | .object a _ => node.statedFields ++ Keywords.ofSemantics a

theorem toSchema_eq (node : SchemaNode) : node.toSchema = .object node.fields := by
  cases node with
  | leaf a l => rw [toSchema, fields, Leaf.keywordFields]
  | array a items =>
    rw [toSchema]
    rfl
  | object a properties =>
    rw [toSchema]
    rfl

theorem nodup_keys_fields {node : SchemaNode} (h : node.Proper) :
    (Keyed.keys node.fields).Nodup := by
  cases h with
  | leaf hl =>
    exact Keyed.nodup_keys_setAll (Keyed.nodup_keys_setAll (Keywords.nodup_keys_ofType _ _) _) _
  | array hi =>
    rename_i a items
    have hsub : (Keyed.keys (fields (.array a items))).Sublist
        (([("type" : Text), "items"] : List Text) ++ Keywords.annotationNames) := by
      rw [fields, Keyed.keys, List.map_append]
      exact (List.Sublist.refl _).append (Keywords.keys_ofSemantics a)
    exact hsub.nodup (by decide)
  | object hk hc =>
    rename_i a properties
    have hsub : (Keyed.keys (fields (.object a properties))).Sublist
        (([("type" : Text), "properties", "required"] : List Text) ++
          Keywords.annotationNames) := by
      rw [fields, Keyed.keys, List.map_append]
      exact (List.Sublist.refl _).append (Keywords.keys_ofSemantics a)
    exact hsub.nodup (by decide)

theorem get?_fields (node : SchemaNode) {name : Text} (h : name ∉ Keywords.annotationNames) :
    Keyed.get? name node.fields = Keyed.get? name node.statedFields := by
  cases node with
  | leaf a l =>
    rw [fields, Keyed.get?_setAll (Keywords.nodup_keys_ofSemantics a),
      Keywords.get?_ofSemantics a h]
    rfl
  | array a items => rw [fields, Keyed.get?_append, Keywords.get?_ofSemantics a h, Option.or_none]
  | object a properties =>
    rw [fields, Keyed.get?_append, Keywords.get?_ofSemantics a h, Option.or_none]

def fieldNames : List Text :=
  "type" :: "format" :: "items" :: "properties" :: "required" :: (Keywords.annotationNames ++
    ConstraintKind.all.map ConstraintKind.schemaKeyword)

theorem mem_fieldNames_of_leaf {l : Leaf} (h : l.IsProper) {name : Text}
    (hn : name ∈ Keyed.keys l.keywordFields) : name ∈ fieldNames := by
  obtain ⟨⟨name, value⟩, hm, rfl⟩ := List.mem_map.1 hn
  rcases Keyed.mem_or_mem_of_mem_setAll hm with hm | hm
  · obtain ⟨c, rfl, -⟩ := h.ofConstraint name value hm
    have hkinds : ∀ k : ConstraintKind, k.schemaKeyword ∈ fieldNames := by
      intro k
      cases k <;> decide
    exact hkinds c.kind
  · rcases List.mem_cons.1 hm with hm | hm
    · rw [hm]
      exact (by decide : ("type" : Text) ∈ fieldNames)
    · obtain ⟨format, -, he⟩ := List.mem_map.1 hm
      rw [← he]
      exact (by decide : ("format" : Text) ∈ fieldNames)

theorem mem_fieldNames {node : SchemaNode} (h : node.Proper) {name : Text}
    (hn : name ∈ Keyed.keys node.fields) : name ∈ fieldNames := by
  by_cases ha : name ∈ Keywords.annotationNames
  · have hsub : Keywords.annotationNames ⊆ fieldNames := by decide
    exact hsub ha
  · have hstated : name ∈ Keyed.keys node.statedFields := by
      rw [← Decidable.not_not (p := name ∈ _), ← Keyed.get?_eq_none_iff, ← get?_fields node ha,
        Keyed.get?_eq_none_iff, Decidable.not_not]
      exact hn
    cases h with
    | leaf hl => exact mem_fieldNames_of_leaf hl hstated
    | array hi =>
      have hsub : (["type", "items"] : List Text) ⊆ fieldNames := by decide
      exact hsub hstated
    | object hk hc =>
      have hsub : (["type", "properties", "required"] : List Text) ⊆ fieldNames := by decide
      exact hsub hstated

theorem get?_fields_eq_none {node : SchemaNode} (h : node.Proper) {name : Text}
    (hn : name ∉ fieldNames) : Keyed.get? name node.fields = none :=
  Keyed.get?_eq_none_iff.2 fun hm => hn (mem_fieldNames h hm)

theorem propertySchemas_eq_map (properties : Keyed SchemaNode) :
    propertySchemas properties = properties.map fun e => (e.1, e.2.toSchema) := by
  induction properties with
  | nil => rfl
  | cons entry rest ih =>
    rw [propertySchemas, ih]
    rfl

theorem requiredNames_eq_map (properties : Keyed SchemaNode) :
    requiredNames properties =
      (Keyed.keys (properties.filter (·.2.isRequired))).map Value.text := by
  induction properties with
  | nil => rfl
  | cons entry rest ih =>
    obtain ⟨name, node⟩ := entry
    rw [requiredNames, ih]
    cases hr : node.isRequired <;> simp [Keyed.keys, hr]

end SchemaNode

namespace JsonSchema

def ofNode (node : SchemaNode) : Value := Canonical.canonicalize node.toSchema

/-- What a schema says one step further in. -/
def part? : SchemaStep → Value → Option Value
  | .property name, schema => (schema.field? "properties").bind (Value.field? name)
  | .items, schema => schema.field? "items"

def at? : SchemaPosition → Value → Option Value
  | [], schema => some schema
  | step :: rest, schema => (part? step schema).bind (at? rest)

theorem at?_cons (step : SchemaStep) (rest : SchemaPosition) (schema : Value) :
    at? (step :: rest) schema = (part? step schema).bind (at? rest) := rfl

theorem field?_ofNode {node : SchemaNode} (h : node.Proper) (key : Text) :
    (ofNode node).field? key =
      (Keyed.get? key node.fields).map (Canonical.canonicalizeField key) := by
  rw [ofNode, SchemaNode.toSchema_eq]
  exact Canonical.get?_sortFields (SchemaNode.nodup_keys_fields h) key

theorem canonicalizeField_toSchema (key : Text) (node : SchemaNode) :
    Canonical.canonicalizeField key node.toSchema = ofNode node := by
  rw [ofNode, SchemaNode.toSchema_eq]
  rfl

theorem field?_properties {properties : Keyed SchemaNode}
    (h : (Keyed.keys properties).Nodup) (name : Text) :
    (Canonical.canonicalizeField "properties"
        (.object (SchemaNode.propertySchemas properties))).field? name =
      (Keyed.get? name properties).map ofNode := by
  have hkeys : (Keyed.keys (SchemaNode.propertySchemas properties)).Nodup := by
    rw [SchemaNode.propertySchemas_eq_map, Keyed.keys, List.map_map]
    exact h
  have hget := Canonical.get?_sortFields hkeys name
  rw [SchemaNode.propertySchemas_eq_map, Keyed.get?_map fun _ => SchemaNode.toSchema,
    Option.map_map] at hget
  rw [SchemaNode.propertySchemas_eq_map]
  refine hget.trans (congrArg (Option.map · _) ?_)
  funext node
  exact canonicalizeField_toSchema name node

theorem schemaKeyword_ne {name : Text}
    (h : name ∈ ([("type" : Text), "format", "properties", "items"] : List Text))
    (k : ConstraintKind) : k.schemaKeyword ≠ name := by
  simp only [List.mem_cons, List.not_mem_nil, or_false] at h
  rcases h with rfl | rfl | rfl | rfl <;> cases k <;> decide

theorem part?_ofNode {node : SchemaNode} (h : node.Proper) (step : SchemaStep) :
    part? step (ofNode node) = (node.child? step).map ofNode := by
  cases h with
  | leaf hl =>
    rename_i a l
    have hnone : ∀ name : Text, name ∈ ([("properties" : Text), "items"] : List Text) →
        (ofNode (.leaf a l)).field? name = none := by
      intro name hn
      have hann : name ∉ Keywords.annotationNames := by
        simp only [List.mem_cons, List.not_mem_nil, or_false] at hn
        rcases hn with rfl | rfl <;> decide
      have htype : Keyed.get? name (Keywords.ofType l.type l.nullable) = none := by
        simp only [List.mem_cons, List.not_mem_nil, or_false] at hn
        rcases hn with rfl | rfl <;> cases l.type <;> rfl
      have hkind := Leaf.get?_keywords_eq_none hl
        (schemaKeyword_ne (List.mem_cons_of_mem _ (List.mem_cons_of_mem _ hn)))
      rw [field?_ofNode (.leaf hl), SchemaNode.get?_fields _ hann, SchemaNode.statedFields,
        Leaf.get?_keywordFields hl, hkind, htype]
      rfl
    cases step with
    | property name => rw [part?, hnone "properties" (by simp)]; rfl
    | items => exact hnone "items" (by simp)
  | array hi =>
    rename_i a items
    have hfield : ∀ key : Text, key ∉ Keywords.annotationNames →
        (ofNode (.array a items)).field? key = _ := fun key hk =>
      (field?_ofNode (.array hi) key).trans (congrArg _ (SchemaNode.get?_fields _ hk))
    cases step with
    | property name => rw [part?, hfield "properties" (by decide)]; rfl
    | items =>
      rw [part?, hfield "items" (by decide)]
      exact congrArg some (canonicalizeField_toSchema _ items)
  | object hk hc =>
    rename_i a properties
    have hfield : ∀ key : Text, key ∉ Keywords.annotationNames →
        (ofNode (.object a properties)).field? key = _ := fun key hk' =>
      (field?_ofNode (.object hk hc) key).trans (congrArg _ (SchemaNode.get?_fields _ hk'))
    cases step with
    | property name =>
      rw [part?, hfield "properties" (by decide)]
      exact field?_properties hk name
    | items => rw [part?, hfield "items" (by decide)]; rfl

theorem proper_child? {node child : SchemaNode} {step : SchemaStep} (h : node.Proper)
    (hc : node.child? step = some child) : child.Proper := by
  cases h with
  | leaf hl => cases step <;> cases hc
  | array hi =>
    cases step with
    | property name => cases hc
    | items => exact Option.some.inj hc ▸ hi
  | object hk hp =>
    cases step with
    | property name => exact hp name child (Keyed.mem_of_get? hc)
    | items => cases hc

theorem proper_at? {node found : SchemaNode} {position : SchemaPosition} (h : node.Proper)
    (hf : node.at? position = some found) : found.Proper := by
  induction position generalizing node with
  | nil => exact Option.some.inj hf ▸ h
  | cons step rest ih =>
    obtain ⟨child, hc, hf⟩ := Option.bind_eq_some_iff.1 hf
    exact ih (proper_child? h hc) hf

/-- What a schema says about a position is the schema of the node there. -/
theorem at?_ofNode {node : SchemaNode} (h : node.Proper) (position : SchemaPosition) :
    at? position (ofNode node) = (node.at? position).map ofNode := by
  induction position generalizing node with
  | nil => rfl
  | cons step rest ih =>
    rw [at?_cons, part?_ofNode h, SchemaNode.at?_cons]
    cases hc : node.child? step with
    | none => rfl
    | some child => exact ih (proper_child? h hc)

def ofRoot (tree : SchemaNode) : Value :=
  Canonical.canonicalize (Compile.withDialect tree.toSchema)

def rootFields (tree : SchemaNode) : Keyed Value :=
  ("$schema", .text Metaschema.identifier) :: tree.fields

theorem ofRoot_eq (tree : SchemaNode) :
    ofRoot tree = Canonical.canonicalize (.object (rootFields tree)) := by
  rw [ofRoot, SchemaNode.toSchema_eq]
  rfl

theorem get?_rootFields (tree : SchemaNode) {name : Text} (h : name ≠ "$schema".toList) :
    Keyed.get? name (rootFields tree) = Keyed.get? name tree.fields := by
  rw [rootFields, Keyed.get?, if_neg (Ne.symm h)]

theorem nodup_keys_rootFields {tree : SchemaNode} (h : tree.Proper) :
    (Keyed.keys (rootFields tree)).Nodup :=
  List.nodup_cons.2 ⟨fun hm => absurd (SchemaNode.mem_fieldNames h hm) (by decide),
    SchemaNode.nodup_keys_fields h⟩

theorem field?_ofRoot {tree : SchemaNode} (h : tree.Proper) {key : Text}
    (hk : key ≠ "$schema".toList) : (ofRoot tree).field? key = (ofNode tree).field? key := by
  rw [ofRoot_eq, field?_ofNode h, ← get?_rootFields tree hk]
  exact Canonical.get?_sortFields (nodup_keys_rootFields h) key

theorem at?_ofRoot {tree : SchemaNode} (h : tree.Proper) (step : SchemaStep)
    (rest : SchemaPosition) :
    at? (step :: rest) (ofRoot tree) = (tree.at? (step :: rest)).map ofNode := by
  rw [← at?_ofNode h, at?_cons, at?_cons]
  cases step with
  | property name => rw [part?, part?, field?_ofRoot h (by decide)]
  | items => rw [part?, part?, field?_ofRoot h (by decide)]

end JsonSchema

theorem Compile.schema_eq_bind (given : Option Settings) (root : Node) :
    Compile.schema given root = Settings.inForce given root >>= fun settings =>
      (Compile.tree settings root).map JsonSchema.ofRoot := by
  unfold Compile.schema
  cases Settings.inForce given root with
  | error e => rfl
  | ok settings =>
    show (Compile.tree settings root >>= fun t => _) = (Compile.tree settings root).map _
    cases Compile.tree settings root <;> rfl

theorem Compile.schema_eq_ok {given : Option Settings} {root : Node} {schema : Value}
    (h : Compile.schema given root = .ok schema) :
    ∃ settings t, Compile.tree settings root = .ok t ∧ schema = JsonSchema.ofRoot t := by
  obtain ⟨settings, -, h⟩ := Fault.bind_eq_ok_iff.1 h
  obtain ⟨t, ht, h⟩ := Fault.bind_eq_ok_iff.1 h
  exact ⟨settings, t, ht, (Except.ok.inj h).symm⟩

/-- The schema of a template speaks about the positions of the tree that is collected from it. -/
theorem JsonSchema.isSome_at?_eq_collect {root : Node} {given : Option Settings} {schema : Value}
    (hs : Compile.schema given root = .ok schema) (step : SchemaStep) (rest : SchemaPosition) :
    (at? (step :: rest) schema).isSome =
      ((Compile.collect (root.occurrences .empty) .emptyObject).at? (step :: rest)).isSome := by
  obtain ⟨settings, t, ht, rfl⟩ := Compile.schema_eq_ok hs
  obtain ⟨hproper, hform⟩ := Compile.tree_eq_ok ht
  have hsame := congrArg Option.isSome (hform (step :: rest))
  rw [Option.isSome_map, Option.isSome_map] at hsame
  rw [at?_ofRoot hproper, Option.isSome_map, hsame]

end TypedTemplate
