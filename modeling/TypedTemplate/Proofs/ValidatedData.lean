import TypedTemplate.Proofs.Acceptance
import TypedTemplate.Proofs.LastingShapes
import TypedTemplate.Proofs.Readings

/-!
# Validated data

Data that the schema of a template accepts is described by the compiled tree. The scopes of the
document keep to the tree: each alias stands for a value that is described where the schema says
the alias leads. So rendering reads what the interpolations and iterations of the template ask
for, wherever a row shows an item of the data.
-/
namespace TypedTemplate

namespace SchemaNode

/-- A value is described if it fits, or if it is absent where nothing is required. -/
def Describes (node : SchemaNode) (v : Value) : Prop :=
  node.Fits v ∨ (v = .null ∧ node.isRequired = false)

theorem Describes.field {node child : SchemaNode} {v : Value} {name : Text}
    (h : node.Describes v) (hc : node.child? (.property name) = some child) :
    child.Describes ((v.field? name).getD .null) := by
  rcases h with h | ⟨-, hr⟩
  · cases h with
    | leaf hl => cases hc
    | array hall => cases hc
    | object hneeded hall =>
      rename_i a properties fields
      have hmem : (name, child) ∈ properties := Keyed.mem_of_get? hc
      have hfield : (Value.object fields).field? name = Keyed.get? name fields := rfl
      rw [hfield]
      cases hg : Keyed.get? name fields with
      | some w => exact .inl (hall name child w hmem hg)
      | none =>
        refine .inr ⟨rfl, ?_⟩
        rw [← Bool.not_eq_true]
        intro hr
        have hhas := hneeded name child hmem hr
        rw [Keyed.has, hg] at hhas
        cases hhas
  · cases node with
    | leaf a l => cases hc
    | array a items => cases hr
    | object a properties => cases hr

theorem Describes.follow {node found : SchemaNode} {v : Value} {keys : List Text}
    (h : node.Describes v) (hf : node.at? (keys.map .property) = some found) :
    found.Describes (DynamicScope.follow v keys) := by
  induction keys generalizing node v with
  | nil =>
    obtain rfl := Option.some.inj hf
    exact h
  | cons key keys ih =>
    obtain ⟨child, hc, hf⟩ := Option.bind_eq_some_iff.1 hf
    rw [DynamicScope.follow_cons]
    exact ih (h.field hc) hf

theorem Describes.exists_list {a : Semantics} {items : SchemaNode} {v : Value}
    (h : (SchemaNode.array a items).Describes v) :
    ∃ vs, v = .list vs ∧ ∀ w ∈ vs, items.Fits w := by
  rcases h with h | ⟨-, hr⟩
  · cases h with
    | array hall => exact ⟨_, rfl, hall⟩
  · cases hr

end SchemaNode

namespace SchemaPosition

theorem ofSteps_of_isIdentifier {parts : List Text}
    (h : ∀ part ∈ parts, Path.isIdentifier part = true) :
    ofSteps (parts.map Path.splitMarker) = parts.map .property := by
  induction parts with
  | nil => rfl
  | cons part parts ih =>
    obtain ⟨hpart, hparts⟩ := List.forall_mem_cons.1 h
    rw [List.map_cons, ofSteps_cons, ih hparts, Path.splitMarker_of_isIdentifier hpart]
    rfl

/-- A path leads from the position that its alias stands for, if it has one, or else from the root
of the schema. -/
theorem ofPath_resolve {around : StaticScope} (hs : around.IsResolved) {path : Text}
    (hp : Path.isChain path = true) :
    ofPath (around.resolve path) =
      match Keyed.get? (Path.root path) around with
      | none => (Path.components path).map .property
      | some target => ofPath target ++ (Path.components path).tail.map .property := by
  have hid : ∀ part ∈ Path.components path, Path.isIdentifier part = true :=
    fun _ => Path.isIdentifier_of_mem_components hp
  rw [ofPath, SchemaNode.steps, StaticScope.components_resolve hs hp]
  cases Keyed.get? (Path.root path) around with
  | none => exact ofSteps_of_isIdentifier hid
  | some target =>
    have htail : ∀ part ∈ (Path.components path).tail, Path.isIdentifier part = true :=
      fun _ hm => hid _ (List.mem_of_mem_tail hm)
    dsimp only
    rw [List.map_append, ofSteps_append, ofSteps_of_isIdentifier htail]
    rfl

theorem ofPath_append_marker {path : Text} (h : Path.IsResolved path) {parts : List Text}
    {last : Text} (hp : Text.splitOn '.' path = parts ++ [last])
    (hl : Path.isIdentifier last = true) :
    ofPath (path ++ Path.arrayMarker) = ofPath path ++ [.items] := by
  obtain ⟨before, final, hsplit, hm⟩ :=
    Text.splitOn_append_of_not_mem (show '.' ∉ Path.arrayMarker by decide) path
  obtain ⟨rfl, hfinal⟩ := List.append_inj' (hp.symm.trans hsplit) rfl
  obtain rfl := (List.cons.inj hfinal).1
  have hend : ofSteps [Path.splitMarker (last ++ Path.arrayMarker)] =
      ofSteps [Path.splitMarker last] ++ [.items] := by
    rw [Path.splitMarker_append_marker, Path.splitMarker_of_isIdentifier hl]
    rfl
  rw [ofPath, ofPath, SchemaNode.steps, SchemaNode.steps,
    Path.components_of_isResolved h.append_marker, Path.components_of_isResolved h, hm, hsplit,
    List.map_append, List.map_append, ofSteps_append, ofSteps_append, List.append_assoc]
  exact congrArg _ hend

end SchemaPosition

theorem StaticScope.at?_items {around : StaticScope} (hs : around.IsResolved) {path : Text}
    (hp : Path.isChain path = true) (hb : Keyed.has path around = false) {tree items : SchemaNode}
    {a : Semantics} (hn : tree.at? (.ofPath (around.resolve path)) = some (.array a items)) :
    tree.at? (.ofPath (around.resolve path ++ Path.arrayMarker)) = some items := by
  obtain ⟨parts, last, hsplit, hlast⟩ := splitOn_resolve_of_not_bare hp hb
  have hresolved := isResolved_resolve hs hp
  rw [SchemaPosition.ofPath_append_marker hresolved hsplit hlast, SchemaNode.at?_append, hn]
  rfl

/-- What an alias stands for on either side: a value, and a place of the tree that describes
it. -/
inductive DescribedTarget (tree : SchemaNode) : Option Text → Option Value → Prop
  | unbound : DescribedTarget tree none none
  | bound {target : Text} {node : SchemaNode} {v : Value} :
      tree.at? (.ofPath target) = some node → node.Describes v →
      DescribedTarget tree (some target) (some v)

/-- The data and the value of every alias are described by a tree, where the scope of the schema
says that they lie. -/
structure Described (tree : SchemaNode) (around : StaticScope) (scope : DynamicScope) : Prop where
  data : tree.Fits scope.data
  aliases : ∀ name ∉ Path.implicitNames,
    DescribedTarget tree (Keyed.get? name around) (Keyed.get? name scope.bindings)

namespace Described

variable {tree : SchemaNode} {around : StaticScope} {scope inner : DynamicScope}

theorem top {data : Value} (h : tree.Fits data) : Described tree .empty (.ofData data) where
  data := h
  aliases _ _ := .unbound

theorem resolve (h : Described tree around scope) (hs : around.IsResolved) {path : Text}
    (hp : Path.isChain path = true) (hi : Path.isImplicit path = false) {node : SchemaNode}
    (hn : tree.at? (.ofPath (around.resolve path)) = some node) :
    node.Describes (scope.resolve path) := by
  have hroot : Path.root path ∉ Path.implicitNames := by
    simpa [Path.isImplicit] using hi
  have htarget := h.aliases _ hroot
  rw [scope.resolve_of_isChain hp]
  rw [SchemaPosition.ofPath_resolve hs hp] at hn
  cases ho : Keyed.get? (Path.root path) around with
  | none =>
    rw [ho] at htarget hn
    generalize Keyed.get? (Path.root path) scope.bindings = v at htarget
    cases htarget with
    | unbound => exact SchemaNode.Describes.follow (.inl h.data) hn
  | some target =>
    rw [ho] at htarget hn
    generalize Keyed.get? (Path.root path) scope.bindings = v at htarget
    cases htarget with
    | bound hat hv =>
      dsimp only at hn
      rw [SchemaNode.at?_append, hat] at hn
      exact hv.follow hn

theorem enter (h : Described tree around scope) (hs : around.IsResolved) {i : Iteration}
    (hp : Path.isChain i.source = true) (hi : Path.isImplicit i.source = false)
    (hb : Keyed.has i.source around = false) {a : Semantics} {node : SchemaNode}
    (hn : tree.at? (.ofPath (around.resolve i.source)) = some (.array a node))
    {items : List Value} {index : Nat} (hl : scope.resolve i.source = .list items)
    (hlt : index < Render.takenRows i items) (hrow : scope.enter i items index = .ok inner) :
    Described tree
      (Keyed.set i.itemName (around.resolve i.source ++ Path.arrayMarker) around) inner where
  data := (DynamicScope.enter_eq_ok hrow).1 ▸ h.data
  aliases name hname := by
    rw [Keyed.get?_set, DynamicScope.get?_enter hrow hname]
    by_cases he : name = i.itemName
    · rw [if_pos he, if_pos he]
      have hitems := StaticScope.at?_items hs hp hb hn
      refine .bound hitems (.inl ?_)
      · obtain ⟨vs, hvs, hfits⟩ := (h.resolve hs hp hi hn).exists_list
        rw [hl] at hvs
        cases hvs
        have hlen := Render.takenRows_le i items
        have hitem : items[index]? = some items[index] :=
          List.getElem?_eq_getElem (Nat.lt_of_lt_of_le hlt hlen)
        rw [Render.rows_getElem?_of_lt hlt, Value.item, hitem]
        exact hfits _ (List.getElem_mem _)
    · rw [if_neg he, if_neg he]
      exact h.aliases name hname

end Described

/-- Whether an iteration goes over a list at a path of its own: neither what an alias stands for
itself, nor a name of rows and pages. -/
def Occurrence.isPlain : Occurrence → Bool
  | .iteration around i => !Keyed.has i.source around && !Path.isImplicit i.source
  | _ => true

theorem Occurrence.source_of_isPlain {around : StaticScope} {i : Iteration}
    (h : (Occurrence.iteration around i).isPlain = true) :
    Keyed.has i.source around = false ∧ Path.isImplicit i.source = false := by
  have hplain : (!Keyed.has i.source around && !Path.isImplicit i.source) = true := h
  simpa using hplain

theorem StaticScope.isImplicit_eq_false (around : StaticScope) {path : Text}
    (h : Path.isImplicit path = false) : around.isImplicit path = false := by
  rw [isImplicit, h, Bool.false_and]

namespace Node

def HasPlainIterations (root : Node) : Prop :=
  ∀ o ∈ root.occurrences .empty, o.isPlain = true

instance (root : Node) : Decidable root.HasPlainIterations :=
  inferInstanceAs (Decidable (∀ o ∈ root.occurrences .empty, o.isPlain = true))

theorem mem_registrations_of_iteration {root : Node} {around : StaticScope} {i : Iteration}
    (h : .iteration around i ∈ root.occurrences .empty) :
    .array (around.resolve i.source) ∈ root.registrations :=
  List.mem_filterMap.2 ⟨_, h, rfl⟩

theorem mem_registrations_of_interpolation {root : Node} {around : StaticScope}
    {i : Interpolation} (h : .interpolation around i ∈ root.occurrences .empty)
    (hi : Path.isImplicit i.path = false) :
    .leaf (around.resolve i.path) (Leaf.ofInterpolation i) ∈ root.registrations := by
  refine List.mem_filterMap.2 ⟨_, h, ?_⟩
  rw [Occurrence.registration?, around.isImplicit_eq_false hi]
  rfl

end Node

/-- The scopes of a document keep to the compiled tree in every row that shows an item. -/
theorem Described.keepsInRows {settings : Settings} {root : Node} {tree : SchemaNode}
    (hn : root.HasChains) (ht : Compile.tree settings root = .ok tree)
    (ha : root.HasAgreeingShapes) (hp : root.HasPlainIterations) :
    Render.KeepsInRows (Described tree) (root.occurrences .empty) := by
  intro around scope i items index inner hi hd hl hlt hrow
  obtain ⟨hs, hc⟩ := Node.isResolved_of_mem_occurrences hn _ hi
  obtain ⟨hb, himplicit⟩ := Occurrence.source_of_isPlain (hp _ hi)
  obtain ⟨a, node, hnode⟩ :=
    Compile.exists_array_of_mem_registrations ht ha (Node.mem_registrations_of_iteration hi)
  exact hd.enter hs hc himplicit hb hnode hl hlt hrow

/-- Rendering writes pieces, and reads what the schema promises. Where no two occurrences of a
template disagree and every iteration is plain, data that is accepted gives every interpolation a
value of its declared type, or null where it admits that, and gives every iteration a list. Rows
that show no item are left out. -/
theorem validated_data_is_what_is_read {markup : Text} {root : Node} {given : Option Settings}
    {schema data : Value} (hm : Node.ofMarkup markup = .ok root)
    (hs : Compile.schema given root = .ok schema) (ha : root.HasAgreeingShapes)
    (ht : root.HasAgreeingTypes) (hp : root.HasPlainIterations)
    (hd : Validate.data data schema = .ok ()) :
    (∀ zone, Render.node zone root (.ofData data) =
      Render.writeAll zone (Render.pieces root (.ofData data) false)) ∧
    (∀ i scope, .interpolation i scope false ∈ Render.pieces root (.ofData data) false →
      Path.isImplicit i.path = false →
      Assertion.hasType (Keywords.jsonType i.type) (scope.resolve i.path) = .ok true ∨
        (scope.resolve i.path = .null ∧ i.nullable = true)) ∧
    (∀ (tag : Text) i scope,
      .iteration tag i scope false ∈ Render.pieces root (.ofData data) false →
      tag ≠ "meta" → ∃ items, scope.resolve i.source = .list items) := by
  have hn := Node.hasChains_of_ofMarkup hm
  obtain ⟨settings, tree, htree, rfl⟩ := Compile.schema_eq_ok hs
  rw [Validate.data_eq_ok_iff_fits (Compile.tree_eq_ok htree).1] at hd
  have hreads : ∀ piece ∈ Render.pieces root (.ofData data) false,
      piece.Reads (Described tree) (root.occurrences .empty) :=
    Render.reads_of_mem_pieces (fun _ => .top hd) (.keepsInRows hn htree ha hp)
  refine ⟨fun zone => Render.node_eq_writeAll zone root (.ofData data) false, ?_, ?_⟩
  · intro i scope hmem hi
    obtain ⟨around, ho, hdescribed⟩ := hreads _ hmem rfl
    obtain ⟨hr, hc⟩ := Node.isResolved_of_mem_occurrences hn _ ho
    obtain ⟨a, l, hl, hkeeps⟩ := Compile.exists_leaf_of_mem_registrations hn htree ha ht rfl
      (Node.mem_registrations_of_interpolation ho hi)
    have htype : l.type = i.type := hkeeps.type_eq
    rcases hdescribed.resolve hr hc hi hl with hfits | ⟨hnull, hrequired⟩
    · cases hfits with
      | leaf hadmits =>
        rcases hadmits.type with h | ⟨hnullable, hnull⟩
        · exact .inl (htype ▸ h)
        · exact .inr ⟨hnull, hkeeps.nullable hnullable⟩
    · refine .inr ⟨hnull, hkeeps.nullable ?_⟩
      simpa [SchemaNode.isRequired] using hrequired
  · intro tag i scope hmem hshown
    obtain ⟨around, ho, hdescribed⟩ := hreads _ hmem rfl hshown
    obtain ⟨hr, hc⟩ := Node.isResolved_of_mem_occurrences hn _ ho
    obtain ⟨a, items, hitems⟩ :=
      Compile.exists_array_of_mem_registrations htree ha (Node.mem_registrations_of_iteration ho)
    have hsource := (Occurrence.source_of_isPlain (hp _ ho)).2
    obtain ⟨vs, hvs, -⟩ := (hdescribed.resolve hr hc hsource hitems).exists_list
    exact ⟨vs, hvs⟩

def namedRows : Value := .object [("rows", .list [.object [("name", .text "A")], .object []])]

/-- A list of rows with names that may be absent reads as its schema says, and one name is read
as null. -/
theorem validated_data_is_what_is_read_in_named_rows : ∃ root schema,
    Node.ofMarkup "<li data-repeat='rows as row'>\x7b\x7brow.name:string?\x7d\x7d</li>" =
      .ok root ∧
    Compile.schema (some Settings.defaults) root = .ok schema ∧
    root.HasAgreeingShapes ∧ root.HasAgreeingTypes ∧ root.HasPlainIterations ∧
    Validate.data namedRows schema = .ok () ∧
    (∀ i scope, .interpolation i scope false ∈ Render.pieces root (.ofData namedRows) false →
      Path.isImplicit i.path = false →
      Assertion.hasType (Keywords.jsonType i.type) (scope.resolve i.path) = .ok true ∨
        (scope.resolve i.path = .null ∧ i.nullable = true)) ∧
    ∃ i scope, .interpolation i scope false ∈ Render.pieces root (.ofData namedRows) false ∧
      scope.resolve i.path = .null := by
  let markup : Text := "<li data-repeat='rows as row'>\x7b\x7brow.name:string?\x7d\x7d</li>"
  let isNull : Render.Piece → Bool
    | .interpolation i scope padded => !padded && scope.resolve i.path = .null
    | _ => false
  have hread : Fault.succeedsWith (fun root => decide (root.HasAgreeingShapes ∧
      root.HasAgreeingTypes ∧ root.HasPlainIterations ∧
      (Render.pieces root (.ofData namedRows) false).any isNull) &&
      Fault.succeedsWith (fun schema => decide (Validate.data namedRows schema = .ok ()))
        (Compile.schema (some Settings.defaults) root)) (Node.ofMarkup markup) = true := by
    decide +kernel
  obtain ⟨root, hm, hroot⟩ := Fault.exists_of_succeedsWith hread
  obtain ⟨htest, hroot⟩ := Bool.and_eq_true_iff.1 hroot
  obtain ⟨ha, ht, hp, hnull⟩ := of_decide_eq_true htest
  obtain ⟨schema, hs, hd⟩ := Fault.exists_of_succeedsWith hroot
  have hd := of_decide_eq_true hd
  refine ⟨root, schema, hm, hs, ha, ht, hp, hd,
    (validated_data_is_what_is_read hm hs ha ht hp hd).2.1, ?_⟩
  obtain ⟨piece, hmem, hpiece⟩ := List.any_eq_true.1 hnull
  cases piece with
  | interpolation i scope padded =>
    obtain ⟨hpadded, hv⟩ := Bool.and_eq_true_iff.1 hpiece
    cases padded with
    | true => cases hpadded
    | false => exact ⟨i, scope, hmem, of_decide_eq_true hv⟩
  | markup t => cases hpiece
  | iteration tag i scope padded => cases hpiece
  | fault e => cases hpiece

end TypedTemplate
