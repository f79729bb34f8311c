import TypedTemplate.Proofs.LaidAnnotations
import TypedTemplate.Proofs.LastingShapes
import TypedTemplate.Proofs.RegistrationOrder

/-!
# Addressed nodes

A path addresses the node at its position. Its position tells its components, but not how many dots
stand between them, before and behind them: empty components are passed over. So what a meta element
states for a path reaches the one node that is spelled as the components of the path with single
dots between them, which is the node of that very path if none of its components is empty.
-/
namespace TypedTemplate

namespace Path

variable {path : Text}

/-- Whether no component of a path is empty. -/
def IsGapless (path : Text) : Prop := [] ∉ Text.splitOn '.' path

theorem IsResolved.isGapless (h : IsResolved path) : IsGapless path :=
  fun hm => (h [] hm).ne_nil rfl

theorem IsGapless.join_components (h : IsGapless path) :
    Text.join ['.'] (components path) = path := by
  have hkept : components path = Text.splitOn '.' path :=
    List.filter_eq_self.2 fun part hpart => by
      have hne : part ≠ [] := fun he => h (he ▸ hpart)
      simpa using hne
  rw [hkept, Text.join_splitOn]

theorem components_join_components (path : Text) :
    components (Text.join ['.'] (components path)) = components path := by
  by_cases hnone : components path = []
  · rw [hnone]
    rfl
  · have hdots : ∀ part ∈ components path, '.' ∉ part := by
      intro part hpart hm
      have hdot := Text.not_of_mem_splitAt (List.mem_filter.1 hpart).1 '.' hm
      exact absurd hdot (by decide)
    have hnonempty : ∀ part ∈ components path, (!part.isEmpty) = true :=
      fun part hpart => (List.mem_filter.1 hpart).2
    have hpieces := Text.splitOn_join_of_not_mem hnone hdots
    unfold components at hnonempty hpieces ⊢
    rw [hpieces, List.filter_eq_self.2 hnonempty]

end Path

namespace SchemaNode

theorem annotateAt_join_components (path : Text) (overwrite : Bool) (new : Semantics)
    (tree : SchemaNode) :
    tree.annotateAt (Text.join ['.'] (Path.components path)) overwrite new =
      tree.annotateAt path overwrite new := by
  rw [annotateAt, annotateAt, steps, steps, Path.components_join_components]

/-- Whether an annotation for a path, laid over a tree without overwriting, changes the node that
another path addresses: its annotation, or what it says about data. -/
def IsChangedBy (tree : SchemaNode) (stated : Text × Semantics) (path : Text) : Prop :=
  ((tree.annotateAt stated.1 false stated.2).find path).map content ≠ (tree.find path).map content

theorem isChangedBy_of_annotation {tree : SchemaNode} {stated : Text × Semantics} {path : Text}
    (h : ((tree.annotateAt stated.1 false stated.2).find path).map annotation ≠
      (tree.find path).map annotation) : tree.IsChangedBy stated path := by
  intro hsame
  have hannotation := congrArg (Option.map Prod.fst) hsame
  rw [Option.map_map, Option.map_map] at hannotation
  exact h hannotation

/-- The node that is changed has the position of the path that the annotation is for. -/
theorem IsChangedBy.ofPath_eq {tree : SchemaNode} {stated : Text × Semantics} {path : Text}
    (h : tree.IsChangedBy stated path) : SchemaPosition.ofPath stated.1 = .ofPath path := by
  by_contra hne
  refine h ?_
  rw [find_eq_at?, find_eq_at?, content_at?_annotateAt]
  cases tree.at? (.ofPath path) with
  | none => rfl
  | some node => simp [Ne.symm hne]

end SchemaNode

/-- The meta elements of a template that compiles annotate the tree in turn, after the elements
around its fields. What is stated for a path is laid as if it were stated for the components of the
path with single dots between them. It changes no node but the one that is spelled so: the root if
there are no components, and otherwise the node of the path itself exactly if none of its components
is empty. -/
theorem meta_annotates_named_node_up_to_empty_components {root : Node} {given : Option Settings}
    {schema : Value} (hs : Compile.schema given root = .ok schema) :
    ∃ settings p metas,
      Settings.inForce given root = .ok settings ∧
      Compile.walk settings.examplesDelimiter .empty none root ⟨.emptyObject, []⟩ = .ok p ∧
      Semantics.ofHeads root.heads settings.examplesDelimiter = .ok metas ∧
      schema =
        JsonSchema.ofRoot (Compile.layAll false metas (Compile.layAll true p.inline p.tree)) ∧
      ∀ before stated after, metas = before ++ stated :: after →
        let tree := Compile.layAll false before (Compile.layAll true p.inline p.tree)
        let spelled := Text.join ['.'] (Path.components stated.1)
        tree.annotateAt stated.1 false stated.2 = tree.annotateAt spelled false stated.2 ∧
        ∀ path, tree.IsChangedBy stated path →
          Text.join ['.'] (Path.components path) = spelled ∧
          (Path.IsGapless path →
            spelled = path ∧ (stated.1 = path ↔ Path.IsGapless stated.1)) := by
  rw [Compile.schema_eq_bind] at hs
  obtain ⟨settings, hsettings, hs⟩ := Fault.bind_eq_ok_iff.1 hs
  obtain ⟨t, ht, rfl⟩ := Fault.map_eq_ok_iff.1 hs
  obtain ⟨p, hp, ht⟩ := Fault.bind_eq_ok_iff.1 ht
  obtain ⟨metas, hmetas, ht⟩ := Fault.bind_eq_ok_iff.1 ht
  obtain rfl := Except.ok.inj ht
  refine ⟨settings, p, metas, hsettings, hp, hmetas, rfl, fun before stated after _ => ?_⟩
  refine ⟨(SchemaNode.annotateAt_join_components _ _ _ _).symm, fun path hchanged => ?_⟩
  have hcomponents := SchemaPosition.components_eq_of_ofPath_eq hchanged.ofPath_eq
  refine ⟨congrArg (Text.join ['.']) hcomponents.symm, fun hpath => ?_⟩
  have hspelled : Text.join ['.'] (Path.components stated.1) = path := by
    rw [hcomponents, hpath.join_components]
  refine ⟨hspelled, fun heq => heq ▸ hpath, fun hgapless => ?_⟩
  rw [← hgapless.join_components, hspelled]

def describedName : Text :=
  "<div><meta name='semantic-description:user.name' content='Full name'>" ++
  "\x7b\x7buser.name:string\x7d\x7d</div>"

/-- The description changes the node of the name, which is spelled as the path of the element. -/
theorem described_name_is_named : ∃ root schema p, Node.ofMarkup describedName = .ok root ∧
    Compile.schema (some Settings.defaults) root = .ok schema ∧
    Compile.walk Settings.defaults.examplesDelimiter .empty none root ⟨.emptyObject, []⟩ = .ok p ∧
    (Compile.layAll true p.inline p.tree).IsChangedBy
      ("user.name", ⟨some "Full name", none, none⟩) "user.name" ∧
    Path.IsGapless "user.name" := by
  let delimiter := Settings.defaults.examplesDelimiter
  let stated : Text × Semantics := ("user.name", ⟨some "Full name", none, none⟩)
  let annotationAt (tree : SchemaNode) := (tree.find "user.name").map SchemaNode.annotation
  have hread : Fault.succeedsWith (fun root =>
      decide (Semantics.ofHeads root.heads delimiter = .ok [stated]) &&
        Fault.succeedsWith (fun _ => true) (Compile.schema (some Settings.defaults) root) &&
        Fault.succeedsWith (fun p =>
          let tree := Compile.layAll true p.inline p.tree
          decide (annotationAt (tree.annotateAt stated.1 false stated.2) ≠ annotationAt tree))
          (Compile.walk delimiter .empty none root ⟨.emptyObject, []⟩))
      (Node.ofMarkup describedName) = true := by
    decide +kernel
  obtain ⟨root, hm, hroot⟩ := Fault.exists_of_succeedsWith hread
  obtain ⟨hroot, hwalk⟩ := Bool.and_eq_true_iff.1 hroot
  obtain ⟨hstated, hcompiles⟩ := Bool.and_eq_true_iff.1 hroot
  obtain ⟨schema, hs, -⟩ := Fault.exists_of_succeedsWith hcompiles
  obtain ⟨p, hp, hchanged⟩ := Fault.exists_of_succeedsWith hwalk
  obtain ⟨settings, q, metas, hsettings, hq, hmetas, -, hnamed⟩ :=
    meta_annotates_named_node_up_to_empty_components hs
  obtain rfl := Except.ok.inj hsettings
  obtain rfl := Except.ok.inj (hp.symm.trans hq)
  obtain rfl := Except.ok.inj ((of_decide_eq_true hstated).symm.trans hmetas)
  have hnode := SchemaNode.isChangedBy_of_annotation (of_decide_eq_true hchanged)
  have hgapless : Path.IsGapless "user.name" :=
    (Path.isResolved_of_isChain (by decide)).isGapless
  obtain ⟨-, hat⟩ := hnamed [] stated [] rfl
  exact ⟨root, schema, p, hm, hs, hp, hnode, ((hat _ hnode).2 hgapless).2.1 rfl⟩

/-- Meta elements that describe paths with empty components, one of them with nothing else. -/
def describedGaps : Text :=
  "<div><meta name='semantic-description:user..name' content='Full name'>" ++
  "<meta name='semantic-description:' content='Order'>\x7b\x7buser.name:string\x7d\x7d</div>"

/-- The one description changes the node of the name of the user, which is spelled otherwise, and
the other one describes the whole. -/
theorem gaps_are_described : ∃ root schema p, Node.ofMarkup describedGaps = .ok root ∧
    Compile.schema (some Settings.defaults) root = .ok schema ∧
    Compile.walk Settings.defaults.examplesDelimiter .empty none root ⟨.emptyObject, []⟩ = .ok p ∧
    Semantics.ofHeads root.heads Settings.defaults.examplesDelimiter =
      .ok [("user..name", ⟨some "Full name", none, none⟩), ("", ⟨some "Order", none, none⟩)] ∧
    (Compile.layAll true p.inline p.tree).IsChangedBy
      ("user..name", ⟨some "Full name", none, none⟩) "user.name" ∧
    (∃ name, JsonSchema.at? [.property "user", .property "name"] schema = some name ∧
      name.field? "description" = some (.text "Full name")) ∧
    schema.field? "description" = some (.text "Order") := by
  let delimiter := Settings.defaults.examplesDelimiter
  let gap : Text × Semantics := ("user..name", ⟨some "Full name", none, none⟩)
  let annotationAt (tree : SchemaNode) := (tree.find "user.name").map SchemaNode.annotation
  let isDescribed (t : Text) (sub : Value) : Bool := sub.field? "description" = some (.text t)
  have hread : Fault.succeedsWith (fun root =>
      decide (Semantics.ofHeads root.heads delimiter =
          .ok [gap, ("", ⟨some "Order", none, none⟩)]) &&
        Fault.succeedsWith (fun schema =>
          (JsonSchema.at? [.property "user", .property "name"] schema).any
            (isDescribed "Full name") && isDescribed "Order" schema)
          (Compile.schema (some Settings.defaults) root) &&
        Fault.succeedsWith (fun p =>
          let tree := Compile.layAll true p.inline p.tree
          decide (annotationAt (tree.annotateAt gap.1 false gap.2) ≠ annotationAt tree))
          (Compile.walk delimiter .empty none root ⟨.emptyObject, []⟩))
      (Node.ofMarkup describedGaps) = true := by
    decide +kernel
  obtain ⟨root, hm, hroot⟩ := Fault.exists_of_succeedsWith hread
  obtain ⟨hroot, hwalk⟩ := Bool.and_eq_true_iff.1 hroot
  obtain ⟨hstated, hroot⟩ := Bool.and_eq_true_iff.1 hroot
  obtain ⟨p, hp, hchanged⟩ := Fault.exists_of_succeedsWith hwalk
  obtain ⟨schema, hs, hdescribed⟩ := Fault.exists_of_succeedsWith hroot
  obtain ⟨hname, hwhole⟩ := Bool.and_eq_true_iff.1 hdescribed
  obtain ⟨name, hname, hdescription⟩ := (Option.any_eq_true _ _).1 hname
  exact ⟨root, schema, p, hm, hs, hp, of_decide_eq_true hstated,
    SchemaNode.isChangedBy_of_annotation (of_decide_eq_true hchanged),
    ⟨name, hname, of_decide_eq_true hdescription⟩, of_decide_eq_true hwhole⟩

end TypedTemplate
