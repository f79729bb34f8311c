import TypedTemplate.Proofs.AliasNames
import TypedTemplate.Proofs.RegistrationOrder
import TypedTemplate.Proofs.RepeatedContent

/-!
# Added conditions

A condition asks for a boolean leaf. Where an interpolation has declared a leaf it is passed over,
and the tree stays the same. An array or an object gives way to it with everything below. So a
condition that is added to a template takes those positions away that lie below its path, that
were asked for before it in the document, and that nothing after it asks for again.
-/
namespace TypedTemplate

theorem Keyed.set_of_get? {α : Type} {key : Text} {value : α} {l : Keyed α}
    (h : get? key l = some value) : set key value l = l := by
  induction l with
  | nil => cases h
  | cons entry rest ih =>
    obtain ⟨k, v⟩ := entry
    rw [get?] at h
    rw [set]
    split at h
    · rename_i hk
      rw [if_pos hk, Option.some.inj h]
    · rename_i hk
      rw [if_neg hk, ih h]

namespace SchemaNode

/-- Whether an interpolation or an iteration has declared a node: it is a leaf that is no
condition, an array, or an object with properties. -/
def IsDeclared : SchemaNode → Prop
  | .leaf _ l => l.conditional = false
  | .array _ _ => True
  | .object _ properties => properties ≠ []

theorem refill_child {step : SchemaStep} {node child : SchemaNode}
    (h : node.child? step = some child) : refill step (some node) child = node := by
  cases step with
  | property name =>
    cases node with
    | object a properties => exact congrArg (SchemaNode.object a) (Keyed.set_of_get? h)
    | leaf a l => cases h
    | array a items => cases h
  | items =>
    cases node with
    | array a items => exact congrArg (SchemaNode.array a) (Option.some.inj h).symm
    | leaf a l => cases h
    | object a properties => cases h

theorem alter_eq_self {f : Option SchemaNode → SchemaNode} {position : SchemaPosition}
    {tree found : SchemaNode} (h : tree.at? position = some found) (hf : f (some found) = found) :
    alter f position (some tree) = tree := by
  induction position generalizing tree with
  | nil =>
    rw [alter, Option.some.inj h]
    exact hf
  | cons step rest ih =>
    obtain ⟨child, hc, hat⟩ := Option.bind_eq_some_iff.1 h
    have hslot : slot? step (some tree) = some child := slot?_of_child? hc
    rw [alter, hslot, ih hat]
    exact refill_child hc

theorem part?_toSchema {step : SchemaStep} {node child : SchemaNode}
    (h : node.child? step = some child) :
    JsonSchema.part? step node.toSchema = some child.toSchema := by
  cases step with
  | property name =>
    cases node with
    | object a properties =>
      have hfield : Keyed.get? name (propertySchemas properties) = some child.toSchema := by
        rw [propertySchemas_eq_map, Keyed.get?_map fun _ => toSchema]
        exact congrArg (Option.map toSchema) h
      rw [toSchema]
      exact hfield
    | leaf a l => cases h
    | array a items => cases h
  | items =>
    cases node with
    | array a items =>
      rw [toSchema, Option.some.inj h]
      rfl
    | leaf a l => cases h
    | object a properties => cases h

theorem at?_toSchema {position : SchemaPosition} {tree node : SchemaNode}
    (h : tree.at? position = some node) :
    JsonSchema.at? position tree.toSchema = some node.toSchema := by
  induction position generalizing tree with
  | nil => rw [Option.some.inj h]; rfl
  | cons step rest ih =>
    obtain ⟨child, hc, hat⟩ := Option.bind_eq_some_iff.1 h
    rw [JsonSchema.at?_cons, part?_toSchema hc]
    exact ih hat

theorem toSchema_ne_condition {node : SchemaNode} (h : node.kind ≠ .leaf) :
    node.toSchema ≠ toSchema (.leaf .empty Leaf.condition) := by
  have hboolean : (toSchema (.leaf .empty Leaf.condition)).field? "type" =
      some (.text "boolean") := rfl
  intro he
  rw [← he] at hboolean
  cases node with
  | leaf a l => exact h rfl
  | array a items =>
    rw [toSchema] at hboolean
    exact absurd (Value.text.inj (Option.some.inj hboolean)) (by decide)
  | object a properties =>
    rw [toSchema] at hboolean
    exact absurd (Value.text.inj (Option.some.inj hboolean)) (by decide)

theorem placeLeaf_eq_ok {path : Text} (hp : Path.components path ≠ []) (l : Leaf)
    (tree : SchemaNode) : tree.placeLeaf path l = .ok ((Registration.leaf path l).addTo tree) := by
  obtain ⟨first, rest, hs⟩ := List.exists_cons_of_ne_nil hp
  rw [placeLeaf, updateAt, steps, hs, Registration.addTo, Registration.position,
    SchemaPosition.ofPath, Registration.path, steps, hs, ← update_eq_alter]
  rfl

/-- A condition leaves the schema of a tree as it is where it finds a declared leaf. A declared
node of another kind becomes the leaf of the condition. -/
theorem placeLeaf_condition {tree node : SchemaNode} {path : Text}
    (hp : Path.components path ≠ []) (hn : tree.find path = some node) (hd : node.IsDeclared) :
    ∃ after, tree.placeLeaf path Leaf.condition = .ok after ∧
      (after.toSchema = tree.toSchema ↔ node.kind = .leaf) ∧
      (node.kind ≠ .leaf → after.find path = some (.leaf .empty Leaf.condition)) := by
  rw [find_eq_at?] at hn
  refine ⟨_, placeLeaf_eq_ok hp _ tree, ?_⟩
  have hreplaced : node.kind ≠ .leaf →
      ((Registration.leaf path Leaf.condition).addTo tree).at? (.ofPath path) =
        some (.leaf .empty Leaf.condition) := by
    intro hk
    have hslot : (some tree).bind (at? (.ofPath path)) = some node := hn
    refine (at?_alter_self hslot).trans ?_
    cases node with
    | leaf a l => exact absurd rfl hk
    | array a items => rfl
    | object a properties => rfl
  rw [find_eq_at?]
  refine ⟨⟨fun hsame => ?_, fun hk => ?_⟩, hreplaced⟩
  · apply Decidable.byContradiction
    intro hk
    have hparts := at?_toSchema hn
    rw [← hsame, at?_toSchema (hreplaced hk)] at hparts
    exact toSchema_ne_condition hk (Option.some.inj hparts).symm
  · cases node with
    | leaf a l =>
      have hkept : SchemaNode.putLeaf Leaf.condition (some (.leaf a l)) = .leaf a l :=
        congrArg (SchemaNode.leaf a) (Leaf.merge_of_ignored hd rfl)
      exact congrArg toSchema (alter_eq_self hn hkept)
    | array a items => cases hk
    | object a properties => cases hk

end SchemaNode

namespace Registration

/-- Whether some registrations leave a position in the schema: one of them makes it, and none
after that excludes it. -/
def Leave (all : List Registration) (other : SchemaPosition) : Prop :=
  ∃ before r after, all = before ++ r :: after ∧ other <+: r.extent ∧
    ∀ later ∈ after, ¬ later.Excludes other

theorem isSome_at?_iff_leave (all : List Registration) (step : SchemaStep)
    (rest : SchemaPosition) :
    ((all.foldl (fun t r => r.addTo t) SchemaNode.emptyObject).at? (step :: rest)).isSome ↔
      Leave all (step :: rest) := by
  rw [isSome_at?_foldl, SchemaNode.at?_emptyObject]
  simp [Leave]

theorem leave_append (first second : List Registration) (step : SchemaStep)
    (rest : SchemaPosition) :
    Leave (first ++ second) (step :: rest) ↔
      (Leave first (step :: rest) ∧ ∀ r ∈ second, ¬ r.Excludes (step :: rest)) ∨
        Leave second (step :: rest) := by
  rw [← isSome_at?_iff_leave, List.foldl_append, isSome_at?_foldl, isSome_at?_iff_leave]
  rfl

theorem leave_cons (r : Registration) (after : List Registration) (step : SchemaStep)
    (rest : SchemaPosition) :
    Leave (r :: after) (step :: rest) ↔
      (step :: rest <+: r.extent ∧ ∀ later ∈ after, ¬ later.Excludes (step :: rest)) ∨
        Leave after (step :: rest) := by
  have hone : Leave [r] (step :: rest) ↔ step :: rest <+: r.extent := by
    rw [← isSome_at?_iff_leave, List.foldl_cons, List.foldl_nil, isSome_at?_addTo,
      SchemaNode.at?_emptyObject]
    simp
  rw [← List.singleton_append, leave_append, hone]

/-- A registration makes positions only by steps that the nodes hold for which it asks. -/
theorem mem_demands_of_prefix_extent {r : Registration} {before : SchemaPosition}
    {step : SchemaStep} {rest : SchemaPosition} (h : before ++ step :: rest <+: r.extent) :
    (before, step.holder) ∈ r.demands := by
  have hstep : before ++ [step] <+: r.extent :=
    ((List.prefix_append_right_inj before).2 ⟨rest, rfl⟩).trans h
  have hway : before ++ [step] <+: r.position → (before, step.holder) ∈ r.demands := by
    rintro ⟨beyond, hbeyond⟩
    rw [demands, ← hbeyond, List.append_assoc]
    exact SchemaPosition.mem_demands_of_append before step beyond r.kind
  cases r with
  | leaf path l => exact hway hstep
  | array path =>
    rcases List.prefix_concat_iff.1 hstep with hend | hend
    · obtain ⟨hposition, hitems⟩ := List.append_inj' hend rfl
      obtain rfl := (List.cons.inj hitems).1
      exact hposition ▸ demands_self (.array path)
    · exact hway hend

theorem excludes_below_leaf (path : Text) (l : Leaf) (step : SchemaStep) (rest : SchemaPosition) :
    (Registration.leaf path l).Excludes (SchemaPosition.ofPath path ++ step :: rest) :=
  ⟨_, demands_self (.leaf path l), step, rest, rfl, by cases step <;> nofun⟩

/-- A leaf leaves no place only for what lies below its position, among the positions of a
registration that agrees with one that makes that position. -/
theorem exists_below_of_excludes {path : Text} {l : Leaf} {r s : Registration}
    (ha : r.Agrees s) (hs : SchemaPosition.ofPath path <+: s.extent) {other : SchemaPosition}
    (hr : other <+: r.extent) (he : (Registration.leaf path l).Excludes other) :
    ∃ step rest, other = SchemaPosition.ofPath path ++ step :: rest := by
  obtain ⟨d, hd, step, rest, rfl, hne⟩ := he
  rcases SchemaPosition.eq_or_exists_of_mem_demands hd with rfl | ⟨next, more, hposition, hkind⟩
  · exact ⟨step, rest, rfl⟩
  · have hposition : SchemaPosition.ofPath path = d.1 ++ next :: more := hposition
    rw [hposition] at hs
    have hagree := ha _ (mem_demands_of_prefix_extent hr) _ (mem_demands_of_prefix_extent hs) rfl
    exact absurd (hagree.trans hkind) hne

/-- A leaf that comes in between takes a position away exactly if it lies below and nothing after
leaves it, among the positions of a registration that agrees with one that makes that of the
leaf. -/
theorem not_leave_insert_leaf_iff {first second : List Registration} {path : Text} {l : Leaf}
    {r s : Registration} (ha : r.Agrees s) (hs : SchemaPosition.ofPath path <+: s.extent)
    {step : SchemaStep} {rest : SchemaPosition} (hr : step :: rest <+: r.extent)
    (h : Leave (first ++ second) (step :: rest)) :
    ¬ Leave (first ++ .leaf path l :: second) (step :: rest) ↔
      (∃ next more, step :: rest = SchemaPosition.ofPath path ++ next :: more) ∧
        ¬ Leave second (step :: rest) := by
  rw [leave_append] at h
  rw [leave_append, leave_cons]
  constructor
  · intro hgone
    have hsecond : ¬ Leave second (step :: rest) := fun hl => hgone (.inr (.inr hl))
    obtain ⟨hfirst, hkept⟩ := h.resolve_right hsecond
    have hexcludes : (Registration.leaf path l).Excludes (step :: rest) := by
      apply Classical.byContradiction
      intro hnot
      exact hgone (.inl ⟨hfirst, List.forall_mem_cons.2 ⟨hnot, hkept⟩⟩)
    exact ⟨exists_below_of_excludes ha hs hr hexcludes, hsecond⟩
  · rintro ⟨⟨next, more, hbelow⟩, hsecond⟩ (⟨-, hkept⟩ | ⟨hextent, -⟩ | hl)
    · have hexcludes := excludes_below_leaf path l next more
      rw [← hbelow] at hexcludes
      exact (List.forall_mem_cons.1 hkept).1 hexcludes
    · have hlength := hextent.length_le
      rw [hbelow, extent, List.length_append, List.length_cons] at hlength
      omega
    · exact hsecond hl

theorem Agrees.not_below_leaf {r : Registration} {path : Text} {l : Leaf}
    (h : r.Agrees (.leaf path l)) {step : SchemaStep} {rest : SchemaPosition}
    (hr : SchemaPosition.ofPath path ++ step :: rest <+: r.extent) : False := by
  have hkind := h _ (mem_demands_of_prefix_extent hr) _ (demands_self (.leaf path l)) rfl
  cases step <;> cases hkind

end Registration

theorem Head.tag_withCondition (head : Head) (path : Text) :
    (head.withCondition path).tag = head.tag := by
  rw [← tag_bare, bare_withCondition, tag_bare]

theorem StaticScope.inside_withCondition (scope : StaticScope) (head : Head) (path : Text) :
    scope.inside (head.withCondition path) = scope.inside head := by
  rw [inside, inside, Head.iteration_withCondition]

theorem StaticScope.isResolved_inside {scope : StaticScope} (hs : scope.IsResolved) {head : Head}
    (hh : head.HasChains) : (scope.inside head).IsResolved := by
  unfold inside
  cases hi : head.iteration with
  | none => exact hs
  | some i =>
    intro name target ht
    rw [Keyed.get?_set] at ht
    split at ht
    · rw [← Option.some.inj ht]
      exact (isResolved_resolve hs (hh.iteration i hi).1).append_marker
    · exact hs name target ht

namespace Node

theorem occurrencesOfList_append (scope : StaticScope) (first second : List Node) :
    occurrencesOfList scope (first ++ second) =
      occurrencesOfList scope first ++ occurrencesOfList scope second := by
  induction first with
  | nil => rfl
  | cons n rest ih =>
    rw [List.cons_append, occurrencesOfList, ih, occurrencesOfList, List.append_assoc]

variable {head : Head} {children : List Node} {path : Text} {n m : Node}

theorem Differs.exists_occurrences (hmeta : head.tag ≠ "meta") (hc : head.condition = none)
    (hd : Differs (.element head children) (.element (head.withCondition path) children) n m)
    (hn : n.IsSanitized) (scope : StaticScope) :
    ∃ before inner after, n.occurrences scope = before ++ after ∧
      m.occurrences scope = before ++ .condition inner path :: after := by
  induction hd generalizing scope with
  | here =>
    have hmeta' : (head.withCondition path).tag ≠ "meta" := by rwa [head.tag_withCondition]
    refine ⟨head.iteration.toList.map (.iteration scope), scope.inside head,
      occurrencesOfList (scope.inside head) children, ?_, ?_⟩
    · rw [occurrences, if_neg hmeta, Occurrence.ofHead, hc]
      exact congrArg (· ++ _) (List.append_nil _)
    · rw [occurrences, if_neg hmeta', Occurrence.ofHead, scope.inside_withCondition,
        head.iteration_withCondition, head.condition_withCondition, List.append_assoc]
      rfl
  | @inside around earlier later n m _ ih =>
    cases hn with
    | element _ hvoid hall =>
      have haround : around.tag ≠ "meta" := by
        intro htag
        have hnone := hvoid (htag ▸ by decide)
        exact absurd hnone (by simp)
      obtain ⟨before, inner, after, hbefore, hafter⟩ :=
        ih (hall n (List.mem_append_right _ List.mem_cons_self)) (scope.inside around)
      refine ⟨Occurrence.ofHead scope around ++
        (occurrencesOfList (scope.inside around) earlier ++ before), inner,
        after ++ occurrencesOfList (scope.inside around) later, ?_, ?_⟩
      · simp only [occurrences, if_neg haround, occurrencesOfList_append, occurrencesOfList,
          hbefore, List.append_assoc]
      · simp only [occurrences, if_neg haround, occurrencesOfList_append, occurrencesOfList,
          hafter, List.append_assoc, List.cons_append]

end Node

namespace Compile

/-- Whether a part of a walk succeeds whatever was collected before. -/
def Succeeds (run : Progress → Except Fault Progress) : Prop := ∀ p, ∃ p', run p = .ok p'

theorem IsUniform.succeeds {run : Progress → Except Fault Progress} (h : IsUniform run)
    {p p' : Progress} (hr : run p = .ok p') : Succeeds run := by
  rcases h with ⟨e, he⟩ | ⟨notes, hrun⟩
  · rw [he] at hr
    cases hr
  · exact fun q => ⟨_, (hrun q).choose_spec⟩

theorem Succeeds.bind {run next : Progress → Except Fault Progress} (h : Succeeds run)
    (hn : Succeeds next) : Succeeds fun p => run p >>= next := by
  intro p
  obtain ⟨q, hq⟩ := h p
  obtain ⟨r, hr⟩ := hn q
  exact ⟨r, Fault.bind_eq_ok_iff.2 ⟨q, hq, hr⟩⟩

variable {head : Head} {children : List Node} {path : Text} {n m : Node} {delimiter : Text}

theorem exists_takeCondition {scope : StaticScope} (hs : scope.IsResolved)
    (hp : Path.isChain path = true) (p : Progress) :
    ∃ p', takeCondition scope p (some path) = .ok p' := by
  simp only [takeCondition]
  split
  · exact ⟨p, rfl⟩
  · have hsteps := (StaticScope.isResolved_resolve hs hp).steps_ne_nil
    have hcomponents : Path.components (scope.resolve path) ≠ [] := by
      intro e
      rw [SchemaNode.steps, e] at hsteps
      exact hsteps rfl
    rw [SchemaNode.placeLeaf_eq_ok hcomponents]
    exact ⟨_, rfl⟩

theorem succeeds_walk_of_differs (hp : Path.isChain path = true)
    (hd : Node.Differs (.element head children) (.element (head.withCondition path) children) n m)
    (hn : n.HasChains) {scope : StaticScope} (hs : scope.IsResolved)
    {semantic : Option Semantics} (h : Succeeds (walk delimiter scope semantic n)) :
    Succeeds (walk delimiter scope semantic m) := by
  induction hd generalizing scope semantic with
  | here =>
    cases hn with
    | element hh _ =>
      intro p
      obtain ⟨last, h⟩ := h p
      have hinside : Semantics.inside (head.withCondition path) semantic delimiter =
          Semantics.inside head semantic delimiter := by
        rw [← Head.inside_bare, Head.bare_withCondition, Head.inside_bare]
      rw [walk, head.tag_withCondition, hinside, head.iteration_withCondition,
        head.condition_withCondition]
      rw [walk] at h
      by_cases hmeta : head.tag = "meta"
      · exact ⟨p, by rw [if_pos hmeta]⟩
      · rw [if_neg hmeta] at h ⊢
        obtain ⟨inherited, hinherited, h⟩ := Fault.bind_eq_ok_iff.1 h
        obtain ⟨⟨inner, q⟩, hq, h⟩ := Fault.bind_eq_ok_iff.1 h
        obtain ⟨q', -, h⟩ := Fault.bind_eq_ok_iff.1 h
        have hinner : inner.IsResolved :=
          (tree_of_takeIteration hq).1 ▸ StaticScope.isResolved_inside hs hh
        obtain ⟨taken, htaken⟩ := exists_takeCondition hinner hp q
        obtain ⟨after, hafter⟩ :=
          (isUniform_walkAll delimiter inner inherited children).succeeds h taken
        exact ⟨after, Fault.bind_eq_ok_iff.2 ⟨_, hinherited, Fault.bind_eq_ok_iff.2
          ⟨_, hq, Fault.bind_eq_ok_iff.2 ⟨_, htaken, hafter⟩⟩⟩⟩
  | @inside around earlier later n m _ ih =>
    cases hn with
    | element hh hall =>
      by_cases hmeta : around.tag = "meta"
      · intro p
        exact ⟨p, by rw [walk, if_pos hmeta]⟩
      rcases walk_element_cases delimiter scope semantic hmeta with ⟨e, he⟩ | ⟨inherited, hwalk⟩
      · obtain ⟨last, h⟩ := h ⟨.emptyObject, []⟩
        rw [he] at h
        cases h
      · obtain ⟨last, h⟩ := h ⟨.emptyObject, []⟩
        rw [hwalk, walkAll_append] at h
        obtain ⟨q, hearlier, h⟩ := Fault.bind_eq_ok_iff.1 h
        obtain ⟨q', hpart, hlater⟩ := Fault.bind_eq_ok_iff.1 h
        have hchanged := ih (hall n (List.mem_append_right _ List.mem_cons_self))
          (StaticScope.isResolved_inside hs hh) ((isUniform_walk _ _ _ n).succeeds hpart)
        have hcontent : Succeeds
            (walkAll delimiter (scope.inside around) inherited (earlier ++ m :: later)) := by
          have hrest := hchanged.bind ((isUniform_walkAll _ _ _ later).succeeds hlater)
          have hboth := ((isUniform_walkAll _ _ _ earlier).succeeds hearlier).bind hrest
          intro p
          rw [walkAll_append]
          exact hboth p
        intro p
        rw [hwalk]
        exact hcontent _

theorem exists_schema_of_differs (hp : Path.isChain path = true)
    (hd : Node.Differs (.element head children) (.element (head.withCondition path) children) n m)
    (hn : n.HasChains) {given : Option Settings} {schema : Value}
    (h : Compile.schema given n = .ok schema) :
    ∃ changed, Compile.schema given m = .ok changed := by
  have hbare : m.heads.map Head.bare = n.heads.map Head.bare := by
    refine hd.map_bare_heads ?_
    rw [Node.heads, Node.heads, List.map_cons, List.map_cons, Head.bare_withCondition]
  obtain ⟨settings, hsettings, h⟩ := Fault.bind_eq_ok_iff.1 h
  obtain ⟨t, ht, -⟩ := Fault.bind_eq_ok_iff.1 h
  obtain ⟨p, hwalk, ht⟩ := Fault.bind_eq_ok_iff.1 ht
  obtain ⟨byPath, hbyPath, -⟩ := Fault.bind_eq_ok_iff.1 ht
  have hscope : StaticScope.IsResolved .empty := fun name target hg => by cases hg
  obtain ⟨p', hwalk'⟩ := succeeds_walk_of_differs hp hd hn hscope
    ((isUniform_walk _ _ _ n).succeeds hwalk) ⟨.emptyObject, []⟩
  rw [← Settings.inForce_eq_of_map_bare hbare] at hsettings
  rw [← Semantics.ofHeads_map_bare, ← hbare, Semantics.ofHeads_map_bare] at hbyPath
  exact ⟨_, Fault.bind_eq_ok_iff.2 ⟨_, hsettings, Fault.bind_eq_ok_iff.2
    ⟨_, Fault.bind_eq_ok_iff.2 ⟨_, hwalk', Fault.bind_eq_ok_iff.2 ⟨_, hbyPath, rfl⟩⟩, rfl⟩⟩⟩

end Compile

namespace JsonSchema

theorem isSome_at?_iff_leave {root : Node} {given : Option Settings} {schema : Value}
    (hs : Compile.schema given root = .ok schema) (step : SchemaStep) (rest : SchemaPosition) :
    (JsonSchema.at? (step :: rest) schema).isSome ↔
      Registration.Leave root.registrations (step :: rest) := by
  rw [isSome_at?_eq_collect hs]
  exact Registration.isSome_at?_iff_leave root.registrations step rest

end JsonSchema

/-- A condition leaves a schema as it is where its path leads to a leaf that is no condition;
an array or an object with properties becomes the leaf of the condition. In a template, take any
element without a condition and any path. With this path for its condition the template is
compiled still. If a registration asks for the position of the path, the positions that those
ask for that agree with it are the same in both schemas, but for those below the path that no
registration after the condition leaves there. If a leaf is asked for, none is lost. -/
theorem added_condition_removes_only_earlier_positions_below_it (path : Text) :
    (∀ tree node : SchemaNode, Path.components path ≠ [] →
      tree.find path = some node → node.IsDeclared →
      ∃ after, tree.placeLeaf path Leaf.condition = .ok after ∧
        (after.toSchema = tree.toSchema ↔ node.kind = .leaf) ∧
        (node.kind ≠ .leaf → after.find path = some (.leaf .empty Leaf.condition))) ∧
    ∀ (markup : Text) (root changed : Node) (given : Option Settings) (schema : Value)
      (head : Head) (children : List Node), Node.ofMarkup markup = .ok root →
      Compile.schema given root = .ok schema → head.tag ≠ "meta" → head.condition = none →
      Path.isChain path = true →
      Node.Differs (.element head children) (.element (head.withCondition path) children) root
        changed →
      ∃ before scope after other, root.occurrences .empty = before ++ after ∧
        changed.occurrences .empty = before ++ .condition scope path :: after ∧
        Compile.schema given changed = .ok other ∧
        (scope.isImplicit path = false → ∀ s ∈ root.registrations,
          SchemaPosition.ofPath (scope.resolve path) <+: s.extent →
          ∀ r ∈ root.registrations, r.Agrees s → ∀ step rest, step :: rest <+: r.extent →
            (JsonSchema.at? (step :: rest) schema).isSome →
            (JsonSchema.at? (step :: rest) other = none ↔
              (∃ next more,
                step :: rest = SchemaPosition.ofPath (scope.resolve path) ++ next :: more) ∧
              ¬ Registration.Leave (after.filterMap Occurrence.registration?) (step :: rest)) ∧
            ((∃ l, s = .leaf (scope.resolve path) l) →
              (JsonSchema.at? (step :: rest) other).isSome)) := by
  refine ⟨fun tree node hp hn hd => SchemaNode.placeLeaf_condition hp hn hd, ?_⟩
  intro markup root changed given schema head children hm hs hmeta hc hp hd
  obtain ⟨before, scope, after, hroot, hchanged⟩ :=
    hd.exists_occurrences hmeta hc (Node.isSanitized_of_ofMarkup hm) .empty
  obtain ⟨other, ho⟩ := Compile.exists_schema_of_differs hp hd (Node.hasChains_of_ofMarkup hm) hs
  refine ⟨before, scope, after, other, hroot, hchanged, ho, ?_⟩
  intro himplicit s _ hs' r _ ha step rest hr hsome
  have hregistrations : root.registrations = before.filterMap Occurrence.registration? ++
      after.filterMap Occurrence.registration? := by
    rw [Node.registrations, hroot, List.filterMap_append]
  have hothers : changed.registrations = before.filterMap Occurrence.registration? ++
      .leaf (scope.resolve path) Leaf.condition ::
        after.filterMap Occurrence.registration? := by
    have hasked : (Occurrence.condition scope path).registration? =
        some (.leaf (scope.resolve path) Leaf.condition) := by
      rw [Occurrence.registration?, if_neg (by simp [himplicit])]
    rw [Node.registrations, hchanged, List.filterMap_append, List.filterMap_cons, hasked]
  rw [JsonSchema.isSome_at?_iff_leave hs, hregistrations] at hsome
  have hgone : JsonSchema.at? (step :: rest) other = none ↔
      (∃ next more, step :: rest = SchemaPosition.ofPath (scope.resolve path) ++ next :: more) ∧
      ¬ Registration.Leave (after.filterMap Occurrence.registration?) (step :: rest) := by
    rw [← Option.not_isSome_iff_eq_none, JsonSchema.isSome_at?_iff_leave ho, hothers]
    exact Registration.not_leave_insert_leaf_iff ha hs' hr hsome
  refine ⟨hgone, ?_⟩
  rintro ⟨l, rfl⟩
  rw [← Option.ne_none_iff_isSome]
  intro hnone
  obtain ⟨⟨next, more, hbelow⟩, -⟩ := hgone.1 hnone
  exact ha.not_below_leaf (hbelow ▸ hr)

def nameOfUser (more : Text) : Text :=
  "<p>\x7b\x7buser.name:string?\x7d\x7d</p><p" ++ more ++ ">x</p>"

/-- Whether the name of a user is described where a condition on it is added to the second part of
a document. -/
def Node.keepsNameOfUser : Node → Bool
  | .element html [first, .element head children] => decide (
      head.tag ≠ "meta" ∧ head.condition = none ∧
      Node.ofMarkup (nameOfUser " data-if='user.name'") =
        .ok (.element html [first, .element (head.withCondition "user.name") children]) ∧
      .leaf "user.name" ⟨.string, true, [], false⟩ ∈
        Node.registrations (.element html [first, .element head children]) ∧
      ∀ o ∈ Node.occurrences .empty
        (.element html [first, .element (head.withCondition "user.name") children]),
        o.scope = .empty) &&
      Fault.succeedsWith
        (fun schema =>
          (JsonSchema.at? [.property "user", .property "name"] schema).isSome)
        (Compile.schema (some Settings.defaults)
          (.element html [first, .element head children]))
  | _ => false

/-- A condition on the name of a user leaves it in the tree and in the schema. -/
theorem added_condition_removes_no_name_of_user :
    (∃ tree after,
      SchemaNode.placeLeaf "user.name" ⟨.string, true, [], false⟩ .emptyObject = .ok tree ∧
      tree.placeLeaf "user.name" Leaf.condition = .ok after ∧ after.toSchema = tree.toSchema) ∧
    ∃ root changed other, Node.ofMarkup (nameOfUser []) = .ok root ∧
      Node.ofMarkup (nameOfUser " data-if='user.name'") = .ok changed ∧
      Compile.schema (some Settings.defaults) changed = .ok other ∧
      (JsonSchema.at? [.property "user", .property "name"] other).isSome := by
  constructor
  · let tree : SchemaNode := .object .empty [("user", .object .empty
      [("name", .leaf .empty ⟨.string, true, [], false⟩)])]
    obtain ⟨after, hafter, hsame, -⟩ :=
      (added_condition_removes_only_earlier_positions_below_it "user.name").1 tree _
        (by decide) (rfl : tree.find "user.name" = some (.leaf .empty _)) rfl
    exact ⟨tree, after, rfl, hafter, hsame.2 rfl⟩
  · let name : Registration := .leaf "user.name" ⟨.string, true, [], false⟩
    have hread :
        Fault.succeedsWith Node.keepsNameOfUser (Node.ofMarkup (nameOfUser [])) = true := by
      decide +kernel
    obtain ⟨root, hm, htest⟩ := Fault.exists_of_succeedsWith hread
    unfold Node.keepsNameOfUser at htest
    split at htest
    · rename_i html first head children
      obtain ⟨htest, hschema⟩ := Bool.and_eq_true_iff.1 htest
      obtain ⟨hmeta, hc, hchanged, hname, hscopes⟩ := of_decide_eq_true htest
      obtain ⟨schema, hs, hsome⟩ := Fault.exists_of_succeedsWith hschema
      have hd : Node.Differs (.element head children)
          (.element (head.withCondition "user.name") children)
          (.element html ([first] ++ .element head children :: []))
          (.element html ([first] ++ .element (head.withCondition "user.name") children :: [])) :=
        .inside .here
      obtain ⟨before, scope, after, other, -, hoccurrences, ho, hkept⟩ :=
        (added_condition_removes_only_earlier_positions_below_it "user.name").2 _ _ _ _ _ _ _ hm
          hs hmeta hc (by decide) hd
      have hscope : scope = .empty := by
        refine hscopes (.condition scope "user.name") ?_
        exact hoccurrences ▸ List.mem_append_right _ List.mem_cons_self
      obtain rfl := hscope
      exact ⟨_, _, other, hm, hchanged, ho, (hkept (by decide) name hname (by decide) name hname
        (by decide) (.property "user") [.property "name"] (by decide) hsome).2 ⟨_, rfl⟩⟩
    · cases htest

def namesOfItems (more : Text) : Text :=
  "<ul data-repeat='items as item'><li>\x7b\x7bitem.name:string\x7d\x7d</li></ul><p" ++ more ++
    ">x</p>"

/-- Whether the names in the second part of a document are described, and no longer are when a
condition on the items is added to it. -/
def Node.losesNamesOfItems : Node → Bool
  | .element html [list, .element head children] => decide (
      Node.ofMarkup (namesOfItems " data-if='items'") =
        .ok (.element html [list, .element (head.withCondition "items") children]) ∧
      Node.HasAgreeingShapes (.element html [list, .element head children])) &&
      Fault.succeedsWith
        (fun schema =>
          (JsonSchema.at? [.property "items", .items, .property "name"] schema).isSome)
        (Compile.schema (some Settings.defaults)
          (.element html [list, .element head children])) &&
      Fault.succeedsWith
        (fun schema => decide
          (JsonSchema.at? [.property "items", .items, .property "name"] schema = none))
        (Compile.schema (some Settings.defaults)
          (.element html [list, .element (head.withCondition "items") children]))
  | _ => false

/-- A condition on the list takes the names out of the schema, though nothing in the template
needs two kinds of nodes at one position. In a tree it takes the place of the list. -/
theorem added_condition_removes_names_of_items :
    (∃ tree after, SchemaNode.ensureArray "items" .emptyObject = .ok tree ∧
      tree.placeLeaf "items" Leaf.condition = .ok after ∧ after.toSchema ≠ tree.toSchema) ∧
    ∃ root changed schema other head children,
      Node.ofMarkup (namesOfItems []) = .ok root ∧
      Node.ofMarkup (namesOfItems " data-if='items'") = .ok changed ∧
      Node.Differs (.element head children) (.element (head.withCondition "items") children) root
        changed ∧
      root.HasAgreeingShapes ∧ Compile.schema (some Settings.defaults) root = .ok schema ∧
      Compile.schema (some Settings.defaults) changed = .ok other ∧
      (JsonSchema.at? [.property "items", .items, .property "name"] schema).isSome ∧
      JsonSchema.at? [.property "items", .items, .property "name"] other = none := by
  constructor
  · refine ⟨_, _, rfl, rfl, fun hsame => ?_⟩
    have hparts := congrArg (JsonSchema.at? [.property "items", .items]) hsame
    cases hparts
  · have hread : Fault.succeedsWith Node.losesNamesOfItems (Node.ofMarkup (namesOfItems [])) =
        true := by decide +kernel
    obtain ⟨root, hm, htest⟩ := Fault.exists_of_succeedsWith hread
    unfold Node.losesNamesOfItems at htest
    split at htest
    · rename_i html list head children
      simp only [Bool.and_eq_true] at htest
      obtain ⟨⟨htest, hschema⟩, hother⟩ := htest
      obtain ⟨hchanged, hshapes⟩ := of_decide_eq_true htest
      obtain ⟨schema, hs, hsome⟩ := Fault.exists_of_succeedsWith hschema
      obtain ⟨other, ho, hnone⟩ := Fault.exists_of_succeedsWith hother
      have hd : Node.Differs (.element head children)
          (.element (head.withCondition "items") children)
          (.element html ([list] ++ .element head children :: []))
          (.element html ([list] ++ .element (head.withCondition "items") children :: [])) :=
        .inside .here
      exact ⟨_, _, schema, other, head, children, hm, hchanged, hd, hshapes, hs, ho, hsome,
        of_decide_eq_true hnone⟩
    · cases htest

end TypedTemplate
