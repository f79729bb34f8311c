import TypedTemplate.Proofs.AddedConditions

/-!
# Compiled templates

A template that is read is compiled, whatever its iterations and its registrations are, as long as
no iteration binds its items to the reserved name: the paths that are asked for have components in
every scope of the walk, so each of them names a position that can be filled, and annotations are
only laid over what is there.
-/
namespace TypedTemplate

/-- Whether the iteration of an element that is compiled binds its items to the reserved name. -/
def Head.BindsSelf (head : Head) : Prop :=
  head.tag ≠ "meta" ∧ ∃ i, head.iteration = some i ∧ i.itemName = "self"

theorem Fault.exists_foldlM {α β : Type} {f : β → α → Except Fault β}
    (hf : ∀ b a, ∃ c, f b a = .ok c) (items : List α) (start : β) :
    ∃ last, items.foldlM f start = .ok last := by
  induction items generalizing start with
  | nil => exact ⟨start, rfl⟩
  | cons a rest ih =>
    obtain ⟨next, hnext⟩ := hf start a
    obtain ⟨last, hlast⟩ := ih next
    exact ⟨last, Fault.bind_eq_ok_iff.2 ⟨next, hnext, hlast⟩⟩

namespace Semantics

variable {delimiter : Text}

theorem exists_setPart (hd : delimiter ≠ []) (a : Semantics) (part : SemanticPart) (raw : Text) :
    ∃ b, a.setPart part raw delimiter = .ok b := by
  cases part with
  | description | instruction => exact ⟨_, rfl⟩
  | examples =>
    have hsplit : splitExamples raw delimiter =
        .ok (((Text.splitOnText delimiter raw).map Text.trim).filter (! ·.isEmpty)) := by
      rw [splitExamples, if_neg (by simpa using hd)]
    exact ⟨_, Fault.bind_eq_ok_iff.2 ⟨_, hsplit, rfl⟩⟩

theorem exists_inside (hd : delimiter ≠ []) (head : Head) (inherited : Option Semantics) :
    ∃ a, inside head inherited delimiter = .ok a := by
  refine Fault.exists_foldlM (fun current part => ?_) _ _
  dsimp only
  split
  · exact ⟨_, rfl⟩
  · obtain ⟨b, hb⟩ := exists_setPart hd (current.getD empty) part
      (head.valueOf part.attributeName)
    exact ⟨some b, by rw [hb]; rfl⟩

theorem exists_ofHeads (hd : delimiter ≠ []) (heads : List Head) :
    ∃ found, ofHeads heads delimiter = .ok found := by
  refine Fault.exists_foldlM (fun found head => ?_) _ _
  unfold takeMeta
  dsimp only
  split
  · exact ⟨_, rfl⟩
  · split
    · exact ⟨_, rfl⟩
    · rename_i part path _
      obtain ⟨b, hb⟩ := exists_setPart hd ((Keyed.get? path found).getD empty) part
        (head.valueOf "content").trim
      exact ⟨_, Fault.bind_eq_ok_iff.2 ⟨b, hb, rfl⟩⟩

end Semantics

namespace Compile

/-- Whether a step fails because of the reserved name on a condition, and returns otherwise. -/
def EndsBy {α : Type} (reserved : Prop) (x : Except Fault α) : Prop :=
  (reserved ∧ x = .error .reservedAlias) ∨ (¬reserved ∧ ∃ a, x = .ok a)

theorem EndsBy.of_ok {α : Type} {x : Except Fault α} (h : ∃ a, x = .ok a) : EndsBy False x :=
  .inr ⟨not_false, h⟩

theorem EndsBy.bind {α β : Type} {p q : Prop} {x : Except Fault α} {f : α → Except Fault β}
    (hx : EndsBy p x) (hf : ∀ a, x = .ok a → EndsBy q (f a)) : EndsBy (p ∨ q) (x >>= f) := by
  rcases hx with ⟨hp, rfl⟩ | ⟨hp, a, rfl⟩
  · exact .inl ⟨.inl hp, rfl⟩
  · rcases hf a rfl with ⟨hq, he⟩ | ⟨hq, b, hb⟩
    · exact .inl ⟨.inr hq, he⟩
    · exact .inr ⟨not_or.2 ⟨hp, hq⟩, b, hb⟩

theorem EndsBy.congr {α : Type} {p q : Prop} {x : Except Fault α} (h : EndsBy p x)
    (hpq : p ↔ q) : EndsBy q x := by
  rwa [← propext hpq]

variable {scope : StaticScope} {delimiter : Text}

theorem components_resolve_ne_nil (hs : scope.IsResolved) {path : Text}
    (hp : Path.isChain path = true) : Path.components (scope.resolve path) ≠ [] := by
  intro hnone
  have hsteps := (StaticScope.isResolved_resolve hs hp).steps_ne_nil
  rw [SchemaNode.steps, hnone] at hsteps
  exact hsteps rfl

theorem exists_takeInterpolation (hs : scope.IsResolved) (semantic : Option Semantics)
    (p : Progress) {i : Interpolation} (hi : Path.isChain i.path = true) :
    ∃ p', takeInterpolation scope semantic p i = .ok p' := by
  unfold takeInterpolation
  split
  · exact ⟨p, rfl⟩
  · have hplaced := SchemaNode.placeLeaf_eq_ok (components_resolve_ne_nil hs hi)
      (Leaf.ofInterpolation i) p.tree
    exact ⟨_, Fault.bind_eq_ok_iff.2 ⟨_, hplaced, rfl⟩⟩

theorem exists_takeSegments (hs : scope.IsResolved) (semantic : Option Semantics)
    {segments : List Segment} (hc : Segment.HaveChains segments) (p : Progress) :
    ∃ p', takeSegments scope semantic segments p = .ok p' := by
  induction segments generalizing p with
  | nil => exact ⟨p, rfl⟩
  | cons segment rest ih =>
    have hrest : Segment.HaveChains rest := fun i hi => hc i (List.mem_cons_of_mem _ hi)
    cases segment with
    | literal t => exact ih hrest p
    | interpolation i =>
      obtain ⟨q, hq⟩ := exists_takeInterpolation hs semantic p (hc i List.mem_cons_self)
      obtain ⟨p', hp'⟩ := ih hrest q
      exact ⟨p', Fault.bind_eq_ok_iff.2 ⟨q, hq, hp'⟩⟩

theorem endsBy_takeIteration (hs : scope.IsResolved) {head : Head} (hh : head.HasChains)
    (p : Progress) :
    EndsBy (∃ i, head.iteration = some i ∧ i.itemName = "self")
      (takeIteration scope p head.iteration) := by
  cases hi : head.iteration with
  | none => exact .inr ⟨nofun, _, rfl⟩
  | some i =>
    have harray : ∃ tree, p.tree.ensureArray (scope.resolve i.source) = .ok tree := by
      obtain ⟨first, rest, hsteps⟩ := List.exists_cons_of_ne_nil
        (StaticScope.isResolved_resolve hs (hh.iteration i hi).1).steps_ne_nil
      rw [SchemaNode.ensureArray, SchemaNode.updateAt, hsteps]
      exact ⟨_, rfl⟩
    have hbind : EndsBy (i.itemName = "self")
        (scope.bind i.itemName (scope.resolve i.source)) := by
      unfold StaticScope.bind
      split
      · rename_i hself
        exact .inl ⟨hself, rfl⟩
      · rename_i hname
        exact .inr ⟨hname, _, rfl⟩
    refine EndsBy.congr (.bind (.of_ok harray) fun tree _ =>
      .bind hbind fun inner _ => .of_ok ⟨_, rfl⟩) ?_
    simp

theorem exists_takeCondition_of_hasChains (hs : scope.IsResolved) {head : Head}
    (hh : head.HasChains) (p : Progress) : ∃ p', takeCondition scope p head.condition = .ok p' := by
  cases hc : head.condition with
  | none => exact ⟨p, rfl⟩
  | some path => exact exists_takeCondition hs (hh.condition path hc) p

mutual

theorem endsBy_walk (hd : delimiter ≠ []) {n : Node} (hn : n.IsBuilt) {scope : StaticScope}
    (hs : scope.IsResolved) (semantic : Option Semantics) (p : Progress) :
    EndsBy (∃ head ∈ n.heads, head.BindsSelf) (walk delimiter scope semantic n p) := by
  cases hn with
  | text _ ht =>
    exact .inr ⟨nofun, exists_takeSegments hs semantic (Segment.haveChains_of_readAll ht) p⟩
  | @element head children _ hread hvoid hall =>
    have hh := Head.hasChains_of_ofAttributes hread
    rw [walk]
    split
    · rename_i hmeta
      -- A meta element is void, so nothing below it is passed over.
      have hnone : children = [] := hvoid (by rw [Head.isVoid, hmeta]; rfl)
      refine .inr ⟨?_, p, rfl⟩
      rintro ⟨other, hother, hself⟩
      rw [hnone] at hother
      obtain rfl := List.mem_singleton.1 hother
      exact hself.1 hmeta
    · rename_i hmeta
      have hcontent : ∀ a inner q, takeIteration scope p head.iteration = .ok (inner, q) →
          EndsBy (False ∨ ∃ other ∈ Node.headsOfList children, other.BindsSelf)
            (takeCondition inner q head.condition >>=
              walkAll delimiter inner a children) := by
        intro a inner q htaken
        have hinner : inner.IsResolved :=
          (tree_of_takeIteration htaken).1 ▸ StaticScope.isResolved_inside hs hh
        exact .bind (.of_ok (exists_takeCondition_of_hasChains hinner hh q)) fun q' _ =>
          endsBy_walkAll hd hall hinner a q'
      refine EndsBy.congr (.bind (.of_ok (Semantics.exists_inside hd head semantic)) fun a _ =>
        .bind (endsBy_takeIteration hs hh p) fun taken htaken => hcontent a _ _ htaken) ?_
      have hhead : (∃ i, head.iteration = some i ∧ i.itemName = "self") ↔ head.BindsSelf :=
        (and_iff_right hmeta).symm
      rw [Node.heads, hhead]
      simp

theorem endsBy_walkAll (hd : delimiter ≠ []) {nodes : List Node} (hn : ∀ n ∈ nodes, n.IsBuilt)
    {scope : StaticScope} (hs : scope.IsResolved) (semantic : Option Semantics) (p : Progress) :
    EndsBy (∃ head ∈ Node.headsOfList nodes, head.BindsSelf)
      (walkAll delimiter scope semantic nodes p) := by
  cases nodes with
  | nil => exact .inr ⟨nofun, p, rfl⟩
  | cons n rest =>
    obtain ⟨hfirst, hrest⟩ := List.forall_mem_cons.1 hn
    refine EndsBy.congr (.bind (endsBy_walk hd hfirst hs semantic p) fun q _ =>
      endsBy_walkAll hd hrest hs semantic q) ?_
    simp only [Node.headsOfList, List.mem_append, or_and_right, exists_or]

end

theorem endsBy_schema {settings : Settings} (hd : settings.examplesDelimiter ≠ []) {root : Node}
    (hr : root.IsBuilt) :
    EndsBy (∃ head ∈ root.heads, head.BindsSelf) (schema (some settings) root) := by
  have hscope : StaticScope.IsResolved .empty := fun name target hg => by cases hg
  have htree : EndsBy (∃ head ∈ root.heads, head.BindsSelf) (tree settings root) := by
    refine EndsBy.congr (.bind (endsBy_walk hd hr hscope none _) fun p _ =>
      .bind (.of_ok (Semantics.exists_ofHeads hd root.heads)) fun byPath _ =>
        .of_ok ⟨_, rfl⟩) ?_
    simp
  exact EndsBy.congr (.bind (.of_ok ⟨settings, rfl⟩) fun _ h => by
    cases h
    exact .bind htree fun t _ => .of_ok ⟨_, rfl⟩) (by simp)

end Compile

/-- A template that is read is compiled under settings whose delimiter is not empty, unless one
of its iterations, outside meta elements, binds its items to the reserved name: then the
reserved name is what is wrong with it. -/
theorem template_is_compiled_unless_items_are_named_self {markup : Text} {root : Node}
    {settings : Settings} (hm : Node.ofMarkup markup = .ok root)
    (hd : settings.examplesDelimiter ≠ []) :
    ((∃ schema, Compile.schema (some settings) root = .ok schema) ↔
      ∀ head ∈ root.heads, head.tag ≠ "meta" → ∀ i, head.iteration = some i →
        i.itemName ≠ "self") ∧
    ((∃ head ∈ root.heads, head.BindsSelf) →
      Compile.schema (some settings) root = .error .reservedAlias) := by
  have hnone : (¬∃ head ∈ root.heads, head.BindsSelf) ↔
      ∀ head ∈ root.heads, head.tag ≠ "meta" → ∀ i, head.iteration = some i →
        i.itemName ≠ "self" := by
    simp only [Head.BindsSelf, not_exists, not_and]
  rw [← hnone]
  rcases Compile.endsBy_schema hd (Node.isBuilt_of_ofMarkup hm).1 with ⟨hself, he⟩ | ⟨hnot, hs⟩
  · refine ⟨iff_of_false ?_ (not_not.2 hself), fun _ => he⟩
    rintro ⟨schema, hs⟩
    rw [he] at hs
    cases hs
  · exact ⟨iff_of_true hs hnot, fun hself => absurd hself hnot⟩

/-- A template of a list of lists whose parts stand in each other's way. -/
def crossedRows : Text :=
  "<ul data-repeat='rows as row' data-if='rows.total'><li data-repeat='row.parts as row'>"
    ++ "\x7b\x7brow:string\x7d\x7d\x7b\x7brow.name:string\x7d\x7d</li></ul>"
    ++ "<p>\x7b\x7brows:integer\x7d\x7d\x7b\x7brows.total.sum:number\x7d\x7d</p>"

theorem template_of_crossed_rows_is_compiled :
    ∃ root schema, Node.ofMarkup crossedRows = .ok root ∧ Settings.defaults.examplesDelimiter ≠ [] ∧
      Compile.schema (some Settings.defaults) root = .ok schema := by
  obtain ⟨root, hm, htest⟩ := Fault.exists_of_succeedsWith (by decide +kernel :
    Fault.succeedsWith (fun root : Node => decide (∀ head ∈ root.heads,
      ∀ i ∈ head.iteration, i.itemName ≠ "self")) (Node.ofMarkup crossedRows) = true)
  have hnames := of_decide_eq_true htest
  have hd : Settings.defaults.examplesDelimiter ≠ [] := by decide
  obtain ⟨schema, hs⟩ := (template_is_compiled_unless_items_are_named_self hm hd).1.2
    fun head hh _ i hi => hnames head hh i hi
  exact ⟨root, schema, hm, hd, hs⟩

/-- An iteration may bind its items to the reserved name, and then there is no schema. -/
theorem template_of_rows_named_self_is_not_compiled :
    ∃ root,
      Node.ofMarkup "<li data-repeat='rows as self'>\x7b\x7bself.a:string\x7d\x7d</li>" = .ok root ∧
      Compile.schema (some Settings.defaults) root = .error .reservedAlias := by
  obtain ⟨root, hm, htest⟩ := Fault.exists_of_succeedsWith (by decide +kernel :
    Fault.succeedsWith
      (fun root => decide (Compile.schema (some Settings.defaults) root = .error .reservedAlias))
      (Node.ofMarkup "<li data-repeat='rows as self'>\x7b\x7bself.a:string\x7d\x7d</li>") = true)
  exact ⟨root, hm, of_decide_eq_true htest⟩

end TypedTemplate
