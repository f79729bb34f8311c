import TypedTemplate.Proofs.AgreeingData
import TypedTemplate.Proofs.ValidatedData

/-!
# Unseen data

Rendering reads nothing that the schema of a template does not describe. Two runs over data that
agree on what is described keep scopes alike: an alias stands for values that agree where the
schema says that the alias leads, and rows and pages have the same numbers. So both runs take the
same rows, leave out the same elements, and show the same values.
-/
namespace TypedTemplate

namespace Iteration

/-- The names that a row of an iteration brings beside its alias. -/
def rowNames (i : Iteration) : List Text :=
  "$index" :: if i.kind == .page then ["$page"] else []

end Iteration

def Head.rowNames (head : Head) (names : List Text) : List Text :=
  match head.iteration with
  | none => names
  | some i => i.rowNames ++ names

/-- Whether a path begins with a name of rows only if the name is known. -/
def Path.isKnown (names : List Text) (path : Text) : Bool :=
  !Path.isImplicit path || names.contains (Path.root path)

namespace Node

mutual

/-- Whether every path that begins with a name of rows lies under an iteration that brings the
name. -/
def knowsRowNames (names : List Text) : Node → Bool
  | .text segments => segments.all fun
    | .literal _ => true
    | .interpolation i => Path.isKnown names i.path
  | .element head children =>
    head.condition.all (Path.isKnown (head.rowNames names)) &&
      knowsRowNamesOfList (head.rowNames names) children

def knowsRowNamesOfList (names : List Text) : List Node → Bool
  | [] => true
  | n :: rest => knowsRowNames names n && knowsRowNamesOfList names rest

end

end Node

/-- Whether an element is none of the meta elements, or one without directives. -/
def Head.isPlain (head : Head) : Bool :=
  head.tag ≠ "meta" || (head.iteration.isNone && head.condition.isNone)

/-- What an alias stands for in two runs: values that agree over the node to which the alias
leads. -/
inductive AlikeTarget (tree : SchemaNode) : Option Text → Option Value → Option Value → Prop
  | unbound : AlikeTarget tree none none none
  | bound {target : Text} {node : SchemaNode} {v w : Value} :
      tree.at? (.ofPath target) = some node → node.SameOver v w →
      AlikeTarget tree (some target) (some v) (some w)

/-- The scopes of two runs at the same place of a template: the data and the values of aliases
agree, and the names of rows stand for the same. -/
structure Alike (tree : SchemaNode) (around : StaticScope) (names : List Text)
    (first second : DynamicScope) : Prop where
  data : tree.SameOver first.data second.data
  aliases : ∀ name ∉ Path.implicitNames, AlikeTarget tree (Keyed.get? name around)
    (Keyed.get? name first.bindings) (Keyed.get? name second.bindings)
  rows : ∀ name ∈ Path.implicitNames,
    Keyed.get? name first.bindings = Keyed.get? name second.bindings
  known : ∀ name ∈ names, Keyed.get? name first.bindings ≠ none

namespace DynamicScope

theorem get?_rowBindings_of_mem_rowNames {i : Iteration} {name : Text} (h : name ∈ i.rowNames)
    (v : Value) (index count : Int) :
    Keyed.get? name (rowBindings i.itemName v index count (i.kind == .page)) ≠ none := by
  rw [Ne, Keyed.get?_eq_none_iff, not_not]
  unfold rowBindings
  unfold Iteration.rowNames at h
  split at h
  · rename_i hpage
    rw [if_pos hpage, Keyed.mem_keys_set, Keyed.mem_keys_set]
    simp only [List.mem_cons, List.not_mem_nil, or_false] at h
    rcases h with rfl | rfl
    · exact .inr (.inl rfl)
    · exact .inl rfl
  · rename_i hrow
    rw [if_neg hrow, Keyed.mem_keys_set]
    exact .inl (List.mem_singleton.1 h)

theorem exists_bind {first second inner : DynamicScope} {itemName : Text} {v : Value}
    {index count : Int} {isPage : Bool}
    (h : first.bind itemName v index count isPage = .ok inner) (w : Value) :
    ∃ other, second.bind itemName w index count isPage = .ok other := by
  unfold bind at h ⊢
  split at h
  · cases h
  · rename_i hself
    rw [if_neg hself]
    exact ⟨_, rfl⟩

theorem bind_eq_error {first second : DynamicScope} {itemName : Text} {v : Value}
    {index count : Int} {isPage : Bool} {e : Fault}
    (h : first.bind itemName v index count isPage = .error e) (w : Value) :
    second.bind itemName w index count isPage = .error e := by
  unfold bind at h ⊢
  split at h
  · rename_i hself
    rw [if_pos hself]
    exact h
  · cases h

end DynamicScope

namespace Alike

variable {tree : SchemaNode} {around : StaticScope} {names : List Text}
  {first second : DynamicScope}

theorem top {v w : Value} (h : tree.SameOver v w) :
    Alike tree .empty [] (.ofData v) (.ofData w) where
  data := h
  aliases _ _ := .unbound
  rows _ _ := rfl
  known := nofun

theorem resolve (h : Alike tree around names first second) (hs : around.IsResolved) {path : Text}
    (hp : Path.isChain path = true) (hi : Path.isImplicit path = false) {node : SchemaNode}
    (hn : tree.at? (.ofPath (around.resolve path)) = some node) :
    node.SameOver (first.resolve path) (second.resolve path) := by
  have hroot : Path.root path ∉ Path.implicitNames := by
    simpa [Path.isImplicit] using hi
  have htarget := h.aliases _ hroot
  rw [first.resolve_of_isChain hp, second.resolve_of_isChain hp]
  rw [SchemaPosition.ofPath_resolve hs hp] at hn
  cases ho : Keyed.get? (Path.root path) around with
  | none =>
    rw [ho] at htarget hn
    generalize Keyed.get? (Path.root path) first.bindings = v at htarget
    generalize Keyed.get? (Path.root path) second.bindings = w at htarget
    cases htarget with
    | unbound => exact h.data.follow hn
  | some target =>
    rw [ho] at htarget hn
    generalize Keyed.get? (Path.root path) first.bindings = v at htarget
    generalize Keyed.get? (Path.root path) second.bindings = w at htarget
    cases htarget with
    | bound hat hvw =>
      dsimp only at hn
      rw [SchemaNode.at?_append, hat] at hn
      exact hvw.follow hn

theorem resolve_rowName (h : Alike tree around names first second) {path : Text}
    (hp : Path.isChain path = true) (hi : Path.isImplicit path = true)
    (hk : Path.root path ∈ names) : first.resolve path = second.resolve path := by
  have hroot : Path.root path ∈ Path.implicitNames := by
    simpa [Path.isImplicit] using hi
  obtain ⟨v, hv⟩ := Option.ne_none_iff_exists'.1 (h.known _ hk)
  rw [first.resolve_of_isChain hp, second.resolve_of_isChain hp, ← h.rows _ hroot, hv]

theorem resolve_leaf (h : Alike tree around names first second) (hs : around.IsResolved)
    {path : Text} (hp : Path.isChain path = true) (hk : Path.isKnown names path = true)
    (hn : Path.isImplicit path = false →
      ∃ node, tree.at? (.ofPath (around.resolve path)) = some node ∧ node.kind = .leaf) :
    first.resolve path = second.resolve path := by
  cases hi : Path.isImplicit path with
  | true =>
    apply h.resolve_rowName hp hi
    simpa [Path.isKnown, hi] using hk
  | false =>
    obtain ⟨node, hnode, hkind⟩ := hn hi
    have hsame := (h.resolve hs hp hi hnode).same
    rw [hkind] at hsame
    exact hsame

theorem bind (h : Alike tree around names first second) {i : Iteration}
    (hn : i.itemName ∉ Path.implicitNames) {target : Text} {node : SchemaNode}
    (ht : tree.at? (.ofPath target) = some node) {v w : Value} (hvw : node.SameOver v w)
    {index count : Int} {inner other : DynamicScope}
    (hf : first.bind i.itemName v index count (i.kind == .page) = .ok inner)
    (hs : second.bind i.itemName w index count (i.kind == .page) = .ok other) :
    Alike tree (Keyed.set i.itemName target around) (i.rowNames ++ names) inner other := by
  obtain ⟨hdata, hbindings⟩ := DynamicScope.bind_eq_ok hf
  obtain ⟨hdata', hbindings'⟩ := DynamicScope.bind_eq_ok hs
  constructor
  case data =>
    rw [hdata, hdata']
    exact h.data
  case aliases =>
    intro name hname
    rw [hbindings, hbindings', DynamicScope.get?_rowBindings hname,
      DynamicScope.get?_rowBindings hname, Keyed.get?_set]
    by_cases he : name = i.itemName
    · rw [if_pos he, if_pos he, if_pos he]
      exact .bound ht hvw
    · rw [if_neg he, if_neg he, if_neg he]
      exact h.aliases name hname
  case rows =>
    intro name hname
    have hne : name ≠ i.itemName := fun he => hn (he ▸ hname)
    rw [hbindings, hbindings', DynamicScope.get?_rowBindings_of_ne hne hne v w, h.rows name hname]
  case known =>
    intro name hname hnone
    rw [hbindings, Option.or_eq_none_iff] at hnone
    rcases List.mem_append.1 hname with hm | hm
    · exact DynamicScope.get?_rowBindings_of_mem_rowNames hm v index count hnone.1
    · exact h.known name hm hnone.2

end Alike

/-- An occurrence whose path is described by a tree, in a scope of resolved paths. -/
structure Occurrence.IsCovered (tree : SchemaNode) (o : Occurrence) : Prop where
  resolved : o.scope.IsResolved
  chain : Path.isChain o.path = true
  plain : o.isPlain = true
  leavesRowNames : Render.LeavesRowNames o
  described : ∀ r ∈ o.registration?, ∃ node, tree.at? r.position = some node ∧ node.kind = r.kind

namespace Occurrence.IsCovered

variable {tree : SchemaNode} {around : StaticScope}

theorem interpolation {i : Interpolation} (h : IsCovered tree (.interpolation around i))
    (hi : Path.isImplicit i.path = false) :
    ∃ node, tree.at? (.ofPath (around.resolve i.path)) = some node ∧ node.kind = .leaf := by
  apply h.described (.leaf (around.resolve i.path) (Leaf.ofInterpolation i))
  rw [registration?, around.isImplicit_eq_false hi]
  rfl

theorem condition {path : Text} (h : IsCovered tree (.condition around path))
    (hi : Path.isImplicit path = false) :
    ∃ node, tree.at? (.ofPath (around.resolve path)) = some node ∧ node.kind = .leaf := by
  apply h.described (.leaf (around.resolve path) Leaf.condition)
  rw [registration?, around.isImplicit_eq_false hi]
  rfl

theorem iteration {i : Iteration} (h : IsCovered tree (.iteration around i)) :
    Path.isImplicit i.source = false ∧ ∃ a items,
      tree.at? (.ofPath (around.resolve i.source)) = some (.array a items) ∧
      tree.at? (.ofPath (around.resolve i.source ++ Path.arrayMarker)) = some items := by
  obtain ⟨hbare, himplicit⟩ := source_of_isPlain h.plain
  obtain ⟨node, hnode, hkind⟩ := h.described (.array (around.resolve i.source)) rfl
  cases node with
  | leaf a l => cases hkind
  | object a properties => cases hkind
  | array a items =>
    have hitems := StaticScope.at?_items h.resolved h.chain hbare hnode
    exact ⟨himplicit, a, items, hnode, hitems⟩

end Occurrence.IsCovered

namespace Render

theorem segments_congr {zone : Text} {first second : DynamicScope} {all : List Segment}
    (h : ∀ i, .interpolation i ∈ all → first.resolve i.path = second.resolve i.path) :
    segments zone first all = segments zone second all := by
  induction all with
  | nil => rfl
  | cons s rest ih =>
    have hs : segment zone first s = segment zone second s := by
      cases s with
      | literal t => rfl
      | interpolation i => rw [segment, segment, h i List.mem_cons_self]
    rw [segments, segments, hs, ih fun i hi => h i (List.mem_cons_of_mem _ hi)]

theorem showOnce_congr {head : Head} {content : DynamicScope → Except Fault Text}
    {first second : DynamicScope} (breakAfter : Bool)
    (hh : ∀ path, head.condition = some path → first.resolve path = second.resolve path)
    (hc : content first = content second) :
    showOnce head content first breakAfter = showOnce head content second breakAfter := by
  have hhidden : isHidden head first = isHidden head second := by
    unfold isHidden
    cases hp : head.condition with
    | none => rfl
    | some path => exact congrArg Value.isFalsy (hh path hp)
  rw [showOnce, showOnce, hhidden, hc]

theorem showElement_meta {head : Head} (ht : head.tag = "meta") (hp : head.isPlain = true)
    (content : DynamicScope → Except Fault Text) (scope : DynamicScope) :
    showElement head content scope = .ok [] := by
  have hnone : head.iteration = none ∧ head.condition = none := by
    simpa [Head.isPlain, ht] using hp
  rw [showElement, hnone.1]
  dsimp only
  rw [showOnce, isHidden, hnone.2]
  simp [bind, Except.bind, pure, Except.pure, ht]

theorem forall₂_rows {R : Value → Value → Prop} (i : Iteration) (he : R (.object []) (.object []))
    {vs ws : List Value} (h : List.Forall₂ R vs ws) :
    List.Forall₂ R (rows i vs) (rows i ws) := by
  have hlen := h.length_eq
  have htaken : takenRows i vs = takenRows i ws := by rw [takenRows, takenRows, hlen]
  have htake := List.forall₂_take (takenRows i ws) h
  rw [rows, rows, htaken, htake.length_eq]
  apply List.rel_append htake
  induction i.fixedRows.getD 0 - (ws.take (takenRows i ws)).length with
  | zero => exact .nil
  | succ n ih => exact .cons he ih

end Render

namespace Alike

variable {tree : SchemaNode} {around : StaticScope} {names : List Text}
  {first second : DynamicScope}

theorem showRows_eq (h : Alike tree around names first second) {i : Iteration}
    (hn : i.itemName ∉ Path.implicitNames) {target : Text} {node : SchemaNode}
    (ht : tree.at? (.ofPath target) = some node)
    {once : DynamicScope → Bool → Except Fault Text}
    (ho : ∀ inner other breakAfter,
      Alike tree (Keyed.set i.itemName target around) (i.rowNames ++ names) inner other →
      once inner breakAfter = once other breakAfter)
    {injectBreak : Bool} {total index : Nat} {vs ws : List Value}
    (hvw : List.Forall₂ node.SameOver vs ws) :
    Render.showRows once i first injectBreak total index vs =
      Render.showRows once i second injectBreak total index ws := by
  induction hvw generalizing index with
  | nil => rfl
  | @cons v w vs ws hv _ ih =>
    rw [Render.showRows, Render.showRows, ih]
    cases hf : first.bind i.itemName v index total (i.kind == .page) with
    | error e => rw [DynamicScope.bind_eq_error hf w]
    | ok inner =>
      obtain ⟨other, hs⟩ : ∃ other,
          second.bind i.itemName w index total (i.kind == .page) = .ok other :=
        DynamicScope.exists_bind hf w
      have hinner := h.bind hn ht hv hf hs
      rw [hs]
      change once inner _ >>= _ = once other _ >>= _
      rw [ho inner other _ hinner]

theorem resolve_source (h : Alike tree around names first second) {i : Iteration}
    (hi : Occurrence.IsCovered tree (.iteration around i)) :
    ∃ a items, tree.at? (.ofPath (around.resolve i.source ++ Path.arrayMarker)) = some items ∧
      (SchemaNode.array a items).SameOver (first.resolve i.source) (second.resolve i.source) := by
  obtain ⟨himplicit, a, items, hnode, hitems⟩ := hi.iteration
  exact ⟨a, items, hitems, h.resolve hi.resolved hi.chain himplicit hnode⟩

theorem showElement_eq (h : Alike tree around names first second) {head : Head}
    (hcovered : ∀ o ∈ Occurrence.ofHead around head, o.IsCovered tree)
    (hk : head.condition.all (Path.isKnown (head.rowNames names)) = true)
    {content : DynamicScope → Except Fault Text}
    (hc : ∀ inner other, Alike tree (around.inside head) (head.rowNames names) inner other →
      content inner = content other) :
    Render.showElement head content first = Render.showElement head content second := by
  have honce : ∀ inner other breakAfter,
      Alike tree (around.inside head) (head.rowNames names) inner other →
      Render.showOnce head content inner breakAfter =
        Render.showOnce head content other breakAfter := by
    intro inner other breakAfter halike
    refine Render.showOnce_congr breakAfter ?_ (hc inner other halike)
    intro path hp
    have hcondition : Occurrence.IsCovered tree (.condition (around.inside head) path) := by
      apply hcovered
      simp [Occurrence.ofHead, hp]
    refine halike.resolve_leaf hcondition.resolved hcondition.chain ?_ hcondition.condition
    simpa [hp] using hk
  unfold Render.showElement
  cases hi : head.iteration with
  | none =>
    apply honce
    rw [StaticScope.inside, Head.rowNames, hi]
    exact h
  | some i =>
    have hiteration : Occurrence.IsCovered tree (.iteration around i) := by
      apply hcovered
      simp [Occurrence.ofHead, hi]
    obtain ⟨a, items, hitems, hsource⟩ := h.resolve_source hiteration
    have hinside : around.inside head =
        Keyed.set i.itemName (around.resolve i.source ++ Path.arrayMarker) around := by
      rw [StaticScope.inside, hi]
    have hnames : head.rowNames names = i.rowNames ++ names := by rw [Head.rowNames, hi]
    rw [hinside, hnames] at honce
    dsimp only
    rcases hsource.lists with ⟨vs, ws, hv, hw, hvw⟩ | ⟨hv, hw⟩
    · have hrows := Render.forall₂_rows i (.refl items (.object [])) hvw
      rw [hv, hw]
      dsimp only
      rw [hrows.length_eq]
      exact h.showRows_eq hiteration.leavesRowNames hitems honce hrows
    · split
      · rename_i vs hlist
        exact absurd hlist (hv vs)
      · rfl

end Alike

mutual

/-- A part of a template is shown the same in scopes that are alike. -/
theorem Alike.node_eq (zone : Text) {tree : SchemaNode} {n : Node} {around : StaticScope}
    {names : List Text} {first second : DynamicScope} (h : Alike tree around names first second)
    (hcovered : ∀ o ∈ n.occurrences around, o.IsCovered tree)
    (hmeta : ∀ head ∈ n.heads, head.isPlain = true) (hk : n.knowsRowNames names = true) :
    Render.node zone n first = Render.node zone n second := by
  cases n with
  | text segments =>
    apply Render.segments_congr
    intro i hi
    have hinterpolation : Occurrence.IsCovered tree (.interpolation around i) := by
      apply hcovered
      exact List.mem_filterMap.2 ⟨_, hi, rfl⟩
    refine h.resolve_leaf hinterpolation.resolved hinterpolation.chain ?_
      hinterpolation.interpolation
    exact List.all_eq_true.1 hk _ hi
  | element head children =>
    rw [Node.knowsRowNames, Bool.and_eq_true] at hk
    rw [Node.heads] at hmeta
    obtain ⟨hplain, hchildren⟩ := List.forall_mem_cons.1 hmeta
    rw [Node.occurrences] at hcovered
    by_cases htag : head.tag = "meta"
    · rw [Render.node, Render.node, Render.showElement_meta htag hplain,
        Render.showElement_meta htag hplain]
    · rw [if_neg htag] at hcovered
      obtain ⟨hhead, hinside⟩ := List.forall_mem_append.1 hcovered
      apply h.showElement_eq hhead hk.1
      intro inner other halike
      exact halike.nodes_eq zone hinside hchildren hk.2

theorem Alike.nodes_eq (zone : Text) {tree : SchemaNode} {all : List Node} {around : StaticScope}
    {names : List Text} {first second : DynamicScope} (h : Alike tree around names first second)
    (hcovered : ∀ o ∈ Node.occurrencesOfList around all, o.IsCovered tree)
    (hmeta : ∀ head ∈ Node.headsOfList all, head.isPlain = true)
    (hk : Node.knowsRowNamesOfList names all = true) :
    Render.nodes zone all first = Render.nodes zone all second := by
  cases all with
  | nil => rfl
  | cons n rest =>
    rw [Node.knowsRowNamesOfList, Bool.and_eq_true] at hk
    rw [Node.headsOfList, List.forall_mem_append] at hmeta
    rw [Node.occurrencesOfList, List.forall_mem_append] at hcovered
    rw [Render.nodes, Render.nodes, h.node_eq zone hcovered.1 hmeta.1 hk.1,
      h.nodes_eq zone hcovered.2 hmeta.2 hk.2]

end

instance (o : Occurrence) : Decidable (Render.LeavesRowNames o) :=
  match o with
  | .interpolation .. | .condition .. => .isTrue trivial
  | .iteration _ i => inferInstanceAs (Decidable (i.itemName ∉ Path.implicitNames))

/-- Where occurrences agree and are plain, the compiled tree covers them. -/
theorem Occurrence.isCovered_of_mem {settings : Settings} {root : Node} {tree : SchemaNode}
    (hn : root.HasChains) (ht : Compile.tree settings root = .ok tree)
    (ha : root.HasAgreeingShapes) (hp : root.HasPlainIterations) {o : Occurrence}
    (hr : Render.LeavesRowNames o) (ho : o ∈ root.occurrences .empty) : o.IsCovered tree := by
  obtain ⟨hs, hc⟩ := Node.isResolved_of_mem_occurrences hn o ho
  refine ⟨hs, hc, hp o ho, hr, ?_⟩
  intro r hreg
  exact Compile.exists_node_of_mem_registrations ht ha (List.mem_filterMap.2 ⟨o, ho, hreg⟩)

/-- Rendering depends on nothing but what the schema describes. Where no two occurrences of a
template disagree, iterations are plain and leave the names of rows alone, meta elements have no
directives, and names of rows are used in rows only, data that agree over the schema are shown
the same, or are refused with the same fault. -/
theorem rendering_depends_on_described_data_only {markup : Text} {root : Node}
    {given chosen : Option Settings} {schema first second : Value}
    (hm : Node.ofMarkup markup = .ok root) (hs : Compile.schema given root = .ok schema)
    (ha : root.HasAgreeingShapes) (hp : root.HasPlainIterations)
    (hr : ∀ o ∈ root.occurrences .empty, Render.LeavesRowNames o)
    (hmeta : ∀ head ∈ root.heads, head.isPlain = true) (hk : root.knowsRowNames [] = true)
    (hagree : JsonSchema.Agree schema first second) :
    Render.template chosen root first = Render.template chosen root second := by
  have hn := Node.hasChains_of_ofMarkup hm
  obtain ⟨settings, tree, htree, rfl⟩ := Compile.schema_eq_ok hs
  have hsame := hagree.sameOver (Compile.tree_eq_ok htree).1
  have hcovered : ∀ o ∈ root.occurrences .empty, o.IsCovered tree := fun o ho =>
    Occurrence.isCovered_of_mem hn htree ha hp (hr o ho) ho
  have hnode : ∀ zone, Render.node zone root (.ofData first) =
      Render.node zone root (.ofData second) := fun zone =>
    (Alike.top hsame).node_eq zone hcovered hmeta hk
  simp only [Render.template, hnode]

def numberedNames : Text :=
  "<p data-repeat='rows as row'>\x7b\x7b$index:integer\x7d\x7d\x7b\x7brow.name:string\x7d\x7d</p>"

def oneName : Keyed Value := [("rows", .list [.object [("name", .text "A")]])]

/-- A list of names is shown the same with a key beside it that the schema does not describe. -/
theorem numbered_names_do_not_depend_on_secret : ∃ root schema,
    Node.ofMarkup numberedNames = .ok root ∧
    Compile.schema (some .defaults) root = .ok schema ∧
    JsonSchema.Agree schema (.object oneName)
      (.object (Keyed.set "secret" (.text "x") oneName)) ∧
    Render.template (some .defaults) root (.object oneName) =
      Render.template (some .defaults) root
        (.object (Keyed.set "secret" (.text "x") oneName)) := by
  have hread : Fault.succeedsWith (fun root => decide (root.HasAgreeingShapes ∧
      root.HasPlainIterations ∧ (∀ o ∈ root.occurrences .empty, Render.LeavesRowNames o) ∧
      (∀ head ∈ root.heads, head.isPlain = true) ∧ root.knowsRowNames [] = true) &&
      Fault.succeedsWith (fun schema => decide (JsonSchema.kind schema = .object ∧
        JsonSchema.part? (.property "secret") schema = none))
        (Compile.schema (some .defaults) root)) (Node.ofMarkup numberedNames) = true := by
    decide +kernel
  obtain ⟨root, hm, hroot⟩ := Fault.exists_of_succeedsWith hread
  obtain ⟨htest, hroot⟩ := Bool.and_eq_true_iff.1 hroot
  obtain ⟨ha, hp, hr, hmeta, hk⟩ := of_decide_eq_true htest
  obtain ⟨schema, hs, hschema⟩ := Fault.exists_of_succeedsWith hroot
  obtain ⟨hkind, hsecret⟩ := of_decide_eq_true hschema
  have hagree := JsonSchema.agree_set hkind hsecret oneName (.text "x")
  exact ⟨root, schema, hm, hs, hagree,
    rendering_depends_on_described_data_only hm hs ha hp hr hmeta hk hagree⟩

end TypedTemplate
