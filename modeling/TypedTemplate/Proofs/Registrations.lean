import TypedTemplate.Proofs.ParsedTemplates
import TypedTemplate.Proofs.Positions
import TypedTemplate.Schema.Compile

/-!
# Registrations

The schema of a template is what its occurrences of paths ask for, one after another in document
order: an interpolation or a condition asks for a leaf, an iteration for an array. Annotations
change no more than what is said about a position. So a position is described in the end when
some registration made it and none after that left no place for it.
-/
namespace TypedTemplate

/-- What an occurrence of a path asks of the schema. -/
inductive Registration where
  | leaf (path : Text) (l : Leaf)
  | array (path : Text)
  deriving DecidableEq

namespace Registration

def path : Registration → Text
  | .leaf path _ => path
  | .array path => path

def kind : Registration → SchemaKind
  | .leaf _ _ => .leaf
  | .array _ => .array

def position (r : Registration) : SchemaPosition := .ofPath r.path

/-- The last position that is made. An array is made with its items. -/
def extent : Registration → SchemaPosition
  | .leaf path _ => SchemaPosition.ofPath path
  | .array path => SchemaPosition.ofPath path ++ [.items]

def put : Registration → Option SchemaNode → SchemaNode
  | .leaf _ l => SchemaNode.putLeaf l
  | .array _ => SchemaNode.putArray

def addTo (r : Registration) (tree : SchemaNode) : SchemaNode :=
  SchemaNode.alter r.put r.position (some tree)

def demands (r : Registration) : List (SchemaPosition × SchemaKind) := r.position.demands r.kind

/-- Whether what is asked for leaves no place for a position. -/
def Excludes (r : Registration) (other : SchemaPosition) : Prop := r.position.Excludes r.kind other

theorem kind_put (r : Registration) (slot : Option SchemaNode) : (r.put slot).kind = r.kind := by
  cases r with
  | leaf path l => rcases slot with - | (- | - | -) <;> rfl
  | array path => rcases slot with - | (- | - | -) <;> rfl

theorem child?_put (r : Registration) (node : SchemaNode) (step : SchemaStep) (child : SchemaNode)
    (hs : step.holder = r.kind) (h : node.child? step = some child) :
    (r.put (some node)).child? step = some child := by
  cases r with
  | leaf path l => cases step <;> cases hs
  | array path =>
    cases step with
    | property name => cases hs
    | items =>
      cases node with
      | array a items => exact h
      | leaf a l => cases h
      | object a properties => cases h

theorem isSome_at?_put (r : Registration) (slot : Option SchemaNode) (step : SchemaStep)
    (rest : SchemaPosition) :
    ((r.put slot).at? (step :: rest)).isSome ↔
      (r.kind = .array ∧ step :: rest = [.items]) ∨
      ((slot.bind (SchemaNode.at? (step :: rest))).isSome ∧ step.holder = r.kind) := by
  by_cases hs : step.holder = r.kind
  · cases r with
    | leaf path l => cases step <;> cases hs
    | array path =>
      cases step with
      | property name => cases hs
      | items =>
        have hp : Registration.put (.array path) slot =
            SchemaNode.refill .items slot (SchemaNode.arrayParts slot).2 :=
          SchemaNode.putArray_eq_refill slot
        rw [hp, SchemaNode.at?_cons, SchemaNode.child?_refill_self, Option.bind_some]
        cases rest with
        | nil => exact iff_of_true rfl (.inl ⟨rfl, rfl⟩)
        | cons next rest =>
          rw [← SchemaNode.at?_slot?]
          simp [hs, SchemaNode.slot?]
  · have hn : (r.put slot).child? step = none :=
      SchemaNode.child?_eq_none (by rw [kind_put]; exact hs)
    have hi : ¬ (r.kind = .array ∧ step :: rest = [.items]) := by
      rintro ⟨hk, he⟩
      rw [(List.cons.inj he).1] at hs
      exact hs hk.symm
    simp only [SchemaNode.at?_cons, hn, hs, hi, Option.bind_none, Option.isSome_none, and_false,
      or_false, Bool.false_eq_true]

theorem isSome_at?_addTo (r : Registration) (tree : SchemaNode) (other : SchemaPosition) :
    ((r.addTo tree).at? other).isSome ↔
      other <+: r.extent ∨ ((tree.at? other).isSome ∧ ¬ r.Excludes other) := by
  have hextent : other <+: r.extent ↔ other <+: r.position ∨
      ∃ step rest, (r.kind = .array ∧ step :: rest = [.items]) ∧
        other = r.position ++ step :: rest := by
    cases r with
    | leaf path l => simp [extent, position, kind, Registration.path]
    | array path =>
      rw [extent, List.prefix_concat_iff]
      constructor
      · rintro (h | h)
        · exact .inr ⟨.items, [], ⟨rfl, rfl⟩, h⟩
        · exact .inl h
      · rintro (h | ⟨step, rest, ⟨-, he⟩, h⟩)
        · exact .inr h
        · rw [he] at h
          exact .inl h
  rw [hextent, or_assoc]
  exact SchemaNode.isSome_at?_alter (fun inner => r.kind = .array ∧ inner = [.items])
    (isSome_at?_put r) r.position other (some tree)

/-- A position is there after some registrations if one of them made it, or it was there
before, and none of the registrations after that excludes it. -/
theorem isSome_at?_foldl (all : List Registration) (tree : SchemaNode) (other : SchemaPosition) :
    ((all.foldl (fun t r => r.addTo t) tree).at? other).isSome ↔
      ((tree.at? other).isSome ∧ ∀ r ∈ all, ¬ r.Excludes other) ∨
      ∃ before r after, all = before ++ r :: after ∧ other <+: r.extent ∧
        ∀ later ∈ after, ¬ later.Excludes other := by
  induction all generalizing tree with
  | nil => simp
  | cons first rest ih =>
    rw [List.foldl_cons, ih, isSome_at?_addTo]
    constructor
    · rintro (⟨h | ⟨h, hn⟩, hrest⟩ | ⟨before, r, after, rfl, h, hafter⟩)
      · exact .inr ⟨[], first, rest, rfl, h, hrest⟩
      · exact .inl ⟨h, List.forall_mem_cons.2 ⟨hn, hrest⟩⟩
      · exact .inr ⟨first :: before, r, after, rfl, h, hafter⟩
    · rintro (⟨h, hall⟩ | ⟨before, r, after, he, h, hafter⟩)
      · obtain ⟨hn, hrest⟩ := List.forall_mem_cons.1 hall
        exact .inl ⟨.inr ⟨h, hn⟩, hrest⟩
      · cases before with
        | nil =>
          obtain ⟨rfl, rfl⟩ := List.cons.inj he
          exact .inl ⟨.inl h, hafter⟩
        | cons _ before =>
          obtain ⟨rfl, rfl⟩ := List.cons.inj he
          exact .inr ⟨before, r, after, rfl, h, hafter⟩

end Registration

def StaticScope.inside (scope : StaticScope) (head : Head) : StaticScope :=
  match head.iteration with
  | none => scope
  | some iteration =>
    Keyed.set iteration.itemName (scope.resolve iteration.source ++ Path.arrayMarker) scope

/-- An occurrence of a path in a template, in the scope in which it stands. -/
inductive Occurrence where
  | interpolation (scope : StaticScope) (i : Interpolation)
  | iteration (scope : StaticScope) (i : Iteration)
  | condition (scope : StaticScope) (path : Text)
  deriving DecidableEq

namespace Occurrence

/-- What an occurrence asks of the schema. Rows have their number and page without it. -/
def registration? : Occurrence → Option Registration
  | .interpolation scope i =>
    if scope.isImplicit i.path then none
    else some (.leaf (scope.resolve i.path) (Leaf.ofInterpolation i))
  | .iteration scope i => some (.array (scope.resolve i.source))
  | .condition scope path =>
    if scope.isImplicit path then none else some (.leaf (scope.resolve path) Leaf.condition)

def ofSegment? (scope : StaticScope) : Segment → Option Occurrence
  | .literal _ => none
  | .interpolation i => some (.interpolation scope i)

def ofHead (scope : StaticScope) (head : Head) : List Occurrence :=
  head.iteration.toList.map (.iteration scope) ++
    head.condition.toList.map (.condition (scope.inside head))

end Occurrence

namespace Node

mutual

/-- The occurrences of paths in document order. Meta elements have none. -/
def occurrences (scope : StaticScope) : Node → List Occurrence
  | .text segments => segments.filterMap (Occurrence.ofSegment? scope)
  | .element head children =>
    if head.tag = "meta" then []
    else Occurrence.ofHead scope head ++ occurrencesOfList (scope.inside head) children

def occurrencesOfList (scope : StaticScope) : List Node → List Occurrence
  | [] => []
  | n :: rest => occurrences scope n ++ occurrencesOfList scope rest

end

def registrations (root : Node) : List Registration :=
  (root.occurrences .empty).filterMap Occurrence.registration?

end Node

namespace Occurrence

def scope : Occurrence → StaticScope
  | .interpolation scope _ => scope
  | .iteration scope _ => scope
  | .condition scope _ => scope

def path : Occurrence → Text
  | .interpolation _ i => i.path
  | .iteration _ i => i.source
  | .condition _ path => path

theorem path_of_registration? {o : Occurrence} {r : Registration}
    (h : o.registration? = some r) : r.path = o.scope.resolve o.path := by
  cases o with
  | interpolation scope i =>
    simp only [registration?] at h
    split at h
    · cases h
    · exact Option.some.inj h ▸ rfl
  | iteration scope i => exact Option.some.inj h ▸ rfl
  | condition scope path =>
    simp only [registration?] at h
    split at h
    · cases h
    · exact Option.some.inj h ▸ rfl

end Occurrence

namespace Node

mutual

/-- What holds of the outermost scope, and inside every iteration when it holds around it, holds
wherever a path occurs. Every path that occurs is a chain. -/
theorem holds_of_mem_occurrences {Holds : StaticScope → Prop} {n : Node} (hn : n.HasChains)
    {scope : StaticScope} (hs : Holds scope)
    (hstep : ∀ around i, .iteration around i ∈ n.occurrences scope → Holds around →
      Path.isChain i.source = true →
      Holds (Keyed.set i.itemName (around.resolve i.source ++ Path.arrayMarker) around)) :
    ∀ o ∈ n.occurrences scope, Holds o.scope ∧ Path.isChain o.path = true := by
  intro o ho
  cases hn with
  | text ht =>
    obtain ⟨segment, hm, hi⟩ := List.mem_filterMap.1 ho
    cases segment with
    | literal t => cases hi
    | interpolation i => exact Option.some.inj hi ▸ ⟨hs, ht i hm⟩
  | element hh hc =>
    rename_i head children
    unfold occurrences at ho hstep
    by_cases hmeta : head.tag = "meta"
    · rw [if_pos hmeta] at ho
      cases ho
    · rw [if_neg hmeta] at ho hstep
      have hinside : Holds (scope.inside head) := by
        unfold StaticScope.inside
        cases hi : head.iteration with
        | none => exact hs
        | some i =>
          refine hstep scope i ?_ hs (hh.iteration i hi).1
          rw [Occurrence.ofHead, hi]
          exact List.mem_cons_self
      rcases List.mem_append.1 ho with ho | ho
      · rcases List.mem_append.1 ho with ho | ho
        · obtain ⟨i, hi, rfl⟩ := List.mem_map.1 ho
          exact ⟨hs, (hh.iteration i (Option.mem_toList.1 hi)).1⟩
        · obtain ⟨path, hp, rfl⟩ := List.mem_map.1 ho
          exact ⟨hinside, hh.condition path (Option.mem_toList.1 hp)⟩
      · exact holds_of_mem_occurrencesOfList hc hinside
          (fun around i hi => hstep around i (List.mem_append_right _ hi)) o ho

theorem holds_of_mem_occurrencesOfList {Holds : StaticScope → Prop} {all : List Node}
    (hn : ∀ n ∈ all, n.HasChains) {scope : StaticScope} (hs : Holds scope)
    (hstep : ∀ around i, .iteration around i ∈ occurrencesOfList scope all → Holds around →
      Path.isChain i.source = true →
      Holds (Keyed.set i.itemName (around.resolve i.source ++ Path.arrayMarker) around)) :
    ∀ o ∈ occurrencesOfList scope all, Holds o.scope ∧ Path.isChain o.path = true := by
  cases all with
  | nil => exact nofun
  | cons n rest =>
    obtain ⟨hfirst, hrest⟩ := List.forall_mem_cons.1 hn
    intro o ho
    rcases List.mem_append.1 ho with ho | ho
    · exact holds_of_mem_occurrences hfirst hs
        (fun around i hi => hstep around i (List.mem_append_left _ hi)) o ho
    · exact holds_of_mem_occurrencesOfList hrest hs
        (fun around i hi => hstep around i (List.mem_append_right _ hi)) o ho

end

theorem isResolved_of_mem_occurrences {root : Node} (hn : root.HasChains) :
    ∀ o ∈ root.occurrences .empty, o.scope.IsResolved ∧ Path.isChain o.path = true := by
  refine holds_of_mem_occurrences hn (fun name target h => by cases h) ?_
  intro around i _ hs hc name target ht
  rw [Keyed.get?_set] at ht
  split at ht
  · rw [← Option.some.inj ht]
    exact (StaticScope.isResolved_resolve hs hc).append_marker
  · exact hs name target ht

theorem isResolved_of_mem_registrations {root : Node} (hn : root.HasChains) {r : Registration}
    (hr : r ∈ root.registrations) : Path.IsResolved r.path := by
  obtain ⟨o, ho, hr⟩ := List.mem_filterMap.1 hr
  obtain ⟨hs, hp⟩ := isResolved_of_mem_occurrences hn o ho
  rw [Occurrence.path_of_registration? hr]
  exact StaticScope.isResolved_resolve hs hp

end Node

namespace Compile

/-- The shape after what some occurrences ask for. -/
def collect (occurrences : List Occurrence) (tree : SchemaNode) : SchemaNode :=
  (occurrences.filterMap Occurrence.registration?).foldl (fun t r => r.addTo t) tree

theorem collect_append (first second : List Occurrence) (tree : SchemaNode) :
    collect (first ++ second) tree = collect second (collect first tree) := by
  rw [collect, List.filterMap_append, List.foldl_append]
  rfl

theorem eq_alter_of_updateAt {f : Option SchemaNode → SchemaNode} {path : Text}
    {root tree : SchemaNode} (h : root.updateAt f path = .ok tree) :
    tree = SchemaNode.alter f (.ofPath path) (some root) := by
  unfold SchemaNode.updateAt at h
  split at h
  · cases h
  · rename_i first rest hs
    rw [← Except.ok.inj h, SchemaNode.update_eq_alter, SchemaPosition.ofPath, hs]

theorem tree_of_takeInterpolation {scope : StaticScope} {semantic : Option Semantics}
    {p p' : Progress} {i : Interpolation} (h : takeInterpolation scope semantic p i = .ok p') :
    p'.tree = collect [.interpolation scope i] p.tree := by
  unfold takeInterpolation at h
  by_cases himplicit : scope.isImplicit i.path
  · rw [if_pos himplicit] at h
    rw [← Except.ok.inj h]
    simp [collect, Occurrence.registration?, himplicit]
  · rw [if_neg himplicit] at h
    obtain ⟨tree, ht, h⟩ := Fault.bind_eq_ok_iff.1 h
    rw [← Except.ok.inj h]
    simp only [collect, Occurrence.registration?, himplicit, List.filterMap_cons]
    exact eq_alter_of_updateAt ht

theorem tree_of_takeSegments {scope : StaticScope} {semantic : Option Semantics}
    {segments : List Segment} {p p' : Progress}
    (h : takeSegments scope semantic segments p = .ok p') :
    p'.tree = collect (segments.filterMap (Occurrence.ofSegment? scope)) p.tree := by
  induction segments generalizing p with
  | nil =>
    rw [← Except.ok.inj h]
    rfl
  | cons segment rest ih =>
    cases segment with
    | literal t => exact ih h
    | interpolation i =>
      obtain ⟨q, hq, h⟩ := Fault.bind_eq_ok_iff.1 h
      rw [ih h, tree_of_takeInterpolation hq, ← collect_append]
      rfl

theorem tree_of_takeIteration {scope inner : StaticScope} {p p' : Progress} {head : Head}
    (h : takeIteration scope p head.iteration = .ok (inner, p')) :
    inner = scope.inside head ∧
      p'.tree = collect (head.iteration.toList.map (.iteration scope)) p.tree := by
  unfold StaticScope.inside
  cases hi : head.iteration with
  | none =>
    rw [hi] at h
    obtain ⟨rfl, rfl⟩ := Prod.mk.inj (Except.ok.inj h)
    exact ⟨rfl, rfl⟩
  | some iteration =>
    rw [hi] at h
    obtain ⟨tree, ht, h⟩ := Fault.bind_eq_ok_iff.1 h
    obtain ⟨bound, hb, h⟩ := Fault.bind_eq_ok_iff.1 h
    obtain ⟨rfl, rfl⟩ := Prod.mk.inj (Except.ok.inj h)
    have htree : tree = collect [.iteration scope iteration] p.tree := eq_alter_of_updateAt ht
    refine ⟨?_, htree⟩
    unfold StaticScope.bind at hb
    split at hb
    · cases hb
    · exact (Except.ok.inj hb).symm

theorem tree_of_takeCondition {scope : StaticScope} {p p' : Progress} {condition : Option Text}
    (h : takeCondition scope p condition = .ok p') :
    p'.tree = collect (condition.toList.map (.condition scope)) p.tree := by
  cases condition with
  | none =>
    rw [← Except.ok.inj h]
    rfl
  | some path =>
    simp only [takeCondition] at h
    by_cases himplicit : scope.isImplicit path
    · rw [if_pos himplicit] at h
      rw [← Except.ok.inj h]
      simp [collect, Occurrence.registration?, himplicit]
    · rw [if_neg himplicit] at h
      obtain ⟨tree, ht, h⟩ := Fault.bind_eq_ok_iff.1 h
      rw [← Except.ok.inj h]
      simp only [collect, Occurrence.registration?, himplicit, Option.toList_some,
        List.map_cons, List.map_nil, List.filterMap_cons]
      exact eq_alter_of_updateAt ht

theorem walkAll_append (delimiter : Text) (scope : StaticScope) (semantic : Option Semantics)
    (first second : List Node) (p : Progress) :
    walkAll delimiter scope semantic (first ++ second) p =
      walkAll delimiter scope semantic first p >>= walkAll delimiter scope semantic second := by
  induction first generalizing p with
  | nil => rfl
  | cons n rest ih =>
    rw [List.cons_append, walkAll, walkAll, bind_assoc]
    exact congrArg _ (funext ih)

mutual

theorem tree_of_walk {delimiter : Text} {scope : StaticScope} {semantic : Option Semantics}
    {n : Node} {p p' : Progress} (h : walk delimiter scope semantic n p = .ok p') :
    p'.tree = collect (n.occurrences scope) p.tree := by
  cases n with
  | text segments => exact tree_of_takeSegments h
  | element head children =>
    unfold walk at h
    unfold Node.occurrences
    split at h
    · rename_i hmeta
      rw [if_pos hmeta, ← Except.ok.inj h]
      rfl
    · rename_i hmeta
      obtain ⟨inherited, -, h⟩ := Fault.bind_eq_ok_iff.1 h
      obtain ⟨⟨inner, q⟩, hq, h⟩ := Fault.bind_eq_ok_iff.1 h
      obtain ⟨q', hq', h⟩ := Fault.bind_eq_ok_iff.1 h
      obtain ⟨rfl, hiteration⟩ := tree_of_takeIteration hq
      rw [if_neg hmeta, Occurrence.ofHead, collect_append, collect_append, ← hiteration,
        ← tree_of_takeCondition hq']
      exact tree_of_walkAll h

theorem tree_of_walkAll {delimiter : Text} {scope : StaticScope} {semantic : Option Semantics}
    {all : List Node} {p p' : Progress} (h : walkAll delimiter scope semantic all p = .ok p') :
    p'.tree = collect (Node.occurrencesOfList scope all) p.tree := by
  cases all with
  | nil =>
    rw [← Except.ok.inj h]
    rfl
  | cons n rest =>
    obtain ⟨q, hq, h⟩ := Fault.bind_eq_ok_iff.1 h
    rw [Node.occurrencesOfList, collect_append, ← tree_of_walk hq]
    exact tree_of_walkAll h

end

end Compile
end TypedTemplate
