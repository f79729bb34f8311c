import TypedTemplate.Proofs.LaterStatements
import TypedTemplate.Proofs.RepeatedRegistrations

/-!
# Repeated content

A template whose content stands twice in a row is compiled to the schema of the content once. The
second walk through the content takes what the first took, whatever was collected before: the same
registrations, which change nothing when they are made again, and the same annotations, which
change nothing when they are laid again. The same holds of what meta elements state.
-/
namespace TypedTemplate

namespace Compile

/-- Whether a part of a walk succeeds, and which annotations it takes, does not depend on what
was collected before. -/
def IsUniform (run : Progress → Except Fault Progress) : Prop :=
  (∃ e, ∀ p, run p = .error e) ∨
    ∃ notes, ∀ p, ∃ tree, run p = .ok ⟨tree, p.inline ++ notes⟩

theorem IsUniform.bind {run next : Progress → Except Fault Progress} (h : IsUniform run)
    (hn : IsUniform next) : IsUniform fun p => run p >>= next := by
  rcases h with ⟨e, he⟩ | ⟨notes, hrun⟩
  · exact .inl ⟨e, fun p => by simp only [he]; rfl⟩
  · rcases hn with ⟨e, he⟩ | ⟨more, hnext⟩
    · refine .inl ⟨e, fun p => ?_⟩
      obtain ⟨tree, ht⟩ := hrun p
      simp only [ht]
      exact he _
    · refine .inr ⟨notes ++ more, fun p => ?_⟩
      obtain ⟨tree, ht⟩ := hrun p
      obtain ⟨after, ha⟩ := hnext ⟨tree, p.inline ++ notes⟩
      simp only [ht, ← List.append_assoc]
      exact ⟨after, ha⟩

theorem isUniform_ok : IsUniform .ok :=
  .inr ⟨[], fun p => ⟨p.tree, by rw [List.append_nil]⟩⟩

theorem updateAt_cases (f : Option SchemaNode → SchemaNode) (path : Text) :
    (∃ e, ∀ tree : SchemaNode, tree.updateAt f path = .error e) ∨
      ∀ tree : SchemaNode, ∃ after, tree.updateAt f path = .ok after := by
  cases hs : SchemaNode.steps path with
  | nil => exact .inl ⟨_, fun tree => by rw [SchemaNode.updateAt, hs]⟩
  | cons first rest => exact .inr fun tree => ⟨_, by rw [SchemaNode.updateAt, hs]⟩

theorem isUniform_takeInterpolation (scope : StaticScope) (semantic : Option Semantics)
    (i : Interpolation) : IsUniform fun p => takeInterpolation scope semantic p i := by
  unfold takeInterpolation
  by_cases himplicit : scope.isImplicit i.path
  · simp only [if_pos himplicit]
    exact isUniform_ok
  · simp only [if_neg himplicit]
    rcases updateAt_cases (SchemaNode.putLeaf (Leaf.ofInterpolation i)) (scope.resolve i.path) with
      ⟨e, he⟩ | hok
    · exact .inl ⟨e, fun p => by simp only [SchemaNode.placeLeaf, he]; rfl⟩
    · refine .inr ⟨semantic.toList.map ((scope.resolve i.path, ·)), fun p => ?_⟩
      obtain ⟨tree, ht⟩ := hok p.tree
      exact ⟨tree, by simp only [SchemaNode.placeLeaf, ht]; rfl⟩

theorem isUniform_takeSegments (scope : StaticScope) (semantic : Option Semantics)
    (segments : List Segment) : IsUniform (takeSegments scope semantic segments) := by
  induction segments with
  | nil => exact isUniform_ok
  | cons segment rest ih =>
    cases segment with
    | literal t => exact ih
    | interpolation i => exact (isUniform_takeInterpolation scope semantic i).bind ih

theorem takeCondition_cases (scope : StaticScope) (condition : Option Text) :
    (∃ e, ∀ p, takeCondition scope p condition = .error e) ∨
      ∀ p, ∃ tree, takeCondition scope p condition = .ok ⟨tree, p.inline⟩ := by
  cases condition with
  | none => exact .inr fun p => ⟨p.tree, rfl⟩
  | some path =>
    unfold takeCondition
    by_cases himplicit : scope.isImplicit path
    · simp only [if_pos himplicit]
      exact .inr fun p => ⟨p.tree, rfl⟩
    · simp only [if_neg himplicit]
      rcases updateAt_cases (SchemaNode.putLeaf Leaf.condition) (scope.resolve path) with
        ⟨e, he⟩ | hok
      · exact .inl ⟨e, fun p => by simp only [SchemaNode.placeLeaf, he]; rfl⟩
      · refine .inr fun p => ?_
        obtain ⟨tree, ht⟩ := hok p.tree
        exact ⟨tree, by simp only [SchemaNode.placeLeaf, ht]; rfl⟩

theorem takeIteration_cases (scope : StaticScope) (iteration : Option Iteration) :
    (∃ e, ∀ p, takeIteration scope p iteration = .error e) ∨
      ∃ inner, ∀ p, ∃ tree, takeIteration scope p iteration = .ok (inner, ⟨tree, p.inline⟩) := by
  cases iteration with
  | none => exact .inr ⟨scope, fun p => ⟨p.tree, rfl⟩⟩
  | some i =>
    unfold takeIteration
    rcases updateAt_cases SchemaNode.putArray (scope.resolve i.source) with ⟨e, he⟩ | hok
    · exact .inl ⟨e, fun p => by simp only [SchemaNode.ensureArray, he]; rfl⟩
    · cases hb : scope.bind i.itemName (scope.resolve i.source) with
      | error e =>
        refine .inl ⟨e, fun p => ?_⟩
        obtain ⟨tree, ht⟩ := hok p.tree
        simp only [SchemaNode.ensureArray, ht, hb]
        rfl
      | ok inner =>
        refine .inr ⟨inner, fun p => ?_⟩
        obtain ⟨tree, ht⟩ := hok p.tree
        refine ⟨tree, ?_⟩
        simp only [SchemaNode.ensureArray, ht, hb]
        rfl

/-- A walk through an element that is no meta element either fails before its content, or goes on
to the content with what the directives ask for. -/
theorem walk_element_cases (delimiter : Text) (scope : StaticScope) (semantic : Option Semantics)
    {head : Head} (hmeta : head.tag ≠ "meta") :
    (∃ e, ∀ children p, walk delimiter scope semantic (.element head children) p = .error e) ∨
      ∃ inherited, ∀ children p, walk delimiter scope semantic (.element head children) p =
        walkAll delimiter (scope.inside head) inherited children
          ⟨collect (Occurrence.ofHead scope head) p.tree, p.inline⟩ := by
  simp only [walk, if_neg hmeta]
  cases Semantics.inside head semantic delimiter with
  | error e => exact .inl ⟨e, fun _ _ => rfl⟩
  | ok inherited =>
    rcases takeIteration_cases scope head.iteration with ⟨e, he⟩ | ⟨inner, hiteration⟩
    · exact .inl ⟨e, fun _ p => by simp only [he]; rfl⟩
    · rcases takeCondition_cases inner head.condition with ⟨e, he⟩ | hcondition
      · refine .inl ⟨e, fun children p => ?_⟩
        obtain ⟨tree, ht⟩ := hiteration p
        simp only [ht]
        exact congrArg (· >>= walkAll delimiter inner inherited children) (he _)
      · refine .inr ⟨inherited, fun children p => ?_⟩
        obtain ⟨tree, ht⟩ := hiteration p
        obtain ⟨after, ha⟩ := hcondition ⟨tree, p.inline⟩
        obtain ⟨rfl, htree⟩ := tree_of_takeIteration ht
        have hafter : after = collect (Occurrence.ofHead scope head) p.tree := by
          rw [Occurrence.ofHead, collect_append, ← htree]
          exact tree_of_takeCondition ha
        simp only [ht, ← hafter]
        exact congrArg (· >>= walkAll delimiter (scope.inside head) inherited children) ha

mutual

theorem isUniform_walk (delimiter : Text) (scope : StaticScope) (semantic : Option Semantics) :
    ∀ n : Node, IsUniform (walk delimiter scope semantic n)
  | .text segments => isUniform_takeSegments scope semantic segments
  | .element head children => by
    by_cases hmeta : head.tag = "meta"
    · have hskip : walk delimiter scope semantic (.element head children) = .ok := by
        funext p
        rw [walk, if_pos hmeta]
      rw [hskip]
      exact isUniform_ok
    · rcases walk_element_cases delimiter scope semantic hmeta with ⟨e, he⟩ | ⟨inherited, hwalk⟩
      · exact .inl ⟨e, he children⟩
      · rcases isUniform_walkAll delimiter (scope.inside head) inherited children with
          ⟨e, he⟩ | ⟨notes, hnotes⟩
        · exact .inl ⟨e, fun p => (hwalk children p).trans (he _)⟩
        · refine .inr ⟨notes, fun p => ?_⟩
          rw [hwalk]
          exact hnotes _

theorem isUniform_walkAll (delimiter : Text) (scope : StaticScope) (semantic : Option Semantics) :
    ∀ all : List Node, IsUniform (walkAll delimiter scope semantic all)
  | [] => isUniform_ok
  | n :: rest => (isUniform_walk delimiter scope semantic n).bind
      (isUniform_walkAll delimiter scope semantic rest)

end

theorem isProper_of_mem_filterMap {occurrences : List Occurrence} {r : Registration}
    (hr : r ∈ occurrences.filterMap Occurrence.registration?) : r.IsProper := by
  obtain ⟨o, -, ho⟩ := List.mem_filterMap.1 hr
  exact Occurrence.isProper_of_registration? ho

theorem regular_collect (occurrences : List Occurrence) {tree : SchemaNode}
    (h : tree.Regular (· = .empty) Leaf.IsProper) :
    (collect occurrences tree).Regular (· = .empty) Leaf.IsProper :=
  Registration.regular_foldl (Q := (· = .empty)) rfl
    (fun _ hr => (isProper_of_mem_filterMap hr).leaf) h

/-- What some occurrences ask for says the same when they ask for it twice. -/
theorem saysSame_collect_twice (occurrences : List Occurrence) {tree : SchemaNode}
    (h : tree.Regular (· = .empty) Leaf.IsProper) :
    (collect occurrences (collect occurrences tree)).SaysSame (collect occurrences tree) :=
  SchemaNode.saysSame_of_forms (regular_collect _ (regular_collect _ h)) (regular_collect _ h)
    (Registration.forms_foldl_twice (fun _ hr => isProper_of_mem_filterMap hr) h.proper)

end Compile

namespace Node

/-- A template with the content of its root twice in a row. -/
def repeatContent : Node → Node
  | .element head children => .element head (children ++ children)
  | .text segments => .text segments

theorem heads_element_twice (head : Head) (children : List Node) :
    heads (.element head (children ++ children)) =
      [head] ++ (headsOfList children ++ headsOfList children) := by
  rw [heads, headsOfList_append]
  rfl

end Node

namespace Compile

/-- A walk through repeated content fails as a walk through the content, or says the same with
each annotation twice. -/
theorem walk_element_twice (delimiter : Text) (head : Head) (children : List Node) :
    (∃ e, walk delimiter .empty none (.element head (children ++ children)) ⟨.emptyObject, []⟩ =
        .error e ∧
      walk delimiter .empty none (.element head children) ⟨.emptyObject, []⟩ = .error e) ∨
    ∃ t u notes,
      walk delimiter .empty none (.element head (children ++ children)) ⟨.emptyObject, []⟩ =
        .ok ⟨t, notes ++ notes⟩ ∧
      walk delimiter .empty none (.element head children) ⟨.emptyObject, []⟩ = .ok ⟨u, notes⟩ ∧
      t.SaysSame u := by
  by_cases hmeta : head.tag = "meta"
  · refine .inr ⟨.emptyObject, .emptyObject, [], ?_, ?_, fun _ => rfl⟩
    · rw [walk, if_pos hmeta]
      rfl
    · rw [walk, if_pos hmeta]
  · rcases walk_element_cases delimiter .empty none hmeta with ⟨e, he⟩ | ⟨inherited, hwalk⟩
    · exact .inl ⟨e, he _ _, he _ _⟩
    · let start : SchemaNode := collect (Occurrence.ofHead .empty head) .emptyObject
      have hstart : start.Regular (· = .empty) Leaf.IsProper :=
        regular_collect _ (SchemaNode.regular_emptyObject rfl)
      rw [hwalk, hwalk, walkAll_append]
      rcases isUniform_walkAll delimiter (StaticScope.inside .empty head) inherited children with
        ⟨e, he⟩ | ⟨notes, hnotes⟩
      · refine .inl ⟨e, ?_, he _⟩
        rw [he]
        rfl
      · obtain ⟨u, hu⟩ := hnotes ⟨start, []⟩
        obtain ⟨t, ht⟩ := hnotes ⟨u, notes⟩
        have hfirst : u = collect _ start := tree_of_walkAll hu
        have hsecond : t = collect _ u := tree_of_walkAll ht
        refine .inr ⟨t, u, notes, ?_, hu, ?_⟩
        · exact (congrArg (· >>= _) hu).trans ht
        · rw [hsecond, hfirst]
          exact saysSame_collect_twice _ hstart

theorem tree_element_twice (settings : Settings) (head : Head) (children : List Node) :
    (∃ e, tree settings (.element head (children ++ children)) = .error e ∧
      tree settings (.element head children) = .error e) ∨
    ∃ t u, tree settings (.element head (children ++ children)) = .ok t ∧
      tree settings (.element head children) = .ok u ∧ t.SaysSame u := by
  have hheads : Semantics.ofHeads (Node.heads (.element head (children ++ children)))
      settings.examplesDelimiter =
        Semantics.ofHeads (Node.heads (.element head children)) settings.examplesDelimiter := by
    rw [Node.heads_element_twice, Semantics.ofHeads_twice]
    rfl
  unfold tree
  rw [hheads]
  rcases walk_element_twice settings.examplesDelimiter head children with
    ⟨e, htwice, honce⟩ | ⟨t, u, notes, htwice, honce, hsame⟩
  · rw [htwice, honce]
    exact .inl ⟨e, rfl, rfl⟩
  · rw [htwice, honce]
    cases Semantics.ofHeads (Node.heads (.element head children)) settings.examplesDelimiter with
    | error e => exact .inl ⟨e, rfl, rfl⟩
    | ok byPath =>
      exact .inr ⟨_, _, rfl, rfl, saysSame_layAll (saysSame_layAll_twice hsame notes) false byPath⟩

end Compile

/-- A template is compiled to the same schema, or fails with the same fault, when the content of
its root stands twice in a row, with settings that are given or with those that it declares. -/
theorem repeated_content_has_the_same_schema (given : Option Settings) (root : Node) :
    Compile.schema given root.repeatContent = Compile.schema given root := by
  cases root with
  | text segments => rfl
  | element head children =>
    have hsettings : Settings.inForce given (.element head (children ++ children)) =
        Settings.inForce given (.element head children) := by
      cases given with
      | some settings => rfl
      | none =>
        rw [Settings.inForce, Settings.ofTemplate, Node.heads_element_twice,
          Settings.ofHeads_twice]
        rfl
    rw [Node.repeatContent, Compile.schema_eq_bind, Compile.schema_eq_bind, hsettings]
    cases Settings.inForce given (.element head children) with
    | error e => rfl
    | ok settings =>
      show (Compile.tree settings _).map JsonSchema.ofRoot = (Compile.tree settings _).map _
      rcases Compile.tree_element_twice settings head children with
        ⟨e, htwice, honce⟩ | ⟨t, u, htwice, honce, hsame⟩
      · rw [htwice, honce]
      · have hroot : JsonSchema.ofRoot t = JsonSchema.ofRoot u :=
          (Compile.tree_eq_ok htwice).1.regular.ofRoot_eq
            (Compile.tree_eq_ok honce).1.regular hsame
        rw [htwice, honce]
        exact congrArg Except.ok hroot

end TypedTemplate
