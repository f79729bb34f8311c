import TypedTemplate.Proofs.LaterStatements
import TypedTemplate.Proofs.PlacedLeaves
import TypedTemplate.Proofs.RepeatedRegistrations

/-!
# Merged leaves

Leaves that are placed at one path are merged in their order. A condition gives way to the
interpolations wherever it stands, so what the leaves come to is what the interpolations among them
state: the type of the last, null if all admit it, and each keyword as it was given last. Without an
interpolation it is the leaf of a condition.
-/
namespace TypedTemplate

namespace Leaf

def declared (all : List Leaf) : List Leaf := all.filter fun l => l.conditional == false

/-- Whether the leaves of conditions are as templates make them, and no leaf has a keyword twice. -/
def AreMade (all : List Leaf) : Prop :=
  ∀ l ∈ all, (l.conditional = true → l = condition) ∧ (Keyed.keys l.keywords).Nodup

instance (all : List Leaf) : Decidable (AreMade all) :=
  inferInstanceAs (Decidable
    (∀ l ∈ all, (l.conditional = true → l = condition) ∧ (Keyed.keys l.keywords).Nodup))

/-- After a condition a leaf is as it is alone. -/
theorem condition_merge {l : Leaf} (hc : l.conditional = true → l = condition)
    (hk : (Keyed.keys l.keywords).Nodup) : condition.merge l = l := by
  cases h : l.conditional with
  | true =>
    rw [hc h]
    rfl
  | false =>
    obtain ⟨type, nullable, keywords, conditional⟩ := l
    obtain rfl : conditional = false := h
    have hkeywords : Keyed.setAll [] keywords = keywords := Keyed.setAll_of_nodup hk
    simp [merge, condition, hkeywords]

/-- After a condition, leaves come to that of a condition, or to what the first interpolation and
those after it state. -/
theorem condition_mergeAll_cases {all : List Leaf} (h : AreMade all) :
    (declared all = [] ∧ condition.mergeAll all = condition) ∨
      ∃ start more, declared all = start :: more ∧ start.conditional = false ∧
        condition.mergeAll all = start.takeAll more := by
  induction all with
  | nil => exact .inl ⟨rfl, rfl⟩
  | cons l rest ih =>
    obtain ⟨⟨hmade, hk⟩, hrest⟩ := List.forall_mem_cons.1 h
    have hfirst : condition.mergeAll (l :: rest) = l.mergeAll rest :=
      congrArg (mergeAll · rest) (condition_merge hmade hk)
    cases hc : l.conditional with
    | true =>
      have hdeclared : declared (l :: rest) = declared rest := by simp [declared, hc]
      rw [hdeclared, hfirst, hmade hc]
      exact ih hrest
    | false =>
      have hdeclared : declared (l :: rest) = l :: declared rest := by simp [declared, hc]
      refine .inr ⟨l, declared rest, hdeclared, hc, ?_⟩
      rw [hfirst, mergeAll_eq_takeAll fun ht => absurd (hc.symm.trans ht) Bool.false_ne_true, hc]
      rfl

/-- Of leaves that are taken one after another the last that gives a keyword counts. -/
theorem get?_keywords_takeAll (start : Leaf) {more : List Leaf}
    (hk : ∀ l ∈ more, (Keyed.keys l.keywords).Nodup) (key : Text) :
    Keyed.get? key (start.takeAll more).keywords =
      ((start :: more).filterMap fun l => Keyed.get? key l.keywords).getLast? := by
  have hfold : (start.takeAll more).keywords =
      more.foldl (fun keywords l => Keyed.setAll keywords l.keywords) start.keywords := by
    rw [takeAll, Keyed.setAll, List.foldl_flatMap]
    rfl
  have hset : ∀ l ∈ more, ∀ keywords : Keyed Value,
      Keyed.get? key (Keyed.setAll keywords l.keywords) =
        (Keyed.get? key l.keywords).or (Keyed.get? key keywords) :=
    fun l hl keywords => Keyed.get?_setAll (hk l hl) keywords key
  have hlast := stated_foldl (fun keywords : Keyed Value => Keyed.get? key keywords)
    (fun l : Leaf => Keyed.get? key l.keywords) hset start.keywords
  rw [hfold, hlast, getLast?_filterMap_cons]

/-- What leaves state that interpolations bring: the type of the last one, null if all of them
admit it, and each keyword as the last one gives it that gives it. -/
structure States (all : List Leaf) (last merged : Leaf) : Prop where
  conditional : merged.conditional = false
  type_eq : merged.type = last.type
  nullable : merged.nullable = true ↔ ∀ l ∈ all, l.nullable = true
  keywords : ∀ key, Keyed.get? key merged.keywords =
    (all.filterMap fun l => Keyed.get? key l.keywords).getLast?

theorem states_takeAll {start last : Leaf} {more : List Leaf} (hc : start.conditional = false)
    (hk : ∀ l ∈ more, (Keyed.keys l.keywords).Nodup)
    (hlast : (start :: more).getLast? = some last) :
    States (start :: more) last (start.takeAll more) where
  conditional := hc
  type_eq := by
    rw [List.getLast?_cons] at hlast
    rw [takeAll, Option.getD_map, Option.some.inj hlast]
  nullable := by simp [takeAll]
  keywords := get?_keywords_takeAll start hk

end Leaf

namespace SchemaNode

theorem exists_placed_of_leaf {path : Text} (hp : Path.IsResolved path) (all : List Leaf)
    {tree : SchemaNode} {a : Semantics} {old : Leaf}
    (h : tree.at? (.ofPath path) = some (.leaf a old)) :
    ∃ placed, all.foldlM (fun t l => t.placeLeaf path l) tree = .ok placed ∧
      placed.at? (.ofPath path) = some (.leaf a (old.mergeAll all)) := by
  induction all generalizing tree old with
  | nil => exact ⟨tree, rfl, h⟩
  | cons l rest ih =>
    have hnext := (Registration.at?_addTo_leaf path l tree).1 a old h
    obtain ⟨placed, hplaced, hat⟩ := ih hnext
    refine ⟨placed, ?_, hat⟩
    rw [List.foldlM_cons]
    exact Fault.bind_eq_ok_iff.2 ⟨_, Registration.call_eq_ok (r := .leaf path l) hp tree, hplaced⟩

theorem exists_placed {path : Text} (hp : Path.IsResolved path) {tree : SchemaNode}
    (h : ∀ a l, tree.at? (.ofPath path) ≠ some (.leaf a l)) (first : Leaf) (rest : List Leaf) :
    ∃ placed, (first :: rest).foldlM (fun t l => t.placeLeaf path l) tree = .ok placed ∧
      placed.at? (.ofPath path) = some (.leaf .empty (first.mergeAll rest)) := by
  have hfirst := (Registration.at?_addTo_leaf path first tree).2 h
  obtain ⟨placed, hplaced, hat⟩ := exists_placed_of_leaf hp rest hfirst
  refine ⟨placed, ?_, hat⟩
  rw [List.foldlM_cons]
  exact Fault.bind_eq_ok_iff.2 ⟨_, Registration.call_eq_ok (r := .leaf path first) hp tree, hplaced⟩

end SchemaNode

/-- Leaves that are placed one after another at a path where no leaf stands come to one leaf: the
first with the others merged into it. If interpolations bring some of them, it is what these state,
and so what they come to alone. Otherwise it is the leaf of a condition. -/
theorem merged_leaf_is_what_interpolations_state {path : Text} (hp : Path.IsSinglyMarked path)
    {tree : SchemaNode} (hn : ∀ a l, tree.find path ≠ some (.leaf a l)) {first : Leaf}
    {rest : List Leaf} (hm : Leaf.AreMade (first :: rest)) :
    ∃ placed merged,
      (first :: rest).foldlM (fun t l => t.placeLeaf path l) tree = .ok placed ∧
      placed.find path = some (.leaf .empty merged) ∧
      merged = rest.foldl Leaf.merge first ∧
      (Leaf.declared (first :: rest) = [] → merged = Leaf.condition) ∧
      (∀ last, (Leaf.declared (first :: rest)).getLast? = some last →
        Leaf.States (Leaf.declared (first :: rest)) last merged) ∧
      ∀ start more, Leaf.declared (first :: rest) = start :: more →
        merged = more.foldl Leaf.merge start := by
  simp only [SchemaNode.find_eq_at?] at hn ⊢
  obtain ⟨placed, hplaced, hat⟩ := SchemaNode.exists_placed hp.isResolved hn first rest
  refine ⟨placed, _, hplaced, hat, rfl, ?_⟩
  have hfirst : Leaf.condition.mergeAll (first :: rest) = first.mergeAll rest :=
    congrArg (Leaf.mergeAll · rest)
      (Leaf.condition_merge (hm first List.mem_cons_self).1 (hm first List.mem_cons_self).2)
  rw [← hfirst]
  rcases Leaf.condition_mergeAll_cases hm with ⟨hnone, hmerged⟩ | ⟨start, more, hsome, hc, hmerged⟩
  · rw [hnone]
    exact ⟨fun _ => hmerged, nofun, nofun⟩
  · have hmore : ∀ l ∈ more, l ∈ first :: rest ∧ l.conditional = false := by
      intro l hl
      have hdeclared : l ∈ Leaf.declared (first :: rest) := hsome ▸ List.mem_cons_of_mem start hl
      simpa [Leaf.declared] using hdeclared
    have hkeys : ∀ l ∈ more, (Keyed.keys l.keywords).Nodup := fun l hl => (hm l (hmore l hl).1).2
    have halone : start.mergeAll more = start.takeAll more := by
      rw [Leaf.mergeAll_eq_takeAll fun ht => absurd (hc.symm.trans ht) Bool.false_ne_true,
        List.filter_eq_self.2 fun l hl => by simp [(hmore l hl).2, hc]]
    rw [hsome, hmerged]
    refine ⟨nofun, fun last hlast => Leaf.states_takeAll hc hkeys hlast, ?_⟩
    rintro _ _ ⟨⟩
    exact halone.symm

/-- Two interpolations between conditions. Both state a minimum, and the first alone a maximum. -/
def statedAmounts : List Leaf :=
  [⟨.integer, true, [("minimum", .ofInt 0), ("maximum", .ofInt 9)], false⟩, .condition,
    ⟨.number, true, [("minimum", .ofInt 1)], false⟩, .condition]

/-- After a condition they come to a number with the second minimum and the maximum. -/
theorem merged_amount_has_later_minimum :
    ∃ placed merged,
      (Leaf.condition :: statedAmounts).foldlM (fun t l => t.placeLeaf "amount" l)
        SchemaNode.emptyObject = .ok placed ∧
      placed.find "amount" = some (.leaf .empty merged) ∧
      merged = ⟨.number, true, [("minimum", .ofInt 1), ("maximum", .ofInt 9)], false⟩ := by
  have hpath : Path.IsSinglyMarked "amount" := by decide
  have hnone : ∀ a l, SchemaNode.emptyObject.find "amount" ≠ some (.leaf a l) := nofun
  have hmade : Leaf.AreMade (Leaf.condition :: statedAmounts) := by decide
  obtain ⟨placed, merged, hplaced, hfound, -, -, -, hstarted⟩ :=
    merged_leaf_is_what_interpolations_state hpath hnone hmade
  exact ⟨placed, merged, hplaced, hfound, hstarted _ _ rfl⟩

end TypedTemplate
