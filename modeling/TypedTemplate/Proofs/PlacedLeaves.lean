import TypedTemplate.Proofs.RegistrationOrder

/-!
# Placed leaves

A leaf that is placed at a path is what the path leads to from then on, merged into the leaf that
stood there before. Where no node on the way gives way to one of another kind, nothing else is
touched: paths that branch off lead to what they led to, and the nodes on the way keep their
annotations and their other children.
-/
namespace TypedTemplate

namespace SchemaNode

/-- Whether every node on the way to a position is of the kind that the next step needs. What is
missing on the way does not matter, and neither does what stands at the end. -/
def HasWayTo (tree : SchemaNode) (position : SchemaPosition) : Prop :=
  ∀ before step rest, position = before ++ step :: rest →
    ∀ node, tree.at? before = some node → node.kind = step.holder

theorem hasWayTo_iff {tree : SchemaNode} {position : SchemaPosition} :
    tree.HasWayTo position ↔ ∀ d ∈ position.demands .leaf, d.1 ≠ position →
      ∀ node ∈ tree.at? d.1, node.kind = d.2 := by
  constructor
  · intro h d hd hne node hn
    rcases SchemaPosition.eq_or_exists_of_mem_demands hd with rfl | ⟨step, rest, hp, hk⟩
    · exact absurd rfl hne
    · exact hk ▸ h d.1 step rest hp node hn
  · rintro h before step rest rfl node hn
    have hd := SchemaPosition.mem_demands_of_append before step rest .leaf
    exact h _ hd (by simp) node hn

instance (tree : SchemaNode) (position : SchemaPosition) : Decidable (tree.HasWayTo position) :=
  decidable_of_iff _ hasWayTo_iff.symm

/-- A node on the way to a change is refilled, and so keeps what it says of itself and all
children but one. -/
theorem exists_at?_alter_on_way (f : Option SchemaNode → SchemaNode) {before : SchemaPosition}
    {step : SchemaStep} {rest : SchemaPosition} {slot : Option SchemaNode} {node : SchemaNode}
    (hn : slot.bind (at? before) = some node) (hk : node.kind = step.holder) :
    ∃ after, at? before (alter f (before ++ step :: rest) slot) = some after ∧
      after.annotation = node.annotation ∧
      ∀ other, other ≠ step → after.child? other = node.child? other := by
  refine ⟨refill step (some node) (alter f rest (slot? step (some node))), ?_, ?_, ?_⟩
  · rw [alter_append]
    exact at?_alter_self hn
  · cases step <;> cases node <;> first | rfl | cases hk
  · intro other hne
    rw [child?_refill_ne hne]
    split
    · rfl
    · rename_i hholder
      exact (child?_eq_none (by rwa [hk])).symm

end SchemaNode

namespace Registration

theorem at?_addTo_leaf (path : Text) (new : Leaf) (tree : SchemaNode) :
    (∀ a old, tree.at? (.ofPath path) = some (.leaf a old) →
      ((Registration.leaf path new).addTo tree).at? (.ofPath path) =
        some (.leaf a (old.merge new))) ∧
    ((∀ a old, tree.at? (.ofPath path) ≠ some (.leaf a old)) →
      ((Registration.leaf path new).addTo tree).at? (.ofPath path) = some (.leaf .empty new)) := by
  obtain ⟨found, hfound, hslot⟩ :=
    SchemaNode.exists_at?_alter_end (SchemaNode.putLeaf new) (.ofPath path) (some tree)
  have hplaced : ((Registration.leaf path new).addTo tree).at? (.ofPath path) =
      some (SchemaNode.putLeaf new found) := hfound
  rw [Option.bind_some] at hslot
  constructor
  · intro a old hold
    rw [hold] at hslot
    rcases hslot with rfl | ⟨hnone, -⟩
    · exact hplaced
    · cases hnone
  · intro hno
    rw [hplaced]
    rcases hslot with rfl | ⟨-, rfl⟩
    · cases hat : tree.at? (.ofPath path) with
      | none => rfl
      | some node =>
        cases node with
        | leaf a old => exact absurd hat (hno a old)
        | array a items => rfl
        | object a properties => rfl
    · rfl

theorem at?_addTo_leaf_of_branch {path : Text} {new : Leaf} {tree : SchemaNode}
    (hw : tree.HasWayTo (.ofPath path)) {other : SchemaPosition}
    (hbelow : ¬ SchemaPosition.ofPath path <+: other)
    (habove : ¬ other <+: SchemaPosition.ofPath path) :
    ((Registration.leaf path new).addTo tree).at? other = tree.at? other := by
  let r := Registration.leaf path new
  cases hat : tree.at? other with
  | none =>
    have hsome := isSome_at?_addTo r tree other
    rw [hat] at hsome
    have hnot : ¬ (other <+: r.extent ∨ ((none : Option SchemaNode).isSome ∧
        ¬ r.Excludes other)) := by
      rintro (h | ⟨h, -⟩)
      · exact habove h
      · cases h
    exact Option.not_isSome_iff_eq_none.1 (mt hsome.1 hnot)
  | some node =>
    refine SchemaNode.at?_alter_of_not_excludes
      (fun top step child hs hc => r.child?_put top step child hs hc) hat habove ?_
    rintro ⟨d, hd, step, rest, rfl, hne⟩
    rcases SchemaPosition.eq_or_exists_of_mem_demands hd with rfl | ⟨next, more, hp, hk⟩
    · exact hbelow ⟨step :: rest, rfl⟩
    · rw [SchemaNode.at?_append] at hat
      obtain ⟨top, htop, hat⟩ := Option.bind_eq_some_iff.1 hat
      obtain ⟨child, hc, -⟩ := Option.bind_eq_some_iff.1 hat
      have hholds : step.holder = top.kind := by
        apply Decidable.byContradiction
        intro h
        rw [SchemaNode.child?_eq_none h] at hc
        cases hc
      exact hne (hholds.trans ((hw d.1 next more hp top htop).trans hk))

end Registration

/-- A leaf is placed where every node on the way holds the next step. Its path then leads to it,
merged into the leaf that stood there if there was one. Every path that branches off leads to what
it led to before, and every node that lay on the way keeps its annotation and its other
children. -/
theorem placed_leaf_is_found_and_all_else_stays {tree : SchemaNode} {path : Text}
    (hp : Path.IsSinglyMarked path) (hw : tree.HasWayTo (.ofPath path)) (new : Leaf) :
    ∃ placed, tree.placeLeaf path new = .ok placed ∧
      (∀ a old, tree.find path = some (.leaf a old) →
        placed.find path = some (.leaf a (old.merge new))) ∧
      ((∀ a old, tree.find path ≠ some (.leaf a old)) →
        placed.find path = some (.leaf .empty new)) ∧
      (∀ other, ¬ SchemaPosition.ofPath path <+: SchemaPosition.ofPath other →
        ¬ SchemaPosition.ofPath other <+: SchemaPosition.ofPath path →
          placed.find other = tree.find other) ∧
      ∀ before step rest, SchemaPosition.ofPath path = before ++ step :: rest →
        ∀ node, tree.at? before = some node →
          ∃ after, placed.at? before = some after ∧ after.annotation = node.annotation ∧
            ∀ other, other ≠ step → after.child? other = node.child? other := by
  have hplaced : tree.placeLeaf path new = .ok ((Registration.leaf path new).addTo tree) :=
    Registration.call_eq_ok (r := .leaf path new) hp.isResolved tree
  simp only [SchemaNode.find_eq_at?]
  obtain ⟨hmerged, hfresh⟩ := Registration.at?_addTo_leaf path new tree
  refine ⟨_, hplaced, hmerged, hfresh, ?_, ?_⟩
  · intro other hbelow habove
    exact Registration.at?_addTo_leaf_of_branch hw hbelow habove
  · intro before step rest hposition node hn
    have hslot : (some tree).bind (SchemaNode.at? before) = some node := hn
    rw [Registration.addTo, Registration.position, Registration.path, hposition]
    exact SchemaNode.exists_at?_alter_on_way _ hslot (hw before step rest hposition node hn)

def annotatedRows : SchemaNode :=
  .object .empty [("rows", .array ⟨some "One for each sale", none, none⟩ (.object .empty
    [("name", .leaf .empty ⟨.string, false, [], false⟩),
      ("price", .leaf .empty ⟨.number, true, [("minimum", .ofInt 0)], false⟩)]))]

/-- A bound for the price is merged into it. The rows keep their annotation and the name. -/
theorem placed_price_is_found_and_rows_stay :
    (Registration.callAll [.leaf "rows[].name" ⟨.string, false, [], false⟩,
      .leaf "rows[].price" ⟨.number, true, [("minimum", .ofInt 0)], false⟩]).map
        (·.annotateAt "rows" true ⟨some "One for each sale", none, none⟩) = .ok annotatedRows ∧
    annotatedRows.HasWayTo (.ofPath "rows[].price") ∧
    ∃ placed rows,
      annotatedRows.placeLeaf "rows[].price" ⟨.integer, true, [("maximum", .ofInt 9)], false⟩ =
        .ok placed ∧
      placed.find "rows[].price" = some (.leaf .empty
        ⟨.integer, true, [("minimum", .ofInt 0), ("maximum", .ofInt 9)], false⟩) ∧
      placed.find "rows[].name" = some (.leaf .empty ⟨.string, false, [], false⟩) ∧
      placed.at? [.property "rows"] = some rows ∧
      rows.annotation = ⟨some "One for each sale", none, none⟩ := by
  have hway : annotatedRows.HasWayTo (.ofPath "rows[].price") := by decide
  obtain ⟨placed, hplaced, hmerged, -, hbeside, hon⟩ := placed_leaf_is_found_and_all_else_stays
    (by decide) hway ⟨.integer, true, [("maximum", .ofInt 9)], false⟩
  obtain ⟨rows, hrows, hannotation, -⟩ :=
    hon [.property "rows"] .items [.property "price"] (by decide) _ rfl
  refine ⟨rfl, hway, placed, rows, hplaced, hmerged .empty _ rfl, ?_, hrows, hannotation⟩
  exact hbeside "rows[].name" (by decide) (by decide)

end TypedTemplate
