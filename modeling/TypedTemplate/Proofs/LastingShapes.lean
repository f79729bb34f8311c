import TypedTemplate.Proofs.CompiledTrees

/-!
# Lasting shapes

Where no two registrations need nodes of different kinds at one position, none of them takes the
place of another. An array stays an array, and a leaf stays one that an interpolation declared:
of the declared type, and without null unless every interpolation there admits it.
-/
namespace TypedTemplate

/-- A leaf of a type without conditions, that admits null only if another one does. -/
structure Leaf.Keeps (declared l : Leaf) : Prop where
  type_eq : l.type = declared.type
  nullable : l.nullable = true → declared.nullable = true
  conditional : l.conditional = false

theorem Leaf.keeps_merge_new (old : Leaf) {new : Leaf} (h : new.conditional = false) :
    new.Keeps (old.merge new) := by
  unfold merge
  rw [if_neg (by simp [h])]
  refine ⟨rfl, ?_, h⟩
  cases old.conditional <;> simp [h]

theorem Leaf.Keeps.merge {declared old : Leaf} (h : declared.Keeps old) {new : Leaf}
    (ht : new.conditional = false → new.type = declared.type) : declared.Keeps (old.merge new) := by
  unfold Leaf.merge
  cases hn : new.conditional with
  | true => simpa [h.conditional] using h
  | false =>
    have hold : old.nullable = true → declared.nullable = true := h.nullable
    simp only [Bool.false_and, Bool.false_eq_true, if_false, h.conditional]
    refine ⟨ht hn, ?_, rfl⟩
    intro hnull
    exact hold (Bool.and_eq_true_iff.1 hnull).1

namespace Registration

/-- Whether two registrations need the same kinds of nodes wherever both need one. -/
def Agrees (r other : Registration) : Prop :=
  ∀ d ∈ r.demands, ∀ e ∈ other.demands, d.1 = e.1 → d.2 = e.2

instance (r other : Registration) : Decidable (r.Agrees other) :=
  inferInstanceAs (Decidable (∀ d ∈ r.demands, ∀ e ∈ other.demands, d.1 = e.1 → d.2 = e.2))

/-- What an interpolation declares of a path. Conditions declare nothing. -/
def declared? : Registration → Option (Text × DataType)
  | .leaf path l => if l.conditional then none else some (path, l.type)
  | .array _ => none

theorem path_of_declared? {r : Registration} {d : Text × DataType} (h : d ∈ r.declared?) :
    d.1 = r.path := by
  cases r with
  | array path => cases h
  | leaf path l =>
    rw [declared?] at h
    split at h
    · cases h
    · rw [← Option.some.inj h]
      rfl

theorem demands_self (r : Registration) : (r.position, r.kind) ∈ r.demands :=
  SchemaPosition.mem_demands_self r.position r.kind

/-- A registration excludes nothing that one needs with which it agrees. -/
theorem Agrees.not_excludes {r other : Registration} (h : r.Agrees other) :
    ¬ r.Excludes other.position := by
  rintro ⟨d, hd, step, rest, hp, hne⟩
  refine hne (h d hd (d.1, step.holder) ?_ rfl).symm
  rw [demands, hp]
  exact SchemaPosition.mem_demands_of_append d.1 step rest other.kind

/-- What one registration made keeps its kind when another that agrees follows, and changes only
if both are of one position. -/
theorem Agrees.exists_at?_addTo {r other : Registration} (h : r.Agrees other)
    {tree node : SchemaNode} (hn : tree.at? other.position = some node)
    (hk : node.kind = other.kind) :
    ∃ after, (r.addTo tree).at? other.position = some after ∧ after.kind = other.kind ∧
      (other.kind = .leaf → after = node ∨
        (r.position = other.position ∧ after = r.put (some node))) := by
  -- The position is that of the registration, or on the way to it, or beside the way.
  by_cases hp : other.position <+: r.position
  · obtain ⟨rest, hrest⟩ := hp
    cases rest with
    | nil =>
      rw [List.append_nil] at hrest
      refine ⟨r.put (some node), ?_, ?_, fun _ => .inr ⟨hrest.symm, rfl⟩⟩
      · rw [addTo, ← hrest]
        exact SchemaNode.at?_alter_self hn
      · rw [kind_put]
        exact h _ r.demands_self _ other.demands_self hrest.symm
    | cons step rest =>
      have hd : (other.position, step.holder) ∈ r.demands := by
        rw [demands, ← hrest]
        exact SchemaPosition.mem_demands_of_append other.position step rest r.kind
      have hholder : step.holder = other.kind := h _ hd _ other.demands_self rfl
      obtain ⟨after, ha, hkind⟩ := SchemaNode.exists_at?_alter r.kind_put hd (some tree)
      refine ⟨after, ha, hkind.trans hholder, fun hleaf => ?_⟩
      rw [hleaf] at hholder
      cases step <;> cases hholder
  · refine ⟨node, ?_, hk, fun _ => .inl rfl⟩
    exact SchemaNode.at?_alter_of_not_excludes
      (fun top step child hs hc => r.child?_put top step child hs hc) hn hp h.not_excludes

/-- The kind of what a registration made stays through later ones that agree with it. -/
theorem exists_at?_foldl {other : Registration} {all : List Registration}
    (h : ∀ r ∈ all, r.Agrees other) {tree node : SchemaNode}
    (hn : tree.at? other.position = some node) (hk : node.kind = other.kind) :
    ∃ after, (all.foldl (fun t r => r.addTo t) tree).at? other.position = some after ∧
      after.kind = other.kind := by
  induction all generalizing tree node with
  | nil => exact ⟨node, hn, hk⟩
  | cons r rest ih =>
    obtain ⟨hr, hrest⟩ := List.forall_mem_cons.1 h
    obtain ⟨next, hnext, hkind, -⟩ := hr.exists_at?_addTo hn hk
    exact ih hrest hnext hkind

/-- A leaf keeps what was declared of it through later registrations that agree with it and
declare the same type of its path. -/
theorem exists_leaf_foldl {path : Text} {l : Leaf} {all : List Registration}
    (h : ∀ r ∈ all, r.Agrees (.leaf path l))
    (ht : ∀ r ∈ all, r.position = .ofPath path → ∀ d ∈ r.declared?, d.2 = l.type)
    {tree : SchemaNode} {a : Semantics} {old : Leaf}
    (hn : tree.at? (.ofPath path) = some (.leaf a old)) (hold : l.Keeps old) :
    ∃ b last, (all.foldl (fun t r => r.addTo t) tree).at? (.ofPath path) = some (.leaf b last) ∧
      l.Keeps last := by
  induction all generalizing tree a old with
  | nil => exact ⟨a, old, hn, hold⟩
  | cons r rest ih =>
    obtain ⟨hr, hrest⟩ := List.forall_mem_cons.1 h
    obtain ⟨htr, htrest⟩ := List.forall_mem_cons.1 ht
    obtain ⟨next, hnext, -, hchange⟩ := hr.exists_at?_addTo hn rfl
    rcases hchange rfl with rfl | ⟨hp, rfl⟩
    · exact ih hrest htrest hnext hold
    · have hkind : r.kind = .leaf := hr _ r.demands_self _ (demands_self (.leaf path l)) hp
      cases r with
      | array other => cases hkind
      | leaf other new =>
        refine ih hrest htrest hnext (hold.merge fun hnew => ?_)
        refine htr hp (other, new.type) ?_
        rw [declared?, hnew]
        rfl

end Registration

namespace Path

theorem eq_of_splitMarker (part : Text) :
    part = (splitMarker part).1 ++ if (splitMarker part).2 then arrayMarker else [] := by
  by_cases h : arrayMarker.isSuffixOf part = true
  · obtain ⟨before, rfl⟩ := List.isSuffixOf_iff_suffix.1 h
    rw [splitMarker_append_marker]
    rfl
  · rw [splitMarker, if_neg h]
    exact (List.append_nil part).symm

theorem splitMarker_injective : Function.Injective splitMarker := by
  intro part other h
  rw [eq_of_splitMarker part, eq_of_splitMarker other, h]

end Path

namespace SchemaPosition

theorem ofSteps_cons (step : SchemaNode.Step) (rest : List SchemaNode.Step) :
    ofSteps (step :: rest) = ofStep step ++ ofSteps rest := rfl

theorem ofSteps_append (before after : List SchemaNode.Step) :
    ofSteps (before ++ after) = ofSteps before ++ ofSteps after := List.flatMap_append

theorem ofSteps_ne_items (all : List SchemaNode.Step) (rest : SchemaPosition) :
    ofSteps all ≠ .items :: rest := by
  cases all with
  | nil => exact nofun
  | cons step all =>
    intro h
    rw [ofSteps_cons, ofStep] at h
    cases (List.cons.inj h).1

theorem ofSteps_injective : Function.Injective ofSteps := by
  intro all
  induction all with
  | nil =>
    intro other h
    cases other with
    | nil => rfl
    | cons step other => cases h
  | cons step all ih =>
    intro other h
    cases other with
    | nil => cases h
    | cons first other =>
      obtain ⟨name, marked⟩ := step
      obtain ⟨key, isArray⟩ := first
      rw [ofSteps_cons, ofSteps_cons, ofStep, ofStep] at h
      obtain ⟨hname, h⟩ := List.cons.inj h
      cases hname
      cases marked <;> cases isArray
      · rw [ih h]
      · exact absurd h (ofSteps_ne_items all _)
      · exact absurd h.symm (ofSteps_ne_items other _)
      · rw [ih (List.cons.inj h).2]

theorem components_eq_of_ofPath_eq {path other : Text} (h : ofPath path = ofPath other) :
    Path.components path = Path.components other :=
  (List.map_inj_right fun _ _ hs => Path.splitMarker_injective hs).1 (ofSteps_injective h)

theorem eq_of_ofPath_eq {path other : Text} (hp : Path.IsResolved path)
    (ho : Path.IsResolved other) (h : ofPath path = ofPath other) : path = other := by
  have hparts := components_eq_of_ofPath_eq h
  rw [Path.components_of_isResolved hp, Path.components_of_isResolved ho] at hparts
  rw [← Text.join_splitOn '.' path, ← Text.join_splitOn '.' other, hparts]

end SchemaPosition

namespace Node

/-- No two registrations of a template need nodes of different kinds at one position. -/
def HasAgreeingShapes (root : Node) : Prop :=
  ∀ r ∈ root.registrations, ∀ other ∈ root.registrations, r.Agrees other

/-- All interpolations of one resolved path declare the same type. -/
def HasAgreeingTypes (root : Node) : Prop :=
  ∀ r ∈ root.registrations, ∀ other ∈ root.registrations,
    ∀ d ∈ r.declared?, ∀ e ∈ other.declared?, d.1 = e.1 → d.2 = e.2

instance (root : Node) : Decidable root.HasAgreeingShapes :=
  inferInstanceAs (Decidable
    (∀ r ∈ root.registrations, ∀ other ∈ root.registrations, r.Agrees other))

instance (root : Node) : Decidable root.HasAgreeingTypes :=
  inferInstanceAs (Decidable (∀ r ∈ root.registrations, ∀ other ∈ root.registrations,
    ∀ d ∈ r.declared?, ∀ e ∈ other.declared?, d.1 = e.1 → d.2 = e.2))

end Node

namespace Compile

theorem exists_put_of_mem_registrations {root : Node} {r : Registration}
    (hr : r ∈ root.registrations) :
    ∃ (tree : SchemaNode) (found : Option SchemaNode) (after : List Registration),
      (∀ later ∈ after, later ∈ root.registrations) ∧
      collect (root.occurrences .empty) .emptyObject =
        after.foldl (fun t r => r.addTo t) tree ∧
      tree.at? r.position = some (r.put found) := by
  obtain ⟨before, after, hall⟩ := List.append_of_mem hr
  let earlier := before.foldl (fun t r => r.addTo t) SchemaNode.emptyObject
  obtain ⟨found, hfound, -⟩ :=
    SchemaNode.exists_at?_alter_end r.put r.position (some earlier)
  refine ⟨r.addTo earlier, found, after, fun later hl => by rw [hall]; simp [hl], ?_, hfound⟩
  have hcollect : collect (root.occurrences .empty) .emptyObject =
      root.registrations.foldl (fun t r => r.addTo t) .emptyObject := rfl
  rw [hcollect, hall, List.foldl_append, List.foldl_cons]

theorem exists_node_of_mem_registrations {settings : Settings} {root : Node} {t : SchemaNode}
    (ht : tree settings root = .ok t) (ha : root.HasAgreeingShapes) {r : Registration}
    (hr : r ∈ root.registrations) : ∃ node, t.at? r.position = some node ∧ node.kind = r.kind := by
  obtain ⟨first, found, after, hlater, hcollect, hput⟩ := exists_put_of_mem_registrations hr
  obtain ⟨node, hnode, hkind⟩ := Registration.exists_at?_foldl
    (fun later hm => ha later (hlater later hm) _ hr) hput (Registration.kind_put _ found)
  have hform := (tree_eq_ok ht).2 r.position
  rw [hcollect, hnode] at hform
  obtain ⟨last, hlast, hsame⟩ := Option.map_eq_some_iff.1 hform
  exact ⟨last, hlast, (congrArg Prod.fst hsame).trans hkind⟩

theorem exists_array_of_mem_registrations {settings : Settings} {root : Node} {t : SchemaNode}
    (ht : tree settings root = .ok t) (ha : root.HasAgreeingShapes) {path : Text}
    (hr : .array path ∈ root.registrations) :
    ∃ a items, t.at? (.ofPath path) = some (.array a items) := by
  obtain ⟨node, hnode, hkind⟩ := exists_node_of_mem_registrations ht ha hr
  cases node with
  | leaf a l => cases hkind
  | object a properties => cases hkind
  | array a items => exact ⟨a, items, hnode⟩

/-- Where registrations agree in kinds and types, the compiled tree has a leaf that keeps what
an interpolation declared. -/
theorem exists_leaf_of_mem_registrations {settings : Settings} {root : Node} {t : SchemaNode}
    (hn : root.HasChains) (ht : tree settings root = .ok t) (ha : root.HasAgreeingShapes)
    (hd : root.HasAgreeingTypes) {path : Text} {l : Leaf} (hl : l.conditional = false)
    (hr : .leaf path l ∈ root.registrations) :
    ∃ a last, t.at? (.ofPath path) = some (.leaf a last) ∧ l.Keeps last := by
  obtain ⟨first, found, after, hlater, hcollect, hput⟩ := exists_put_of_mem_registrations hr
  obtain ⟨a, placed, hplaced, hkeeps⟩ : ∃ a placed,
      first.at? (.ofPath path) = some (.leaf a placed) ∧ l.Keeps placed := by
    rcases found with _ | (⟨a, old⟩ | ⟨a, items⟩ | ⟨a, properties⟩)
    · exact ⟨_, l, hput, rfl, id, hl⟩
    · exact ⟨a, old.merge l, hput, old.keeps_merge_new hl⟩
    · exact ⟨_, l, hput, rfl, id, hl⟩
    · exact ⟨_, l, hput, rfl, id, hl⟩
  have htypes : ∀ r ∈ after, r.position = .ofPath path → ∀ d ∈ r.declared?, d.2 = l.type := by
    intro r hm hp d hdecl
    have hpath : d.1 = path := (Registration.path_of_declared? hdecl).trans
      (SchemaPosition.eq_of_ofPath_eq (Node.isResolved_of_mem_registrations hn (hlater r hm))
        (Node.isResolved_of_mem_registrations hn hr) hp)
    have hself : (path, l.type) ∈ (Registration.leaf path l).declared? := by
      rw [Registration.declared?, hl]
      rfl
    exact hd r (hlater r hm) _ hr d hdecl _ hself hpath
  obtain ⟨b, last, hat, hlast⟩ := Registration.exists_leaf_foldl
    (fun r hm => ha r (hlater r hm) _ hr) htypes hplaced hkeeps
  have hform := (tree_eq_ok ht).2 (.ofPath path)
  rw [hcollect, hat] at hform
  obtain ⟨node, hnode, hsame⟩ := Option.map_eq_some_iff.1 hform
  have hleaf : node.leaf? = some last := congrArg Prod.snd hsame
  cases node with
  | array c items => cases hleaf
  | object c properties => cases hleaf
  | leaf c m =>
    rw [← Option.some.inj hleaf] at hlast
    exact ⟨c, m, hnode, hlast⟩

end Compile
end TypedTemplate
