import TypedTemplate.Proofs.CompiledSchemas
import TypedTemplate.Template

/-!
# Property names

A marker is taken off a component once. What an iteration over a bare alias registers has a
component with two markers, so the first of them stays in the name of a property, and stays there
unless a later registration takes the place of what holds it.
-/
namespace TypedTemplate

namespace SchemaPosition

theorem exists_part_of_mem_ofPath {path name : Text} (hn : .property name ∈ ofPath path) :
    ∃ part ∈ Path.components path, name = (Path.splitMarker part).1 := by
  obtain ⟨step, hs, hn⟩ := List.mem_flatMap.1 hn
  obtain ⟨part, hp, rfl⟩ := List.mem_map.1 hs
  refine ⟨part, hp, ?_⟩
  rcases List.mem_cons.1 hn with he | hn
  · exact SchemaStep.property.inj he
  · split at hn
    · cases List.mem_singleton.1 hn
    · cases hn

theorem isComponent_of_mem_ofPath {path : Text} (h : Path.IsResolved path) {name : Text}
    (hn : .property name ∈ ofPath path) : Path.IsComponent name := by
  obtain ⟨part, hp, rfl⟩ := exists_part_of_mem_ofPath hn
  exact (h part (Path.components_of_isResolved h ▸ hp)).splitMarker

end SchemaPosition

/-- A property name occurs somewhere in a schema. -/
def JsonSchema.HasProperty (schema : Value) (name : Text) : Prop :=
  ∃ position, (JsonSchema.at? (position ++ [.property name]) schema).isSome

namespace Registration

theorem prefix_position_of_prefix_extent {r : Registration} {position : SchemaPosition}
    {name : Text} :
    position ++ [.property name] <+: r.extent ↔ position ++ [.property name] <+: r.position := by
  cases r with
  | leaf path l => exact Iff.rfl
  | array path =>
    rw [extent, List.prefix_concat_iff]
    constructor
    · rintro (h | h)
      · cases (List.append_inj' h rfl).2
      · exact h
    · exact .inr

end Registration

/-- A property is described at a position when a registration brings it and no later one excludes
it. -/
theorem isSome_at?_property_iff {root : Node} {given : Option Settings} {schema : Value}
    (hs : Compile.schema given root = .ok schema) (position : SchemaPosition) (name : Text) :
    (JsonSchema.at? (position ++ [.property name]) schema).isSome ↔
      ∃ before r after, root.registrations = before ++ r :: after ∧
        position ++ [.property name] <+: r.position ∧
        ∀ later ∈ after, ¬ later.Excludes (position ++ [.property name]) := by
  obtain ⟨first, rest, hne⟩ :
      ∃ first rest, position ++ [SchemaStep.property name] = first :: rest :=
    List.exists_cons_of_ne_nil (by simp)
  have hnone : SchemaNode.emptyObject.at? (position ++ [.property name]) = none := by
    rw [hne, SchemaNode.at?_emptyObject]
  rw [hne, JsonSchema.isSome_at?_eq_collect hs, ← hne]
  refine (Registration.isSome_at?_foldl root.registrations _ _).trans ?_
  simp only [hnone, Option.isSome_none, Bool.false_eq_true, false_and, false_or,
    Registration.prefix_position_of_prefix_extent]

/-- A property name occurs in the schema of a template when a registration brings it and no
later one excludes it. -/
theorem hasProperty_iff {root : Node} {given : Option Settings} {schema : Value}
    (hs : Compile.schema given root = .ok schema) (name : Text) :
    JsonSchema.HasProperty schema name ↔
      ∃ position before r after, root.registrations = before ++ r :: after ∧
        position ++ [.property name] <+: r.position ∧
        ∀ later ∈ after, ¬ later.Excludes (position ++ [.property name]) :=
  exists_congr fun position => isSome_at?_property_iff hs position name

/-- A path whose components have one marker at most. -/
def Path.IsSinglyMarked (path : Text) : Prop :=
  ∀ part ∈ Text.splitOn '.' path, Path.isIdentifier part = true ∨
    ∃ name, Path.isIdentifier name = true ∧ part = name ++ Path.arrayMarker

/-- The aliases of a scope stand for paths whose components have one marker at most. -/
def StaticScope.IsSinglyMarked (scope : StaticScope) : Prop :=
  ∀ name target, Keyed.get? name scope = some target → Path.IsSinglyMarked target

theorem StaticScope.isSinglyMarked_resolve {scope : StaticScope} (hs : scope.IsSinglyMarked)
    {path : Text} (hp : Path.isChain path = true) : Path.IsSinglyMarked (scope.resolve path) := by
  intro part hpart
  rw [splitOn_resolve] at hpart
  cases hg : Keyed.get? (Path.root path) scope with
  | none =>
    rw [hg] at hpart
    exact .inl (Path.isIdentifier_of_mem_splitOn hp hpart)
  | some target =>
    rw [hg] at hpart
    rcases List.mem_append.1 hpart with hpart | hpart
    · exact hs _ target hg part hpart
    · exact .inl (Path.isIdentifier_of_mem_splitOn hp (List.mem_of_mem_tail hpart))

theorem StaticScope.isSinglyMarked_append_marker {scope : StaticScope}
    (hs : scope.IsSinglyMarked) {path : Text} (hp : Path.isChain path = true)
    (hb : Keyed.has path scope = false) :
    Path.IsSinglyMarked (scope.resolve path ++ Path.arrayMarker) := by
  obtain ⟨parts, last, he, hi⟩ := splitOn_resolve_of_not_bare hp hb
  obtain ⟨pieces, final, hsplit, hm⟩ :=
    Text.splitOn_append_of_not_mem (show '.' ∉ Path.arrayMarker by decide) (scope.resolve path)
  have hsame := isSinglyMarked_resolve hs hp
  unfold Path.IsSinglyMarked at hsame ⊢
  rw [hsplit] at hsame
  obtain ⟨rfl, hfinal⟩ := List.append_inj' (he.symm.trans hsplit) rfl
  obtain rfl := (List.cons.inj hfinal).1
  rw [hm]
  intro part hpart
  rcases List.mem_append.1 hpart with hpart | hpart
  · exact hsame part (List.mem_append_left _ hpart)
  · exact .inr ⟨last, hi, List.mem_singleton.1 hpart⟩

/-- Whether an occurrence is an iteration over what an alias stands for itself. -/
def Occurrence.isBareIteration : Occurrence → Bool
  | .iteration scope i => Keyed.has i.source scope
  | _ => false

/-- No iteration of a template goes over what an alias stands for itself. -/
def Node.HasNoBareIteration (root : Node) : Prop :=
  ∀ o ∈ root.occurrences .empty, o.isBareIteration = false

instance (root : Node) : Decidable root.HasNoBareIteration :=
  inferInstanceAs (Decidable (∀ o ∈ root.occurrences .empty, o.isBareIteration = false))

theorem Node.isSinglyMarked_of_mem_registrations {root : Node} (hn : root.HasChains)
    (hb : root.HasNoBareIteration) {r : Registration} (hr : r ∈ root.registrations) :
    Path.IsSinglyMarked r.path := by
  obtain ⟨o, ho, hr⟩ := List.mem_filterMap.1 hr
  have hmarked : ∀ o ∈ root.occurrences .empty,
      o.scope.IsSinglyMarked ∧ Path.isChain o.path = true := by
    refine Node.holds_of_mem_occurrences hn (fun name target h => by cases h) ?_
    intro around i hi hs hc name target ht
    rw [Keyed.get?_set] at ht
    split at ht
    · rw [← Option.some.inj ht]
      exact StaticScope.isSinglyMarked_append_marker hs hc (hb _ hi)
    · exact hs name target ht
  rw [Occurrence.path_of_registration? hr]
  exact StaticScope.isSinglyMarked_resolve (hmarked o ho).1 (hmarked o ho).2

theorem SchemaPosition.isIdentifier_of_mem_ofPath {path : Text} (h : Path.IsSinglyMarked path)
    {name : Text} (hn : .property name ∈ ofPath path) : Path.isIdentifier name = true := by
  obtain ⟨part, hp, hn⟩ := exists_part_of_mem_ofPath hn
  rcases h part (List.mem_filter.1 hp).1 with hi | ⟨id, hi, rfl⟩
  · rwa [hn, Path.splitMarker_of_isIdentifier hi]
  · rwa [hn, Path.splitMarker_append_marker]

/-- Whatever brings a property whose name is no identifier is followed by something that leaves
no place for it. -/
def Node.ExcludesMarkedNames (root : Node) : Prop :=
  ∀ before r after, root.registrations = before ++ r :: after →
    ∀ position name, position ++ [.property name] <+: r.position →
      Path.isIdentifier name = false →
      ∃ later ∈ after, later.Excludes (position ++ [.property name])

/-- Every property name of the schema of a template is an identifier, with array markers after
it. It has none in a template without an iteration over a bare alias. In any template none has
markers exactly when whatever brings a name with a marker is followed by a registration that
excludes it. -/
theorem property_names_are_identifiers_iff_marked_ones_are_excluded {markup : Text}
    {root : Node} {given : Option Settings} {schema : Value}
    (hm : Node.ofMarkup markup = .ok root) (hs : Compile.schema given root = .ok schema) :
    (∀ name, JsonSchema.HasProperty schema name → Path.IsComponent name) ∧
    (root.HasNoBareIteration →
      ∀ name, JsonSchema.HasProperty schema name → Path.isIdentifier name = true) ∧
    ((∀ name, JsonSchema.HasProperty schema name → Path.isIdentifier name = true) ↔
      root.ExcludesMarkedNames) := by
  have hchains := Node.hasChains_of_ofMarkup hm
  have hbrought : ∀ name, JsonSchema.HasProperty schema name →
      ∃ r ∈ root.registrations, SchemaStep.property name ∈ r.position := by
    intro name hn
    obtain ⟨position, before, r, after, hall, hprefix, -⟩ := (hasProperty_iff hs name).1 hn
    exact ⟨r, by rw [hall]; simp, hprefix.subset (by simp)⟩
  refine ⟨fun name hn => ?_, fun hb name hn => ?_, fun h => ?_, fun h name hn => ?_⟩
  · obtain ⟨r, hr, hmem⟩ := hbrought name hn
    exact SchemaPosition.isComponent_of_mem_ofPath
      (Node.isResolved_of_mem_registrations hchains hr) hmem
  · obtain ⟨r, hr, hmem⟩ := hbrought name hn
    exact SchemaPosition.isIdentifier_of_mem_ofPath
      (Node.isSinglyMarked_of_mem_registrations hchains hb hr) hmem
  · intro before r after hall position name hprefix hname
    apply Classical.byContradiction
    intro hkept
    have hn := (hasProperty_iff hs name).2 ⟨position, before, r, after, hall, hprefix,
      fun later hl he => hkept ⟨later, hl, he⟩⟩
    rw [h name hn] at hname
    cases hname
  · obtain ⟨position, before, r, after, hall, hprefix, hkept⟩ := (hasProperty_iff hs name).1 hn
    rw [← Bool.not_eq_false]
    intro hname
    obtain ⟨later, hl, he⟩ := h before r after hall position name hprefix hname
    exact hkept later hl he

/-- In a list of records every property has the name that a path gave it. -/
theorem property_names_of_list_of_records : ∃ root schema,
    Node.ofMarkup "<li data-repeat='rows as row'>\x7b\x7brow.name:string\x7d\x7d</li>" =
      .ok root ∧
    Compile.schema (some Settings.defaults) root = .ok schema ∧ root.HasNoBareIteration ∧
    JsonSchema.HasProperty schema "name" ∧
    ∀ name, JsonSchema.HasProperty schema name → Path.isIdentifier name = true := by
  let markup : Text := "<li data-repeat='rows as row'>\x7b\x7brow.name:string\x7d\x7d</li>"
  have hread : Fault.succeedsWith (fun root => decide root.HasNoBareIteration &&
      Fault.succeedsWith
        (fun schema => (JsonSchema.at? [.property "rows", .items, .property "name"] schema).isSome)
        (Compile.schema (some Settings.defaults) root)) (Node.ofMarkup markup) = true := by
    decide +kernel
  obtain ⟨root, hm, hroot⟩ := Fault.exists_of_succeedsWith hread
  obtain ⟨hb, hroot⟩ := Bool.and_eq_true_iff.1 hroot
  obtain ⟨schema, hs, hat⟩ := Fault.exists_of_succeedsWith hroot
  have hb := of_decide_eq_true hb
  exact ⟨root, schema, hm, hs, hb, ⟨[.property "rows", .items], hat⟩,
    (property_names_are_identifiers_iff_marked_ones_are_excluded hm hs).2.1 hb⟩

def cellsOfRows : Text :=
  "<ul data-repeat='rows as row'><li data-repeat='row as cell'>" ++
    "\x7b\x7bcell:string\x7d\x7d</li></ul>"

/-- The schema of a list of lists has a property whose name ends with a marker. -/
theorem list_of_lists_has_marked_property : ∃ root schema,
    Node.ofMarkup cellsOfRows = .ok root ∧
    Compile.schema (some Settings.defaults) root = .ok schema ∧
    JsonSchema.HasProperty schema "rows[]" ∧ Path.isIdentifier "rows[]" = false := by
  have hcompiled : Fault.succeedsWith
      (fun schema => (JsonSchema.at? [.property "rows[]"] schema).isSome)
      (Node.ofMarkup cellsOfRows >>= Compile.schema (some Settings.defaults)) = true := by
    decide +kernel
  obtain ⟨schema, hs, hat⟩ := Fault.exists_of_succeedsWith hcompiled
  obtain ⟨root, hroot, hschema⟩ := Fault.bind_eq_ok_iff.1 hs
  exact ⟨root, schema, hroot, hschema, ⟨[], hat⟩, by decide⟩

end TypedTemplate
