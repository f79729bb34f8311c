import TypedTemplate.Proofs.PropertyNames

/-!
# Implicit names

The number of a row and its page have names that exist only while rows are rendered. Interpolations
and conditions under such a name ask nothing of the schema, at any depth. An iteration is not held
against these names: it asks for an array wherever its source begins, and so brings the name into
the schema. No alias carries a path from one name to another, since what an alias stands for begins
as the source of some iteration does.
-/
namespace TypedTemplate

namespace Path

theorem head?_splitOn (path : Text) : (Text.splitOn '.' path).head? = some (root path) := by
  rw [Text.splitOn_eq_cut]
  rfl

/-- The name at the beginning of a path, without the array markers after it. -/
def firstName (path : Text) : Text := nameOf (root path)

theorem nameOf_of_isIdentifier {name : Text} (h : isIdentifier name = true) :
    nameOf name = name := by
  simpa [markers] using nameOf_component h 0

theorem isIdentifier_root {path : Text} (h : isChain path = true) :
    isIdentifier (root path) = true :=
  isIdentifier_of_mem_splitOn h (List.mem_of_mem_head? (head?_splitOn path))

theorem firstName_of_isChain {path : Text} (h : isChain path = true) : firstName path = root path :=
  nameOf_of_isIdentifier (isIdentifier_root h)

theorem firstName_append_marker {path : Text} (h : IsResolved path) :
    firstName (path ++ arrayMarker) = firstName path := by
  obtain ⟨parts, last, hsplit, hmarked⟩ :=
    Text.splitOn_append_of_not_mem (show '.' ∉ arrayMarker by decide) path
  have hroot := head?_splitOn path
  have hroot' := head?_splitOn (path ++ arrayMarker)
  rw [hsplit] at hroot
  rw [hmarked] at hroot'
  rw [firstName, firstName]
  cases parts with
  | nil =>
    have hlast : IsComponent last := h last (by simp [hsplit])
    rw [← Option.some.inj hroot, ← Option.some.inj hroot']
    exact nameOf_append_marker hlast
  | cons part parts => rw [← Option.some.inj hroot, ← Option.some.inj hroot']

theorem isIdentifier_of_implicit : ∀ name ∈ implicitNames, isIdentifier name = true := by decide

theorem nameOf_splitMarker {part : Text} (h : IsComponent part) :
    nameOf (splitMarker part).1 = nameOf part := by
  obtain ⟨name, count, hname, rfl⟩ := h
  cases count with
  | zero =>
    rw [show name ++ markers 0 = name from List.append_nil name, splitMarker_of_isIdentifier hname]
  | succ n =>
    rw [markers_succ, ← List.append_assoc, splitMarker_append_marker]
    exact (nameOf_append_marker ⟨name, n, hname, rfl⟩).symm

end Path

theorem StaticScope.firstName_resolve (scope : StaticScope) (path : Text) :
    Path.firstName (scope.resolve path) =
      Path.firstName ((Keyed.get? (Path.root path) scope).getD path) := by
  have hroot := Path.head?_splitOn (scope.resolve path)
  rw [splitOn_resolve] at hroot
  refine congrArg Path.nameOf (Option.some.inj (hroot.symm.trans ?_))
  cases Keyed.get? (Path.root path) scope with
  | none => exact Path.head?_splitOn path
  | some target =>
    have hhead := Path.head?_splitOn target
    rw [List.head?_append, hhead]
    rfl

theorem SchemaPosition.exists_ofPath_eq_cons {path : Text} (h : Path.IsResolved path) :
    ∃ rest, ofPath path = .property (Path.splitMarker (Path.root path)).1 :: rest := by
  obtain ⟨others, hothers⟩ := List.head?_eq_some_iff.1 (Path.head?_splitOn path)
  rw [ofPath, SchemaNode.steps, Path.components_of_isResolved h, hothers, List.map_cons, ofSteps,
    List.flatMap_cons, ofStep]
  exact ⟨_, rfl⟩

theorem Registration.not_excludes_property {r : Registration} (h : Path.IsResolved r.path)
    (name : Text) : ¬ r.Excludes [.property name] := by
  obtain ⟨rest, hposition⟩ := SchemaPosition.exists_ofPath_eq_cons h
  rw [Excludes, position, hposition]
  by_cases hname : name = (Path.splitMarker (Path.root r.path)).1
  · rw [hname, SchemaPosition.excludes_cons_self]
    rintro ⟨d, -, step, more, hnil, -⟩
    exact List.append_ne_nil_of_right_ne_nil d.1 (List.cons_ne_nil step more) hnil.symm
  · rw [SchemaPosition.excludes_cons_ne fun he => hname (SchemaStep.property.inj he)]
    exact fun hne => hne rfl

namespace Occurrence

/-- Whether an occurrence is an iteration that binds its items to a name. -/
def binds (name : Text) : Occurrence → Bool
  | .iteration _ i => i.itemName == name
  | _ => false

/-- Whether an occurrence is an iteration over something that begins with a name. -/
def iterates (name : Text) : Occurrence → Bool
  | .iteration _ i => Path.root i.source == name
  | _ => false

end Occurrence

/-- Whether a name is no alias of a scope, and no alias stands for something that begins with it
unless a template iterates over such a thing. -/
structure StaticScope.Avoids (root : Node) (name : Text) (scope : StaticScope) : Prop where
  resolved : scope.IsResolved
  unbound : Keyed.get? name scope = none
  target : ∀ bound target, Keyed.get? bound scope = some target → Path.firstName target = name →
    ∃ o ∈ root.occurrences .empty, o.iterates name = true

namespace Node

variable {root : Node} {name : Text}

/-- By induction on the scopes: what an alias stands for begins as the source of its iteration, and
this begins with the name itself or with an alias around it. -/
theorem avoids_of_mem_occurrences (hn : root.HasChains)
    (hfree : ∀ o ∈ root.occurrences .empty, o.binds name = false) :
    ∀ o ∈ root.occurrences .empty, o.scope.Avoids root name ∧ Path.isChain o.path = true := by
  have hempty : StaticScope.empty.Avoids root name :=
    ⟨fun _ _ h => (by cases h), rfl, fun _ _ h => by cases h⟩
  refine holds_of_mem_occurrences hn hempty ?_
  intro around i hi havoids hchain
  have hne : i.itemName ≠ name := by simpa [Occurrence.binds] using hfree _ hi
  have hsource := StaticScope.isResolved_resolve havoids.resolved hchain
  constructor
  case resolved =>
    intro bound target ht
    rw [Keyed.get?_set] at ht
    split at ht
    · rw [← Option.some.inj ht]
      exact hsource.append_marker
    · exact havoids.resolved bound target ht
  case unbound =>
    rw [Keyed.get?_set, if_neg hne.symm]
    exact havoids.unbound
  case target =>
    intro bound target ht hfirst
    rw [Keyed.get?_set] at ht
    split at ht
    · rw [← Option.some.inj ht, Path.firstName_append_marker hsource,
        StaticScope.firstName_resolve] at hfirst
      cases hg : Keyed.get? (Path.root i.source) around with
      | none =>
        rw [hg, Option.getD_none, Path.firstName_of_isChain hchain] at hfirst
        exact ⟨_, hi, by simp [Occurrence.iterates, hfirst]⟩
      | some outer =>
        rw [hg, Option.getD_some] at hfirst
        exact havoids.target _ outer hg hfirst
    · exact havoids.target bound target ht hfirst

end Node

namespace Occurrence

variable {o : Occurrence} {name : Text}

theorem registration?_eq_none (hname : name ∈ Path.implicitNames)
    (hunbound : Keyed.get? name o.scope = none) (hroot : Path.root o.path = name)
    (hiterates : o.iterates name = false) : o.registration? = none := by
  have himplicit : o.scope.isImplicit o.path = true := by
    rw [StaticScope.isImplicit, Path.isImplicit, Keyed.has, hroot, hunbound]
    simpa using hname
  cases o with
  | interpolation scope i => exact if_pos himplicit
  | condition scope path => exact if_pos himplicit
  | iteration scope i =>
    have hsource : Path.root i.source = name := hroot
    simp [iterates, hsource] at hiterates

theorem exists_registration_of_iterates (hid : Path.isIdentifier name = true)
    (hchain : Path.isChain o.path = true)
    (hunbound : Keyed.get? name o.scope = none) (h : o.iterates name = true) :
    ∃ r, o.registration? = some r ∧ [.property name] <+: r.position := by
  cases o with
  | interpolation scope i => cases h
  | condition scope path => cases h
  | iteration scope i =>
    have hroot : Path.root i.source = name := by simpa [iterates] using h
    have hresolve : scope.resolve i.source = i.source := by
      have hnone : Keyed.get? (Path.split i.source).1 scope = none := by
        rw [← hunbound, ← hroot]
        rfl
      simp [StaticScope.resolve, hnone]
    obtain ⟨rest, hposition⟩ :=
      SchemaPosition.exists_ofPath_eq_cons (Path.isResolved_of_isChain hchain)
    rw [path, hroot, Path.splitMarker_of_isIdentifier hid] at hposition
    refine ⟨_, rfl, rest, ?_⟩
    rw [Registration.position, Registration.path, hresolve, hposition]
    rfl

end Occurrence

theorem Registration.firstName_path {r : Registration} {name : Text}
    (hid : Path.isIdentifier name = true) (hr : Path.IsResolved r.path)
    (h : [.property name] <+: r.position) : Path.firstName r.path = name := by
  obtain ⟨rest, hposition⟩ := SchemaPosition.exists_ofPath_eq_cons hr
  have hcomponent : Path.IsComponent (Path.root r.path) :=
    hr _ (List.mem_of_mem_head? (Path.head?_splitOn r.path))
  rw [position, hposition, List.cons_prefix_cons] at h
  rw [Path.firstName, ← Path.nameOf_splitMarker hcomponent, ← SchemaStep.property.inj h.1,
    Path.nameOf_of_isIdentifier hid]

/-- What asks for a property of an implicit name comes from an iteration, here or around it. -/
theorem Node.exists_iterates_of_mem_registrations {root : Node} {name : Text} {r : Registration}
    (hn : root.HasChains) (hfree : ∀ o ∈ root.occurrences .empty, o.binds name = false)
    (hname : name ∈ Path.implicitNames) (hr : r ∈ root.registrations)
    (h : [.property name] <+: r.position) :
    ∃ o ∈ root.occurrences .empty, o.iterates name = true := by
  obtain ⟨o, ho, hregistration⟩ := List.mem_filterMap.1 hr
  obtain ⟨havoids, hchain⟩ := avoids_of_mem_occurrences hn hfree o ho
  have hfirst := Registration.firstName_path (Path.isIdentifier_of_implicit name hname)
    (isResolved_of_mem_registrations hn hr) h
  rw [Occurrence.path_of_registration? hregistration, StaticScope.firstName_resolve] at hfirst
  cases hg : Keyed.get? (Path.root o.path) o.scope with
  | none =>
    rw [hg, Option.getD_none, Path.firstName_of_isChain hchain] at hfirst
    refine ⟨o, ho, eq_true_of_ne_false fun hiterates => ?_⟩
    rw [Occurrence.registration?_eq_none hname havoids.unbound hfirst hiterates] at hregistration
    cases hregistration
  | some target =>
    rw [hg, Option.getD_some] at hfirst
    exact havoids.target _ target hg hfirst

/-- The root of a schema has a property of an implicit name that is no alias exactly if the template
iterates over something that begins with that name. Interpolations and conditions under the name
ask for nothing, at any depth. -/
theorem implicit_name_is_described_iff_iterated {markup name : Text} {root : Node}
    {given : Option Settings} {schema : Value} (hm : Node.ofMarkup markup = .ok root)
    (hs : Compile.schema given root = .ok schema) (hname : name ∈ Path.implicitNames)
    (hfree : ∀ o ∈ root.occurrences .empty, o.binds name = false) :
    ((JsonSchema.at? [.property name] schema).isSome ↔
      ∃ o ∈ root.occurrences .empty, o.iterates name = true) ∧
    ∀ o ∈ root.occurrences .empty, Path.root o.path = name → o.iterates name = false →
      o.registration? = none := by
  have hchains := Node.hasChains_of_ofMarkup hm
  have hoccurrences := Node.avoids_of_mem_occurrences hchains hfree
  have hnothing : ∀ o ∈ root.occurrences .empty, Path.root o.path = name →
      o.iterates name = false → o.registration? = none := fun o ho =>
    Occurrence.registration?_eq_none hname (hoccurrences o ho).1.unbound
  refine ⟨(isSome_at?_property_iff hs [] name).trans ⟨?_, ?_⟩, hnothing⟩
  · rintro ⟨before, r, after, hall, hprefix, -⟩
    exact Node.exists_iterates_of_mem_registrations hchains hfree hname (by simp [hall]) hprefix
  · rintro ⟨o, ho, hiterates⟩
    obtain ⟨havoids, hchain⟩ := hoccurrences o ho
    obtain ⟨r, hregistration, hprefix⟩ :=
      Occurrence.exists_registration_of_iterates
        (Path.isIdentifier_of_implicit name hname) hchain havoids.unbound hiterates
    have hr : r ∈ root.registrations := List.mem_filterMap.2 ⟨o, ho, hregistration⟩
    obtain ⟨before, after, hall⟩ := List.append_of_mem hr
    refine ⟨before, r, after, hall, hprefix, fun later hl => ?_⟩
    have hlater : later ∈ root.registrations := by simp [hall, hl]
    exact Registration.not_excludes_property (Node.isResolved_of_mem_registrations hchains hlater)
      name

def numberedRows : Text :=
  "<ul data-repeat='rows as row'><li data-if='$index'>\x7b\x7b$index:integer\x7d\x7d " ++
    "\x7b\x7brow.name:string\x7d\x7d</li></ul>"

/-- The schema of numbered rows does not describe the number. -/
theorem number_of_rows_is_not_described : ∃ root schema,
    Node.ofMarkup numberedRows = .ok root ∧
    Compile.schema (some Settings.defaults) root = .ok schema ∧
    (∀ o ∈ root.occurrences .empty, o.binds "$index" = false) ∧
    JsonSchema.at? [.property "$index"] schema = none := by
  have hread : Fault.succeedsWith (fun root =>
      decide (∀ o ∈ root.occurrences .empty,
        o.binds "$index" = false ∧ o.iterates "$index" = false) &&
      Fault.succeedsWith (fun _ => true) (Compile.schema (some Settings.defaults) root))
      (Node.ofMarkup numberedRows) = true := by
    decide +kernel
  obtain ⟨root, hm, hroot⟩ := Fault.exists_of_succeedsWith hread
  obtain ⟨hoccurrences, hroot⟩ := Bool.and_eq_true_iff.1 hroot
  obtain ⟨schema, hs, -⟩ := Fault.exists_of_succeedsWith hroot
  have hoccurrences := of_decide_eq_true hoccurrences
  have hfree := fun o ho => (hoccurrences o ho).1
  refine ⟨root, schema, hm, hs, hfree, ?_⟩
  have hiff := (implicit_name_is_described_iff_iterated hm hs (by decide) hfree).1
  rw [← Option.not_isSome_iff_eq_none, hiff]
  rintro ⟨o, ho, hiterates⟩
  rw [(hoccurrences o ho).2] at hiterates
  cases hiterates

/-- A template that repeats an item for its page, which only a renderer knows. -/
def itemsOfPage : Text := "<li data-repeat='$page'>x</li>"

/-- No alias of the template has an implicit name, and its schema asks for a page. -/
theorem page_is_described_if_iterated : ∃ root schema,
    Node.ofMarkup itemsOfPage = .ok root ∧
    Compile.schema (some Settings.defaults) root = .ok schema ∧
    (∀ name ∈ Path.implicitNames, ∀ o ∈ root.occurrences .empty, o.binds name = false) ∧
    (JsonSchema.at? [.property "$page"] schema).isSome := by
  have hread : Fault.succeedsWith (fun root =>
      decide (∀ name ∈ Path.implicitNames, ∀ o ∈ root.occurrences .empty, o.binds name = false) &&
      Fault.succeedsWith (fun schema => (JsonSchema.at? [.property "$page"] schema).isSome)
        (Compile.schema (some Settings.defaults) root)) (Node.ofMarkup itemsOfPage) = true := by
    decide +kernel
  obtain ⟨root, hm, hroot⟩ := Fault.exists_of_succeedsWith hread
  obtain ⟨hfree, hroot⟩ := Bool.and_eq_true_iff.1 hroot
  obtain ⟨schema, hs, hat⟩ := Fault.exists_of_succeedsWith hroot
  exact ⟨root, schema, hm, hs, of_decide_eq_true hfree, hat⟩

end TypedTemplate
