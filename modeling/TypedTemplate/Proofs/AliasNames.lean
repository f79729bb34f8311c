import TypedTemplate.Proofs.CompiledSchemas
import TypedTemplate.Proofs.RenamedScopes
import TypedTemplate.Proofs.StatedDirectives

/-!
# Names of aliases

A template with a renamed alias is compiled to the same schema and shown as the same document. Both
walks go through the two templates side by side: the scopes agree along the renaming, so that
every path means the same on both sides, and what is not renamed is not read by its name.
-/
namespace TypedTemplate

/-- Two iterations that differ only in the names of their list and their items, over the same list
as their sources are resolved on either side. -/
structure Iteration.Alike {α : Type} (f g : Text → α) (i j : Iteration) : Prop where
  source : f i.source = g j.source
  kind : i.kind = j.kind
  fixedRows : i.fixedRows = j.fixedRows
  maxRows : i.maxRows = j.maxRows
  reserved : i.itemName = "self" ↔ j.itemName = "self"

namespace Head

/-- A head and the one with some names changed: the iterations are alike, a name is changed in the
condition, and nothing else differs. -/
structure Renamed (a c : Text) {α : Type} (f g : Text → α) (head other : Head) : Prop where
  bare : other.bare = head.bare
  iteration : Option.Rel (Iteration.Alike f g) head.iteration other.iteration
  condition : other.condition = head.condition.map (Path.rename a c)

theorem renamed_rename {a b : Text} {α : Type} {f g : Text → α} {head : Head}
    (h : ∀ i, head.iteration = some i → f i.source = g (Path.rename a b i.source)) :
    Renamed a (head.innerName a b) f g head (head.rename a b) where
  bare := bare_rename a b head
  iteration := by
    rw [iteration_rename]
    cases hi : head.iteration with
    | none => exact .none
    | some i => exact .some ⟨h i hi, rfl, rfl, rfl, Iff.rfl⟩
  condition := condition_rename a b head

theorem renamed_renameAlias {head : Head} {i : Iteration} (hi : head.iteration = some i)
    (ha : Path.IsAliasName i.itemName) {b : Text} (hb : Path.IsAliasName b) {α : Type}
    (f : Text → α) : Renamed i.itemName b f f head (head.renameAlias b) where
  bare := bare_renameAlias b head
  iteration := by
    have hreserved : i.itemName = "self" ↔ b = "self" :=
      iff_of_false ha.notReserved hb.notReserved
    rw [iteration_renameAlias b hi, hi]
    exact .some ⟨rfl, rfl, rfl, rfl, hreserved⟩
  condition := condition_renameAlias b hi

namespace Renamed

variable {a c : Text} {α : Type} {f g : Text → α} {head other : Head}

theorem tag (h : Renamed a c f g head other) : other.tag = head.tag := by
  rw [← tag_bare, h.bare, tag_bare]

theorem inside (h : Renamed a c f g head other) (inherited : Option Semantics)
    (delimiter : Text) :
    Semantics.inside other inherited delimiter = Semantics.inside head inherited delimiter := by
  rw [← inside_bare, h.bare, inside_bare]

theorem attributes (h : Renamed a c f g head other) (breakAfter : Bool) :
    Render.attributes other breakAfter = Render.attributes head breakAfter := by
  rw [← attributes_bare, h.bare, attributes_bare]

theorem hasBreakAfter (h : Renamed a c f g head other) :
    Render.hasBreakAfter other = Render.hasBreakAfter head := by
  rw [← hasBreakAfter_bare, h.bare, hasBreakAfter_bare]

end Renamed
end Head

namespace Compile

section Paths

variable {a b : Text} {names : List Text} {first second : StaticScope}

theorem takeInterpolation_rename (h : Keyed.Renames a b names first second)
    (ha : Path.IsAliasName a) (hb : Path.IsAliasName b) (semantic : Option Semantics)
    (p : Progress) {i : Interpolation} (hi : Path.root i.path ∈ names) :
    takeInterpolation first semantic p i =
      takeInterpolation second semantic p { i with path := Path.rename a b i.path } := by
  rw [takeInterpolation, takeInterpolation,
    StaticScope.isImplicit_rename h ha.notImplicit hb hi,
    StaticScope.resolve_rename h hb.not_mem hi]
  rfl

theorem takeSegments_rename (h : Keyed.Renames a b names first second)
    (ha : Path.IsAliasName a) (hb : Path.IsAliasName b) (semantic : Option Semantics)
    {segments : List Segment} (hs : segments.flatMap Segment.names ⊆ names) (p : Progress) :
    takeSegments first semantic segments p =
      takeSegments second semantic (segments.map (Segment.rename a b)) p := by
  induction segments generalizing p with
  | nil => rfl
  | cons segment rest ih =>
    rw [List.flatMap_cons] at hs
    have hrest := ih (List.append_subset.1 hs).2
    cases segment with
    | literal t => exact hrest p
    | interpolation i =>
      have hi : Path.root i.path ∈ names := hs (by simp [Segment.names])
      rw [List.map_cons, Segment.rename, takeSegments, takeSegments,
        takeInterpolation_rename h ha hb semantic p hi]
      exact congrArg _ (funext hrest)

theorem takeCondition_rename (h : Keyed.Renames a b names first second)
    (ha : Path.IsAliasName a) (hb : Path.IsAliasName b) {condition : Option Text}
    (hc : ∀ path, condition = some path → Path.root path ∈ names) (p : Progress) :
    takeCondition first p condition =
      takeCondition second p (condition.map (Path.rename a b)) := by
  cases condition with
  | none => rfl
  | some path =>
    have hpath := hc path rfl
    rw [Option.map_some, takeCondition, takeCondition,
      StaticScope.isImplicit_rename h ha.notImplicit hb hpath,
      StaticScope.resolve_rename h hb.not_mem hpath]

end Paths

theorem takeIteration_eq {first second : StaticScope} {head other : Head}
    (h : Option.Rel (Iteration.Alike first.resolve second.resolve) head.iteration other.iteration)
    (p : Progress) :
    ∃ taken : Except Fault Progress,
      takeIteration first p head.iteration = taken.map (first.inside head, ·) ∧
      takeIteration second p other.iteration = taken.map (second.inside other, ·) := by
  unfold StaticScope.inside
  generalize head.iteration = mine at h ⊢
  generalize other.iteration = theirs at h ⊢
  cases h with
  | none => exact ⟨.ok p, rfl, rfl⟩
  | some hij =>
    rename_i i j
    simp only [takeIteration, StaticScope.bind, ← hij.source]
    cases p.tree.ensureArray (first.resolve i.source) with
    | error e => exact ⟨.error e, rfl, rfl⟩
    | ok tree =>
      by_cases hself : i.itemName = "self"
      · refine ⟨.error .reservedAlias, ?_, ?_⟩
        · rw [if_pos hself]
          rfl
        · rw [if_pos (hij.reserved.1 hself)]
          rfl
      · refine ⟨.ok { p with tree }, ?_, ?_⟩
        · rw [if_neg hself]
          rfl
        · rw [if_neg fun hj => hself (hij.reserved.2 hj)]
          rfl

/-- A walk through an element with a renamed head and renamed content, if the scopes inside agree
along the renaming. -/
theorem walk_element_rename {a c : Text} (ha : Path.IsAliasName a) (hc : Path.IsAliasName c)
    {names : List Text} {first second : StaticScope} {head other : Head}
    (h : Head.Renamed a c first.resolve second.resolve head other)
    (hin : Keyed.Renames a c names (first.inside head) (second.inside other))
    (hnames : head.names ⊆ names) {delimiter : Text} {children others : List Node}
    (hchildren : ∀ semantic p,
      walkAll delimiter (first.inside head) semantic children p =
        walkAll delimiter (second.inside other) semantic others p)
    (semantic : Option Semantics) (p : Progress) :
    walk delimiter first semantic (.element head children) p =
      walk delimiter second semantic (.element other others) p := by
  have hhead : ∀ path, head.condition = some path → Path.root path ∈ names :=
    fun path hp => hnames (Head.condition_mem_names hp)
  obtain ⟨taken, hmine, htheirs⟩ := takeIteration_eq h.iteration p
  simp only [walk, h.tag, h.inside, hmine, htheirs, h.condition]
  split
  · rfl
  · refine congrArg _ (funext fun inherited => ?_)
    cases taken with
    | error e => rfl
    | ok q =>
      show (takeCondition (first.inside head) q head.condition >>= _) =
        takeCondition (second.inside other) q (head.condition.map (Path.rename a c)) >>= _
      rw [takeCondition_rename hin ha hc hhead]
      exact congrArg _ (funext (hchildren inherited))

mutual

/-- A walk through a renamed part of a template takes the same, if the scopes agree along the
renaming. -/
theorem walk_rename (delimiter : Text) {a b : Text} (ha : Path.IsAliasName a)
    (hb : Path.IsAliasName b) :
    ∀ (n : Node) {first second : StaticScope}, Keyed.Renames a b n.names first second →
      ∀ (semantic : Option Semantics) (p : Progress),
        walk delimiter first semantic n p = walk delimiter second semantic (n.rename a b) p
  | .text _, _, _, h, semantic, p =>
    takeSegments_rename h ha hb semantic (List.Subset.refl _) p
  | .element head children, first, second, h, semantic, p => by
    have hnames : head.names ⊆ Node.names (.element head children) := List.subset_append_left ..
    have hinner := Head.isAliasName_innerName ha hb head
    have hhead : Head.Renamed a (head.innerName a b) first.resolve second.resolve head
        (head.rename a b) := Head.renamed_rename fun i hi =>
      StaticScope.resolve_rename h hb.not_mem (hnames (Head.source_mem_names hi))
    have hin := StaticScope.renames_inside h hb.not_mem hnames
    have hchildren := walkAll_rename delimiter ha hinner children
      (hin.mono (List.subset_append_right ..))
    rw [Node.rename_element]
    exact walk_element_rename ha hinner hhead hin hnames hchildren semantic p

theorem walkAll_rename (delimiter : Text) {a b : Text} (ha : Path.IsAliasName a)
    (hb : Path.IsAliasName b) :
    ∀ (all : List Node) {first second : StaticScope},
      Keyed.Renames a b (Node.namesOfList all) first second →
      ∀ (semantic : Option Semantics) (p : Progress),
        walkAll delimiter first semantic all p =
          walkAll delimiter second semantic (Node.renameList a b all) p
  | [], _, _, _, _, _ => rfl
  | n :: rest, first, second, h, semantic, p => by
    have hfirst := walk_rename delimiter ha hb n (h.mono (List.subset_append_left ..))
    have hrest := walkAll_rename delimiter ha hb rest (h.mono (List.subset_append_right ..))
    rw [Node.renameList, walkAll, walkAll, hfirst]
    exact congrArg _ (funext (hrest semantic))

end

end Compile

namespace Render

section Paths

variable {a b : Text} {names : List Text} {first second : DynamicScope}

theorem segments_rename (zone : Text) (h : DynamicScope.Renames a b names first second)
    (hb : Path.isIdentifier b = true) {all : List Segment} (hc : Segment.HaveChains all)
    (hn : all.flatMap Segment.names ⊆ names) :
    segments zone first all = segments zone second (all.map (Segment.rename a b)) := by
  induction all with
  | nil => rfl
  | cons s rest ih =>
    rw [List.flatMap_cons] at hn
    have hs : segment zone first s = segment zone second (s.rename a b) := by
      cases s with
      | literal t => rfl
      | interpolation i =>
        have hi : Path.root i.path ∈ names := hn (by simp [Segment.names])
        rw [Segment.rename, segment, segment, h.resolve hb (hc i List.mem_cons_self) hi]
    have hrest := ih (fun i hi => hc i (List.mem_cons_of_mem _ hi)) (List.append_subset.1 hn).2
    rw [List.map_cons, segments, segments, hs, hrest]

theorem showOnce_rename (h : DynamicScope.Renames a b names first second)
    (hb : Path.isIdentifier b = true) {α : Type} {f g : Text → α} {head other : Head}
    (hhead : Head.Renamed a b f g head other) (hc : head.HasChains) (hn : head.names ⊆ names)
    {content contents : DynamicScope → Except Fault Text}
    (hcontent : content first = contents second) (breakAfter : Bool) :
    showOnce head content first breakAfter = showOnce other contents second breakAfter := by
  have hhidden : isHidden head first = isHidden other second := by
    unfold isHidden
    rw [hhead.condition]
    cases hp : head.condition with
    | none => rfl
    | some path =>
      have hpath := h.resolve hb (hc.condition path hp) (hn (Head.condition_mem_names hp))
      exact congrArg Value.isFalsy hpath
  rw [showOnce, showOnce, hhidden, hhead.tag, hhead.attributes, hcontent, Head.isVoid, Head.isVoid,
    hhead.tag]

end Paths

theorem showRows_eq_of_alike {first second : DynamicScope} {i j : Iteration}
    (hij : Iteration.Alike first.resolve second.resolve i j)
    {once others : DynamicScope → Bool → Except Fault Text}
    (ho : ∀ item index count breakAfter, once (first.row i item index count) breakAfter =
      others (second.row j item index count) breakAfter)
    (injectBreak : Bool) (total index : Nat) (items : List Value) :
    showRows once i first injectBreak total index items =
      showRows others j second injectBreak total index items := by
  induction items generalizing index with
  | nil => rfl
  | cons item rest ih =>
    rw [showRows, showRows, ih]
    unfold DynamicScope.bind
    by_cases hself : i.itemName = "self"
    · rw [if_pos hself, if_pos (hij.reserved.1 hself)]
      rfl
    · rw [if_neg hself, if_neg fun hj => hself (hij.reserved.2 hj)]
      show (once (first.row i item index total) _ >>= _) =
        others (second.row j item index total) _ >>= _
      rw [ho]

/-- An element with a renamed head and renamed content, if the scopes of each showing agree along
the renaming. -/
theorem showElement_rename {a c : Text} (hc : Path.isIdentifier c = true) {names : List Text}
    {first second : DynamicScope} {head other : Head}
    (h : Head.Renamed a c first.resolve second.resolve head other)
    (hchains : head.HasChains) (hnames : head.names ⊆ names)
    (hnone : head.iteration = none → DynamicScope.Renames a c names first second)
    (hrow : ∀ i j, head.iteration = some i → other.iteration = some j →
      ∀ item index count, DynamicScope.Renames a c names (first.row i item index count)
        (second.row j item index count))
    {content contents : DynamicScope → Except Fault Text}
    (hcontent : ∀ {inner within : DynamicScope}, DynamicScope.Renames a c names inner within →
      content inner = contents within) :
    showElement head content first = showElement other contents second := by
  have honce : ∀ {inner within : DynamicScope}, DynamicScope.Renames a c names inner within →
      ∀ breakAfter, showOnce head content inner breakAfter =
        showOnce other contents within breakAfter :=
    fun hin => showOnce_rename hin hc h hchains hnames (hcontent hin)
  have hiteration := h.iteration
  unfold showElement
  rw [h.hasBreakAfter]
  generalize head.iteration = mine at hiteration hnone hrow ⊢
  generalize other.iteration = theirs at hiteration hrow ⊢
  cases hiteration with
  | none => exact honce (hnone rfl) false
  | some hij =>
    rename_i i j
    have hrows : ∀ items, rows j items = rows i items := by
      intro items
      rw [rows, rows, takenRows, takenRows, hij.fixedRows, hij.maxRows]
    dsimp only
    rw [← hij.source]
    cases first.resolve i.source with
    | list items =>
      dsimp only
      rw [hrows, ← hij.kind]
      exact showRows_eq_of_alike hij
        (fun item index count => honce (hrow i j rfl rfl item index count)) ..
    | _ => rfl

mutual

theorem node_rename (zone : Text) {a b : Text} (ha : Path.IsAliasName a)
    (hb : Path.IsAliasName b) :
    ∀ {n : Node}, n.HasChains → ∀ {first second : DynamicScope},
      DynamicScope.Renames a b n.names first second →
        node zone n first = node zone (n.rename a b) second
  | .text _, .text hs, _, _, h =>
    segments_rename zone h hb.identifier hs (List.Subset.refl _)
  | .element head children, .element hh hc, first, second, h => by
    have hnames : head.names ⊆ Node.names (.element head children) := List.subset_append_left ..
    have hinner := Head.isAliasName_innerName ha hb head
    have hhead : Head.Renamed a (head.innerName a b) first.resolve second.resolve head
        (head.rename a b) := Head.renamed_rename fun i hi =>
      h.resolve hb.identifier (hh.iteration i hi).1 (hnames (Head.source_mem_names hi))
    rw [Node.rename_element]
    refine showElement_rename hinner.identifier hhead hh hnames ?_ ?_ ?_
    · intro hi
      rw [Head.innerName_of_none hi]
      exact h
    · intro i j hi hj
      exact h.row_inside ha.notImplicit hb.notImplicit hnames hi hj
    · intro deep within hin
      exact nodes_rename zone ha hinner hc (hin.mono (List.subset_append_right ..))

theorem nodes_rename (zone : Text) {a b : Text} (ha : Path.IsAliasName a)
    (hb : Path.IsAliasName b) :
    ∀ {all : List Node}, (∀ n ∈ all, n.HasChains) → ∀ {first second : DynamicScope},
      DynamicScope.Renames a b (Node.namesOfList all) first second →
        nodes zone all first = nodes zone (Node.renameList a b all) second
  | [], _, _, _, _ => rfl
  | n :: rest, hc, first, second, h => by
    obtain ⟨hn, hall⟩ := List.forall_mem_cons.1 hc
    have hfirst := node_rename zone ha hb hn (h.mono (List.subset_append_left ..))
    have hrest := nodes_rename zone ha hb hall (h.mono (List.subset_append_right ..))
    rw [Node.renameList, nodes, nodes, hfirst, hrest]

end

end Render

section Alias

variable {head : Head} {children : List Node} {i : Iteration} {b : Text}

theorem Node.renameAlias_element (hi : head.iteration = some i) (b : Text)
    (children : List Node) :
    renameAlias b (.element head children) =
      .element (head.renameAlias b) (renameList i.itemName b children) := by
  simp only [renameAlias, hi]

theorem Compile.walk_renameAlias (delimiter : Text) (hi : head.iteration = some i)
    (ha : Path.IsAliasName i.itemName) (hb : Path.IsAliasName b)
    (hn : b ∉ Node.names (.element head children)) (scope : StaticScope)
    (semantic : Option Semantics) (p : Progress) :
    walk delimiter scope semantic (.element head children) p =
      walk delimiter scope semantic (Node.renameAlias b (.element head children)) p := by
  have hin := StaticScope.renames_inside_alias scope hi hn
  have hhead := Head.renamed_renameAlias hi ha hb scope.resolve
  have hchildren := walkAll_rename delimiter ha hb children
    (hin.mono (List.subset_append_right ..))
  rw [Node.renameAlias_element hi]
  exact walk_element_rename ha hb hhead hin (List.subset_append_left ..) hchildren semantic p

theorem Render.node_renameAlias (zone : Text) (hi : head.iteration = some i)
    (ha : Path.IsAliasName i.itemName) (hb : Path.IsAliasName b)
    (hc : Node.HasChains (.element head children)) (hn : b ∉ Node.names (.element head children))
    (scope : DynamicScope) :
    node zone (.element head children) scope =
      node zone (Node.renameAlias b (.element head children)) scope := by
  have hhead := Head.renamed_renameAlias hi ha hb scope.resolve
  rw [Node.renameAlias_element hi]
  cases hc with
  | element hh hall =>
    have hnames : head.names ⊆ Node.names (.element head children) := List.subset_append_left ..
    refine showElement_rename hb.identifier hhead hh hnames ?_ ?_ ?_
    · intro hnone
      cases hi.symm.trans hnone
    · intro j other hj hother
      obtain rfl := Option.some.inj (hi.symm.trans hj)
      exact DynamicScope.Renames.row_inside_alias scope hi hother ha.notImplicit hb.notImplicit hn
    · intro inner within hin
      exact nodes_rename zone ha hb hall (hin.mono (List.subset_append_right ..))

theorem Node.map_bare_heads_renameAlias (hi : head.iteration = some i) (b : Text)
    (children : List Node) :
    (renameAlias b (.element head children)).heads.map Head.bare =
      (Node.element head children).heads.map Head.bare := by
  rw [renameAlias_element hi, heads, heads, List.map_cons, List.map_cons, Head.bare_renameAlias,
    map_bare_headsOfList_rename]

theorem Node.isStated_of_mem_heads_renameAlias (hi : head.iteration = some i)
    (ha : Path.IsAliasName i.itemName) (hb : Path.IsAliasName b)
    (h : ∀ other ∈ (Node.element head children).heads, other.IsStated) :
    ∀ other ∈ (renameAlias b (.element head children)).heads, other.IsStated := by
  obtain ⟨hhead, hchildren⟩ := List.forall_mem_cons.1 h
  rw [renameAlias_element hi]
  exact List.forall_mem_cons.2
    ⟨hhead.renameAlias hb.identifier, isStated_of_mem_headsOfList_rename ha hb hchildren⟩

end Alias

theorem Compile.walkAll_congr {delimiter : Text} {scope : StaticScope}
    {semantic : Option Semantics} {n m : Node}
    (h : walk delimiter scope semantic n = walk delimiter scope semantic m)
    (before after : List Node) :
    walkAll delimiter scope semantic (before ++ n :: after) =
      walkAll delimiter scope semantic (before ++ m :: after) := by
  funext p
  rw [walkAll_append, walkAll_append]
  refine congrArg _ (funext fun q => ?_)
  rw [walkAll, walkAll, h]

theorem Render.nodes_congr {zone : Text} {n m : Node} (h : node zone n = node zone m)
    (before after : List Node) :
    nodes zone (before ++ n :: after) = nodes zone (before ++ m :: after) := by
  induction before with
  | nil =>
    funext scope
    rw [List.nil_append, List.nil_append, nodes, nodes, h]
  | cons first rest ih =>
    funext scope
    rw [List.cons_append, List.cons_append, nodes, nodes, ih]

namespace Node.Differs

variable {part other n m : Node}

theorem hasChains (h : Differs part other n m) (hn : n.HasChains) : part.HasChains := by
  induction h with
  | here => exact hn
  | inside _ ih =>
    cases hn with
    | element _ hc => exact ih (hc _ (List.mem_append_right _ List.mem_cons_self))

theorem map_bare_heads (h : Differs part other n m)
    (hp : other.heads.map Head.bare = part.heads.map Head.bare) :
    m.heads.map Head.bare = n.heads.map Head.bare := by
  induction h with
  | here => exact hp
  | inside _ ih =>
    simp only [heads, headsOfList_append, headsOfList, List.map_cons, List.map_append, ih]

theorem isStated_of_mem_heads (h : Differs part other n m)
    (hp : (∀ head ∈ part.heads, head.IsStated) → ∀ head ∈ other.heads, head.IsStated)
    (hn : ∀ head ∈ n.heads, head.IsStated) : ∀ head ∈ m.heads, head.IsStated := by
  induction h with
  | here => exact hp hn
  | inside _ ih =>
    simp only [heads, headsOfList_append, headsOfList, List.forall_mem_cons,
      List.forall_mem_append] at hn ⊢
    obtain ⟨hhead, hbefore, hpart, hafter⟩ := hn
    exact ⟨hhead, hbefore, ih hpart, hafter⟩

/-- Where two parts are walked through alike, so are the templates that differ in them. -/
theorem walk_eq (h : Differs part other n m) {delimiter : Text}
    (hp : ∀ scope semantic, Compile.walk delimiter scope semantic part =
      Compile.walk delimiter scope semantic other) (scope : StaticScope)
    (semantic : Option Semantics) :
    Compile.walk delimiter scope semantic n = Compile.walk delimiter scope semantic m := by
  induction h generalizing scope semantic with
  | here => exact hp scope semantic
  | inside _ ih =>
    funext p
    simp only [Compile.walk, fun scope semantic => Compile.walkAll_congr (ih scope semantic)]

theorem node_eq (h : Differs part other n m) {zone : Text}
    (hp : Render.node zone part = Render.node zone other) :
    Render.node zone n = Render.node zone m := by
  induction h with
  | here => exact hp
  | inside _ ih =>
    funext scope
    rw [Render.node, Render.node, Render.nodes_congr ih]

end Node.Differs

theorem Settings.inForce_eq_of_map_bare {root other : Node}
    (h : other.heads.map Head.bare = root.heads.map Head.bare) (given : Option Settings) :
    inForce given other = inForce given root := by
  cases given with
  | some settings => rfl
  | none =>
    show ofHeads other.heads = ofHeads root.heads
    rw [← ofHeads_map_bare, h, ofHeads_map_bare]

/-- In a template that is read, take any element with an iteration, and any identifier that is
neither an alias nor the first component of a path in the element. The template in which the
element has this identifier for its alias is one whose elements can be made of their attributes; it
is compiled to the same schema and shown as the same document, or fails with the same faults, with
settings that are given or with those that it declares. -/
theorem alias_names_do_not_matter {markup : Text} {root : Node}
    (hm : Node.ofMarkup markup = .ok root) {head : Head} {children : List Node} {i : Iteration}
    (hi : head.iteration = some i) (ha : i.itemName ∉ Path.implicitNames)
    (hs : i.itemName ≠ "self") {b : Text} (hb : Path.IsAliasName b)
    (hn : b ∉ Node.names (.element head children)) {renamed : Node}
    (hd : Node.Differs (.element head children) (Node.renameAlias b (.element head children))
      root renamed) :
    (∀ other ∈ renamed.heads, other.IsStated) ∧
      (∀ given, Compile.schema given renamed = Compile.schema given root) ∧
      ∀ given data, Render.template given renamed data = Render.template given root data := by
  have hchains := hd.hasChains (Node.hasChains_of_ofMarkup hm)
  have halias : Path.IsAliasName i.itemName := by
    cases hchains with
    | element hh _ => exact ⟨(hh.iteration i hi).2, ha, hs⟩
  have hbare := hd.map_bare_heads (Node.map_bare_heads_renameAlias hi b children)
  have hsettings := Settings.inForce_eq_of_map_bare hbare
  refine ⟨?_, ?_, ?_⟩
  · exact hd.isStated_of_mem_heads (Node.isStated_of_mem_heads_renameAlias hi halias hb)
      (Node.isStated_of_ofMarkup hm)
  · intro given
    have hwalk : ∀ delimiter scope semantic, Compile.walk delimiter scope semantic root =
        Compile.walk delimiter scope semantic renamed := fun delimiter =>
      hd.walk_eq fun scope semantic =>
        funext (Compile.walk_renameAlias delimiter hi halias hb hn scope semantic)
    have htree : ∀ settings, Compile.tree settings renamed = Compile.tree settings root := by
      intro settings
      rw [Compile.tree, Compile.tree, hwalk, ← Semantics.ofHeads_map_bare, hbare,
        Semantics.ofHeads_map_bare]
    rw [Compile.schema, Compile.schema, hsettings]
    simp only [htree]
  · intro given data
    have hnode : ∀ zone, Render.node zone root = Render.node zone renamed := fun zone =>
      hd.node_eq (funext (Render.node_renameAlias zone hi halias hb hchains hn))
    rw [Render.template, Render.template, hsettings]
    simp only [hnode]

/-- Whether a node holds one element only, and what it is passes a test. -/
def Node.hasOneElement (test : Head → Head → List Node → Bool) : Node → Bool
  | .element html [.element head children] => test html head children
  | _ => false

theorem Node.exists_of_hasOneElement {test : Head → Head → List Node → Bool} {root : Node}
    (h : root.hasOneElement test = true) : ∃ html head children,
      root = .element html [.element head children] ∧ test html head children = true := by
  unfold hasOneElement at h
  split at h
  · exact ⟨_, _, _, rfl, h⟩
  · cases h

def rowsWithParts (name : Text) : Text :=
  "<ul data-repeat='rows as " ++ name ++ "'><li data-if='" ++ name ++ ".shown'>\x7b\x7b" ++ name ++
    ".name:string\x7d\x7d</li><li data-repeat='" ++ name ++
    ".parts as row'>\x7b\x7brow.name:string\x7d\x7d</li></ul>"

/-- The alias of the rows may be hidden by that of their parts, or not. -/
theorem alias_of_rows_with_parts_does_not_matter : ∃ root renamed,
    Node.ofMarkup (rowsWithParts "row") = .ok root ∧
    Node.ofMarkup (rowsWithParts "line") = .ok renamed ∧
    (∀ given, Compile.schema given renamed = Compile.schema given root) ∧
    ∀ given data, Render.template given renamed data = Render.template given root data := by
  let test (html head : Head) (children : List Node) : Bool :=
    decide (head.iteration = some ⟨.row, "rows", "row", none, none⟩ ∧
      ("line" : Text) ∉ Node.names (.element head children) ∧
      Node.ofMarkup (rowsWithParts "line") =
        .ok (.element html [Node.renameAlias "line" (.element head children)]))
  have hread : Fault.succeedsWith (Node.hasOneElement test) (Node.ofMarkup (rowsWithParts "row")) =
      true := by decide +kernel
  obtain ⟨root, hm, htest⟩ := Fault.exists_of_succeedsWith hread
  obtain ⟨html, head, children, rfl, htest⟩ := Node.exists_of_hasOneElement htest
  obtain ⟨hi, hn, hother⟩ := of_decide_eq_true htest
  have hline : Path.IsAliasName "line" := ⟨by decide, by decide, by decide⟩
  have hd : Node.Differs (.element head children)
      (Node.renameAlias "line" (.element head children))
      (.element html ([] ++ .element head children :: []))
      (.element html ([] ++ Node.renameAlias "line" (.element head children) :: [])) :=
    .inside .here
  have hsame := alias_names_do_not_matter hm hi (by decide) (by decide) hline hn hd
  exact ⟨_, _, hm, hother, hsame.2⟩

end TypedTemplate
