import TypedTemplate.Proofs.CanonicalOrder

/-!
# Later statements

Meta elements and the elements around a field may state the same thing several times. What is
stated later counts, so saying everything once more in the same order changes nothing: neither the
settings, nor the annotations by path, nor those that are laid over the positions of a tree.
-/
namespace TypedTemplate

/-- Statements are put together so that later ones count, and one that is made again changes
nothing. -/
structure LaterWins {α : Type} (updatedBy : α → α → α) (nothing : α) : Prop where
  assoc : ∀ a b c, updatedBy (updatedBy a b) c = updatedBy a (updatedBy b c)
  left : ∀ a, updatedBy nothing a = a
  right : ∀ a, updatedBy a nothing = a
  again : ∀ a b, updatedBy (updatedBy a b) b = updatedBy a b

namespace LaterWins

variable {α : Type} {updatedBy : α → α → α} {nothing : α}

theorem foldl_eq (h : LaterWins updatedBy nothing) (a : α) (stated : List α) :
    stated.foldl updatedBy a = updatedBy a (stated.foldl updatedBy nothing) := by
  induction stated generalizing a with
  | nil => exact (h.right a).symm
  | cons b rest ih =>
    rw [List.foldl_cons, List.foldl_cons, ih (updatedBy a b), ih (updatedBy nothing b), h.left,
      h.assoc]

theorem foldl_foldl (h : LaterWins updatedBy nothing) (a : α) (stated : List α) :
    stated.foldl updatedBy (stated.foldl updatedBy a) = stated.foldl updatedBy a := by
  rw [h.foldl_eq a, h.foldl_eq (updatedBy a _), h.again]

theorem or {β : Type} : LaterWins (fun a b : Option β => b.or a) none where
  assoc a b c := by cases b <;> cases c <;> rfl
  left a := by cases a <;> rfl
  right a := rfl
  again a b := by cases b <;> rfl

theorem merge (h : LaterWins updatedBy nothing) : LaterWins (Option.merge updatedBy) none where
  assoc a b c := by cases a <;> cases b <;> cases c <;> simp [h.assoc]
  left a := by cases a <;> rfl
  right a := by cases a <;> rfl
  again a b := by
    have hself : ∀ x, updatedBy x x = x := fun x => by
      have hx := h.again nothing x
      rwa [h.left] at hx
    cases a <;> cases b <;> simp [h.again, hself]

end LaterWins

theorem getLast?_filterMap_cons {α β : Type} (statement? : α → Option β) (a : α) (rest : List α) :
    ((a :: rest).filterMap statement?).getLast? =
      (rest.filterMap statement?).getLast?.or (statement? a) := by
  rw [List.filterMap_cons]
  cases statement? a with
  | none => rw [Option.or_none]
  | some value =>
    rw [List.getLast?_cons]
    cases (rest.filterMap statement?).getLast? <;> rfl

/-- Where every step states something or leaves what was stated before, the last statement
counts. -/
theorem stated_foldl {α β γ : Type} {step : γ → α → γ} (stated : γ → Option β)
    (statement? : α → Option β) {all : List α}
    (h : ∀ a ∈ all, ∀ c, stated (step c a) = (statement? a).or (stated c)) (c : γ) :
    stated (all.foldl step c) = (all.filterMap statement?).getLast?.or (stated c) := by
  induction all generalizing c with
  | nil => rfl
  | cons a rest ih =>
    obtain ⟨ha, hrest⟩ := List.forall_mem_cons.1 h
    rw [List.foldl_cons, ih hrest, ha, getLast?_filterMap_cons, Option.or_assoc]

namespace Settings.Declared

def updatedBy (d e : Declared) : Declared :=
  ⟨e.timezone.or d.timezone, e.examplesDelimiter.or d.examplesDelimiter⟩

def nothing : Declared := ⟨none, none⟩

theorem laterWins : LaterWins updatedBy nothing where
  assoc d e f := by simp only [updatedBy, Option.or_assoc]
  left d := by simp only [updatedBy, nothing, Option.or_none]
  right d := by simp only [updatedBy, nothing, Option.none_or]
  again d e := by simp only [updatedBy, ← Option.or_assoc, Option.or_self]

/-- An element declares the same whatever was declared before. -/
theorem take_eq_updatedBy (d : Declared) (head : Head) :
    d.take head = d.updatedBy (nothing.take head) := by
  unfold take
  dsimp only
  split
  · split
    · simp [updatedBy, nothing]
    · simp [updatedBy, nothing]
  · exact (laterWins.right d).symm

theorem foldl_take_twice (heads : List Head) (d : Declared) :
    heads.foldl take (heads.foldl take d) = heads.foldl take d := by
  have htake : ∀ e : Declared,
      heads.foldl take e = (heads.map nothing.take).foldl updatedBy e := by
    intro e
    rw [List.foldl_map]
    exact congrArg (fun f => heads.foldl f e) (funext fun d => funext (take_eq_updatedBy d))
  rw [htake, htake, laterWins.foldl_foldl]

end Settings.Declared

theorem Settings.ofHeads_twice (before heads : List Head) :
    Settings.ofHeads (before ++ (heads ++ heads)) = Settings.ofHeads (before ++ heads) := by
  unfold Settings.ofHeads
  rw [List.foldl_append, List.foldl_append, List.foldl_append, Declared.foldl_take_twice]

namespace Semantics

def updatedBy (a b : Semantics) : Semantics :=
  ⟨b.description.or a.description, b.instruction.or a.instruction, b.examples.or a.examples⟩

theorem laterWins : LaterWins updatedBy empty where
  assoc a b c := by simp only [updatedBy, Option.or_assoc]
  left a := by simp only [updatedBy, empty, Option.or_none]
  right a := by simp only [updatedBy, empty, Option.none_or]
  again a b := by simp only [updatedBy, ← Option.or_assoc, Option.or_self]

theorem setPart_eq_updatedBy (a : Semantics) (part : SemanticPart) (raw delimiter : Text) :
    a.setPart part raw delimiter = (empty.setPart part raw delimiter).map a.updatedBy := by
  cases part with
  | description => rfl
  | instruction => rfl
  | examples =>
    unfold setPart
    cases splitExamples raw delimiter <;> rfl

def ofMeta? (delimiter : Text) (head : Head) : Except Fault (Option (Text × Semantics)) :=
  let content := (head.valueOf "content").trim
  if head.tag ≠ "meta" ∨ content.isEmpty then .ok none
  else
    match ofMetaName? (head.valueOf "name") with
    | none => .ok none
    | some (part, path) => (empty.setPart part content delimiter).map fun a => some (path, a)

/-- The annotations by path with one more. -/
def addStated (found : Keyed Semantics) (stated : Text × Semantics) : Keyed Semantics :=
  Keyed.set stated.1 (((Keyed.get? stated.1 found).getD empty).updatedBy stated.2) found

theorem takeMeta_eq_map (delimiter : Text) (found : Keyed Semantics) (head : Head) :
    takeMeta delimiter found head =
      (ofMeta? delimiter head).map fun stated => stated.toList.foldl addStated found := by
  unfold takeMeta ofMeta?
  dsimp only
  split
  · rfl
  · cases ofMetaName? (head.valueOf "name") with
    | none => rfl
    | some stated =>
      obtain ⟨part, path⟩ := stated
      simp only [setPart_eq_updatedBy ((Keyed.get? path found).getD empty)]
      cases empty.setPart part (head.valueOf "content").trim delimiter <;> rfl

theorem exists_stated (delimiter : Text) (heads : List Head) :
    ∃ stated : Except Fault (List (Text × Semantics)), ∀ found,
      heads.foldlM (takeMeta delimiter) found =
        stated.map fun all => all.foldl addStated found := by
  induction heads with
  | nil => exact ⟨.ok [], fun _ => rfl⟩
  | cons head rest ih =>
    obtain ⟨more, hmore⟩ := ih
    refine ⟨do return (← ofMeta? delimiter head).toList ++ (← more), fun found => ?_⟩
    rw [List.foldlM_cons, takeMeta_eq_map]
    cases ofMeta? delimiter head with
    | error e => rfl
    | ok first =>
      refine (hmore _).trans ?_
      cases more with
      | error e => rfl
      | ok others => exact congrArg Except.ok List.foldl_append.symm

theorem get?_addStated (key : Text) (found : Keyed Semantics) (stated : Text × Semantics) :
    Keyed.get? key (addStated found stated) = Option.merge updatedBy (Keyed.get? key found)
      (if stated.1 = key then some stated.2 else none) := by
  rw [addStated, Keyed.get?_set]
  by_cases h : key = stated.1
  · subst h
    rw [if_pos rfl, if_pos rfl]
    cases Keyed.get? stated.1 found with
    | none => exact congrArg some (laterWins.left stated.2)
    | some a => rfl
  · rw [if_neg h, if_neg (Ne.symm h)]
    cases Keyed.get? key found <;> rfl

theorem get?_foldl_addStated (key : Text) (all : List (Text × Semantics))
    (found : Keyed Semantics) :
    Keyed.get? key (all.foldl addStated found) =
      (all.map fun s => if s.1 = key then some s.2 else none).foldl (Option.merge updatedBy)
        (Keyed.get? key found) := by
  induction all generalizing found with
  | nil => rfl
  | cons s rest ih => rw [List.foldl_cons, ih, get?_addStated, List.map_cons, List.foldl_cons]

theorem mem_keys_foldl_addStated {key : Text} {all : List (Text × Semantics)}
    {found : Keyed Semantics} :
    key ∈ Keyed.keys (all.foldl addStated found) ↔
      key ∈ all.map (·.1) ∨ key ∈ Keyed.keys found := by
  induction all generalizing found with
  | nil => simp
  | cons s rest ih =>
    rw [List.foldl_cons, ih, addStated, Keyed.mem_keys_set, List.map_cons, List.mem_cons]
    constructor
    · rintro (h | h | h)
      · exact .inl (.inr h)
      · exact .inl (.inl h)
      · exact .inr h
    · rintro ((h | h) | h)
      · exact .inr (.inl h)
      · exact .inl h
      · exact .inr (.inr h)

theorem keys_foldl_addStated {all : List (Text × Semantics)} {found : Keyed Semantics}
    (h : ∀ s ∈ all, s.1 ∈ Keyed.keys found) :
    Keyed.keys (all.foldl addStated found) = Keyed.keys found := by
  induction all generalizing found with
  | nil => rfl
  | cons s rest ih =>
    obtain ⟨hs, hrest⟩ := List.forall_mem_cons.1 h
    have hkeys : Keyed.keys (addStated found s) = Keyed.keys found := by
      rw [addStated, Keyed.keys_set, if_pos hs]
    rw [List.foldl_cons, ih fun s hm => hkeys ▸ hrest s hm, hkeys]

theorem nodup_keys_foldl_addStated {found : Keyed Semantics} (h : (Keyed.keys found).Nodup)
    (all : List (Text × Semantics)) : (Keyed.keys (all.foldl addStated found)).Nodup := by
  induction all generalizing found with
  | nil => exact h
  | cons s rest ih => exact ih (Keyed.nodup_keys_set h _ _)

theorem foldl_addStated_twice {found : Keyed Semantics} (h : (Keyed.keys found).Nodup)
    (all : List (Text × Semantics)) :
    all.foldl addStated (all.foldl addStated found) = all.foldl addStated found := by
  have hkeys : ∀ s ∈ all, s.1 ∈ Keyed.keys (all.foldl addStated found) :=
    fun s hs => mem_keys_foldl_addStated.2 (.inl (List.mem_map.2 ⟨s, hs, rfl⟩))
  refine Keyed.eq_of_get? (nodup_keys_foldl_addStated h all) (keys_foldl_addStated hkeys) ?_
  intro key
  rw [get?_foldl_addStated, get?_foldl_addStated, laterWins.merge.foldl_foldl]

theorem ofHeads_twice (before heads : List Head) (delimiter : Text) :
    ofHeads (before ++ (heads ++ heads)) delimiter = ofHeads (before ++ heads) delimiter := by
  obtain ⟨first, hfirst⟩ := exists_stated delimiter before
  obtain ⟨stated, hstated⟩ := exists_stated delimiter heads
  have htwice : ∀ found : Keyed Semantics, (Keyed.keys found).Nodup →
      (heads ++ heads).foldlM (takeMeta delimiter) found =
        heads.foldlM (takeMeta delimiter) found := by
    intro found hfound
    rw [List.foldlM_append, hstated]
    cases stated with
    | error e => rfl
    | ok all => exact (hstated _).trans (congrArg Except.ok (foldl_addStated_twice hfound all))
  unfold ofHeads
  rw [List.foldlM_append, List.foldlM_append, hfirst]
  cases first with
  | error e => rfl
  | ok all =>
    have hempty : (Keyed.keys ([] : Keyed Semantics)).Nodup := List.nodup_nil
    exact htwice _ (nodup_keys_foldl_addStated hempty all)

def stated (a : Semantics) : Semantics :=
  ⟨a.description.filter (! ·.isEmpty), a.instruction.filter (! ·.isEmpty),
    a.examples.filter (! ·.isEmpty)⟩

theorem layPart_true {α : Type} (isEmpty : α → Bool) (old new : Option α) :
    layPart isEmpty true old new = (new.filter (! isEmpty ·)).or old := by
  cases new with
  | none => rfl
  | some value => cases he : isEmpty value <;> simp [layPart, he, Option.filter]

theorem lay_true (old new : Semantics) : old.lay true new = old.updatedBy new.stated := by
  simp only [lay, updatedBy, stated, layPart_true]

def layEach (overwrite : Bool) (a : Semantics) (all : List Semantics) : Semantics :=
  all.foldl (lay overwrite) a

theorem layEach_true_twice (a : Semantics) (all : List Semantics) :
    layEach true (layEach true a all) all = layEach true a all := by
  have hlay : ∀ b : Semantics, layEach true b all = (all.map stated).foldl updatedBy b := by
    intro b
    rw [List.foldl_map]
    exact congrArg (fun f => all.foldl f b) (funext fun old => funext (lay_true old))
  rw [hlay, hlay, laterWins.foldl_foldl]

end Semantics

namespace SchemaNode

theorem child?_adjust_of_ne {f : SchemaNode → SchemaNode} {step other : SchemaStep}
    (h : other ≠ step) (rest : SchemaPosition) (node : SchemaNode) :
    (adjust f (step :: rest) node).child? other = node.child? other := by
  cases step <;> cases node <;> cases other <;>
    simp_all [adjust, child?, get?_modifyKey]

theorem child?_adjust_self (f : SchemaNode → SchemaNode) (step : SchemaStep)
    (rest : SchemaPosition) (node : SchemaNode) :
    (adjust f (step :: rest) node).child? step = (node.child? step).map (adjust f rest) := by
  cases step <;> cases node <;> simp [adjust, child?, get?_modifyKey]

theorem content_at?_adjust {f : SchemaNode → SchemaNode}
    (hchild : ∀ node step, (f node).child? step = node.child? step)
    (position other : SchemaPosition) (node : SchemaNode) :
    ((adjust f position node).at? other).map content =
      (node.at? other).map fun n => if other = position then (f n).content else n.content := by
  induction position generalizing node other with
  | nil =>
    cases other with
    | nil => simp [adjust]
    | cons step rest => simp [adjust, at?_cons, hchild]
  | cons step position ih =>
    cases other with
    | nil =>
      cases step <;> cases node <;> rfl
    | cons first rest =>
      rw [at?_cons, at?_cons]
      by_cases hs : first = step
      · subst hs
        rw [child?_adjust_self]
        cases node.child? first with
        | none => rfl
        | some child => simpa using ih rest child
      · rw [child?_adjust_of_ne hs]
        have hne : ¬ first :: rest = step :: position := fun h => hs (List.cons.inj h).1
        simp only [if_neg hne]

theorem content_at?_annotateAt (path : Text) (overwrite : Bool) (new : Semantics)
    (tree : SchemaNode) (position : SchemaPosition) :
    ((tree.annotateAt path overwrite new).at? position).map content =
      ((tree.at? position).map content).map fun c =>
        (if position = .ofPath path then c.1.lay overwrite new else c.1, c.2) := by
  have hpath : SchemaPosition.ofSteps (steps path) = .ofPath path := rfl
  rw [annotateAt, modify_eq_adjust, content_at?_adjust (child?_annotate overwrite new), hpath]
  cases tree.at? position with
  | none => rfl
  | some node =>
    by_cases hp : position = .ofPath path
    · cases node <;> simp [hp, content, annotation, annotate, form, kind, leaf?]
    · simp [hp, content]

end SchemaNode

namespace Compile

/-- The annotations among some by path that apply to a position. -/
def annotationsAt (position : SchemaPosition) (all : List (Text × Semantics)) : List Semantics :=
  (all.filter fun a => position = .ofPath a.1).map (·.2)

/-- Annotations are laid over the nodes at their paths. -/
theorem content_at?_layAll (overwrite : Bool) (all : List (Text × Semantics)) (tree : SchemaNode)
    (position : SchemaPosition) :
    ((layAll overwrite all tree).at? position).map SchemaNode.content =
      ((tree.at? position).map SchemaNode.content).map fun c =>
        (c.1.layEach overwrite (annotationsAt position all), c.2) := by
  induction all generalizing tree with
  | nil => exact Option.map_id'.symm
  | cons a rest ih =>
    have hrest := ih (tree.annotateAt a.1 overwrite a.2)
    rw [SchemaNode.content_at?_annotateAt, Option.map_map] at hrest
    refine hrest.trans (congrArg (Option.map · _) (funext fun c => ?_))
    by_cases hp : position = .ofPath a.1
    · simp [annotationsAt, hp, Semantics.layEach]
    · simp [annotationsAt, hp, Semantics.layEach]

theorem saysSame_layAll {t u : SchemaNode} (h : t.SaysSame u) (overwrite : Bool)
    (all : List (Text × Semantics)) : (layAll overwrite all t).SaysSame (layAll overwrite all u) :=
  fun position => by rw [content_at?_layAll, content_at?_layAll, h position]

theorem saysSame_layAll_twice {t u : SchemaNode} (h : t.SaysSame u)
    (all : List (Text × Semantics)) :
    (layAll true (all ++ all) t).SaysSame (layAll true all u) := by
  have htwice : layAll true (all ++ all) t = layAll true all (layAll true all t) :=
    List.foldl_append
  intro position
  rw [htwice, content_at?_layAll, content_at?_layAll, content_at?_layAll, Option.map_map,
    h position]
  refine congrArg (Option.map · _) (funext fun c => ?_)
  exact congrArg (·, c.2) (Semantics.layEach_true_twice c.1 _)

end Compile
end TypedTemplate
