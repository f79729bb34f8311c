import TypedTemplate.Proofs.RepeatedContent
import TypedTemplate.Proofs.LastingShapes
import TypedTemplate.Proofs.LegalKeywords
import TypedTemplate.Proofs.RequiredNames

/-!
# Laid annotations

What a schema says beside the shape of a field comes in three layers: the elements around an
interpolation, the interpolations of a field, and the meta elements. In the first two the later
statement counts, in the third the earlier one, and a part that is empty states nothing. So what
a field is annotated with is found part by part, and none of it changes what is said about data.
-/
namespace TypedTemplate

/-- The keyword under which a schema states a part of an annotation. -/
def SemanticPart.schemaKeyword : SemanticPart → Text
  | .description => "description"
  | .instruction => "x-instruction"
  | .examples => "examples"

namespace Semantics

/-- A part of an annotation as a schema states it. An empty part states nothing. -/
def statement? (a : Semantics) : SemanticPart → Option Value
  | .description => (a.description.filter (! ·.isEmpty)).map .text
  | .instruction => (a.instruction.filter (! ·.isEmpty)).map .text
  | .examples => (a.examples.filter (! ·.isEmpty)).map fun texts => .list (texts.map .text)

/-- The annotation in force inside elements, given from the outside to the inside. -/
def inForce (delimiter : Text) (around : List Head) : Except Fault (Option Semantics) :=
  around.foldlM (fun inherited head => inside head inherited delimiter) none

/-- What is stated of a part by the annotation in force inside elements. -/
def statedInside? (delimiter : Text) (part : SemanticPart) (around : List Head) : Option Value :=
  match inForce delimiter around with
  | .ok (some a) => a.statement? part
  | _ => none

/-- No part of an annotation is there and empty. -/
def IsClean (a : Semantics) : Prop := a.stated = a

theorem isClean_empty : empty.IsClean := rfl

theorem isClean_stated (a : Semantics) : a.stated.IsClean := by
  simp only [IsClean, stated, Option.filter_filter, Bool.and_self]

theorem IsClean.updatedBy {a b : Semantics} (ha : a.IsClean) (hb : b.IsClean) :
    (a.updatedBy b).IsClean := by
  obtain ⟨da, ia, ea⟩ := Semantics.mk.inj ha
  obtain ⟨db, ib, eb⟩ := Semantics.mk.inj hb
  have hor : ∀ {α : Type} {p : α → Bool} {x y : Option α}, x.filter p = x → y.filter p = y →
      (y.or x).filter p = y.or x := by
    intro α p x y hx hy
    cases y with
    | none => exact hx
    | some value => exact hy
  rw [IsClean, stated, Semantics.updatedBy, hor da db, hor ia ib, hor ea eb]

theorem lay_false (old new : Semantics) : old.lay false new = new.stated.updatedBy old := by
  have hpart : ∀ {α : Type} (isEmpty : α → Bool) (old new : Option α),
      layPart isEmpty false old new = old.or (new.filter (! isEmpty ·)) := by
    intro α isEmpty old new
    cases new with
    | none => simp [layPart]
    | some value => cases old <;> cases he : isEmpty value <;> simp [layPart, he, Option.filter]
  simp only [lay, updatedBy, stated, hpart]

theorem IsClean.lay {a : Semantics} (h : a.IsClean) (overwrite : Bool) (b : Semantics) :
    (a.lay overwrite b).IsClean := by
  cases overwrite with
  | true => exact lay_true a b ▸ h.updatedBy b.isClean_stated
  | false => exact lay_false a b ▸ b.isClean_stated.updatedBy h

variable (part : SemanticPart)

theorem statement?_stated (a : Semantics) : a.stated.statement? part = a.statement? part := by
  cases part <;> simp only [statement?, stated, Option.filter_filter, Bool.and_self]

theorem statement?_updatedBy (a : Semantics) {b : Semantics} (h : b.IsClean) :
    (a.updatedBy b).statement? part = (b.statement? part).or (a.statement? part) := by
  obtain ⟨hd, hi, he⟩ := Semantics.mk.inj h
  have hor : ∀ {α : Type} {p : α → Bool} {x y : Option α} (f : α → Value), y.filter p = y →
      ((y.or x).filter p).map f = ((y.filter p).map f).or ((x.filter p).map f) := by
    intro α p x y f hy
    rw [hy]
    cases y with
    | none => rfl
    | some value => exact congrArg (Option.map f) hy
  cases part with
  | description => exact hor _ hd
  | instruction => exact hor _ hi
  | examples => exact hor _ he

theorem statement?_lay_true (a b : Semantics) :
    (a.lay true b).statement? part = (b.statement? part).or (a.statement? part) := by
  rw [lay_true, statement?_updatedBy part a b.isClean_stated, statement?_stated]

theorem statement?_lay_false {a : Semantics} (h : a.IsClean) (b : Semantics) :
    (a.lay false b).statement? part = (a.statement? part).or (b.statement? part) := by
  rw [lay_false, statement?_updatedBy part b.stated h, statement?_stated]

/-- Of annotations that are laid over one another the last that states a part counts. -/
theorem statement?_layEach_true (a : Semantics) (all : List Semantics) :
    (layEach true a all).statement? part =
      (all.filterMap (·.statement? part)).getLast?.or (a.statement? part) := by
  have hlay : ∀ b ∈ all, ∀ c : Semantics,
      (c.lay true b).statement? part = (b.statement? part).or (c.statement? part) :=
    fun b _ c => statement?_lay_true part c b
  exact stated_foldl (fun c : Semantics => c.statement? part) _ hlay a

theorem IsClean.layEach {a : Semantics} (h : a.IsClean) (overwrite : Bool)
    (all : List Semantics) : (a.layEach overwrite all).IsClean := by
  unfold Semantics.layEach
  induction all generalizing a with
  | nil => exact h
  | cons b rest ih => exact ih (h.lay overwrite b)

/-- Of annotations that are laid under one another the first that states a part counts. -/
theorem statement?_layEach_false {a : Semantics} (h : a.IsClean) (all : List Semantics) :
    (layEach false a all).statement? part =
      (a.statement? part).or (all.filterMap (·.statement? part)).head? := by
  unfold layEach
  induction all generalizing a with
  | nil => rw [List.filterMap_nil, List.head?_nil, Option.or_none]; rfl
  | cons b rest ih =>
    rw [List.foldl_cons, ih (h.lay false b), statement?_lay_false part h, Option.or_assoc,
      List.filterMap_cons]
    cases b.statement? part <;> rfl

end Semantics

theorem SemanticPart.schemaKeyword_injective {part other : SemanticPart}
    (h : part.schemaKeyword = other.schemaKeyword) : part = other := by
  revert h
  cases part <;> cases other <;> decide

namespace Keywords

/-- The keyword of a part of an annotation, if the part states something. -/
def ofPart (a : Semantics) (part : SemanticPart) : Keyed Value :=
  (a.statement? part).toList.map ((part.schemaKeyword, ·))

theorem ofSemantics_eq_ofPart (a : Semantics) :
    ofSemantics a = ofPart a .description ++ ofPart a .instruction ++ ofPart a .examples := by
  have htext : ∀ (keyword : Text) (t : Option Text), ofText keyword t =
      ((t.filter (! ·.isEmpty)).map Value.text).toList.map ((keyword, ·)) := by
    intro keyword t
    rcases t with - | - | ⟨first, rest⟩ <;> rfl
  obtain ⟨description, instruction, examples⟩ := a
  rw [ofSemantics, htext, htext]
  rcases examples with - | - | ⟨first, rest⟩ <;> rfl

theorem get?_ofPart (a : Semantics) (part other : SemanticPart) :
    Keyed.get? other.schemaKeyword (ofPart a part) =
      if part = other then a.statement? other else none := by
  by_cases h : part = other
  · subst h
    rw [ofPart, if_pos rfl]
    cases a.statement? part with
    | none => rfl
    | some value => exact if_pos rfl
  · rw [if_neg h, Keyed.get?_eq_none_iff]
    intro hm
    obtain ⟨entry, hentry, he⟩ := List.mem_map.1 hm
    obtain ⟨value, -, rfl⟩ := List.mem_map.1 hentry
    exact h (SemanticPart.schemaKeyword_injective he)

theorem get?_ofSemantics_schemaKeyword (a : Semantics) (part : SemanticPart) :
    Keyed.get? part.schemaKeyword (ofSemantics a) = a.statement? part := by
  rw [ofSemantics_eq_ofPart, Keyed.get?_append, Keyed.get?_append, get?_ofPart, get?_ofPart,
    get?_ofPart]
  cases part <;> simp

end Keywords

namespace JsonSchema

variable {a : Semantics} {l : Leaf}

theorem canonicalizeField_statement? (a : Semantics) (part : SemanticPart) :
    (a.statement? part).map (Canonical.canonicalizeField part.schemaKeyword) =
      a.statement? part := by
  cases part with
  | description => exact Option.map_map _ _ _
  | instruction => exact Option.map_map _ _ _
  | examples =>
    rw [Semantics.statement?, Option.map_map]
    refine congrArg (Option.map · _) (funext fun texts => ?_)
    exact congrArg Value.list (Canonical.canonicalizeItems_map_text texts)

theorem field?_schemaKeyword_ofNode (h : l.IsProper) (part : SemanticPart) :
    (ofNode (.leaf a l)).field? part.schemaKeyword = a.statement? part := by
  have hnone : Keyed.get? part.schemaKeyword l.keywordFields = none := by
    have hkind : ∀ k : ConstraintKind, k.schemaKeyword ≠ part.schemaKeyword := by
      intro k
      cases part <;> cases k <;> decide
    have htype : Keyed.get? part.schemaKeyword (Keywords.ofType l.type l.nullable) = none := by
      rw [Keyed.get?_eq_none_iff]
      intro hm
      have hne : part.schemaKeyword ∉ (["type", "format"] : List Text) := by cases part <;> decide
      exact hne ((Keywords.keys_ofType l.type l.nullable).subset hm)
    rw [Leaf.get?_keywordFields h, Leaf.get?_keywords_eq_none h hkind, htype]
    rfl
  rw [field?_ofNode (.leaf h), SchemaNode.fields,
    Keyed.get?_setAll (Keywords.nodup_keys_ofSemantics a), hnone, Option.or_none,
    Keywords.get?_ofSemantics_schemaKeyword, canonicalizeField_statement?]

end JsonSchema

namespace Node

mutual

/-- The fields of a template in document order: the path that each interpolation resolves to, and
the elements around it from the outside. Rows have their number and page without it, and meta
elements hold no fields. -/
def fields (scope : StaticScope) (around : List Head) : Node → List (Text × List Head)
  | .text segments => segments.filterMap fun
    | .literal _ => none
    | .interpolation i =>
      if scope.isImplicit i.path then none else some (scope.resolve i.path, around)
  | .element head children =>
    if head.tag = "meta" then []
    else fieldsOfList (scope.inside head) (around ++ [head]) children

def fieldsOfList (scope : StaticScope) (around : List Head) :
    List Node → List (Text × List Head)
  | [] => []
  | n :: rest => fields scope around n ++ fieldsOfList scope around rest

end

mutual

theorem exists_registration_of_mem_fields {n : Node} {scope : StaticScope} {around : List Head}
    {field : Text × List Head} (h : field ∈ n.fields scope around) :
    ∃ r ∈ (n.occurrences scope).filterMap Occurrence.registration?, r.path = field.1 := by
  cases n with
  | text segments =>
    obtain ⟨segment, hm, hfield⟩ := List.mem_filterMap.1 h
    cases segment with
    | literal t => cases hfield
    | interpolation i =>
      have hi : .interpolation scope i ∈ occurrences scope (.text segments) :=
        List.mem_filterMap.2 ⟨_, hm, rfl⟩
      by_cases himplicit : scope.isImplicit i.path
      · simp [himplicit] at hfield
      · have hfield : some (scope.resolve i.path, around) = some field :=
          (if_neg himplicit).symm.trans hfield
        obtain rfl := Option.some.inj hfield
        refine ⟨_, List.mem_filterMap.2 ⟨_, hi, if_neg himplicit⟩, rfl⟩
  | element head children =>
    unfold fields at h
    unfold occurrences
    split at h
    · cases h
    · rename_i hmeta
      obtain ⟨r, hr, hp⟩ := exists_registration_of_mem_fieldsOfList h
      rw [if_neg hmeta, List.filterMap_append]
      exact ⟨r, List.mem_append_right _ hr, hp⟩

theorem exists_registration_of_mem_fieldsOfList {all : List Node} {scope : StaticScope}
    {around : List Head} {field : Text × List Head} (h : field ∈ fieldsOfList scope around all) :
    ∃ r ∈ (occurrencesOfList scope all).filterMap Occurrence.registration?, r.path = field.1 := by
  cases all with
  | nil => cases h
  | cons n rest =>
    rw [occurrencesOfList, List.filterMap_append]
    rcases List.mem_append.1 h with h | h
    · obtain ⟨r, hr, hp⟩ := exists_registration_of_mem_fields h
      exact ⟨r, List.mem_append_left _ hr, hp⟩
    · obtain ⟨r, hr, hp⟩ := exists_registration_of_mem_fieldsOfList h
      exact ⟨r, List.mem_append_right _ hr, hp⟩

end

theorem isResolved_of_mem_fields {root : Node} (hn : root.HasChains) {field : Text × List Head}
    (h : field ∈ root.fields .empty []) : Path.IsResolved field.1 := by
  obtain ⟨r, hr, hp⟩ := exists_registration_of_mem_fields h
  exact hp ▸ isResolved_of_mem_registrations hn hr

end Node

namespace Semantics

variable {delimiter : Text}

def ofField? (delimiter : Text) (field : Text × List Head) : Option (Text × Semantics) :=
  match inForce delimiter field.2 with
  | .ok (some a) => some (field.1, a)
  | _ => none

theorem ofField?_eq_map {path : Text} {around : List Head} {semantic : Option Semantics}
    (h : inForce delimiter around = .ok semantic) :
    ofField? delimiter (path, around) = semantic.map ((path, ·)) := by
  rw [ofField?, h]
  cases semantic <;> rfl

theorem inForce_concat (delimiter : Text) (around : List Head) (head : Head) :
    inForce delimiter (around ++ [head]) =
      inForce delimiter around >>= fun inherited => inside head inherited delimiter := by
  rw [inForce, List.foldlM_append]
  refine congrArg _ (funext fun inherited => ?_)
  rw [List.foldlM_cons]
  exact bind_pure _

end Semantics

namespace Compile

open Semantics (inForce ofField?)

/-- What a part of a walk through some fields adds to the annotations: those of the fields by the
elements around them, all of which have one or none. -/
structure Annotates (delimiter : Text) (fields : List (Text × List Head)) (p p' : Progress) :
    Prop where
  inForce : ∀ field ∈ fields, ∃ semantic, inForce delimiter field.2 = .ok semantic
  inline : p'.inline = p.inline ++ fields.filterMap (ofField? delimiter)

variable {delimiter : Text} {p q p' : Progress}

theorem Annotates.nothing (h : p'.inline = p.inline) : Annotates delimiter [] p p' :=
  ⟨nofun, by rw [h, List.filterMap_nil, List.append_nil]⟩

theorem Annotates.append {fields more : List (Text × List Head)}
    (h : Annotates delimiter fields p q) (hmore : Annotates delimiter more q p') :
    Annotates delimiter (fields ++ more) p p' := by
  refine ⟨List.forall_mem_append.2 ⟨h.inForce, hmore.inForce⟩, ?_⟩
  rw [hmore.inline, h.inline, List.filterMap_append, List.append_assoc]

variable {scope : StaticScope} {around : List Head} {semantic : Option Semantics}

theorem annotates_takeInterpolation (ha : inForce delimiter around = .ok semantic)
    {i : Interpolation} (h : takeInterpolation scope semantic p i = .ok p') :
    Annotates delimiter (Node.fields scope around (.text [.interpolation i])) p p' := by
  unfold takeInterpolation at h
  unfold Node.fields
  by_cases himplicit : scope.isImplicit i.path
  · rw [if_pos himplicit] at h
    obtain rfl := Except.ok.inj h
    simpa [himplicit] using Annotates.nothing rfl
  · rw [if_neg himplicit] at h
    obtain ⟨tree, -, h⟩ := Fault.bind_eq_ok_iff.1 h
    obtain rfl := Except.ok.inj h
    have hfield : ofField? delimiter (scope.resolve i.path, around) =
        semantic.map ((scope.resolve i.path, ·)) := Semantics.ofField?_eq_map ha
    simp only [List.filterMap_cons, if_neg himplicit, List.filterMap_nil]
    refine ⟨List.forall_mem_singleton.2 ⟨semantic, ha⟩, ?_⟩
    rw [List.filterMap_cons, hfield]
    cases semantic <;> rfl

theorem annotates_takeSegments (ha : inForce delimiter around = .ok semantic)
    {segments : List Segment} (h : takeSegments scope semantic segments p = .ok p') :
    Annotates delimiter (Node.fields scope around (.text segments)) p p' := by
  induction segments generalizing p with
  | nil =>
    obtain rfl := Except.ok.inj h
    exact .nothing rfl
  | cons segment rest ih =>
    have hcons : Node.fields scope around (.text (segment :: rest)) =
        Node.fields scope around (.text [segment]) ++ Node.fields scope around (.text rest) := by
      rw [Node.fields, Node.fields, Node.fields, ← List.filterMap_append]
      rfl
    rw [hcons]
    cases segment with
    | literal t => exact Annotates.append (.nothing rfl) (ih h)
    | interpolation i =>
      obtain ⟨q, hq, h⟩ := Fault.bind_eq_ok_iff.1 h
      exact (annotates_takeInterpolation ha hq).append (ih h)

theorem inline_of_takeIteration {inner : StaticScope} {iteration : Option Iteration}
    (h : takeIteration scope p iteration = .ok (inner, p')) : p'.inline = p.inline := by
  rcases takeIteration_cases scope iteration with ⟨e, he⟩ | ⟨other, hok⟩
  · rw [he] at h
    cases h
  · obtain ⟨tree, ht⟩ := hok p
    cases ht.symm.trans h
    rfl

theorem inline_of_takeCondition {condition : Option Text}
    (h : takeCondition scope p condition = .ok p') : p'.inline = p.inline := by
  rcases takeCondition_cases scope condition with ⟨e, he⟩ | hok
  · rw [he] at h
    cases h
  · obtain ⟨tree, ht⟩ := hok p
    cases ht.symm.trans h
    rfl

mutual

theorem annotates_walk {n : Node} {scope : StaticScope} {around : List Head}
    {semantic : Option Semantics} (ha : inForce delimiter around = .ok semantic)
    {p p' : Progress} (h : walk delimiter scope semantic n p = .ok p') :
    Annotates delimiter (n.fields scope around) p p' := by
  cases n with
  | text segments => exact annotates_takeSegments ha h
  | element head children =>
    unfold walk at h
    unfold Node.fields
    split at h
    · rename_i hmeta
      obtain rfl := Except.ok.inj h
      rw [if_pos hmeta]
      exact .nothing rfl
    · rename_i hmeta
      obtain ⟨inherited, hinherited, h⟩ := Fault.bind_eq_ok_iff.1 h
      obtain ⟨⟨inner, q⟩, hq, h⟩ := Fault.bind_eq_ok_iff.1 h
      obtain ⟨q', hq', h⟩ := Fault.bind_eq_ok_iff.1 h
      obtain ⟨rfl, -⟩ := tree_of_takeIteration hq
      have hin : inForce delimiter (around ++ [head]) = .ok inherited := by
        rw [Semantics.inForce_concat, ha]
        exact hinherited
      have hsame : q'.inline = p.inline :=
        (inline_of_takeCondition hq').trans (inline_of_takeIteration hq)
      rw [if_neg hmeta]
      exact (Annotates.nothing hsame).append (annotates_walkAll hin h)

theorem annotates_walkAll {all : List Node} {scope : StaticScope} {around : List Head}
    {semantic : Option Semantics} (ha : inForce delimiter around = .ok semantic)
    {p p' : Progress} (h : walkAll delimiter scope semantic all p = .ok p') :
    Annotates delimiter (Node.fieldsOfList scope around all) p p' := by
  cases all with
  | nil =>
    obtain rfl := Except.ok.inj h
    exact .nothing rfl
  | cons n rest =>
    obtain ⟨q, hq, h⟩ := Fault.bind_eq_ok_iff.1 h
    rw [Node.fieldsOfList]
    exact (annotates_walk ha hq).append (annotates_walkAll ha h)

end

/-- What the interpolations of a field state of a part, in document order. -/
def statedAt (delimiter : Text) (part : SemanticPart) (path : Text)
    (fields : List (Text × List Head)) : List Value :=
  fields.filterMap fun field =>
    if field.1 = path then Semantics.statedInside? delimiter part field.2 else none

/-- The annotations of fields that apply to a position are those of the interpolations of the
path that leads there. -/
theorem filterMap_annotationsAt {fields : List (Text × List Head)} {path : Text}
    (hp : Path.IsResolved path) (h : ∀ field ∈ fields, Path.IsResolved field.1)
    (part : SemanticPart) :
    (annotationsAt (.ofPath path) (fields.filterMap (ofField? delimiter))).filterMap
        (·.statement? part) = statedAt delimiter part path fields := by
  induction fields with
  | nil => rfl
  | cons field rest ih =>
    obtain ⟨hfield, hrest⟩ := List.forall_mem_cons.1 h
    have hpath : SchemaPosition.ofPath path = SchemaPosition.ofPath field.1 ↔ field.1 = path :=
      ⟨fun he => (SchemaPosition.eq_of_ofPath_eq hp hfield he).symm, fun he => he ▸ rfl⟩
    have hrest := ih hrest
    unfold annotationsAt statedAt at hrest ⊢
    rw [List.filterMap_cons, List.filterMap_cons, ofField?, Semantics.statedInside?]
    rcases inForce delimiter field.2 with e | - | a
    · simpa using hrest
    · simpa using hrest
    · by_cases he : field.1 = path
      · have hat := decide_eq_true (hpath.2 he)
        simp only [List.filter_cons, hat, if_true, List.map_cons, List.filterMap_cons, if_pos he,
          hrest]
      · have hat := decide_eq_false (mt hpath.1 he)
        simp only [List.filter_cons, hat, if_neg he]
        exact hrest

/-- Where no other path leads to a position, the annotations by path that apply to it are that of
the one path. -/
theorem annotationsAt_eq_toList {metas : Keyed Semantics} (hk : (Keyed.keys metas).Nodup)
    {path : Text}
    (h : ∀ other ∈ Keyed.keys metas, SchemaPosition.ofPath other = .ofPath path → other = path) :
    annotationsAt (.ofPath path) metas = (Keyed.get? path metas).toList := by
  induction metas with
  | nil => rfl
  | cons entry rest ih =>
    obtain ⟨key, a⟩ := entry
    obtain ⟨hnot, hrest⟩ := List.nodup_cons.1 hk
    obtain ⟨hkey, hothers⟩ := List.forall_mem_cons.1 h
    have hrest := ih hrest hothers
    unfold annotationsAt at hrest ⊢
    by_cases he : key = path
    · subst he
      have hnone : Keyed.get? key rest = none := Keyed.get?_eq_none_iff.2 hnot
      rw [hnone] at hrest
      simp only [List.filter_cons, decide_true, if_true, List.map_cons, hrest, Keyed.get?,
        Option.toList_none, Option.toList_some]
    · have hat : decide (SchemaPosition.ofPath path = SchemaPosition.ofPath key) = false :=
        decide_eq_false fun hp => he (hkey hp.symm)
      simp only [List.filter_cons, hat, Keyed.get?, if_neg he]
      exact hrest

theorem nodup_keys_ofHeads {heads : List Head} {metas : Keyed Semantics}
    (h : Semantics.ofHeads heads delimiter = .ok metas) : (Keyed.keys metas).Nodup := by
  obtain ⟨stated, hstated⟩ := Semantics.exists_stated delimiter heads
  rw [Semantics.ofHeads, hstated] at h
  cases stated with
  | error e => cases h
  | ok all =>
    obtain rfl := Except.ok.inj h
    have hempty : (Keyed.keys ([] : Keyed Semantics)).Nodup := List.nodup_nil
    exact Semantics.nodup_keys_foldl_addStated hempty all

variable {root : Node} {position : SchemaPosition}

theorem annotation_eq_empty_of_walk
    (hp : walk delimiter .empty none root ⟨.emptyObject, []⟩ = .ok p) {node : SchemaNode}
    (hn : p.tree.at? position = some node) : node.annotation = .empty := by
  have hregular : p.tree.Regular (· = .empty) fun _ => True := by
    rw [tree_of_walk hp]
    exact Registration.regular_foldl (Q := (· = .empty)) rfl
      (fun _ _ _ _ => ⟨trivial, fun _ _ => trivial⟩) (SchemaNode.regular_emptyObject rfl)
  cases hregular.at? hn with
  | leaf h _ => exact h
  | array h _ => exact h
  | object h _ _ => exact h

/-- What a leaf is annotated with is what the last interpolation states that states anything, and
else what the first meta element does. -/
theorem statement?_of_at? (hp : walk delimiter .empty none root ⟨.emptyObject, []⟩ = .ok p)
    {metas : Keyed Semantics} {a : Semantics} {l : Leaf}
    (hl : (layAll false metas (layAll true p.inline p.tree)).at? position = some (.leaf a l))
    (part : SemanticPart) :
    a.statement? part =
      ((annotationsAt position p.inline).filterMap (·.statement? part)).getLast?.or
        ((annotationsAt position metas).filterMap (·.statement? part)).head? := by
  have hover := content_at?_layAll true p.inline p.tree position
  have hunder := content_at?_layAll false metas (layAll true p.inline p.tree) position
  rw [hover, hl, Option.map_map, Option.map_map] at hunder
  obtain ⟨node, hnode, hcontent⟩ := Option.map_eq_some_iff.1 hunder.symm
  have hempty : node.content.1 = .empty := annotation_eq_empty_of_walk hp hnode
  have hstated : a = _ := (congrArg Prod.fst hcontent).symm
  simp only [Function.comp_apply, hempty] at hstated
  rw [hstated, Semantics.statement?_layEach_false part (Semantics.isClean_empty.layEach true _),
    Semantics.statement?_layEach_true]
  cases part <;> simp [Semantics.statement?, Semantics.empty]

/-- What the layers state of a part of a field: the last interpolation that states anything, or
else the meta elements for the path, if no other path leads to its position. -/
structure IsLaid (delimiter : Text) (fields : List (Text × List Head)) (metas : Keyed Semantics)
    (path : Text) (part : SemanticPart) (statement : Option Value) : Prop where
  stated : ∀ value, (statedAt delimiter part path fields).getLast? = some value →
    statement = some value
  else_meta : statedAt delimiter part path fields = [] →
    (∀ other ∈ Keyed.keys metas, SchemaPosition.ofPath other = .ofPath path → other = path) →
    statement = (Keyed.get? path metas).bind (·.statement? part)

/-- Every leaf of the compiled tree is annotated in layers. -/
theorem isLaid_of_at? (hn : root.HasChains)
    (hp : walk delimiter .empty none root ⟨.emptyObject, []⟩ = .ok p) {metas : Keyed Semantics}
    (hmetas : Semantics.ofHeads root.heads delimiter = .ok metas) {path : Text}
    (hpath : Path.IsResolved path) {a : Semantics} {l : Leaf}
    (hl : (layAll false metas (layAll true p.inline p.tree)).at? (.ofPath path) =
      some (.leaf a l)) (part : SemanticPart) :
    IsLaid delimiter (root.fields .empty []) metas path part (a.statement? part) := by
  have hinline : p.inline = (root.fields .empty []).filterMap (ofField? delimiter) :=
    (annotates_walk rfl hp).inline
  have hfields : (annotationsAt (.ofPath path) p.inline).filterMap (·.statement? part) =
      statedAt delimiter part path (root.fields .empty []) := by
    rw [hinline]
    exact filterMap_annotationsAt hpath (fun field hm => Node.isResolved_of_mem_fields hn hm) part
  rw [statement?_of_at? hp hl part, hfields]
  constructor
  · intro value hvalue
    rw [hvalue, Option.some_or]
  · intro hnone hothers
    rw [hnone, annotationsAt_eq_toList (nodup_keys_ofHeads hmetas) hothers, List.getLast?_nil,
      Option.none_or]
    cases Keyed.get? path metas with
    | none => rfl
    | some b =>
      rw [Option.toList_some, List.filterMap_cons, Option.bind_some]
      cases b.statement? part <;> rfl

end Compile

namespace JsonSchema

/-- Two schemas have the same positions, and at each of them the same keywords, annotations and
the keywords that lead further in aside. -/
def SaysAlike (schema other : Value) : Prop :=
  ∀ position, (at? position schema).isSome = (at? position other).isSome ∧
    ∀ sub part, at? position schema = some sub → at? position other = some part →
      ∀ key, key ∉ Keywords.annotationNames → key ∉ (["properties", "items"] : List Text) →
        sub.field? key = part.field? key

theorem neededNames_eq_of_form {properties others : Keyed SchemaNode}
    (hk : (Keyed.keys properties).Nodup) (ho : (Keyed.keys others).Nodup)
    (h : ∀ name, (Keyed.get? name properties).map SchemaNode.form =
      (Keyed.get? name others).map SchemaNode.form) :
    Validate.neededNames properties = Validate.neededNames others := by
  have hsub : ∀ {ps qs : Keyed SchemaNode}, (Keyed.keys ps).Nodup →
      (∀ name, (Keyed.get? name ps).map SchemaNode.form =
        (Keyed.get? name qs).map SchemaNode.form) →
      ∀ name ∈ Validate.neededNames ps, name ∈ Validate.neededNames qs := by
    intro ps qs hps hforms name hm
    obtain ⟨node, hnode, hr⟩ := Validate.mem_neededNames_iff.1 hm
    have hform := hforms name
    rw [Keyed.get?_of_mem hps hnode] at hform
    obtain ⟨other, hother, hsame⟩ := Option.map_eq_some_iff.1 hform.symm
    refine Validate.mem_neededNames_iff.2 ⟨other, Keyed.mem_of_get? hother, ?_⟩
    rwa [SchemaNode.isRequired_eq_of_form hsame]
  refine (pairwise_neededNames hk).eq_of_mem_iff (pairwise_neededNames ho) fun name => ⟨?_, ?_⟩
  · exact hsub hk h name
  · exact hsub ho (fun name => (h name).symm) name

theorem get?_statedFields_array {a : Semantics} {items : SchemaNode} {key : Text}
    (h : key ≠ "items") : Keyed.get? key (SchemaNode.statedFields (.array a items)) =
      Keyed.get? key [("type", .text "array")] := by
  rw [SchemaNode.statedFields, Keyed.get?, Keyed.get?, Keyed.get?, if_neg (Ne.symm h)]
  rfl

theorem get?_statedFields_object {a : Semantics} {properties : Keyed SchemaNode} {key : Text}
    (h : key ≠ "properties") :
    (Keyed.get? key (SchemaNode.statedFields (.object a properties))).map
        (Canonical.canonicalizeField key) =
      Keyed.get? key [("type", .text "object"),
        ("required", .list ((Validate.neededNames properties).map .text))] := by
  have hget : Keyed.get? key (SchemaNode.statedFields (.object a properties)) =
      Keyed.get? key [("type", .text "object"),
        ("required", .list (SchemaNode.requiredNames properties))] := by
    rw [SchemaNode.statedFields, Keyed.get?, Keyed.get?, Keyed.get?, if_neg (Ne.symm h)]
    rfl
  rw [hget, ← Keyed.get?_map Canonical.canonicalizeField,
    ← Validate.canonicalizeField_requiredNames]
  rfl

theorem field?_ofNode_eq_of_form {node other : SchemaNode} (hn : node.Proper) (ho : other.Proper)
    (h : ∀ position, (node.at? position).map SchemaNode.form =
      (other.at? position).map SchemaNode.form)
    {key : Text} (hann : key ∉ Keywords.annotationNames)
    (hinner : key ∉ (["properties", "items"] : List Text)) :
    (ofNode node).field? key = (ofNode other).field? key := by
  rw [field?_ofNode hn, field?_ofNode ho, SchemaNode.get?_fields node hann,
    SchemaNode.get?_fields other hann]
  have hform : node.form = other.form := Option.some.inj (h [])
  obtain ⟨hproperties, hitems⟩ : key ≠ "properties" ∧ key ≠ "items" := by
    simpa using hinner
  cases hn with
  | leaf hl =>
    cases ho with
    | leaf _ =>
      cases hform
      rfl
    | array _ => cases hform
    | object _ _ => cases hform
  | array hi =>
    cases ho with
    | leaf _ => cases hform
    | object _ _ => cases hform
    | array _ => rw [get?_statedFields_array hitems, get?_statedFields_array hitems]
  | object hk hc =>
    cases ho with
    | leaf _ => cases hform
    | array _ => cases hform
    | object hk' hc' =>
      have hneeded := neededNames_eq_of_form hk hk' fun name => by
        have hname := h [.property name]
        rwa [SchemaNode.at?_singleton, SchemaNode.at?_singleton] at hname
      rw [get?_statedFields_object hproperties, get?_statedFields_object hproperties, hneeded]

theorem field?_dialect_ofRoot {tree : SchemaNode} (h : tree.Proper) :
    (ofRoot tree).field? "$schema" = some (.text Metaschema.identifier) := by
  rw [ofRoot_eq]
  exact Canonical.get?_sortFields (nodup_keys_rootFields h) _

theorem saysAlike_of_form {t u : SchemaNode} (ht : t.Proper) (hu : u.Proper)
    (h : ∀ position, (t.at? position).map SchemaNode.form =
      (u.at? position).map SchemaNode.form) : SaysAlike (ofRoot t) (ofRoot u) := by
  intro position
  cases position with
  | nil =>
    refine ⟨rfl, fun sub part hsub hpart key hann hinner => ?_⟩
    obtain rfl := Option.some.inj hsub
    obtain rfl := Option.some.inj hpart
    by_cases hkey : key = "$schema".toList
    · rw [hkey, field?_dialect_ofRoot ht, field?_dialect_ofRoot hu]
    · rw [field?_ofRoot ht hkey, field?_ofRoot hu hkey]
      exact field?_ofNode_eq_of_form ht hu h hann hinner
  | cons step rest =>
    rw [at?_ofRoot ht, at?_ofRoot hu, Option.isSome_map, Option.isSome_map]
    refine ⟨?_, fun sub part hsub hpart key hann hinner => ?_⟩
    · have hsome := congrArg Option.isSome (h (step :: rest))
      rwa [Option.isSome_map, Option.isSome_map] at hsome
    · obtain ⟨node, hnode, rfl⟩ := Option.map_eq_some_iff.1 hsub
      obtain ⟨other, hother, rfl⟩ := Option.map_eq_some_iff.1 hpart
      refine field?_ofNode_eq_of_form (proper_at? ht hnode) (proper_at? hu hother) (fun inner => ?_)
        hann hinner
      have hinner := h ((step :: rest) ++ inner)
      rwa [SchemaNode.at?_append, SchemaNode.at?_append, hnode, hother] at hinner

end JsonSchema

/-- A template that compiles annotates its fields in layers. A part of the annotation of a field is
what the last interpolation states of it that states anything, by the elements around it, and if
none does and no meta element reaches the field by another path, what the meta elements state for
its path. Beside that the schema says what it says before anything is annotated. -/
theorem fields_are_annotated_in_layers {markup : Text} {root : Node} {given : Option Settings}
    {schema : Value} (hm : Node.ofMarkup markup = .ok root)
    (hs : Compile.schema given root = .ok schema) :
    ∃ settings p metas,
      Settings.inForce given root = .ok settings ∧
      Compile.walk settings.examplesDelimiter .empty none root ⟨.emptyObject, []⟩ = .ok p ∧
      Semantics.ofHeads root.heads settings.examplesDelimiter = .ok metas ∧
      JsonSchema.SaysAlike schema (JsonSchema.ofRoot p.tree) ∧
      (∀ field ∈ root.fields .empty [], ∃ semantic,
        Semantics.inForce settings.examplesDelimiter field.2 = .ok semantic) ∧
      ∀ position sub type nullable, JsonSchema.at? position schema = some sub →
        sub.field? "type" = some (Validate.typeOperand type nullable) →
        ∃ path, Path.IsResolved path ∧ .ofPath path = position ∧
          ∀ part, Compile.IsLaid settings.examplesDelimiter (root.fields .empty []) metas path part
            (sub.field? part.schemaKeyword) := by
  have hchains := Node.hasChains_of_ofMarkup hm
  rw [Compile.schema_eq_bind] at hs
  obtain ⟨settings, hsettings, hs⟩ := Fault.bind_eq_ok_iff.1 hs
  obtain ⟨t, ht, rfl⟩ := Fault.map_eq_ok_iff.1 hs
  obtain ⟨hproper, hform⟩ := Compile.tree_eq_ok ht
  have hlayers := ht
  obtain ⟨p, hp, hlayers⟩ := Fault.bind_eq_ok_iff.1 hlayers
  obtain ⟨metas, hmetas, hlayers⟩ := Fault.bind_eq_ok_iff.1 hlayers
  obtain rfl := Except.ok.inj hlayers
  have htree := Compile.tree_of_walk hp
  have hannotates : Compile.Annotates settings.examplesDelimiter (root.fields .empty []) _ p :=
    Compile.annotates_walk rfl hp
  refine ⟨settings, p, metas, hsettings, hp, hmetas, ?_, hannotates.inForce, ?_⟩
  · rw [← htree] at hform
    refine JsonSchema.saysAlike_of_form hproper ?_ hform
    exact htree ▸ Compile.proper_collect _ SchemaNode.proper_emptyObject
  · intro position sub type nullable hsub htype
    obtain ⟨node, hnode, hfield⟩ := JsonSchema.exists_node_of_at? hproper hsub
    rw [hfield "type" (by decide)] at htype
    obtain ⟨a, l, rfl, hl⟩ :=
      JsonSchema.exists_leaf_of_type (JsonSchema.proper_at? hproper hnode) htype
    obtain ⟨r, hr, rfl⟩ := Compile.exists_registration_of_at? ht hnode
    have hresolved := Node.isResolved_of_mem_registrations hchains hr
    refine ⟨r.path, hresolved, rfl, fun part => ?_⟩
    have hkeyword : part.schemaKeyword ≠ "$schema".toList := by cases part <;> decide
    rw [hfield _ hkeyword, JsonSchema.field?_schemaKeyword_ofNode hl]
    exact Compile.isLaid_of_at? hchains hp hmetas hresolved hnode part

/-- A name that is annotated around its first interpolation and around both, and a note that is
annotated by a meta element. -/
def namedAndNoted : Text :=
  "<div><section data-semantic-description='Party'>" ++
  "<p data-semantic-description='Buyer' data-semantic-instruction='Legal name'>" ++
  "\x7b\x7bname:string\x7d\x7d</p>\x7b\x7bname:string\x7d\x7d</section>" ++
  "<meta name='semantic-instruction:note' content='Be brief'>\x7b\x7bnote:string\x7d\x7d</div>"

/-- The name has its description from the second interpolation and its instruction from the first,
and the note has its instruction from the meta element. -/
theorem names_and_notes_are_annotated_in_layers : ∃ root schema name note,
    Node.ofMarkup namedAndNoted = .ok root ∧
    Compile.schema (some Settings.defaults) root = .ok schema ∧
    JsonSchema.at? [.property "name"] schema = some name ∧
    name.field? "description" = some (.text "Party") ∧
    name.field? "x-instruction" = some (.text "Legal name") ∧
    JsonSchema.at? [.property "note"] schema = some note ∧
    note.field? "x-instruction" = some (.text "Be brief") ∧
    note.field? "description" = none := by
  let delimiter := Settings.defaults.examplesDelimiter
  let noted : Keyed Semantics := [("note", ⟨none, some "Be brief", none⟩)]
  let isText (sub : Value) : Bool := sub.field? "type" = some (Validate.typeOperand .string false)
  have hread : Fault.succeedsWith (fun root => decide (
        (Compile.statedAt delimiter .description "name" (root.fields .empty [])).getLast? =
          some (.text "Party") ∧
        (Compile.statedAt delimiter .instruction "name" (root.fields .empty [])).getLast? =
          some (.text "Legal name") ∧
        (∀ part ∈ SemanticPart.all,
          Compile.statedAt delimiter part "note" (root.fields .empty []) = []) ∧
        Semantics.ofHeads root.heads delimiter = .ok noted) &&
      Fault.succeedsWith (fun schema =>
          (JsonSchema.at? [.property "name"] schema).any isText &&
            (JsonSchema.at? [.property "note"] schema).any isText)
        (Compile.schema (some Settings.defaults) root))
      (Node.ofMarkup namedAndNoted) = true := by
    decide +kernel
  obtain ⟨root, hm, hroot⟩ := Fault.exists_of_succeedsWith hread
  obtain ⟨hstated, hroot⟩ := Bool.and_eq_true_iff.1 hroot
  obtain ⟨hdescription, hinstruction, hnote, hnoted⟩ := of_decide_eq_true hstated
  obtain ⟨schema, hs, hat⟩ := Fault.exists_of_succeedsWith hroot
  obtain ⟨hname, hat⟩ := Bool.and_eq_true_iff.1 hat
  obtain ⟨name, hname, hnameType⟩ := (Option.any_eq_true _ _).1 hname
  obtain ⟨note, hnoteAt, hnoteType⟩ := (Option.any_eq_true _ _).1 hat
  obtain ⟨settings, p, metas, hsettings, -, hmetas, -, -, hleaf⟩ :=
    fields_are_annotated_in_layers hm hs
  obtain rfl := Except.ok.inj hsettings
  obtain rfl := Except.ok.inj (hnoted.symm.trans hmetas)
  obtain ⟨path, hpath, hposition, hlaid⟩ :=
    hleaf _ name _ _ hname (of_decide_eq_true hnameType)
  obtain rfl : path = "name" := SchemaPosition.eq_of_ofPath_eq hpath
    (Path.isResolved_of_isChain (by decide)) (hposition.trans (by decide))
  obtain ⟨other, hother, hplace, hlaidNote⟩ :=
    hleaf _ note _ _ hnoteAt (of_decide_eq_true hnoteType)
  obtain rfl : other = "note" := SchemaPosition.eq_of_ofPath_eq hother
    (Path.isResolved_of_isChain (by decide)) (hplace.trans (by decide))
  have honly : ∀ key ∈ Keyed.keys noted, SchemaPosition.ofPath key = .ofPath "note" →
      key = "note" := fun key hk _ => List.mem_singleton.1 hk
  refine ⟨root, schema, name, note, hm, hs, hname, ?_, ?_, hnoteAt, ?_, ?_⟩
  · exact (hlaid .description).stated _ hdescription
  · exact (hlaid .instruction).stated _ hinstruction
  · exact (hlaidNote .instruction).else_meta (hnote _ (by decide)) honly
  · exact (hlaidNote .description).else_meta (hnote _ (by decide)) honly

end TypedTemplate
