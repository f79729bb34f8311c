import TypedTemplate.Proofs.NullableLeaves
import TypedTemplate.Proofs.RepeatedRegistrations
import TypedTemplate.Proofs.SanitizedTemplates

/-!
# Legal keywords

An expression is read only if its type admits every constraint, and only with literals of that
type. The interpolations of one position are merged keyword by keyword, so what a leaf carries in
the end was stated by one of them, and is legal for the type that this one declares. The type of
the leaf is that of the last one. It is the same as long as they all declare the same type.
-/
namespace TypedTemplate

/-- Whether a type admits a constraint, with literals of that type. -/
structure Constraint.IsLegal (type : DataType) (c : Constraint) : Prop where
  kind_mem : c.kind ∈ ConstraintKind.allowed type
  choices : ∀ values, c = .choices values → ∀ value ∈ values, value.HasType type
  fixed : ∀ value, c = .fixed value → value.HasType type

namespace Expression

variable {type : DataType} {keyword raw : Text}

theorem exists_whole_of_readNumber {n : Number} (h : readNumber raw keyword true = .ok n) :
    ∃ k, n = .whole k := by
  simp only [readNumber, if_true] at h
  split at h
  · cases h
  · split at h
    · exact ⟨_, (Except.ok.inj h).symm⟩
    · split at h
      · exact ⟨_, (Except.ok.inj h).symm⟩
      · cases h

theorem hasType_of_readLiteral {value : Literal} (h : readLiteral raw type keyword = .ok value) :
    value.HasType type := by
  have hnumber : ∀ {wholeOnly : Bool}, Literal.number <$> readNumber raw keyword wholeOnly =
      .ok value → ∃ n, readNumber raw keyword wholeOnly = .ok n ∧ value = .number n := by
    intro wholeOnly hv
    cases hn : readNumber raw keyword wholeOnly with
    | error e =>
      rw [hn] at hv
      cases hv
    | ok n =>
      rw [hn] at hv
      exact ⟨n, rfl, (Except.ok.inj hv).symm⟩
  cases type with
  | integer =>
    obtain ⟨n, hn, rfl⟩ := hnumber h
    obtain ⟨k, rfl⟩ := exists_whole_of_readNumber hn
    trivial
  | number =>
    obtain ⟨n, hn, rfl⟩ := hnumber h
    cases n <;> trivial
  | boolean =>
    simp only [readLiteral] at h
    split at h
    · rw [← Except.ok.inj h]
      trivial
    · split at h
      · rw [← Except.ok.inj h]
        trivial
      · cases h
  | string | date | time | datetime =>
    rw [← Except.ok.inj h]
    trivial

theorem hasType_of_readChoices {parts : List Text} {values : List Literal}
    (h : readChoices type keyword parts = .ok values) : ∀ value ∈ values, value.HasType type := by
  induction parts generalizing values with
  | nil =>
    rw [← Except.ok.inj h]
    exact nofun
  | cons part rest ih =>
    unfold readChoices at h
    split at h
    · exact ih h
    · obtain ⟨first, hfirst, h⟩ := Fault.bind_eq_ok_iff.1 h
      obtain ⟨others, hothers, h⟩ := Fault.bind_eq_ok_iff.1 h
      rw [← Except.ok.inj h]
      exact List.forall_mem_cons.2 ⟨hasType_of_readLiteral hfirst, ih hothers⟩

theorem isLegal_of_readConstraint {c : Constraint}
    (h : readConstraint type keyword raw = .ok c) : c.IsLegal type := by
  unfold readConstraint at h
  split at h
  · cases h
  rename_i k hk
  have hmem : ∀ {kind : ConstraintKind}, ConstraintKind.resolve? type k = some kind →
      kind ∈ ConstraintKind.allowed type := fun hr =>
    List.mem_filterMap.2 ⟨k, by cases k <;> decide, hr⟩
  have hplain : ∀ {c : Constraint}, c.kind ∈ ConstraintKind.allowed type →
      (∀ values, c ≠ .choices values) → (∀ value, c ≠ .fixed value) → c.IsLegal type :=
    fun hc hchoices hfixed =>
      ⟨hc, fun values he => absurd he (hchoices values), fun value he => absurd he (hfixed value)⟩
  split at h
  case h_1 => cases h
  case h_2 hr =>
    obtain ⟨parts, -, h⟩ := Fault.bind_eq_ok_iff.1 h
    obtain ⟨values, hvalues, h⟩ := Fault.bind_eq_ok_iff.1 h
    split at h
    · cases h
    · rw [← Except.ok.inj h]
      refine ⟨hmem hr, fun others he => ?_, nofun⟩
      rw [← Constraint.choices.inj he]
      exact hasType_of_readChoices hvalues
  case h_3 hr =>
    obtain ⟨value, hvalue, h⟩ := Fault.bind_eq_ok_iff.1 h
    rw [← Except.ok.inj h]
    refine ⟨hmem hr, nofun, fun other he => ?_⟩
    rw [← Constraint.fixed.inj he]
    exact hasType_of_readLiteral hvalue
  case h_4 hr =>
    rw [← Except.ok.inj h]
    exact hplain (hmem hr) nofun nofun
  all_goals
    rename_i hr
    obtain ⟨n, -, h⟩ := Fault.bind_eq_ok_iff.1 h
    rw [← Except.ok.inj h]
    exact hplain (hmem hr) nofun nofun

theorem exists_readConstraint_of_readEntries {entries : List Text} {constraints : List Constraint}
    (h : readEntries type entries = .ok constraints) {c : Constraint} (hc : c ∈ constraints) :
    ∃ keyword raw, readConstraint type keyword raw = .ok c := by
  induction entries generalizing constraints with
  | nil =>
    rw [← Except.ok.inj h] at hc
    cases hc
  | cons entry rest ih =>
    unfold readEntries at h
    split at h
    · cases h
    · obtain ⟨first, hfirst, h⟩ := Fault.bind_eq_ok_iff.1 h
      obtain ⟨others, hothers, h⟩ := Fault.bind_eq_ok_iff.1 h
      rw [← Except.ok.inj h] at hc
      rcases List.mem_cons.1 hc with rfl | hc
      · exact ⟨_, _, hfirst⟩
      · exact ih hothers hc

/-- Every constraint of an interpolation is what is read, for its type, from some keyword and its
value. -/
theorem exists_readConstraint_of_read {i : Interpolation} (h : read raw = .ok i) {c : Constraint}
    (hc : c ∈ i.constraints) : ∃ keyword raw, readConstraint i.type keyword raw = .ok c := by
  obtain ⟨_, body, _, -, hconstraints, -⟩ := exists_parts_of_read h
  unfold readConstraints at hconstraints
  split at hconstraints
  · rw [← Except.ok.inj hconstraints] at hc
    cases hc
  · obtain ⟨entries, -, hentries⟩ := Fault.bind_eq_ok_iff.1 hconstraints
    exact exists_readConstraint_of_readEntries hentries hc

theorem isLegal_of_read {i : Interpolation} (h : read raw = .ok i) :
    ∀ c ∈ i.constraints, c.IsLegal i.type := by
  intro c hc
  obtain ⟨_, _, hread⟩ := exists_readConstraint_of_read h hc
  exact isLegal_of_readConstraint hread

end Expression

/-- Whether what a leaf says comes from some interpolations, or from conditions only. -/
structure Leaf.IsStatedBy (all : List Interpolation) (l : Leaf) : Prop where
  keywords : ∀ name operand, (name, operand) ∈ l.keywords →
    ∃ i ∈ all, ∃ c ∈ i.constraints, name = c.kind.schemaKeyword ∧ operand = c.operand
  type : (l.conditional = true ∧ l.keywords = []) ∨
    (l.conditional = false ∧ ∃ i ∈ all, l.type = i.type)

namespace Leaf.IsStatedBy

variable {all : List Interpolation}

theorem condition : Leaf.condition.IsStatedBy all := ⟨nofun, .inl ⟨rfl, rfl⟩⟩

theorem ofInterpolation {i : Interpolation} (hi : i ∈ all) :
    (Leaf.ofInterpolation i).IsStatedBy all := by
  refine ⟨fun name operand he => ?_, .inr ⟨rfl, i, hi, rfl⟩⟩
  rcases Keyed.mem_or_mem_of_mem_setAll he with he | he
  · obtain ⟨c, hc, he⟩ := List.mem_map.1 he
    obtain ⟨rfl, rfl⟩ := Prod.mk.inj he
    exact ⟨i, hi, c, hc, rfl, rfl⟩
  · cases he

theorem merge {old new : Leaf} (ho : old.IsStatedBy all) (hn : new.IsStatedBy all) :
    (old.merge new).IsStatedBy all := by
  unfold Leaf.merge
  split
  · exact ho
  · rename_i hkept
    refine ⟨fun name operand he => ?_, ?_⟩
    · rcases Keyed.mem_or_mem_of_mem_setAll he with he | he
      · exact hn.keywords name operand he
      · exact ho.keywords name operand he
    · rcases hn.type with ⟨hnew, hnone⟩ | htype
      · have hold : old.conditional = true := by simpa [hnew] using hkept
        rcases ho.type with ⟨-, hempty⟩ | ⟨hfalse, -⟩
        · exact .inl ⟨hnew, by rw [hnone, hempty]; rfl⟩
        · rw [hold] at hfalse
          cases hfalse
      · exact .inr htype

end Leaf.IsStatedBy

/-- What every leaf meets that is put somewhere, and keeps when another is merged into it, the
leaf meets that stands there in the end. -/
theorem Effect.onAll_leaf_induction {Good : Leaf → Prop} {effects : List Effect}
    (h : ∀ e ∈ effects, ∀ l ∈ e.leaf?, Good l ∧ ∀ old, Good old → Good (old.merge l))
    {cell : Option Form} (hcell : ∀ l ∈ cell.bind Prod.snd, Good l) :
    ∀ l ∈ (onAll effects cell).bind Prod.snd, Good l := by
  induction effects generalizing cell with
  | nil => exact hcell
  | cons e rest ih =>
    obtain ⟨he, hrest⟩ := List.forall_mem_cons.1 h
    rw [onAll_cons]
    refine ih hrest fun l hl => ?_
    cases e with
    | keep => exact hcell l hl
    | clear => cases hl
    | hold kind => cases hl
    | offer =>
      cases cell with
      | none => cases hl
      | some f => exact hcell l hl
    | put new =>
      obtain ⟨hnew, hmerge⟩ := he new rfl
      rcases cell with - | ⟨kind, - | old⟩
      · exact Option.some.inj hl ▸ hnew
      · exact Option.some.inj hl ▸ hnew
      · exact Option.some.inj hl ▸ hmerge old (hcell old rfl)

theorem Registration.eq_position_of_leaf?_effect {r : Registration} {other : SchemaPosition}
    {l : Leaf} (h : (r.effect other).leaf? = some l) : other = r.position := by
  have hending : ∀ other, (r.ending other).leaf? = some l → other = [] := by
    intro other ho
    cases r with
    | leaf path new => cases other <;> first | rfl | cases ho
    | array path => rcases other with _ | ⟨_ | _, _ | _⟩ <;> cases ho
  have halong : ∀ position other,
      (SchemaPosition.effectAlong r.ending position other).leaf? = some l → other = position := by
    intro position
    induction position with
    | nil => exact hending
    | cons step rest ih =>
      intro other ho
      cases other with
      | nil => cases ho
      | cons first more =>
        rw [SchemaPosition.effectAlong] at ho
        split at ho
        · rename_i hs
          rw [hs, ih more ho]
        · split at ho <;> cases ho
  exact halong _ _ h

/-- The interpolation that an occurrence is, if it asks for a certain position. -/
def Occurrence.interpolationAt? (position : SchemaPosition) : Occurrence → Option Interpolation
  | .interpolation scope i =>
    if scope.isImplicit i.path = false ∧ SchemaPosition.ofPath (scope.resolve i.path) = position
    then some i else none
  | _ => none

def Node.interpolationsAt (root : Node) (position : SchemaPosition) : List Interpolation :=
  (root.occurrences .empty).filterMap (Occurrence.interpolationAt? position)

/-- The leaf that a registration brings is stated by an interpolation of its position, or is that
of a condition. -/
theorem Node.isStatedBy_of_mem_registrations {root : Node} {r : Registration}
    (hr : r ∈ root.registrations) {l : Leaf} (hl : r.leaf? = some l) :
    l.IsStatedBy (root.interpolationsAt r.position) := by
  obtain ⟨o, ho, hr⟩ := List.mem_filterMap.1 hr
  cases o with
  | iteration scope i =>
    obtain rfl := Option.some.inj hr
    cases hl
  | condition scope path =>
    rw [Occurrence.registration?] at hr
    split at hr
    · cases hr
    · obtain rfl := Option.some.inj hr
      obtain rfl := Option.some.inj hl
      exact .condition
  | interpolation scope i =>
    rw [Occurrence.registration?] at hr
    split at hr
    · cases hr
    · rename_i himplicit
      obtain rfl := Option.some.inj hr
      obtain rfl := Option.some.inj hl
      refine .ofInterpolation (List.mem_filterMap.2 ⟨_, ho, ?_⟩)
      rw [Bool.not_eq_true] at himplicit
      exact if_pos ⟨himplicit, rfl⟩

namespace Compile

variable {settings : Settings} {root : Node} {t : SchemaNode} {position : SchemaPosition}
  {a : Semantics} {l : Leaf}

/-- What every leaf meets that a registration of a position brings, and keeps when another is
merged into it, the leaf meets that the compiled tree has there. -/
theorem leaf_induction {motive : Leaf → Prop} (ht : tree settings root = .ok t)
    (h : ∀ r ∈ root.registrations, r.position = position →
      ∀ new, r.leaf? = some new → motive new ∧ ∀ old, motive old → motive (old.merge new))
    (hl : t.at? position = some (.leaf a l)) : motive l := by
  have hfold := Registration.form_at?_foldl root.registrations .emptyObject position
  have hform : some (SchemaKind.leaf, some l) = Effect.onAll
      (root.registrations.map (·.effect position))
      ((SchemaNode.emptyObject.at? position).map SchemaNode.form) :=
    (congrArg (Option.map SchemaNode.form) hl).symm.trans (((tree_eq_ok ht).2 position).trans hfold)
  have hput : ∀ e ∈ root.registrations.map (·.effect position), ∀ new ∈ e.leaf?,
      motive new ∧ ∀ old : Leaf, motive old → motive (old.merge new) := by
    intro e he new hnew
    obtain ⟨r, hr, rfl⟩ := List.mem_map.1 he
    exact h r hr (Registration.eq_position_of_leaf?_effect hnew).symm new
      (Registration.leaf?_of_leaf?_effect hnew)
  have hfirst : ∀ old ∈ ((SchemaNode.emptyObject.at? position).map SchemaNode.form).bind Prod.snd,
      motive old := by
    intro old hold
    cases position with
    | nil => cases hold
    | cons step rest =>
      rw [SchemaNode.at?_emptyObject] at hold
      cases hold
  exact Effect.onAll_leaf_induction hput hfirst l (by rw [← hform]; rfl)

/-- A leaf of the compiled tree says what the interpolations of its position state. -/
theorem isStatedBy_of_at? (ht : tree settings root = .ok t)
    (hl : t.at? position = some (.leaf a l)) : l.IsStatedBy (root.interpolationsAt position) := by
  refine leaf_induction ht (fun r hr hp new hnew => ?_) hl
  have hstated := hp ▸ Node.isStatedBy_of_mem_registrations hr hnew
  exact ⟨hstated, fun old ho => ho.merge hstated⟩

theorem exists_registration_of_at? (ht : tree settings root = .ok t)
    (hl : t.at? position = some (.leaf a l)) : ∃ r ∈ root.registrations, r.position = position :=
  leaf_induction (motive := fun _ => ∃ r ∈ root.registrations, r.position = position) ht
    (fun r hr hp _ _ => ⟨⟨r, hr, hp⟩, fun _ h => h⟩) hl

end Compile

namespace Node

mutual

theorem exists_read_of_mem_occurrences : ∀ {n : Node}, n.IsSanitized → ∀ {scope inner : StaticScope}
    {i : Interpolation}, .interpolation inner i ∈ n.occurrences scope →
    ∃ raw, Expression.read raw = .ok i
  | .text segments, .text hread, scope, inner, i, hi => by
    obtain ⟨segment, hm, hsegment⟩ := List.mem_filterMap.1 hi
    cases segment with
    | literal t => cases hsegment
    | interpolation j =>
      obtain ⟨rfl, rfl⟩ := Occurrence.interpolation.inj (Option.some.inj hsegment)
      exact hread j hm
  | .element head children, .element _ _ hall, scope, inner, i, hi => by
    rw [occurrences] at hi
    split at hi
    · cases hi
    · rcases List.mem_append.1 hi with hi | hi
      · rcases List.mem_append.1 hi with hi | hi
        · obtain ⟨iteration, -, he⟩ := List.mem_map.1 hi
          cases he
        · obtain ⟨path, -, he⟩ := List.mem_map.1 hi
          cases he
      · exact exists_read_of_mem_occurrencesOfList hall hi

theorem exists_read_of_mem_occurrencesOfList : ∀ {all : List Node}, (∀ n ∈ all, n.IsSanitized) →
    ∀ {scope inner : StaticScope} {i : Interpolation},
    .interpolation inner i ∈ occurrencesOfList scope all → ∃ raw, Expression.read raw = .ok i
  | [], _, _, _, _, hi => by cases hi
  | n :: rest, hall, scope, inner, i, hi => by
    obtain ⟨hn, hrest⟩ := List.forall_mem_cons.1 hall
    rcases List.mem_append.1 hi with hi | hi
    · exact exists_read_of_mem_occurrences hn hi
    · exact exists_read_of_mem_occurrencesOfList hrest hi

end

theorem isLegal_of_mem_interpolationsAt {root : Node} (h : root.IsSanitized)
    {position : SchemaPosition} {i : Interpolation} (hi : i ∈ root.interpolationsAt position) :
    ∀ c ∈ i.constraints, c.IsLegal i.type := by
  obtain ⟨o, ho, hi⟩ := List.mem_filterMap.1 hi
  cases o with
  | iteration scope j => cases hi
  | condition scope path => cases hi
  | interpolation scope j =>
    rw [Occurrence.interpolationAt?] at hi
    split at hi
    · obtain rfl := Option.some.inj hi
      obtain ⟨raw, hraw⟩ := exists_read_of_mem_occurrences h ho
      exact Expression.isLegal_of_read hraw
    · cases hi

end Node

namespace JsonSchema

variable {a : Semantics} {l : Leaf}

theorem field?_constraint_ofNode (h : l.IsProper) (k : ConstraintKind) :
    (ofNode (.leaf a l)).field? k.schemaKeyword = Keyed.get? k.schemaKeyword l.keywords := by
  cases hk : Keyed.get? k.schemaKeyword l.keywords with
  | none => exact (field?_constraint_eq_none_iff h k).2 hk
  | some operand =>
    have hann : k.schemaKeyword ∉ Keywords.annotationNames := by cases k <;> decide
    obtain ⟨c, hc, rfl⟩ := h.ofConstraint _ _ (Keyed.mem_of_get? hk)
    rw [field?_ofNode (.leaf h), SchemaNode.get?_fields _ hann, SchemaNode.statedFields,
      Leaf.get?_keywordFields h, hk, Option.some_or, Option.map_some, hc,
      Validate.canonicalizeField_operand]

theorem field?_format_ofNode (h : l.IsProper) :
    (ofNode (.leaf a l)).field? "format" = (Keywords.format? l.type).map Value.text := by
  have hnone : Keyed.get? "format" l.keywords = none :=
    Leaf.get?_keywords_eq_none h (schemaKeyword_ne (by decide))
  rw [field?_ofNode (.leaf h), SchemaNode.get?_fields _ (by decide), SchemaNode.statedFields,
    Leaf.get?_keywordFields h, hnone, Option.none_or]
  cases l.type <;> rfl

end JsonSchema

/-- In the schema of a template that is read, every part that is neither that of an array nor that
of an object has a declared type, and each of its constraints was stated by an interpolation of
its position: the type that this interpolation declares admits it, and choices and fixed values
are literals of that type. If all interpolations of the position declare the same type, it is the
type of the part that admits them. -/
theorem constraints_are_legal_for_the_type_that_states_them {markup : Text} {root : Node}
    {given : Option Settings} {schema : Value} (hm : Node.ofMarkup markup = .ok root)
    (hs : Compile.schema given root = .ok schema) {position : SchemaPosition} {sub : Value}
    (hsub : JsonSchema.at? position schema = some sub) :
    sub.field? "type" = some (.text "array") ∨ sub.field? "type" = some (.text "object") ∨
    ∃ type nullable, sub.field? "type" = some (Validate.typeOperand type nullable) ∧
      sub.field? "format" = (Keywords.format? type).map Value.text ∧
      (∀ kind operand, sub.field? (ConstraintKind.schemaKeyword kind) = some operand →
        ∃ i ∈ root.interpolationsAt position, ∃ c ∈ i.constraints,
          c.kind = kind ∧ c.operand = operand ∧ c.IsLegal i.type) ∧
      ((∀ i ∈ root.interpolationsAt position, ∀ j ∈ root.interpolationsAt position,
          i.type = j.type) →
        ∀ kind operand, sub.field? (ConstraintKind.schemaKeyword kind) = some operand →
          ∃ c : Constraint, c.kind = kind ∧ c.operand = operand ∧ c.IsLegal type) := by
  obtain ⟨settings, t, ht, rfl⟩ := Compile.schema_eq_ok hs
  have hproper := (Compile.tree_eq_ok ht).1
  obtain ⟨node, hnode, hfield⟩ := JsonSchema.exists_node_of_at? hproper hsub
  have hnodeProper := JsonSchema.proper_at? hproper hnode
  have htype : sub.field? "type" = some (JsonSchema.typeOf node) :=
    (hfield "type" (by decide)).trans (JsonSchema.field?_type_ofNode hnodeProper)
  cases node with
  | array a items => exact .inl htype
  | object a properties => exact .inr (.inl htype)
  | leaf a l =>
    have hl : l.IsProper := by
      cases hnodeProper with
      | leaf h => exact h
    have hstated := Compile.isStatedBy_of_at? ht hnode
    have hlegal : ∀ kind operand,
        sub.field? (ConstraintKind.schemaKeyword kind) = some operand →
        ∃ i ∈ root.interpolationsAt position, ∃ c ∈ i.constraints,
          c.kind = kind ∧ c.operand = operand ∧ c.IsLegal i.type := by
      intro kind operand hk
      have hne : kind.schemaKeyword ≠ "$schema".toList := by cases kind <;> decide
      rw [hfield _ hne, JsonSchema.field?_constraint_ofNode hl] at hk
      obtain ⟨i, hi, c, hc, hkind, rfl⟩ := hstated.keywords _ _ (Keyed.mem_of_get? hk)
      exact ⟨i, hi, c, hc, (ConstraintKind.schemaKeyword_injective hkind).symm, rfl,
        Node.isLegal_of_mem_interpolationsAt (Node.isSanitized_of_ofMarkup hm) hi c hc⟩
    refine .inr (.inr ⟨l.type, l.nullable, htype, ?_, hlegal, ?_⟩)
    · exact (hfield "format" (by decide)).trans (JsonSchema.field?_format_ofNode hl)
    · intro hsame kind operand hk
      obtain ⟨i, hi, c, -, hkind, hoperand, hc⟩ := hlegal kind operand hk
      refine ⟨c, hkind, hoperand, ?_⟩
      rcases hstated.type with ⟨-, hnone⟩ | ⟨-, j, hj, hlast⟩
      · have hne : kind.schemaKeyword ≠ "$schema".toList := by cases kind <;> decide
        rw [hfield _ hne, JsonSchema.field?_constraint_ofNode hl, hnone] at hk
        cases hk
      · rwa [hlast, hsame j hj i hi]

def chosenAndBounded : Text :=
  "<p>\x7b\x7bx:integer (enum:1,2)\x7d\x7d\x7b\x7bx:integer (min:0)\x7d\x7d</p>"

/-- Both constraints of the number are legal for its type. -/
theorem constraints_of_chosen_and_bounded_number_are_legal : ∃ root schema sub,
    Node.ofMarkup chosenAndBounded = .ok root ∧
    Compile.schema (some Settings.defaults) root = .ok schema ∧
    JsonSchema.at? [.property "x"] schema = some sub ∧
    sub.field? "enum" = some (.list [.ofInt 1, .ofInt 2]) ∧
    sub.field? "minimum" = some (.ofInt 0) ∧
    ∃ type nullable, sub.field? "type" = some (Validate.typeOperand type nullable) ∧
      ∀ kind operand, sub.field? (ConstraintKind.schemaKeyword kind) = some operand →
        ∃ c : Constraint, c.kind = kind ∧ c.operand = operand ∧ c.IsLegal type := by
  let stated (sub : Value) : Bool := decide (sub.field? "type" = some (.text "integer") ∧
    sub.field? "enum" = some (.list [.ofInt 1, .ofInt 2]) ∧
    sub.field? "minimum" = some (.ofInt 0))
  have hread : Fault.succeedsWith (fun root => decide (
      ∀ i ∈ root.interpolationsAt [.property "x"], ∀ j ∈ root.interpolationsAt [.property "x"],
        i.type = j.type) && Fault.succeedsWith
          (fun schema => (JsonSchema.at? [.property "x"] schema).any stated)
          (Compile.schema (some Settings.defaults) root))
      (Node.ofMarkup chosenAndBounded) = true := by
    decide +kernel
  obtain ⟨root, hm, hroot⟩ := Fault.exists_of_succeedsWith hread
  obtain ⟨hsame, hroot⟩ := Bool.and_eq_true_iff.1 hroot
  obtain ⟨schema, hs, hat⟩ := Fault.exists_of_succeedsWith hroot
  obtain ⟨sub, hsub, hstated⟩ := (Option.any_eq_true _ _).1 hat
  obtain ⟨htype, henum, hminimum⟩ := of_decide_eq_true hstated
  refine ⟨root, schema, sub, hm, hs, hsub, henum, hminimum, ?_⟩
  rcases constraints_are_legal_for_the_type_that_states_them hm hs hsub with
    harray | hobject | ⟨type, nullable, hsubtype, -, -, hlegal⟩
  · exact absurd (htype.symm.trans harray) (by decide)
  · exact absurd (htype.symm.trans hobject) (by decide)
  · exact ⟨type, nullable, hsubtype, hlegal (of_decide_eq_true hsame)⟩

def textThenNumber : Text :=
  "<p>\x7b\x7bx:string (min:2)\x7d\x7d\x7b\x7bx:integer\x7d\x7d</p>"

/-- What was stated of the text stays with the number, whose type does not admit it. -/
theorem number_has_least_length : ∃ root schema sub,
    Node.ofMarkup textThenNumber = .ok root ∧
    Compile.schema (some Settings.defaults) root = .ok schema ∧
    JsonSchema.at? [.property "x"] schema = some sub ∧
    sub.field? "type" = some (Validate.typeOperand .integer false) ∧
    sub.field? (ConstraintKind.schemaKeyword .minLength) = some (.ofInt 2) ∧
    ConstraintKind.minLength ∉ ConstraintKind.allowed .integer := by
  let stated (sub : Value) : Bool := decide (
    sub.field? "type" = some (Validate.typeOperand .integer false) ∧
    sub.field? (ConstraintKind.schemaKeyword .minLength) = some (.ofInt 2))
  have hcompiled : Fault.succeedsWith
      (fun schema => (JsonSchema.at? [.property "x"] schema).any stated)
      (Node.ofMarkup textThenNumber >>= Compile.schema (some Settings.defaults)) = true := by
    decide +kernel
  obtain ⟨schema, hs, hat⟩ := Fault.exists_of_succeedsWith hcompiled
  obtain ⟨root, hm, hs⟩ := Fault.bind_eq_ok_iff.1 hs
  obtain ⟨sub, hsub, hstated⟩ := (Option.any_eq_true _ _).1 hat
  obtain ⟨htype, hlength⟩ := of_decide_eq_true hstated
  exact ⟨root, schema, sub, hm, hs, hsub, htype, hlength, by decide⟩

end TypedTemplate
