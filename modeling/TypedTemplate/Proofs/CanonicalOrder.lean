import TypedTemplate.Proofs.RegistrationEffects
import TypedTemplate.Proofs.CompiledSchemas

/-!
# Order of the canonical form

The canonical form of an object is the same in whatever order its fields were written. So the
canonical schema of a tree is known from what stands at each of its positions: two trees that say
the same everywhere have one schema, though they came to their properties in different orders.
-/
namespace TypedTemplate

namespace Canonical

/-- What the canonical form of an object takes from a field: its own canonical form, and
whether it has one. -/
def outcome (key : Text) (v : Value) : Value × Bool :=
  (canonicalizeField key v, isFieldOrdered key v)

def outcomes (fields : Keyed Value) : Keyed (Value × Bool) :=
  fields.map fun e => (e.1, outcome e.1 e.2)

theorem outcomes_append (fields more : Keyed Value) :
    outcomes (fields ++ more) = outcomes fields ++ outcomes more := List.map_append

theorem canonicalizeFields_eq_outcomes (fields : Keyed Value) :
    canonicalizeFields fields = (outcomes fields).map fun e => (e.1, e.2.1) := by
  rw [canonicalizeFields_eq_map, outcomes, List.map_map]
  rfl

theorem areFieldsOrdered_eq_outcomes (fields : Keyed Value) :
    areFieldsOrdered fields = (outcomes fields).all fun e => e.2.2 := by
  rw [areFieldsOrdered_eq_all, outcomes, List.all_map]
  rfl

/-- What an object comes to does not depend on the order of its fields. -/
theorem outcome_object_eq_of_perm (key : Text) {fields others : Keyed Value}
    (hk : (Keyed.keys fields).Nodup) (hp : (outcomes fields).Perm (outcomes others)) :
    outcome key (.object fields) = outcome key (.object others) := by
  have hforms : (canonicalizeFields fields).Perm (canonicalizeFields others) := by
    rw [canonicalizeFields_eq_outcomes, canonicalizeFields_eq_outcomes]
    exact hp.map _
  have hkeys : (Keyed.keys (canonicalizeFields fields)).Nodup := by
    rw [canonicalizeFields_eq_map, Keyed.keys_map]
    exact hk
  have hordered : areFieldsOrdered fields = areFieldsOrdered others := by
    rw [areFieldsOrdered_eq_outcomes, areFieldsOrdered_eq_outcomes]
    exact hp.all_eq
  simp only [outcome, canonicalizeField, isFieldOrdered, sortFields_eq_of_perm hkeys hforms,
    hordered]

theorem outcome_object_congr {key : Text} {fields others : Keyed Value}
    (h : outcomes fields = outcomes others) :
    outcome key (.object fields) = outcome key (.object others) := by
  simp only [outcome, canonicalizeField, isFieldOrdered, canonicalizeFields_eq_outcomes,
    areFieldsOrdered_eq_outcomes, h]

theorem outcome_required (names : List Text) :
    outcome "required" (.list (names.map .text)) =
      (.list ((sort Text.le names).map .text), true) := by
  simp [outcome, canonicalizeField, isFieldOrdered, sortRequired_map_text, sortRequired?,
    names?_map_text]

theorem ofValue_congr {fields others : Keyed Value} (h : outcomes fields = outcomes others) :
    ofValue (.object fields) = ofValue (.object others) := by
  simp only [ofValue, canonicalize, isOrdered, canonicalizeFields_eq_outcomes,
    areFieldsOrdered_eq_outcomes, h]

end Canonical

/-- The keywords of a leaf have a canonical form. -/
def Leaf.IsOrdered (l : Leaf) : Prop := Canonical.areFieldsOrdered l.keywords = true

instance (l : Leaf) : Decidable l.IsOrdered :=
  inferInstanceAs (Decidable (Canonical.areFieldsOrdered l.keywords = true))

theorem Leaf.IsOrdered.merge {old new : Leaf} (ho : old.IsOrdered) (hn : new.IsOrdered) :
    (old.merge new).IsOrdered := by
  unfold Leaf.merge
  split
  · exact ho
  · refine Canonical.areFieldsOrdered_iff.2 fun entry hm => ?_
    rcases Keyed.mem_or_mem_of_mem_setAll hm with hm | hm
    · exact Canonical.areFieldsOrdered_iff.1 hn entry hm
    · exact Canonical.areFieldsOrdered_iff.1 ho entry hm

namespace SchemaNode

def content (node : SchemaNode) : Semantics × SchemaKind × Option Leaf :=
  (node.annotation, node.form)

def SaysSame (t u : SchemaNode) : Prop :=
  ∀ position, (t.at? position).map content = (u.at? position).map content

theorem SaysSame.symm {t u : SchemaNode} (h : t.SaysSame u) : u.SaysSame t :=
  fun position => (h position).symm

theorem SaysSame.exists_child {t u child : SchemaNode} (h : t.SaysSame u) (step : SchemaStep)
    (hc : t.child? step = some child) :
    ∃ other, u.child? step = some other ∧ child.SaysSame other := by
  have hstep : ∀ rest, (child.at? rest).map content =
      ((u.child? step).bind (at? rest)).map content := by
    intro rest
    have hsame := h (step :: rest)
    rw [at?_cons, at?_cons, hc] at hsame
    exact hsame
  cases ho : u.child? step with
  | none =>
    rw [ho] at hstep
    cases hstep []
  | some other =>
    rw [ho] at hstep
    exact ⟨other, rfl, hstep⟩

theorem SaysSame.map_child?_eq {β : Type} {f : SchemaNode → β} {t u : SchemaNode}
    (h : t.SaysSame u) (step : SchemaStep)
    (hf : ∀ c d, t.child? step = some c → u.child? step = some d → c.SaysSame d → f c = f d) :
    (t.child? step).map f = (u.child? step).map f := by
  cases hc : t.child? step with
  | some child =>
    obtain ⟨other, ho, hsame⟩ := h.exists_child step hc
    rw [ho, Option.map_some, Option.map_some, hf child other hc ho hsame]
  | none =>
    cases hd : u.child? step with
    | none => rfl
    | some other =>
      obtain ⟨child, hchild, -⟩ := h.symm.exists_child step hd
      rw [hc] at hchild
      cases hchild

theorem saysSame_of_forms {P P' : Leaf → Prop} {t u : SchemaNode} (ht : t.Regular (· = .empty) P)
    (hu : u.Regular (· = .empty) P')
    (h : ∀ position, (t.at? position).map form = (u.at? position).map form) : t.SaysSame u := by
  have hplain : ∀ {P : Leaf → Prop} {tree : SchemaNode}, tree.Regular (· = .empty) P →
      ∀ position, (tree.at? position).map content =
        ((tree.at? position).map form).map fun f => (Semantics.empty, f) := by
    intro P tree hr position
    cases hn : tree.at? position with
    | none => rfl
    | some node =>
      have hempty : node.annotation = .empty := by
        cases hr.at? hn <;> assumption
      rw [Option.map_some, Option.map_some, Option.map_some, content, hempty]
  intro position
  rw [hplain ht, hplain hu, h]

theorem isRequired_eq_of_form {t u : SchemaNode} (h : t.form = u.form) :
    t.isRequired = u.isRequired := by
  cases t <;> cases u <;> cases h <;> rfl

theorem Regular.outcomes_fields_eq {Q Q' : Semantics → Prop} {P P' : Leaf → Prop}
    {t u : SchemaNode} (ht : t.Regular Q P) (hu : u.Regular Q' P') (h : t.SaysSame u) :
    Canonical.outcomes t.fields = Canonical.outcomes u.fields := by
  have hroot : t.content = u.content := Option.some.inj (h [])
  induction ht generalizing u with
  | leaf ha hl =>
    cases hu <;> cases hroot
    rfl
  | array ha hi ih =>
    rename_i a items
    cases hu with
    | leaf _ _ => cases hroot
    | object _ _ _ => cases hroot
    | array hb hj =>
      rename_i b others
      cases hroot
      obtain ⟨other, ho, hsame⟩ := h.exists_child .items rfl
      have hsame : items.SaysSame others := Option.some.inj ho ▸ hsame
      have hitems : Canonical.outcome "items" items.toSchema =
          Canonical.outcome "items" others.toSchema := by
        rw [toSchema_eq, toSchema_eq]
        exact Canonical.outcome_object_congr (ih hj hsame (Option.some.inj (hsame [])))
      rw [fields, fields, Canonical.outcomes_append, Canonical.outcomes_append]
      simp only [statedFields, Canonical.outcomes, List.map_cons, List.map_nil, hitems]
  | object ha hk hc ih =>
    rename_i a properties
    cases hu with
    | leaf _ _ => cases hroot
    | array _ _ => cases hroot
    | object hb hk' hc' =>
      rename_i b others
      cases hroot
      have hchildren : ∀ {β : Type} (f : Text → SchemaNode → β),
          (∀ name c d, (name, c) ∈ properties → (name, d) ∈ others → c.SaysSame d →
            f name c = f name d) →
          (properties.map fun e => (e.1, f e.1 e.2)).Perm
            (others.map fun e => (e.1, f e.1 e.2)) := by
        intro β f hf
        refine Keyed.perm_map_of_get? hk hk' fun name => ?_
        exact h.map_child?_eq (.property name) fun c d hcm hdm hsame =>
          hf name c d (Keyed.mem_of_get? hcm) (Keyed.mem_of_get? hdm) hsame
      have hproperties : Canonical.outcome "properties" (.object (propertySchemas properties)) =
          Canonical.outcome "properties" (.object (propertySchemas others)) := by
        apply Canonical.outcome_object_eq_of_perm
        · rwa [propertySchemas_eq_map, Keyed.keys_map fun _ => toSchema]
        · rw [propertySchemas_eq_map, propertySchemas_eq_map, Canonical.outcomes,
            Canonical.outcomes, List.map_map, List.map_map]
          refine hchildren (fun name node => Canonical.outcome name node.toSchema) ?_
          intro name c d hcm hdm hsame
          rw [toSchema_eq, toSchema_eq]
          exact Canonical.outcome_object_congr
            (ih name c hcm (hc' name d hdm) hsame (Option.some.inj (hsame [])))
      have hrequired : Canonical.outcome "required" (.list (requiredNames properties)) =
          Canonical.outcome "required" (.list (requiredNames others)) := by
        have hmarks := hchildren (fun _ node => node.isRequired) fun name c d _ _ hsame =>
          isRequired_eq_of_form (congrArg Prod.snd (Option.some.inj (hsame [])))
        have hnames := (hmarks.filter (·.2)).map Prod.fst
        simp only [List.filter_map, List.map_map] at hnames
        rw [requiredNames_eq_map, requiredNames_eq_map, Canonical.outcome_required,
          Canonical.outcome_required]
        exact congrArg (fun names : List Text => (Value.list (names.map .text), true))
          (Canonical.sort_names_eq_of_perm hnames)
      rw [fields, fields, Canonical.outcomes_append, Canonical.outcomes_append]
      simp only [statedFields, Canonical.outcomes, List.map_cons, List.map_nil, hproperties,
        hrequired]

/-- Trees that say the same at every position have the same canonical schema, or both none. -/
theorem Regular.ofValue_toSchema_eq {Q Q' : Semantics → Prop} {P P' : Leaf → Prop}
    {t u : SchemaNode} (ht : t.Regular Q P) (hu : u.Regular Q' P') (h : t.SaysSame u) :
    Canonical.ofValue t.toSchema = Canonical.ofValue u.toSchema := by
  rw [toSchema_eq, toSchema_eq]
  exact Canonical.ofValue_congr (ht.outcomes_fields_eq hu h)

theorem Regular.ofRoot_eq {Q Q' : Semantics → Prop} {P P' : Leaf → Prop} {t u : SchemaNode}
    (ht : t.Regular Q P) (hu : u.Regular Q' P') (h : t.SaysSame u) :
    JsonSchema.ofRoot t = JsonSchema.ofRoot u := by
  have houtcomes : Canonical.outcomes (JsonSchema.rootFields t) =
      Canonical.outcomes (JsonSchema.rootFields u) :=
    congrArg (List.cons _) (ht.outcomes_fields_eq hu h)
  rw [JsonSchema.ofRoot_eq, JsonSchema.ofRoot_eq, Canonical.canonicalize, Canonical.canonicalize,
    Canonical.canonicalizeFields_eq_outcomes, Canonical.canonicalizeFields_eq_outcomes, houtcomes]

theorem isFieldOrdered_of_mem_ofType {type : DataType} {nullable : Bool} {name : Text}
    {value : Value} (h : (name, value) ∈ Keywords.ofType type nullable) :
    Canonical.isFieldOrdered name value = true := by
  rcases List.mem_cons.1 h with h | h
  · cases h
    cases nullable <;> rfl
  · obtain ⟨format, -, he⟩ := List.mem_map.1 h
    cases he
    rfl

theorem isFieldOrdered_of_mem_ofSemantics {a : Semantics} {name : Text} {value : Value}
    (h : (name, value) ∈ Keywords.ofSemantics a) :
    Canonical.isFieldOrdered name value = true := by
  have htext : ∀ (keyword : Text) (t : Option Text),
      (name, value) ∈ Keywords.ofText keyword t →
        Canonical.isFieldOrdered name value = true := by
    intro keyword t hm
    rcases t with - | - | ⟨first, rest⟩
    · cases hm
    · cases hm
    · cases List.mem_singleton.1 hm
      rfl
  have hlist : ∀ texts : List Text, Canonical.areItemsOrdered (texts.map .text) = true := by
    intro texts
    rw [Canonical.areItemsOrdered_eq_all, List.all_map]
    exact List.all_eq_true.2 fun _ _ => rfl
  rcases List.mem_append.1 h with h | h
  · rcases List.mem_append.1 h with h | h
    · exact htext _ _ h
    · exact htext _ _ h
  · cases he : a.examples with
    | none =>
      rw [he] at h
      cases h
    | some examples =>
      rw [he] at h
      cases examples with
      | nil => cases h
      | cons first rest =>
        cases List.mem_singleton.1 h
        exact hlist (first :: rest)

theorem Regular.areFieldsOrdered_fields {Q : Semantics → Prop} {t : SchemaNode}
    (h : t.Regular Q Leaf.IsOrdered) : Canonical.areFieldsOrdered t.fields = true := by
  induction h with
  | leaf ha hl =>
    rw [Leaf.IsOrdered, Canonical.areFieldsOrdered_iff] at hl
    rw [Canonical.areFieldsOrdered_iff]
    intro entry hm
    rcases Keyed.mem_or_mem_of_mem_setAll hm with hm | hm
    · exact isFieldOrdered_of_mem_ofSemantics hm
    · rcases Keyed.mem_or_mem_of_mem_setAll hm with hm | hm
      · exact hl entry hm
      · exact isFieldOrdered_of_mem_ofType hm
  | array ha hi ih =>
    rename_i a items
    have hitems : Canonical.isFieldOrdered "items" items.toSchema = true := by
      rw [toSchema_eq]
      exact ih
    rw [Canonical.areFieldsOrdered_iff, fields, List.forall_mem_append, statedFields,
      List.forall_mem_cons, List.forall_mem_singleton]
    exact ⟨⟨rfl, hitems⟩, fun entry hm => isFieldOrdered_of_mem_ofSemantics hm⟩
  | object ha hk hc ih =>
    rename_i a properties
    have hproperties :
        Canonical.isFieldOrdered "properties" (.object (propertySchemas properties)) = true := by
      rw [Canonical.isFieldOrdered, Canonical.areFieldsOrdered_iff, propertySchemas_eq_map,
        List.forall_mem_map]
      intro entry hm
      rw [toSchema_eq]
      exact ih entry.1 entry.2 hm
    have hrequired :
        Canonical.isFieldOrdered "required" (.list (requiredNames properties)) = true := by
      have houtcome := congrArg Prod.snd
        (Canonical.outcome_required (Keyed.keys (properties.filter (·.2.isRequired))))
      rw [requiredNames_eq_map]
      exact houtcome
    rw [Canonical.areFieldsOrdered_iff, fields, List.forall_mem_append, statedFields,
      List.forall_mem_cons, List.forall_mem_cons, List.forall_mem_singleton]
    exact ⟨⟨rfl, hproperties, hrequired⟩, fun entry hm => isFieldOrdered_of_mem_ofSemantics hm⟩

end SchemaNode

end TypedTemplate
