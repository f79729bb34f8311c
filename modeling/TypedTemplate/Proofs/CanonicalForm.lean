import TypedTemplate.Proofs.SortedFields
import Mathlib.Data.List.Perm.Basic

/-!
# Canonical form

The canonical form of a value differs from it in the order of fields and of `required` lists
only, and values that differ only so have one canonical form. What may differ is a relation with
a step for each kind of move: that a step changes no canonical form is an induction over the
steps, that the canonical form can be reached is one over the value.
-/
namespace TypedTemplate

namespace Value

def HoldsTexts (v : Value) : Prop :=
  ∀ entries, v = .list entries → ∀ u ∈ entries, ∃ name, u = .text name

/-- A value whose objects have every key once and hold nothing but texts in a list at the key
`required`. -/
inductive Sortable : Value → Prop where
  | atom {v : Value} (h : v.isNested = false) : Sortable v
  | list {items : List Value} (h : ∀ v ∈ items, Sortable v) : Sortable (.list items)
  | object {fields : Keyed Value} (hkeys : (Keyed.keys fields).Nodup)
      (hnames : ∀ e ∈ fields, e.1 = "required" → e.2.HoldsTexts)
      (h : ∀ e ∈ fields, Sortable e.2) : Sortable (.object fields)

/-- Equality up to the order of the fields of objects and of the entries of lists at the key
`required`, at any depth. -/
inductive Rearranged : Value → Value → Prop where
  | refl (v : Value) : Rearranged v v
  | trans {u v w : Value} (huv : Rearranged u v) (hvw : Rearranged v w) : Rearranged u w
  | fields {fields others : Keyed Value} (h : fields.Perm others) :
      Rearranged (.object fields) (.object others)
  | required (before after : Keyed Value) {entries others : List Value}
      (h : entries.Perm others) :
      Rearranged (.object (before ++ (("required" : Text), .list entries) :: after))
        (.object (before ++ (("required" : Text), .list others) :: after))
  | item (before after : List Value) {v w : Value} (h : Rearranged v w) :
      Rearranged (.list (before ++ v :: after)) (.list (before ++ w :: after))
  | value (before after : Keyed Value) (key : Text) {v w : Value} (h : Rearranged v w) :
      Rearranged (.object (before ++ (key, v) :: after)) (.object (before ++ (key, w) :: after))

def isFlat : Value → Bool
  | .object _ => false
  | .list items => items.all fun v => !v.isNested
  | _ => true

theorem isFlat_of_not_isNested {v : Value} (h : v.isNested = false) : v.isFlat = true := by
  cases v with
  | null | bool _ | number _ | text _ => rfl
  | list _ | object _ => cases h

theorem HoldsTexts.isFlat {entries : List Value} (h : (Value.list entries).HoldsTexts) :
    (Value.list entries).isFlat = true := by
  refine List.all_eq_true.2 fun v hv => ?_
  obtain ⟨name, rfl⟩ := h entries rfl v hv
  rfl

theorem HoldsTexts.perm {entries others : List Value} (h : (Value.list entries).HoldsTexts)
    (hp : entries.Perm others) : (Value.list others).HoldsTexts := by
  intro _ he v hv
  cases he
  exact h entries rfl v (hp.mem_iff.2 hv)

theorem exists_eq_map_text {entries : List Value} (h : ∀ v ∈ entries, ∃ name, v = .text name) :
    ∃ names : List Text, entries = names.map .text := by
  induction entries with
  | nil => exact ⟨[], rfl⟩
  | cons v rest ih =>
    obtain ⟨name, rfl⟩ := h v List.mem_cons_self
    obtain ⟨names, rfl⟩ := ih fun u hu => h u (List.mem_cons_of_mem _ hu)
    exact ⟨name :: names, rfl⟩

namespace Rearranged

theorem symm {v w : Value} (h : Rearranged v w) : Rearranged w v := by
  induction h with
  | refl v => exact refl v
  | trans _ _ huv hvw => exact hvw.trans huv
  | fields h => exact fields h.symm
  | required before after h => exact required before after h.symm
  | item before after _ ih => exact item before after ih
  | value before after key _ ih => exact value before after key ih

theorem eq_of_isFlat {v w : Value} (h : Rearranged v w) (hv : v.isFlat = true) : w = v := by
  induction h with
  | refl v => rfl
  | trans _ _ huv hvw =>
    obtain rfl := huv hv
    exact hvw hv
  | fields h => cases hv
  | required before after h => cases hv
  | item before after _ ih =>
    rename_i v w _
    have hatom : (!v.isNested) = true := List.all_eq_true.1 hv v (by simp)
    rw [ih (isFlat_of_not_isNested (by simpa using hatom))]
  | value before after key _ ih => cases hv

theorem exists_list {v w : Value} (h : Rearranged v w) {others : List Value}
    (hw : w = .list others) : ∃ entries, v = .list entries := by
  induction h generalizing others with
  | refl v => exact ⟨others, hw⟩
  | trans _ _ huv hvw =>
    obtain ⟨entries, hv⟩ := hvw hw
    exact huv hv
  | item before after _ _ => exact ⟨_, rfl⟩
  | fields h => cases hw
  | required before after h => cases hw
  | value before after key _ _ => cases hw

theorem eq_of_holdsTexts {v w : Value} (h : Rearranged v w) (hv : v.HoldsTexts)
    {others : List Value} (hw : w = .list others) : w = v := by
  obtain ⟨entries, rfl⟩ := h.exists_list hw
  exact h.eq_of_isFlat hv.isFlat

theorem holdsTexts {v w : Value} (h : Rearranged v w) (hv : v.HoldsTexts) : w.HoldsTexts := by
  intro others hw
  have heq : w = v := h.eq_of_holdsTexts hv hw
  exact hv others (heq.symm.trans hw)

end Rearranged

namespace Sortable

theorem list_iff {items : List Value} : Sortable (.list items) ↔ ∀ v ∈ items, Sortable v := by
  constructor
  · intro h
    cases h with
    | atom h => cases h
    | list h => exact h
  · exact .list

theorem object_iff {fields : Keyed Value} :
    Sortable (.object fields) ↔ (Keyed.keys fields).Nodup ∧
      ∀ e ∈ fields, (e.1 = "required" → e.2.HoldsTexts) ∧ Sortable e.2 := by
  constructor
  · intro h
    cases h with
    | atom h => cases h
    | object hkeys hnames h => exact ⟨hkeys, fun e he => ⟨hnames e he, h e he⟩⟩
  · rintro ⟨hkeys, h⟩
    exact .object hkeys (fun e he => (h e he).1) fun e he => (h e he).2

theorem value {before after : Keyed Value} {key : Text} {v : Value}
    (h : Sortable (.object (before ++ (key, v) :: after))) :
    (key = "required" → v.HoldsTexts) ∧ Sortable v :=
  (object_iff.1 h).2 _ (List.mem_append_right _ List.mem_cons_self)

theorem replace {before after : Keyed Value} {key : Text} {v w : Value}
    (h : Sortable (.object (before ++ (key, v) :: after)))
    (hnames : key = "required" → w.HoldsTexts) (hw : Sortable w) :
    Sortable (.object (before ++ (key, w) :: after)) := by
  rw [object_iff, List.forall_mem_append, List.forall_mem_cons, Keyed.keys, List.map_append,
    List.map_cons] at h ⊢
  obtain ⟨hkeys, hbefore, -, hafter⟩ := h
  exact ⟨hkeys, hbefore, ⟨hnames, hw⟩, hafter⟩

theorem of_rearranged {v w : Value} (hv : Sortable v) (h : Rearranged v w) : Sortable w := by
  induction h with
  | refl v => exact hv
  | trans _ _ huv hvw => exact hvw (huv hv)
  | fields hp =>
    obtain ⟨hkeys, hfields⟩ := object_iff.1 hv
    refine object_iff.2 ⟨(hp.map Prod.fst).nodup_iff.1 hkeys, fun e he => ?_⟩
    exact hfields e (hp.mem_iff.2 he)
  | required before after hp =>
    obtain ⟨hnames, hlist⟩ := hv.value
    refine hv.replace (fun hkey => (hnames hkey).perm hp) (.list fun v hm => ?_)
    exact list_iff.1 hlist v (hp.mem_iff.2 hm)
  | item before after _ ih =>
    rw [list_iff, List.forall_mem_append, List.forall_mem_cons] at hv ⊢
    exact ⟨hv.1, ih hv.2.1, hv.2.2⟩
  | value before after key h ih =>
    obtain ⟨hnames, hvalue⟩ := hv.value
    exact hv.replace (fun hkey => h.holdsTexts (hnames hkey)) (ih hvalue)

end Sortable

end Value

open Value

namespace Canonical

/-- Except for `required` lists, the value of a field has the canonical form that it has alone. -/
theorem canonicalizeField_eq {key : Text} {v : Value}
    (h : key = "required" → ∀ entries, v ≠ .list entries) :
    canonicalizeField key v = canonicalize v := by
  cases v with
  | null | bool _ | number _ | text _ | object _ => rfl
  | list entries =>
    have hkey : key ≠ "required" := fun he => h he entries rfl
    rw [canonicalizeField, if_neg hkey, canonicalize]

theorem canonicalizeField_names (names : List Text) :
    canonicalizeField "required" (.list (names.map .text)) =
      .list ((sort Text.le names).map .text) := by
  rw [canonicalizeField, if_pos rfl, sortRequired_map_text]

theorem canonicalizeField_eq_of_perm {entries others : List Value}
    (h : (Value.list entries).HoldsTexts) (hp : entries.Perm others) :
    canonicalizeField "required" (.list entries) =
      canonicalizeField "required" (.list others) := by
  obtain ⟨names, rfl⟩ := exists_eq_map_text (h entries rfl)
  obtain ⟨more, rfl⟩ := exists_eq_map_text (h.perm hp others rfl)
  have hnames : names.Perm more :=
    (List.map_perm_map_iff fun _ _ => Value.text.inj).1 hp
  rw [canonicalizeField_names, canonicalizeField_names, sort_names_eq_of_perm hnames]

theorem canonicalize_replace {before after : Keyed Value} {key : Text} {v w : Value}
    (h : canonicalizeField key v = canonicalizeField key w) :
    canonicalize (.object (before ++ (key, v) :: after)) =
      canonicalize (.object (before ++ (key, w) :: after)) := by
  simp only [canonicalize, canonicalizeFields_eq_map, List.map_append, List.map_cons, h]

theorem canonicalize_eq_of_rearranged {v w : Value} (h : Rearranged v w) (hv : v.Sortable) :
    canonicalize v = canonicalize w := by
  induction h with
  | refl v => rfl
  | trans huv _ ihuv ihvw => exact (ihuv hv).trans (ihvw (hv.of_rearranged huv))
  | fields hp =>
    rename_i fields others
    have hforms : (canonicalizeFields fields).Perm (canonicalizeFields others) := by
      rw [canonicalizeFields_eq_map, canonicalizeFields_eq_map]
      exact hp.map _
    have hkeys : (Keyed.keys (canonicalizeFields fields)).Nodup := by
      rw [canonicalizeFields_eq_map, Keyed.keys_map]
      exact (Sortable.object_iff.1 hv).1
    rw [canonicalize, canonicalize, sortFields_eq_of_perm hkeys hforms]
  | required before after hp =>
    obtain ⟨hnames, -⟩ := hv.value
    exact canonicalize_replace (canonicalizeField_eq_of_perm (hnames rfl) hp)
  | item before after _ ih =>
    have hvalue := ih (Sortable.list_iff.1 hv _ (List.mem_append_right _ List.mem_cons_self))
    simp only [canonicalize, canonicalizeItems_eq_map, List.map_append, List.map_cons, hvalue]
  | value before after key h ih =>
    rename_i v w
    obtain ⟨hnames, hvalue⟩ := hv.value
    by_cases hlist : key = "required" ∧ ∃ entries, w = .list entries
    · obtain ⟨hkey, entries, hw⟩ := hlist
      rw [h.eq_of_holdsTexts (hnames hkey) hw]
    · have hw : key = "required" → ∀ entries, w ≠ .list entries :=
        fun hkey entries he => hlist ⟨hkey, entries, he⟩
      have hv : key = "required" → ∀ entries, v ≠ .list entries := by
        intro hkey entries he
        obtain ⟨others, hother⟩ := h.symm.exists_list he
        exact hw hkey others hother
      apply canonicalize_replace
      rw [canonicalizeField_eq hv, canonicalizeField_eq hw, ih hvalue]

theorem rearranged_map_items {f : Value → Value} {items : List Value} (before : List Value)
    (h : ∀ v ∈ items, Rearranged v (f v)) :
    Rearranged (.list (before ++ items)) (.list (before ++ items.map f)) := by
  induction items generalizing before with
  | nil => exact .refl _
  | cons v rest ih =>
    have hrest := ih (before ++ [f v]) fun u hu => h u (List.mem_cons_of_mem _ hu)
    rw [List.append_assoc, List.append_assoc] at hrest
    exact (Rearranged.item before rest (h v List.mem_cons_self)).trans hrest

theorem rearranged_map_fields {f : Text → Value → Value} {fields : Keyed Value}
    (before : Keyed Value)
    (h : ∀ e ∈ fields, ∀ before after : Keyed Value,
      Rearranged (.object (before ++ e :: after)) (.object (before ++ (e.1, f e.1 e.2) :: after))) :
    Rearranged (.object (before ++ fields))
      (.object (before ++ fields.map fun e => (e.1, f e.1 e.2))) := by
  induction fields generalizing before with
  | nil => exact .refl _
  | cons e rest ih =>
    have hrest := ih (before ++ [(e.1, f e.1 e.2)]) fun u hu => h u (List.mem_cons_of_mem _ hu)
    rw [List.append_assoc, List.append_assoc] at hrest
    exact (h e List.mem_cons_self before rest).trans hrest

theorem rearranged_canonicalizeField {key : Text} {v : Value}
    (hnames : key = "required" → v.HoldsTexts) (h : Rearranged v (canonicalize v))
    (before after : Keyed Value) :
    Rearranged (.object (before ++ (key, v) :: after))
      (.object (before ++ (key, canonicalizeField key v) :: after)) := by
  by_cases hlist : key = "required" ∧ ∃ entries, v = .list entries
  · obtain ⟨rfl, entries, rfl⟩ := hlist
    obtain ⟨names, rfl⟩ := exists_eq_map_text (hnames rfl entries rfl)
    rw [canonicalizeField_names]
    exact .required before after ((sort_perm _ names).symm.map _)
  · rw [canonicalizeField_eq fun hkey entries he => hlist ⟨hkey, entries, he⟩]
    exact .value before after key h

/-- The canonical form of a value differs from it by moves only. -/
theorem rearranged_canonicalize {v : Value} (hv : v.Sortable) : Rearranged v (canonicalize v) := by
  induction hv with
  | atom h =>
    rename_i v
    cases v with
    | null | bool _ | number _ | text _ => exact .refl _
    | list _ | object _ => cases h
  | list h ih =>
    rw [canonicalize, canonicalizeItems_eq_map]
    exact rearranged_map_items [] ih
  | object hkeys hnames h ih =>
    rename_i fields
    have hfields : Rearranged (.object fields)
        (.object (fields.map fun e => (e.1, canonicalizeField e.1 e.2))) :=
      rearranged_map_fields [] fun e he => rearranged_canonicalizeField (hnames e he) (ih e he)
    exact hfields.trans (.fields (sortFields_perm fields).symm)

theorem canonicalize_canonicalize {v : Value} (hv : v.Sortable) :
    canonicalize (canonicalize v) = canonicalize v :=
  (canonicalize_eq_of_rearranged (rearranged_canonicalize hv) hv).symm

theorem canonicalize_eq_iff_rearranged {v w : Value} (hv : v.Sortable) (hw : w.Sortable) :
    canonicalize v = canonicalize w ↔ Rearranged v w := by
  constructor
  · intro h
    have hback := (rearranged_canonicalize hw).symm
    exact (h ▸ rearranged_canonicalize hv).trans hback
  · exact fun h => canonicalize_eq_of_rearranged h hv

theorem isFieldOrdered_of_sortable {key : Text} {v : Value}
    (hnames : key = "required" → v.HoldsTexts) (h : isOrdered v = true) :
    isFieldOrdered key v = true := by
  cases v with
  | null | bool _ | number _ | text _ => rfl
  | object _ => exact h
  | list entries =>
    rw [isFieldOrdered]
    split
    · rename_i hkey
      obtain ⟨names, rfl⟩ := exists_eq_map_text (hnames hkey entries rfl)
      rw [sortRequired?, names?_map_text]
      rfl
    · exact h

theorem isOrdered_of_sortable {v : Value} (hv : v.Sortable) : isOrdered v = true := by
  induction hv with
  | atom h =>
    rename_i v
    cases v with
    | null | bool _ | number _ | text _ => rfl
    | list _ | object _ => cases h
  | list h ih =>
    rw [isOrdered, areItemsOrdered_eq_all, List.all_eq_true]
    exact ih
  | object hkeys hnames h ih =>
    rw [isOrdered, areFieldsOrdered_iff]
    exact fun e he => isFieldOrdered_of_sortable (hnames e he) (ih e he)

theorem ofValue_of_sortable {v : Value} (hv : v.Sortable) : ofValue v = .ok (canonicalize v) := by
  rw [ofValue, if_pos (isOrdered_of_sortable hv)]

/-- Canonical forms represent values up to the order of fields and of `required` lists: each is
reached by moves from its value and is its own canonical form, and two values have the same one
exactly if moves lead from one to the other. -/
theorem ofValue_represents {v w : Value} (hv : v.Sortable) (hw : w.Sortable) :
    ∃ c d, ofValue v = .ok c ∧ ofValue w = .ok d ∧ Rearranged v c ∧ ofValue c = .ok c ∧
      (c = d ↔ Rearranged v w) := by
  have hcanonical : (canonicalize v).Sortable := hv.of_rearranged (rearranged_canonicalize hv)
  refine ⟨canonicalize v, canonicalize w, ofValue_of_sortable hv, ofValue_of_sortable hw,
    rearranged_canonicalize hv, ?_, canonicalize_eq_iff_rearranged hv hw⟩
  rw [ofValue_of_sortable hcanonical, canonicalize_canonicalize hv]

/-- The schema of an object that has a property by the name `required`. -/
def schemaWithRequired : Value :=
  .object [("required", .list [.text "z", .text "a"]),
    ("properties", .object [("z", .list [.ofInt 3, .ofInt 1]), ("required", .null)])]

def rearrangedSchema : Value :=
  .object [("properties", .object [("required", .null), ("z", .list [.ofInt 3, .ofInt 1])]),
    ("required", .list [.text "a", .text "z"])]

theorem ofValue_represents_schema_with_required :
    schemaWithRequired.Sortable ∧ rearrangedSchema.Sortable ∧
      ofValue schemaWithRequired = .ok rearrangedSchema ∧
      schemaWithRequired.Rearranged rearrangedSchema ∧
      ofValue rearrangedSchema = .ok rearrangedSchema := by
  have hnull : Value.null.Sortable := .atom rfl
  have htext (t : Text) : (Value.text t).Sortable := .atom rfl
  have hnumber (n : Int) : (Value.ofInt n).Sortable := .atom rfl
  have hschema : schemaWithRequired.Sortable := by
    simp [schemaWithRequired, Sortable.object_iff, Sortable.list_iff, HoldsTexts, Keyed.keys,
      hnull, htext, hnumber]
  have hother : rearrangedSchema.Sortable := by
    simp [rearrangedSchema, Sortable.object_iff, Sortable.list_iff, HoldsTexts, Keyed.keys,
      hnull, htext, hnumber]
  obtain ⟨c, d, hc, -, hmoves, hagain, -⟩ := ofValue_represents hschema hother
  obtain rfl : c = rearrangedSchema := Except.ok.inj (hc.symm.trans (by decide +kernel))
  exact ⟨hschema, hother, hc, hmoves, hagain⟩

end Canonical
end TypedTemplate
