import TypedTemplate.Proofs.Lookup
import TypedTemplate.Schema.Canonical

/-!
# Sorted fields

Texts are in one total order, that of lists of characters by code point. Entries with different
keys are sorted by their keys in one way only, whatever order they come in, so a sorted object is
known from what it holds at each key.
-/
namespace TypedTemplate

namespace Text

theorem le_cons_cons (x y : Char) (xs ys : Text) :
    le (x :: xs) (y :: ys) = true ↔ x < y ∨ (x = y ∧ le xs ys = true) := by
  rw [le]
  by_cases h : x = y
  · simp [h]
  · simp [h]

theorem le_total (a b : Text) : le a b = true ∨ le b a = true := by
  induction a generalizing b with
  | nil => exact .inl rfl
  | cons x xs ih =>
    cases b with
    | nil => exact .inr rfl
    | cons y ys =>
      rw [le_cons_cons, le_cons_cons]
      by_cases h : x = y
      · exact (ih ys).imp (fun hle => .inr ⟨h, hle⟩) (fun hle => .inr ⟨h.symm, hle⟩)
      · by_cases hlt : x < y
        · exact .inl (.inl hlt)
        · have hgt : y < x := by
            apply Char.not_le.1
            intro hle
            exact h (Char.le_antisymm hle (Char.not_lt.1 hlt))
          exact .inr (.inl hgt)

theorem le_trans {a b c : Text} (hab : le a b = true) (hbc : le b c = true) : le a c = true := by
  induction a generalizing b c with
  | nil => rfl
  | cons x xs ih =>
    cases b with
    | nil => cases hab
    | cons y ys =>
      cases c with
      | nil => cases hbc
      | cons z zs =>
        rw [le_cons_cons] at hab hbc ⊢
        rcases hab with hxy | ⟨rfl, hab⟩
        · rcases hbc with hyz | ⟨rfl, -⟩
          · exact .inl (Char.lt_trans hxy hyz)
          · exact .inl hxy
        · rcases hbc with hyz | ⟨rfl, hbc⟩
          · exact .inl hyz
          · exact .inr ⟨rfl, ih hab hbc⟩

theorem le_antisymm {a b : Text} (hab : le a b = true) (hba : le b a = true) : a = b := by
  induction a generalizing b with
  | nil =>
    cases b with
    | nil => rfl
    | cons y ys => cases hba
  | cons x xs ih =>
    cases b with
    | nil => cases hab
    | cons y ys =>
      rw [le_cons_cons] at hab hba
      rcases hab with hxy | ⟨rfl, hab⟩
      · rcases hba with hyx | ⟨rfl, -⟩
        · exact absurd hyx (Char.lt_asymm hxy)
        · exact absurd hxy (Char.lt_irrefl y)
      · rcases hba with hyx | ⟨-, hba⟩
        · exact absurd hyx (Char.lt_irrefl x)
        · rw [ih hab hba]

theorem le_eq_false_iff {a b : Text} : le b a = false ↔ a < b := by
  induction b generalizing a with
  | nil => exact iff_of_false nofun (List.not_lt_nil a)
  | cons y ys ih =>
    cases a with
    | nil => exact iff_of_true rfl (List.nil_lt_cons y ys)
    | cons x xs =>
      rw [List.cons_lt_cons_iff, ← ih, le]
      by_cases h : y = x
      · simp [h]
      · have hlt : ¬y < x ↔ x < y := by
          refine ⟨fun hnot => ?_, Char.lt_asymm⟩
          apply Char.not_le.1
          intro hle
          exact h (Char.le_antisymm hle (Char.not_lt.1 hnot))
        simp [h, Ne.symm h, hlt]

end Text

namespace Canonical

theorem insert_perm {α : Type} (le : α → α → Bool) (x : α) (l : List α) :
    (insert le x l).Perm (x :: l) := by
  induction l with
  | nil => exact .refl _
  | cons y rest ih =>
    unfold insert
    split
    · exact .refl _
    · exact (ih.cons y).trans (.swap x y rest)

theorem sort_perm {α : Type} (le : α → α → Bool) (l : List α) : (sort le l).Perm l := by
  induction l with
  | nil => exact .refl _
  | cons x rest ih => exact (insert_perm le x _).trans (ih.cons x)

section

variable {α : Type} (key : α → Text)

theorem pairwise_insert (x : α) {l : List α}
    (h : l.Pairwise fun a b => Text.le (key a) (key b) = true) :
    (insert (fun a b => Text.le (key a) (key b)) x l).Pairwise fun a b =>
      Text.le (key a) (key b) = true := by
  induction l with
  | nil => exact List.pairwise_singleton _ _
  | cons y rest ih =>
    obtain ⟨hy, hrest⟩ := List.pairwise_cons.1 h
    unfold insert
    split
    · rename_i hxy
      refine List.pairwise_cons.2 ⟨?_, h⟩
      intro z hz
      rcases List.mem_cons.1 hz with rfl | hz
      · exact hxy
      · exact Text.le_trans hxy (hy z hz)
    · rename_i hxy
      have hfirst : Text.le (key y) (key x) = true :=
        (Text.le_total (key y) (key x)).resolve_right hxy
      refine List.pairwise_cons.2 ⟨?_, ih hrest⟩
      intro z hz
      rcases List.mem_cons.1 ((insert_perm _ x rest).mem_iff.1 hz) with rfl | hz
      · exact hfirst
      · exact hy z hz

theorem pairwise_sort (l : List α) :
    (sort (fun a b => Text.le (key a) (key b)) l).Pairwise fun a b =>
      Text.le (key a) (key b) = true := by
  induction l with
  | nil => exact .nil
  | cons x rest ih => exact pairwise_insert key x ih

theorem pairwise_lt_sort {l : List α} (h : (l.map key).Nodup) :
    (sort (fun a b => Text.le (key a) (key b)) l).Pairwise fun a b => key a < key b := by
  have hne : ((sort (fun a b => Text.le (key a) (key b)) l).map key).Nodup :=
    ((sort_perm _ l).map key).nodup_iff.2 h
  refine ((pairwise_sort key l).and (List.pairwise_map.1 hne)).imp fun {a b} hab => ?_
  refine Text.le_eq_false_iff.1 (Bool.eq_false_iff.2 fun hba => ?_)
  exact hab.2 (Text.le_antisymm hab.1 hba)

theorem sort_eq_of_perm {l other : List α} (hp : l.Perm other)
    (hkey : ∀ a ∈ l, ∀ b ∈ l, key a = key b → a = b) :
    sort (fun a b => Text.le (key a) (key b)) l =
      sort (fun a b => Text.le (key a) (key b)) other := by
  refine List.Perm.eq_of_pairwise ?_ (pairwise_sort key l) (pairwise_sort key other)
    ((sort_perm _ l).trans (hp.trans (sort_perm _ other).symm))
  intro a b ha hb hab hba
  have ha : a ∈ l := (sort_perm _ l).mem_iff.1 ha
  have hb : b ∈ l := hp.mem_iff.2 ((sort_perm _ other).mem_iff.1 hb)
  exact hkey a ha b hb (Text.le_antisymm hab hba)

end

theorem sort_names_eq_of_perm {names others : List Text} (hp : names.Perm others) :
    sort Text.le names = sort Text.le others :=
  sort_eq_of_perm id hp fun _ _ _ _ h => h

theorem canonicalizeItems_eq_map (items : List Value) :
    canonicalizeItems items = items.map canonicalize := by
  induction items with
  | nil => rfl
  | cons v rest ih => rw [canonicalizeItems, ih, List.map_cons]

theorem areItemsOrdered_eq_all (items : List Value) :
    areItemsOrdered items = items.all isOrdered := by
  induction items with
  | nil => rfl
  | cons v rest ih => rw [areItemsOrdered, ih, List.all_cons]

/-- Texts in a list are their own canonical forms. -/
theorem canonicalizeItems_map_text (texts : List Text) :
    canonicalizeItems (texts.map .text) = texts.map .text := by
  rw [canonicalizeItems_eq_map, List.map_map]
  rfl

theorem canonicalizeFields_eq_map (fields : Keyed Value) :
    canonicalizeFields fields = fields.map fun e => (e.1, canonicalizeField e.1 e.2) := by
  induction fields with
  | nil => rfl
  | cons entry rest ih =>
    rw [canonicalizeFields, ih]
    rfl

theorem areFieldsOrdered_eq_all (fields : Keyed Value) :
    areFieldsOrdered fields = fields.all fun e => isFieldOrdered e.1 e.2 := by
  induction fields with
  | nil => rfl
  | cons entry rest ih =>
    rw [areFieldsOrdered, ih]
    rfl

theorem areFieldsOrdered_iff {fields : Keyed Value} :
    areFieldsOrdered fields = true ↔ ∀ e ∈ fields, isFieldOrdered e.1 e.2 = true := by
  rw [areFieldsOrdered_eq_all, List.all_eq_true]

theorem sortFields_perm (fields : Keyed Value) :
    (sortFields (canonicalizeFields fields)).Perm
      (fields.map fun e => (e.1, canonicalizeField e.1 e.2)) := by
  rw [canonicalizeFields_eq_map]
  exact sort_perm _ _

theorem get?_sortFields {fields : Keyed Value} (h : (Keyed.keys fields).Nodup) (key : Text) :
    Keyed.get? key (sortFields (canonicalizeFields fields)) =
      (Keyed.get? key fields).map (canonicalizeField key) := by
  have hkeys : (Keyed.keys (fields.map fun e => (e.1, canonicalizeField e.1 e.2))).Nodup := by
    rw [Keyed.keys, List.map_map]
    exact h
  rw [Keyed.get?_perm hkeys (sortFields_perm fields).symm, Keyed.get?_map canonicalizeField]

theorem sortFields_eq_of_perm {fields others : Keyed Value} (hk : (Keyed.keys fields).Nodup)
    (hp : fields.Perm others) : sortFields fields = sortFields others := by
  refine sort_eq_of_perm Prod.fst hp fun a ha b hb h => ?_
  have hget := Keyed.get?_of_mem hk hb
  rw [← h, Keyed.get?_of_mem hk ha] at hget
  exact Prod.ext h (Option.some.inj hget)

end Canonical

end TypedTemplate
