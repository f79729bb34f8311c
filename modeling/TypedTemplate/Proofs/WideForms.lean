import Mathlib.Data.List.Basic
import TypedTemplate.Filter.Apply

/-!
# Wide and narrow forms

The printable characters of ASCII, the blank apart, and their wide forms lie in two ranges of the
same length, and each is reached from the other by one shift. A text without characters of one range
is in normal form for the filter that moves them to the other; both filters lead every text to its
normal form, whichever forms are mixed in it.
-/
namespace TypedTemplate.Filter

/-- Whether a character is in narrow form and has a wide one. -/
def IsNarrow (c : Char) : Prop := 0x21 ≤ c.toNat ∧ c.toNat ≤ 0x7e

/-- Whether a character is in wide form and has a narrow one. -/
def IsWide (c : Char) : Prop := 0xff01 ≤ c.toNat ∧ c.toNat ≤ 0xff5e

/-- The wide form of a character, or the character where it has none. -/
def wideForm (c : Char) : Char := if '!' ≤ c ∧ c ≤ '~' then Char.ofNat (c.toNat + 0xfee0) else c

/-- The narrow form of a character, or the character where it has none. -/
def narrowForm (c : Char) : Char := if '！' ≤ c ∧ c ≤ '～' then Char.ofNat (c.toNat - 0xfee0) else c

section characters

variable {c : Char}

theorem wideForm_cases (c : Char) :
    (IsNarrow c ∧ (wideForm c).toNat = c.toNat + 0xfee0) ∨ (¬IsNarrow c ∧ wideForm c = c) := by
  have hrange : ('!' ≤ c ∧ c ≤ '~') ↔ IsNarrow c := by
    simp only [IsNarrow, Char.le_def, UInt32.le_iff_toNat_le]
    rfl
  by_cases h : IsNarrow c
  · have hvalid : (c.toNat + 0xfee0).isValidChar := .inr (by obtain ⟨hfirst, hlast⟩ := h; omega)
    refine .inl ⟨h, ?_⟩
    rw [wideForm, if_pos (hrange.2 h), Char.ofNat, dif_pos hvalid]
    rfl
  · exact .inr ⟨h, if_neg (mt hrange.1 h)⟩

theorem narrowForm_cases (c : Char) :
    (IsWide c ∧ (narrowForm c).toNat + 0xfee0 = c.toNat) ∨ (¬IsWide c ∧ narrowForm c = c) := by
  have hrange : ('！' ≤ c ∧ c ≤ '～') ↔ IsWide c := by
    simp only [IsWide, Char.le_def, UInt32.le_iff_toNat_le]
    rfl
  by_cases h : IsWide c
  · obtain ⟨hfirst, hlast⟩ := id h
    have hvalid : (c.toNat - 0xfee0).isValidChar := .inl (by omega)
    have hshift : (narrowForm c).toNat = c.toNat - 0xfee0 := by
      rw [narrowForm, if_pos (hrange.2 h), Char.ofNat, dif_pos hvalid]
      rfl
    exact .inl ⟨h, by omega⟩
  · exact .inr ⟨h, if_neg (mt hrange.1 h)⟩

/-- Where exactly the characters of one kind are moved, a character stays exactly if it is not of
that kind. -/
theorem eq_self_iff_of_cases {moved : Char} {kind : Prop}
    (h : (kind ∧ moved.toNat ≠ c.toNat) ∨ (¬kind ∧ moved = c)) : moved = c ↔ ¬kind := by
  rcases h with ⟨hkind, hmoved⟩ | ⟨hkind, hself⟩
  · exact iff_of_false (fun hself => hmoved (congrArg Char.toNat hself)) (fun hno => hno hkind)
  · exact iff_of_true hself hkind

theorem wideForm_eq_self_iff : wideForm c = c ↔ ¬IsNarrow c :=
  eq_self_iff_of_cases ((wideForm_cases c).imp_left fun h => ⟨h.1, by omega⟩)

theorem narrowForm_eq_self_iff : narrowForm c = c ↔ ¬IsWide c :=
  eq_self_iff_of_cases ((narrowForm_cases c).imp_left fun h => ⟨h.1, by omega⟩)

theorem isWide_wideForm (h : IsNarrow c) : IsWide (wideForm c) ∧ ¬IsNarrow (wideForm c) := by
  obtain ⟨hfirst, hlast⟩ := id h
  obtain ⟨-, hshift⟩ := (wideForm_cases c).resolve_right fun hno => hno.1 h
  unfold IsWide IsNarrow
  omega

theorem isNarrow_narrowForm (h : IsWide c) : IsNarrow (narrowForm c) ∧ ¬IsWide (narrowForm c) := by
  obtain ⟨hfirst, hlast⟩ := id h
  obtain ⟨-, hshift⟩ := (narrowForm_cases c).resolve_right fun hno => hno.1 h
  unfold IsWide IsNarrow
  omega

theorem not_isNarrow_wideForm (c : Char) : ¬IsNarrow (wideForm c) := by
  by_cases h : IsNarrow c
  · exact (isWide_wideForm h).2
  · rwa [wideForm_eq_self_iff.2 h]

theorem not_isWide_narrowForm (c : Char) : ¬IsWide (narrowForm c) := by
  by_cases h : IsWide c
  · exact (isNarrow_narrowForm h).2
  · rwa [narrowForm_eq_self_iff.2 h]

/-- What was widened is narrowed to itself, and what had no wide form is narrowed as before. -/
theorem narrowForm_wideForm (c : Char) : narrowForm (wideForm c) = narrowForm c := by
  rcases wideForm_cases c with ⟨h, hshift⟩ | ⟨-, hself⟩
  · obtain ⟨-, hback⟩ := (narrowForm_cases (wideForm c)).resolve_right fun hno =>
      hno.1 (isWide_wideForm h).1
    have hnarrow : ¬IsWide c := by
      obtain ⟨hfirst, hlast⟩ := h
      unfold IsWide
      omega
    rw [narrowForm_eq_self_iff.2 hnarrow, ← Char.toNat_inj]
    omega
  · rw [hself]

theorem wideForm_narrowForm (c : Char) : wideForm (narrowForm c) = wideForm c := by
  rcases narrowForm_cases c with ⟨h, hshift⟩ | ⟨-, hself⟩
  · obtain ⟨-, hback⟩ := (wideForm_cases (narrowForm c)).resolve_right fun hno =>
      hno.1 (isNarrow_narrowForm h).1
    have hwide : ¬IsNarrow c := by
      obtain ⟨hfirst, hlast⟩ := h
      unfold IsNarrow
      omega
    rw [wideForm_eq_self_iff.2 hwide, ← Char.toNat_inj]
    omega
  · rw [hself]

end characters

section texts

variable {t : Text}

theorem widen_eq_map (t : Text) : widen t = t.map wideForm := rfl

theorem narrow_eq_map (t : Text) : narrow t = t.map narrowForm := rfl

theorem narrow_widen (t : Text) : narrow (widen t) = narrow t := by
  rw [narrow_eq_map, narrow_eq_map, widen_eq_map, List.map_map]
  exact List.map_congr_left fun c _ => narrowForm_wideForm c

theorem widen_narrow (t : Text) : widen (narrow t) = widen t := by
  rw [widen_eq_map, widen_eq_map, narrow_eq_map, List.map_map]
  exact List.map_congr_left fun c _ => wideForm_narrowForm c

theorem map_eq_self_iff {form : Char → Char} {kind : Char → Prop}
    (hform : ∀ c, form c = c ↔ ¬kind c) : t.map form = t ↔ ∀ c ∈ t, ¬kind c := by
  have hmap : t.map form = t.map id ↔ ∀ c ∈ t, form c = c := List.map_inj_left
  rw [List.map_id] at hmap
  rw [hmap]
  exact forall₂_congr fun c _ => hform c

theorem widen_eq_self_iff : widen t = t ↔ ∀ c ∈ t, ¬IsNarrow c :=
  map_eq_self_iff fun _ => wideForm_eq_self_iff

theorem narrow_eq_self_iff : narrow t = t ↔ ∀ c ∈ t, ¬IsWide c :=
  map_eq_self_iff fun _ => narrowForm_eq_self_iff

theorem not_isNarrow_of_mem_widen : ∀ c ∈ widen t, ¬IsNarrow c :=
  List.forall_mem_map.2 fun c _ => not_isNarrow_wideForm c

theorem not_isWide_of_mem_narrow : ∀ c ∈ narrow t, ¬IsWide c :=
  List.forall_mem_map.2 fun c _ => not_isWide_narrowForm c

end texts

/-- The filters for wide and narrow forms give every text a wide and a narrow normal form, both as
long as the text, and from either of these they give the same two again. So the narrow form of the
wide form is the text itself exactly if the text has no character of the wide range. -/
theorem wide_and_narrow_forms_are_inverse (context : Context) (args : List Text) (t : Text) :
    ∃ wide narrow : Text,
      apply .zenkaku context args (.text t) = .ok (.text wide) ∧
      apply .hankaku context args (.text t) = .ok (.text narrow) ∧
      apply .hankaku context args (.text wide) = .ok (.text narrow) ∧
      apply .zenkaku context args (.text narrow) = .ok (.text wide) ∧
      apply .zenkaku context args (.text wide) = .ok (.text wide) ∧
      apply .hankaku context args (.text narrow) = .ok (.text narrow) ∧
      wide.length = t.length ∧ narrow.length = t.length ∧
      (∀ c ∈ wide, ¬IsNarrow c) ∧ (∀ c ∈ narrow, ¬IsWide c) ∧
      (narrow = t ↔ ∀ c ∈ t, ¬IsWide c) := by
  have hwiden : ∀ u, apply .zenkaku context args (.text u) = .ok (.text (widen u)) := fun _ => rfl
  have hnarrow : ∀ u, apply .hankaku context args (.text u) = .ok (.text (narrow u)) := fun _ => rfl
  refine ⟨widen t, narrow t, hwiden t, hnarrow t, ?_, ?_, ?_, ?_, List.length_map _,
    List.length_map _, not_isNarrow_of_mem_widen, not_isWide_of_mem_narrow, narrow_eq_self_iff⟩
  · rw [hnarrow, narrow_widen]
  · rw [hwiden, widen_narrow]
  · rw [hwiden, widen_eq_self_iff.2 not_isNarrow_of_mem_widen]
  · rw [hnarrow, narrow_eq_self_iff.2 not_isWide_of_mem_narrow]

example : widen "aＢ ~株" = "ａＢ ～株".toList ∧ narrow "ａＢ ～株" = "aB ~株".toList := by decide

end TypedTemplate.Filter
