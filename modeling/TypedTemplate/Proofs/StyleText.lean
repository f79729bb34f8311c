import Mathlib.Data.List.DropRight
import TypedTemplate.Proofs.PathText
import TypedTemplate.Style

/-!
# Styles in normal form

A style keeps its allowed declarations, each in normal form. A style in normal form is one that
the reduction leaves as it is: a list of allowed declarations. Styles in normal form that are
joined are in normal form again, and a joined style is in normal form only if its parts are.
-/
namespace TypedTemplate

namespace Text

theorem trimLeft_of_prefix {u t : Text} (h : trimLeft t = t) (hp : u <+: t) : trimLeft u = u := by
  cases u with
  | nil => rfl
  | cons c rest =>
    obtain ⟨tail, rfl⟩ := hp
    unfold trimLeft at h ⊢
    rw [List.cons_append, List.dropWhile_eq_self_iff] at h
    rw [List.dropWhile_eq_self_iff]
    simpa using h

theorem trim_trim (t : Text) : trim (trim t) = trim t := by
  have hleft : trimLeft (trim t) = trim t :=
    trimLeft_of_prefix (dropWhile_trimLeft t) (List.rdropWhile_prefix _ _)
  have hright : trimRight (trim t) = trim t := List.rdropWhile_idempotent _ _
  rw [trim, hleft, hright]

theorem trim_cons_blank {c : Char} (h : TypedTemplate.isBlank c = true) (t : Text) :
    trim (c :: t) = trim t := by
  rw [trim, trim, trimLeft, trimLeft, List.dropWhile_cons_of_pos h]

theorem trim_eq_nil_iff {t : Text} : trim t = [] ↔ t.isBlank = true := by
  rw [trim, trimRight, List.reverse_eq_nil_iff, List.dropWhile_eq_nil_iff, isBlank,
    List.all_eq_true]
  constructor
  · intro h c hc
    rw [← List.takeWhile_append_dropWhile (p := TypedTemplate.isBlank) (l := t)] at hc
    rcases List.mem_append.1 hc with hc | hc
    · exact List.mem_takeWhile_imp hc
    · exact h c (List.mem_reverse.2 hc)
  · intro h c hc
    exact h c ((List.dropWhile_suffix _).subset (List.mem_reverse.1 hc))

theorem mem_of_mem_trim {c : Char} {t : Text} (h : c ∈ trim t) : c ∈ t := by
  have hleft : c ∈ trimLeft t := (List.rdropWhile_prefix _ _).subset h
  exact (List.dropWhile_suffix _).subset hleft

theorem mem_of_mem_cut {c d : Char} {t before after : Text} (h : cut c t = (before, some after))
    (hd : d ∈ after) : d ∈ t := by
  have ht := cut_eq c t
  rw [h] at ht
  rw [← ht]
  simp [hd]

theorem join_cons_cons (separator t u : Text) (rest : List Text) :
    join separator (t :: u :: rest) = t ++ separator ++ join separator (u :: rest) := rfl

def spaced : List Text → List Text
  | [] => [[]]
  | t :: rest => t :: rest.map (' ' :: ·)

theorem splitOn_join {c : Char} (hc : c ≠ ' ') {all : List Text} (h : ∀ t ∈ all, c ∉ t) :
    splitOn c (join [c, ' '] all) = spaced all := by
  induction all with
  | nil => rfl
  | cons t rest ih =>
    obtain ⟨ht, hrest⟩ := List.forall_mem_cons.1 h
    cases rest with
    | nil => exact splitOn_of_not_mem ht
    | cons u others =>
      have hjoin : join [c, ' '] (t :: u :: others) =
          t ++ c :: ' ' :: join [c, ' '] (u :: others) := by simp [join_cons_cons]
      rw [hjoin, splitOn_append, splitOn_of_not_mem ht, splitOn_cons_ne (Ne.symm hc), ih hrest]
      rfl

theorem join_spaced (c : Char) (all : List Text) : join [c] (spaced all) = join [c, ' '] all := by
  induction all with
  | nil => rfl
  | cons t rest ih =>
    cases rest with
    | nil => rfl
    | cons u others =>
      have hspaced : spaced (t :: u :: others) = t :: (' ' :: u) :: others.map (' ' :: ·) := rfl
      have hblank : join [c] ((' ' :: u) :: others.map (' ' :: ·)) =
          ' ' :: join [c] (spaced (u :: others)) := by
        cases others <;> rfl
      rw [hspaced, join_cons_cons, hblank, ih, join_cons_cons]
      simp

theorem join_append (separator : Text) {first second : List Text} (hf : first ≠ [])
    (hs : second ≠ []) :
    join separator (first ++ second) =
      join separator first ++ separator ++ join separator second := by
  induction first with
  | nil => exact absurd rfl hf
  | cons t rest ih =>
    cases rest with
    | nil =>
      obtain ⟨u, others, rfl⟩ := List.exists_cons_of_ne_nil hs
      rfl
    | cons u others =>
      have hrest := ih (List.cons_ne_nil u others)
      rw [List.cons_append] at hrest
      rw [List.cons_append, List.cons_append, join_cons_cons, hrest, join_cons_cons]
      simp

end Text

namespace Style

/-- A declaration of a known property with a harmless value, both trimmed. -/
structure IsAllowed (d : Text × Text) : Prop where
  property : d.1 ∈ allowedProperties
  value : isBanned d.2 = false
  trimmed : d.2.trim = d.2
  whole : ';' ∉ d.2

theorem normal_of_mem_allowedProperties {property : Text} (h : property ∈ allowedProperties) :
    property.trim.lower = property ∧ ':' ∉ property ∧ ';' ∉ property := by
  revert property
  decide

theorem isAllowed_of_readDeclaration? {t : Text} {d : Text × Text} (ht : ';' ∉ t)
    (h : readDeclaration? t = some d) : IsAllowed d := by
  unfold readDeclaration? at h
  split at h
  · cases h
  · rename_i property value hcut
    dsimp only at h
    split at h
    · rename_i hkept
      rw [Bool.and_eq_true, Bool.not_eq_true'] at hkept
      rw [← Option.some.inj h]
      refine ⟨by simpa using hkept.1, hkept.2, Text.trim_trim value, ?_⟩
      intro hm
      exact ht (Text.mem_of_mem_cut hcut (Text.mem_of_mem_trim hm))
    · cases h

namespace IsAllowed

variable {d : Text × Text}

theorem semicolon_not_mem_writeDeclaration (h : IsAllowed d) : ';' ∉ writeDeclaration d := by
  have hproperty := (normal_of_mem_allowedProperties h.property).2.2
  simp [writeDeclaration, hproperty, h.whole]

theorem readDeclaration?_of_cut (h : IsAllowed d) {t property : Text}
    (hcut : Text.cut ':' t = (property, some d.2)) (hp : property.trim = d.1.trim) :
    readDeclaration? t = some d := by
  have hnormal := (normal_of_mem_allowedProperties h.property).1
  have hknown : allowedProperties.contains d.1 = true := by simpa using h.property
  unfold readDeclaration?
  rw [hcut]
  dsimp only
  rw [hp, hnormal, h.trimmed, hknown, h.value]
  rfl

theorem readDeclaration?_write (h : IsAllowed d) :
    readDeclaration? (writeDeclaration d) = some d := by
  have hcolon := (normal_of_mem_allowedProperties h.property).2.1
  have hcut : Text.cut ':' (writeDeclaration d) = (d.1, some d.2) := by
    rw [writeDeclaration, List.append_assoc]
    exact Text.cut_append_self hcolon d.2
  exact h.readDeclaration?_of_cut hcut rfl

theorem readDeclaration?_blank_write (h : IsAllowed d) :
    readDeclaration? (' ' :: writeDeclaration d) = some d := by
  have hcolon := (normal_of_mem_allowedProperties h.property).2.1
  have hblank : ':' ∉ ' ' :: d.1 := by simp [hcolon]
  have hcut : Text.cut ':' (' ' :: writeDeclaration d) = (' ' :: d.1, some d.2) := by
    rw [writeDeclaration, List.append_assoc]
    exact Text.cut_append_self hblank d.2
  exact h.readDeclaration?_of_cut hcut (Text.trim_cons_blank (by decide) d.1)

end IsAllowed

/-- Some declarations as they are written in a style. -/
def writeAll (declarations : List (Text × Text)) : Text :=
  Text.join "; " (declarations.map writeDeclaration)

theorem splitOn_writeAll {declarations : List (Text × Text)}
    (h : ∀ d ∈ declarations, IsAllowed d) :
    Text.splitOn ';' (writeAll declarations) = Text.spaced (declarations.map writeDeclaration) := by
  apply Text.splitOn_join (by decide)
  intro t ht
  obtain ⟨d, hd, rfl⟩ := List.mem_map.1 ht
  exact (h d hd).semicolon_not_mem_writeDeclaration

theorem filterMap_spaced {declarations : List (Text × Text)}
    (h : ∀ d ∈ declarations, IsAllowed d) :
    (Text.spaced (declarations.map writeDeclaration)).filterMap readDeclaration? =
      declarations := by
  cases declarations with
  | nil => rfl
  | cons d rest =>
    obtain ⟨hd, hrest⟩ := List.forall_mem_cons.1 h
    have hothers : ((rest.map writeDeclaration).map (' ' :: ·)).filterMap readDeclaration? =
        rest := by
      rw [List.map_map, List.filterMap_map]
      calc rest.filterMap (readDeclaration? ∘ ((' ' :: ·) ∘ writeDeclaration))
          = rest.filterMap some :=
            List.filterMap_congr fun e he => (hrest e he).readDeclaration?_blank_write
        _ = rest := List.filterMap_some
    rw [List.map_cons, Text.spaced, List.filterMap_cons, hd.readDeclaration?_write, hothers]

theorem sanitize_writeAll {declarations : List (Text × Text)}
    (h : ∀ d ∈ declarations, IsAllowed d) :
    sanitize (writeAll declarations) = writeAll declarations := by
  rw [sanitize, splitOn_writeAll h, filterMap_spaced h, writeAll]

theorem sanitize_eq_writeAll (style : Text) :
    ∃ declarations, (∀ d ∈ declarations, IsAllowed d) ∧ sanitize style = writeAll declarations := by
  refine ⟨(Text.splitOn ';' style).filterMap readDeclaration?, ?_, rfl⟩
  intro d hd
  obtain ⟨piece, hm, hread⟩ := List.mem_filterMap.1 hd
  have hwhole : ';' ∉ piece := by
    intro hs
    have hne := Text.not_of_mem_splitAt hm ';' hs
    exact absurd hne (by decide)
  exact isAllowed_of_readDeclaration? hwhole hread

/-- The reduction leaves a style as it is if the style is a list of allowed declarations. -/
theorem sanitize_eq_self_iff {style : Text} :
    sanitize style = style ↔
      ∃ declarations, (∀ d ∈ declarations, IsAllowed d) ∧ style = writeAll declarations := by
  constructor
  · intro h
    obtain ⟨declarations, hd, hs⟩ := sanitize_eq_writeAll style
    exact ⟨declarations, hd, h.symm.trans hs⟩
  · rintro ⟨declarations, hd, rfl⟩
    exact sanitize_writeAll hd

theorem sanitize_sanitize (style : Text) : sanitize (sanitize style) = sanitize style :=
  sanitize_eq_self_iff.2 (sanitize_eq_writeAll style)

theorem writeAll_append {first second : List (Text × Text)} (hf : first ≠ []) (hs : second ≠ []) :
    writeAll (first ++ second) = writeAll first ++ "; " ++ writeAll second := by
  have hfirst : first.map writeDeclaration ≠ [] := by simpa using hf
  have hsecond : second.map writeDeclaration ≠ [] := by simpa using hs
  rw [writeAll, List.map_append, Text.join_append _ hfirst hsecond]
  rfl

theorem ne_nil_of_writeAll_ne_nil {declarations : List (Text × Text)}
    (h : writeAll declarations ≠ []) : declarations ≠ [] := by
  rintro rfl
  exact h rfl

/-- The pieces of a joined style belong to the one part or to the other, so each part is a list
of some of the declarations. -/
theorem exists_append_of_writeAll {style other : Text} {declarations : List (Text × Text)}
    (h : ∀ d ∈ declarations, IsAllowed d) (hs : style ++ "; " ++ other = writeAll declarations) :
    ∃ first second, declarations = first ++ second ∧ style = writeAll first ∧
      other = writeAll second := by
  have hpieces := splitOn_writeAll h
  have hjoined : style ++ "; " ++ other = style ++ ';' :: ' ' :: other := by simp
  rw [← hs, hjoined, Text.splitOn_append, Text.splitOn_cons_ne (by decide)] at hpieces
  obtain ⟨d, rest, rfl⟩ : ∃ d rest, declarations = d :: rest := by
    apply List.exists_cons_of_ne_nil
    rintro rfl
    cases style <;> cases hs
  obtain ⟨piece, pieces, hstyle⟩ :=
    List.exists_cons_of_ne_nil (Text.splitOn_ne_nil ';' style)
  obtain ⟨piece', pieces', hother⟩ :=
    List.exists_cons_of_ne_nil (Text.splitOn_ne_nil ';' other)
  rw [hstyle, hother, List.map_cons, Text.spaced, List.cons_append, List.map_map] at hpieces
  obtain ⟨hpiece, hmore⟩ := List.cons.inj hpieces
  obtain ⟨before, after, rfl, hbefore, hafter⟩ := List.map_eq_append_iff.1 hmore.symm
  obtain ⟨e, others, rfl⟩ : ∃ e others, after = e :: others := by
    apply List.exists_cons_of_ne_nil
    rintro rfl
    cases hafter
  obtain ⟨hlead, hothers⟩ := List.cons.inj hafter
  refine ⟨d :: before, e :: others, rfl, ?_, ?_⟩
  · rw [← Text.join_splitOn ';' style, hstyle, hpiece, ← hbefore, ← List.map_map]
    exact Text.join_spaced ';' ((d :: before).map writeDeclaration)
  · have hfirst : piece' = writeDeclaration e := (List.cons.inj hlead).2.symm
    rw [← Text.join_splitOn ';' other, hother, hfirst, ← hothers, ← List.map_map]
    exact Text.join_spaced ';' ((e :: others).map writeDeclaration)

theorem sanitize_append_eq_self_iff {style other : Text} (hs : style ≠ []) (ho : other ≠ []) :
    sanitize (style ++ "; " ++ other) = style ++ "; " ++ other ↔
      sanitize style = style ∧ sanitize other = other := by
  simp only [sanitize_eq_self_iff]
  constructor
  · rintro ⟨declarations, hd, h⟩
    obtain ⟨first, second, rfl, hfirst, hsecond⟩ := exists_append_of_writeAll hd h
    exact ⟨⟨first, fun d hm => hd d (List.mem_append_left _ hm), hfirst⟩,
      ⟨second, fun d hm => hd d (List.mem_append_right _ hm), hsecond⟩⟩
  · rintro ⟨⟨first, hf, rfl⟩, ⟨second, hsecond, rfl⟩⟩
    refine ⟨first ++ second, ?_, ?_⟩
    · intro d hd
      exact (List.mem_append.1 hd).elim (hf d) (hsecond d)
    · rw [writeAll_append (ne_nil_of_writeAll_ne_nil hs) (ne_nil_of_writeAll_ne_nil ho)]

theorem sanitize_join_eq_self_iff {parts : List Text} (h : ∀ part ∈ parts, part ≠ []) :
    sanitize (Text.join "; " parts) = Text.join "; " parts ↔
      ∀ part ∈ parts, sanitize part = part := by
  induction parts with
  | nil => exact iff_of_true rfl nofun
  | cons part rest ih =>
    obtain ⟨hpart, hrest⟩ := List.forall_mem_cons.1 h
    cases rest with
    | nil => simp [Text.join]
    | cons next others =>
      have hnext : Text.join "; " (next :: others) ≠ [] := by
        have hne := (List.forall_mem_cons.1 hrest).1
        cases others <;> simp [Text.join, hne]
      rw [Text.join_cons_cons, sanitize_append_eq_self_iff hpart hnext, ih hrest]
      exact (List.forall_mem_cons (p := fun t => sanitize t = t)).symm

end Style
end TypedTemplate
