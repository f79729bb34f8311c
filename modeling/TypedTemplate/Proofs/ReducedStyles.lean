import TypedTemplate.Proofs.BannedValues
import TypedTemplate.Proofs.StyleText

/-!
# Reduced styles

What the reduction makes of a style. The style is split at its semicolons, and each piece that has
a colon is a declaration: its normal form has the property trimmed and in small letters, and the
value trimmed. Those of a known property whose value holds nothing banned are written, in their
order, and are what the written style is split into again. So reducing it once more changes
nothing.
-/
namespace TypedTemplate

namespace Style

/-- A piece of a style at its first colon: the property, trimmed, and the value as it stands. -/
def cutDeclaration? (piece : Text) : Option (Text × Text) :=
  match Text.cut ':' piece with
  | (_, none) => none
  | (property, some value) => some (property.trim, value)

def normal (d : Text × Text) : Text × Text := (d.1.lower, d.2.trim)

def declarations (style : Text) : List (Text × Text) :=
  ((Text.splitOn ';' style).filterMap cutDeclaration?).map normal

/-- A declaration of a known property whose value holds nothing banned. -/
def IsSafe (d : Text × Text) : Prop := d.1 ∈ allowedProperties ∧ ¬Banned d.2

instance : DecidablePred IsSafe := fun d =>
  inferInstanceAs (Decidable (d.1 ∈ allowedProperties ∧ ¬Banned d.2))

def safeDeclarations (style : Text) : List (Text × Text) := (declarations style).filter IsSafe

theorem isSafe_iff {d : Text × Text} :
    IsSafe d ↔ (allowedProperties.contains d.1 && !isBanned d.2) = true := by
  rw [Bool.and_eq_true, List.contains_iff_mem, Bool.not_eq_true', Bool.eq_false_iff, Ne,
    isBanned_eq_true_iff]
  rfl

theorem readDeclaration?_eq (piece : Text) :
    readDeclaration? piece = ((cutDeclaration? piece).map normal).filter IsSafe := by
  unfold readDeclaration? cutDeclaration?
  generalize Text.cut ':' piece = halves
  obtain ⟨property, value⟩ := halves
  cases value with
  | none => rfl
  | some value =>
    simp only [Option.map_some, Option.filter_some, normal, isSafe_iff, decide_eq_true_eq]

theorem filterMap_readDeclaration? (pieces : List Text) :
    pieces.filterMap readDeclaration? =
      ((pieces.filterMap cutDeclaration?).map normal).filter IsSafe := by
  rw [List.map_filterMap, List.filter_filterMap]
  exact List.filterMap_congr fun piece _ => readDeclaration?_eq piece

theorem sanitize_eq (style : Text) : sanitize style = writeAll (safeDeclarations style) := by
  rw [sanitize, filterMap_readDeclaration?]
  rfl

theorem isAllowed_of_mem_safeDeclarations {style : Text} {d : Text × Text}
    (h : d ∈ safeDeclarations style) : IsAllowed d := by
  rw [safeDeclarations, declarations, ← filterMap_readDeclaration?] at h
  obtain ⟨piece, hm, hread⟩ := List.mem_filterMap.1 h
  refine isAllowed_of_readDeclaration? (fun hs => ?_) hread
  exact absurd (Text.not_of_mem_splitAt hm ';' hs) (by decide)

namespace IsAllowed

variable {d : Text × Text}

theorem trim_property (h : IsAllowed d) : d.1.trim = d.1 := by
  have htrim : ∀ property ∈ allowedProperties, Text.trim property = property := by decide
  exact htrim d.1 h.property

theorem cutDeclaration?_of_append (h : IsAllowed d) (lead : Text) (hl : ':' ∉ lead)
    (hp : (lead ++ d.1).trim = d.1.trim) :
    cutDeclaration? (lead ++ writeDeclaration d) = some d := by
  have hcolon : ':' ∉ lead ++ d.1 := by
    simp [hl, (normal_of_mem_allowedProperties h.property).2.1]
  have hcut : Text.cut ':' (lead ++ writeDeclaration d) = (lead ++ d.1, some d.2) := by
    have hpiece : lead ++ writeDeclaration d = (lead ++ d.1) ++ ':' :: d.2 := by
      simp [writeDeclaration]
    rw [hpiece]
    exact Text.cut_append_self hcolon d.2
  unfold cutDeclaration?
  rw [hcut]
  dsimp only
  rw [hp, h.trim_property]

end IsAllowed

theorem map_cutDeclaration?_writeAll {all : List (Text × Text)} (h : ∀ d ∈ all, IsAllowed d)
    (hne : all ≠ []) :
    (Text.splitOn ';' (writeAll all)).map cutDeclaration? = all.map some := by
  obtain ⟨d, rest, rfl⟩ := List.exists_cons_of_ne_nil hne
  obtain ⟨hd, hrest⟩ := List.forall_mem_cons.1 h
  have hfirst : cutDeclaration? (writeDeclaration d) = some d :=
    hd.cutDeclaration?_of_append [] List.not_mem_nil rfl
  have hothers : (rest.map writeDeclaration).map (cutDeclaration? ∘ (' ' :: ·)) =
      rest.map some := by
    rw [List.map_map]
    refine List.map_congr_left fun e he => ?_
    exact (hrest e he).cutDeclaration?_of_append [' '] (by decide)
      (Text.trim_cons_blank (by decide) e.1)
  rw [splitOn_writeAll h, List.map_cons, Text.spaced, List.map_cons, hfirst, List.map_map, hothers,
    List.map_cons]

theorem writeAll_eq_nil_iff {all : List (Text × Text)} : writeAll all = [] ↔ all = [] := by
  constructor
  · intro h
    cases all with
    | nil => rfl
    | cons d rest =>
      cases rest <;> simp [writeAll, Text.join, writeDeclaration] at h
  · rintro rfl
    rfl

end Style

/-- The reduction of a style changes nothing when it is repeated. A reduced style is empty exactly
if the style declares nothing safe. Otherwise every piece between its semicolons is a declaration
of a known property whose value holds nothing banned, and these are, in order, the normal forms of
the declarations of the style that are safe. -/
theorem reduced_style_is_its_safe_declarations (style : Text) :
    Style.sanitize (Style.sanitize style) = Style.sanitize style ∧
    (Style.sanitize style = [] ↔ Style.safeDeclarations style = []) ∧
    (∀ d ∈ Style.safeDeclarations style, d.1 ∈ Style.allowedProperties ∧ ¬Style.Banned d.2) ∧
    (Style.sanitize style ≠ [] →
      (Text.splitOn ';' (Style.sanitize style)).map Style.cutDeclaration? =
        (Style.safeDeclarations style).map some) := by
  have hsafe : ∀ d ∈ Style.safeDeclarations style, Style.IsSafe d := by
    intro d hd
    exact of_decide_eq_true (List.mem_filter.1 hd).2
  refine ⟨Style.sanitize_sanitize style, ?_, hsafe, ?_⟩
  · rw [Style.sanitize_eq, Style.writeAll_eq_nil_iff]
  · intro hne
    rw [Style.sanitize_eq] at hne ⊢
    exact Style.map_cutDeclaration?_writeAll
      (fun d hd => Style.isAllowed_of_mem_safeDeclarations hd) (mt Style.writeAll_eq_nil_iff.2 hne)

/-- A style with capitals and blanks, a value with a colon, an empty one, and banned ones. -/
def mixedStyle : Text :=
  "COLOR : a:b ;; width: 1.5 REM;margin:;x; Page-Break-AFTER: always;height: Calc (1px)"

/-- The mixed style is reduced to three declarations. -/
theorem mixed_style_is_its_safe_declarations :
    Style.sanitize mixedStyle = "color:a:b; margin:; page-break-after:always".toList ∧
    Style.sanitize mixedStyle ≠ [] ∧
    (Text.splitOn ';' (Style.sanitize mixedStyle)).map Style.cutDeclaration? =
      (Style.safeDeclarations mixedStyle).map some := by
  have hreduced :
      Style.sanitize mixedStyle = "color:a:b; margin:; page-break-after:always".toList := by
    decide +kernel
  have hne : Style.sanitize mixedStyle ≠ [] := by
    rw [hreduced]
    decide
  exact ⟨hreduced, hne, (reduced_style_is_its_safe_declarations mixedStyle).2.2.2 hne⟩

end TypedTemplate
