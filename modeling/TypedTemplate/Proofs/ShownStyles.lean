import TypedTemplate.Proofs.ShownInstances

/-!
# Shown styles

The style that is shown for an element is put together from its style, which is in normal form,
from the page breaks that it states, and from the break between pages. A stated break is taken as
it is given, so the shown style is in normal form exactly when the stated breaks are.
-/
namespace TypedTemplate

/-- The page breaks that an element states are declarations in normal form. -/
structure Head.HasNormalBreaks (head : Head) : Prop where
  before : head.valueOf "data-break-before" ≠ [] →
    Style.sanitize ("page-break-before:" ++ head.valueOf "data-break-before") =
      "page-break-before:" ++ head.valueOf "data-break-before"
  after : head.valueOf "data-break-after" ≠ [] →
    Style.sanitize ("page-break-after:" ++ head.valueOf "data-break-after") =
      "page-break-after:" ++ head.valueOf "data-break-after"

instance (head : Head) : Decidable head.HasNormalBreaks :=
  decidable_of_iff
    ((head.valueOf "data-break-before" ≠ [] →
        Style.sanitize ("page-break-before:" ++ head.valueOf "data-break-before") =
          "page-break-before:" ++ head.valueOf "data-break-before") ∧
      (head.valueOf "data-break-after" ≠ [] →
        Style.sanitize ("page-break-after:" ++ head.valueOf "data-break-after") =
          "page-break-after:" ++ head.valueOf "data-break-after"))
    ⟨fun h => ⟨h.1, h.2⟩, fun h => ⟨h.before, h.after⟩⟩

namespace Render

/-- A declaration as it is stated by an attribute: none when the attribute is empty. -/
def statedPart (head : Head) (name lead : Text) : List Text :=
  if (head.valueOf name).isEmpty then [] else [lead ++ head.valueOf name]

theorem styleParts_eq (head : Head) (breakAfter : Bool) :
    styleParts head breakAfter =
      statedPart head "style" [] ++ statedPart head "data-break-before" "page-break-before:" ++
        statedPart head "data-break-after" "page-break-after:" ++
        if breakAfter then [pageBreakAfter] else [] := rfl

theorem forall_mem_statedPart {head : Head} {name lead : Text} {P : Text → Prop} :
    (∀ part ∈ statedPart head name lead, P part) ↔
      (head.valueOf name ≠ [] → P (lead ++ head.valueOf name)) := by
  unfold statedPart
  split
  · rename_i h
    rw [List.isEmpty_iff] at h
    exact iff_of_true nofun fun hne => absurd h hne
  · rename_i h
    rw [List.isEmpty_iff] at h
    simp [h]

/-- What holds of the declaration of the break between pages holds of every part of a style if it
holds of the parts that attributes state. -/
theorem forall_mem_styleParts {head : Head} {breakAfter : Bool} {P : Text → Prop}
    (hbreak : P pageBreakAfter) :
    (∀ part ∈ styleParts head breakAfter, P part) ↔
      (head.valueOf "style" ≠ [] → P (head.valueOf "style")) ∧
      (head.valueOf "data-break-before" ≠ [] →
        P ("page-break-before:" ++ head.valueOf "data-break-before")) ∧
      (head.valueOf "data-break-after" ≠ [] →
        P ("page-break-after:" ++ head.valueOf "data-break-after")) := by
  have hlast : ∀ part ∈ (if breakAfter then [pageBreakAfter] else []), P part := by
    cases breakAfter with
    | true => simpa using hbreak
    | false => exact nofun
  rw [styleParts_eq, List.forall_mem_append, List.forall_mem_append, List.forall_mem_append,
    forall_mem_statedPart, forall_mem_statedPart, forall_mem_statedPart]
  constructor
  · rintro ⟨⟨⟨hstyle, hbefore⟩, hafter⟩, -⟩
    exact ⟨hstyle, hbefore, hafter⟩
  · rintro ⟨hstyle, hbefore, hafter⟩
    exact ⟨⟨⟨hstyle, hbefore⟩, hafter⟩, hlast⟩

theorem ne_nil_of_mem_styleParts {head : Head} {breakAfter : Bool} :
    ∀ part ∈ styleParts head breakAfter, part ≠ [] := by
  rw [forall_mem_styleParts (by decide)]
  exact ⟨id, fun _ => by simp, fun _ => by simp⟩

/-- The shown style of a sanitized element is in normal form exactly when its breaks are. -/
theorem sanitize_shownStyle_iff {head : Head} (h : Allowed.AreKept head.attributes)
    (breakAfter : Bool) :
    Style.sanitize (shownStyle head breakAfter) = shownStyle head breakAfter ↔
      head.HasNormalBreaks := by
  have hstyle : head.valueOf "style" ≠ [] →
      Style.sanitize (head.valueOf "style") = head.valueOf "style" := by
    intro hne
    cases hs : Keyed.get? "style" head.attributes with
    | none =>
      rw [Head.valueOf, hs] at hne
      exact absurd rfl hne
    | some style =>
      rw [Head.valueOf, hs]
      exact (h.style style hs).2
  rw [shownStyle, Style.sanitize_join_eq_self_iff ne_nil_of_mem_styleParts,
    forall_mem_styleParts (by decide)]
  constructor
  · rintro ⟨-, hbefore, hafter⟩
    exact ⟨hbefore, hafter⟩
  · intro hb
    exact ⟨hstyle, hb.before, hb.after⟩

end Render

/-- Whatever the data and the settings are, a shown style is in normal form exactly when the page
breaks that its element states are. -/
theorem shown_style_is_normal_iff_breaks_are {markup : Text} {root : Node}
    (hm : Node.ofMarkup markup = .ok root) {given : Option Settings} {data : Value} {out : Text}
    (h : Render.template given root data = .ok out) :
    ∃ shown, Document.tags out = Render.Instance.tagsOfList shown ∧
      ∀ head breakAfter, (head, breakAfter) ∈ Render.Instance.startsOfList shown →
        head ∈ root.heads ∧
        Keyed.get? "style" (Render.shownAttributes head breakAfter) =
          (if (Render.styleParts head breakAfter).isEmpty then none
            else some (Reference.escape (Render.shownStyle head breakAfter))) ∧
        (Style.sanitize (Render.shownStyle head breakAfter) = Render.shownStyle head breakAfter ↔
          head.HasNormalBreaks) := by
  obtain ⟨shown, -, hmake⟩ := Render.exists_instances_of_template hm h
  have hsanitized := Node.isSanitized_of_ofMarkup hm
  refine ⟨shown, hmake.consists.tags_eq, ?_⟩
  intro head breakAfter hs
  have hmem := (hmake.only _ hs).1
  have hkept := (hsanitized.heads head hmem).attributes
  exact ⟨hmem, Render.get?_style_shownAttributes head breakAfter,
    Render.sanitize_shownStyle_iff hkept breakAfter⟩

def breakingPages : Text :=
  "<p data-page='pages' style='color: red; float: left' data-break-before='always'>x</p>"

def twoPages : Value := .object [("pages", .list [.null, .null])]

/-- The shown styles of two pages are in normal form, with the breaks before and between them. -/
theorem shown_style_is_normal_for_two_pages : ∃ root out, Node.ofMarkup breakingPages = .ok root ∧
    Render.template (some .defaults) root twoPages = .ok out ∧
    ∃ shown, Document.tags out = Render.Instance.tagsOfList shown ∧
      ∀ head breakAfter, (head, breakAfter) ∈ Render.Instance.startsOfList shown →
        Style.sanitize (Render.shownStyle head breakAfter) =
          Render.shownStyle head breakAfter := by
  have hread : Fault.succeedsWith (fun root =>
      decide (∀ head ∈ root.heads, head.HasNormalBreaks) &&
        Fault.succeedsWith (fun _ => true) (Render.template (some .defaults) root twoPages))
      (Node.ofMarkup breakingPages) = true := by
    decide +kernel
  obtain ⟨root, hm, hroot⟩ := Fault.exists_of_succeedsWith hread
  obtain ⟨hbreaks, hroot⟩ := Bool.and_eq_true_iff.1 hroot
  obtain ⟨out, ho, -⟩ := Fault.exists_of_succeedsWith hroot
  obtain ⟨shown, htags, hstyles⟩ := shown_style_is_normal_iff_breaks_are hm ho
  refine ⟨root, out, hm, ho, shown, htags, ?_⟩
  intro head breakAfter hs
  obtain ⟨hmem, -, hiff⟩ := hstyles head breakAfter hs
  exact hiff.2 (of_decide_eq_true hbreaks head hmem)

def positionedParagraph : Text := "<p data-break-before='always; position:absolute'>x</p>"

/-- What is stated as a break is shown in the style as it is, and the style is not in normal form
then. -/
theorem shown_style_is_not_normal_for_positioned_paragraph : ∃ root out,
    Node.ofMarkup positionedParagraph = .ok root ∧
    Render.template (some .defaults) root (.object []) = .ok out ∧
    out = "<html><p style=\"page-break-before:always; position:absolute\">x</p></html>".toList ∧
    Style.sanitize "page-break-before:always; position:absolute" ≠
      "page-break-before:always; position:absolute".toList := by
  have hread : Fault.succeedsWith (fun root => decide (
      Render.template (some .defaults) root (.object []) =
        .ok "<html><p style=\"page-break-before:always; position:absolute\">x</p></html>".toList))
      (Node.ofMarkup positionedParagraph) = true := by
    decide +kernel
  obtain ⟨root, hm, hroot⟩ := Fault.exists_of_succeedsWith hread
  exact ⟨root, _, hm, of_decide_eq_true hroot, rfl, by decide⟩

end TypedTemplate
