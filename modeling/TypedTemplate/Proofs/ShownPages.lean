import Mathlib.Data.List.Infix
import TypedTemplate.Proofs.ReadBack
import TypedTemplate.Proofs.ShownStyles

/-!
# Shown pages

An element that is iterated by pages and states no break after itself has a break written after
each page. The page of the last row has none. Which row is the last is known before the conditions
of the rows are, so where the last row is hidden the last page that is shown ends in a break too.
-/
namespace TypedTemplate

namespace Text

theorem lowerAfter_suffix (before t u : Text) :
    lowerAfter (t.reverse ++ before) u <:+ lowerAfter before (t ++ u) := by
  induction t generalizing before with
  | nil => exact List.suffix_rfl
  | cons c rest ih =>
    rw [List.cons_append, lowerAfter, List.reverse_cons, List.append_assoc]
    exact (ih (c :: before)).trans (List.suffix_append _ _)

theorem occursIn_of_infix {part t : Text} (h : part <:+: t) : occursIn part t = true := by
  induction t with
  | nil => rw [List.infix_nil.1 h]; rfl
  | cons c rest ih =>
    rw [occursIn, Bool.or_eq_true, List.isPrefixOf_iff_prefix]
    exact (List.infix_cons_iff.1 h).imp id ih

theorem suffix_join (separator : Text) (parts : List Text) (last : Text) :
    last <:+ join separator (parts ++ [last]) := by
  cases parts with
  | nil => exact List.suffix_rfl
  | cons first rest =>
    rw [join_append separator (List.cons_ne_nil _ _) (List.cons_ne_nil _ _)]
    exact List.suffix_append _ _

end Text

namespace Render

/-- A text whose end states a break before an element ends in a break after it only if the stated
value does. -/
theorem pageBreakAfter_suffix_iff {value t : Text}
    (h : "page-break-before:".toList ++ value <:+ t) :
    pageBreakAfter <:+ t ↔ pageBreakAfter <:+ value := by
  have hvalue : value <:+ t := (List.suffix_append _ _).trans h
  refine ⟨fun hbreak => ?_, fun hbreak => hbreak.trans hvalue⟩
  rcases List.suffix_or_suffix_of_suffix hbreak hvalue with hv | hv
  · exact hv
  -- A shorter value is one of the ends of the break, and no end of it has the lead before it.
  · have hends : ∀ v ∈ pageBreakAfter.tails, pageBreakAfter <:+ "page-break-before:".toList ++ v ∨
        "page-break-before:".toList ++ v <:+ pageBreakAfter → pageBreakAfter <:+ v := by
      decide
    exact hends value ((List.mem_tails _ _).2 hv) (List.suffix_or_suffix_of_suffix hbreak h)

theorem not_pageBreakAfter_suffix {style : Text}
    (h : Text.occursIn "page-break-after" (Text.lower style) = false) :
    ¬ pageBreakAfter <:+ style := by
  rintro ⟨t, rfl⟩
  have hall : pageBreakAfter.all (fun c => c != 'Σ' && lowerChar c == [c]) = true := by decide
  have hself : ∀ c ∈ pageBreakAfter, c ≠ 'Σ' ∧ lowerChar c = [c] := by
    simpa only [List.all_eq_true, Bool.and_eq_true, bne_iff_ne, beq_iff_eq] using hall
  have hlower : pageBreakAfter <:+ Text.lower (t ++ pageBreakAfter) := by
    have hend := Text.lowerAfter_suffix [] t pageBreakAfter
    rwa [Text.lowerAfter_eq_self hself] at hend
  have hname : "page-break-after".toList <:+: pageBreakAfter := ⟨[], ":always".toList, rfl⟩
  rw [Text.occursIn_of_infix (hname.trans hlower.isInfix)] at h
  cases h

/-- Whether the style of a start tag, as it is read, ends in the break between pages. -/
def EndsInBreak (head : Head) (breakAfter : Bool) : Prop :=
  ∃ style, Keyed.get? "style" (shownAttributes head breakAfter) = some (Reference.escape style) ∧
    pageBreakAfter <:+ style

theorem endsInBreak_iff_suffix (head : Head) (breakAfter : Bool) :
    EndsInBreak head breakAfter ↔ pageBreakAfter <:+ shownStyle head breakAfter := by
  rw [EndsInBreak, get?_style_shownAttributes]
  split
  · rename_i hnone
    rw [List.isEmpty_iff] at hnone
    have hstyle : shownStyle head breakAfter = [] := by rw [shownStyle, hnone]; rfl
    rw [hstyle]
    refine iff_of_false ?_ (by decide)
    rintro ⟨style, hread, -⟩
    cases hread
  · constructor
    · rintro ⟨style, hstyle, hbreak⟩
      have hescaped := Option.some.inj hstyle
      have hread := congrArg Reference.expand hescaped
      rw [Reference.expand_escape, Reference.expand_escape] at hread
      exact hread ▸ hbreak
    · exact fun hbreak => ⟨_, rfl, hbreak⟩

theorem join_statedPart (head : Head) (name : Text) :
    Text.join "; " (statedPart head name []) = head.valueOf name := by
  unfold statedPart
  split
  · rename_i hnone
    exact (List.isEmpty_iff.1 hnone).symm
  · rfl

/-- Where an element states no break after itself, its style ends in one if one is added, or if what
it states as the break before itself ends in one. -/
theorem endsInBreak_iff {head : Head} (h : hasBreakAfter head = false) (breakAfter : Bool) :
    EndsInBreak head breakAfter ↔
      breakAfter = true ∨ pageBreakAfter <:+ head.valueOf "data-break-before" := by
  obtain ⟨hafter, hstyle⟩ := Bool.or_eq_false_iff.1 h
  have hnone : statedPart head "data-break-after" "page-break-after:" = [] :=
    if_pos (by simpa using hafter)
  rw [endsInBreak_iff_suffix, shownStyle, styleParts_eq, hnone, List.append_nil]
  cases breakAfter with
  | true => exact iff_of_true (Text.suffix_join _ _ _) (.inl rfl)
  | false =>
    rw [if_neg Bool.false_ne_true, List.append_nil]
    by_cases hbefore : head.valueOf "data-break-before" = []
    · have hbreak : statedPart head "data-break-before" "page-break-before:" = [] :=
        if_pos (by simpa using hbefore)
      rw [hbreak, List.append_nil, join_statedPart, hbefore]
      exact iff_of_false (not_pageBreakAfter_suffix hstyle) (by decide)
    · have hbreak : statedPart head "data-break-before" "page-break-before:" =
          ["page-break-before:" ++ head.valueOf "data-break-before"] :=
        if_neg (by simpa using hbefore)
      rw [hbreak, pageBreakAfter_suffix_iff (Text.suffix_join _ _ _)]
      simp

/-- A page that is shown: the number of its row, and what is shown in its element. -/
structure Page where
  row : Nat
  body : Text

/-- A page as it is written where its iteration has some number of rows. A break is added unless its
row is the last of them. -/
def Page.written (head : Head) (total : Nat) (page : Page) : Text :=
  Document.startTag head.tag (shownAttributes head (page.row + 1 < total)) ++
    if head.isVoid then [] else page.body ++ Document.endTag head.tag

def showsRow (head : Head) (iteration : Iteration) (scope : DynamicScope) (total : Nat)
    (entry : Value × Nat) : Bool :=
  head.tag ≠ "meta" && Fault.succeedsWith (fun hidden => !hidden)
    (scope.bind iteration.itemName entry.1 entry.2 total (iteration.kind == .page) >>=
      isHidden head)

/-- A page holds what is shown in its element for the item of its row. An element that cannot hold
anything has no content. -/
def Page.Holds (head : Head) (content : DynamicScope → Except Fault Text) (iteration : Iteration)
    (scope : DynamicScope) (total : Nat) (entries : List (Value × Nat)) (page : Page) : Prop :=
  head.isVoid = false → ∃ item inner, (item, page.row) ∈ entries ∧
    scope.bind iteration.itemName item page.row total (iteration.kind == .page) = .ok inner ∧
    content inner = .ok page.body

section Rows

variable {head : Head} {content : DynamicScope → Except Fault Text} {scope : DynamicScope}
  {iteration : Iteration} {total : Nat}

theorem showRow_eq_ok {item : Value} {row : Nat} {inner : DynamicScope} {out : Text}
    (hb : scope.bind iteration.itemName item row total (iteration.kind == .page) = .ok inner)
    (h : showOnce head content inner (row + 1 < total) = .ok out) :
    (showsRow head iteration scope total (item, row) = false ∧ out = []) ∨
      (showsRow head iteration scope total (item, row) = true ∧
        ∃ page : Page, page.row = row ∧
          page.Holds head content iteration scope total [(item, row)] ∧
          out = page.written head total) := by
  obtain ⟨hidden, hi, hout⟩ := showOnce_eq_ok h
  have hrow : showsRow head iteration scope total (item, row) = !(hidden || head.tag = "meta") := by
    have hread : (scope.bind iteration.itemName item row total (iteration.kind == .page) >>=
        isHidden head) = .ok hidden := Fault.bind_eq_ok_iff.2 ⟨inner, hb, hi⟩
    rw [showsRow, hread]
    cases hidden <;> simp [Fault.succeedsWith]
  rw [hrow]
  rcases hout with ⟨hskip, hnone⟩ | ⟨hshow, body, hbody, hwritten⟩
  · exact .inl ⟨by rw [hskip]; rfl, hnone⟩
  · refine .inr ⟨by rw [hshow]; rfl, ⟨row, body⟩, rfl, fun hv => ?_, hwritten⟩
    exact ⟨item, inner, List.mem_singleton_self _, hb, hbody hv⟩

theorem Page.Holds.mono {page : Page} {entries more : List (Value × Nat)}
    (h : page.Holds head content iteration scope total entries) (hsub : entries ⊆ more) :
    page.Holds head content iteration scope total more := by
  intro hv
  obtain ⟨item, inner, hm, hrest⟩ := h hv
  exact ⟨item, inner, hsub hm, hrest⟩

theorem exists_pages_of_showRows {row : Nat} {items : List Value} {out : Text}
    (h : showRows (showOnce head content) iteration scope true total row items = .ok out) :
    ∃ pages : List Page, out = pages.flatMap (Page.written head total) ∧
      (∀ page ∈ pages, page.Holds head content iteration scope total (items.zipIdx row)) ∧
      pages.map Page.row =
        ((items.zipIdx row).filter (showsRow head iteration scope total)).map Prod.snd := by
  induction items generalizing row out with
  | nil => exact ⟨[], (Except.ok.inj h).symm, nofun, rfl⟩
  | cons item rest ih =>
    obtain ⟨inner, hb, h⟩ := Fault.bind_eq_ok_iff.1 h
    obtain ⟨first, hf, h⟩ := Fault.bind_eq_ok_iff.1 h
    obtain ⟨others, ho, h⟩ := Fault.bind_eq_ok_iff.1 h
    obtain rfl := Except.ok.inj h
    obtain ⟨pages, hpages, hhold, hrows⟩ := ih ho
    have hlater : ∀ page ∈ pages, page.Holds head content iteration scope total
        ((item, row) :: rest.zipIdx (row + 1)) :=
      fun page hp => (hhold page hp).mono (List.subset_cons_self _ _)
    rw [List.zipIdx_cons]
    rcases showRow_eq_ok hb hf with ⟨hrow, hnone⟩ | ⟨hrow, page, rfl, hpage, hwritten⟩
    · refine ⟨pages, by rw [hnone, hpages]; rfl, hlater, ?_⟩
      rw [List.filter_cons_of_neg (by simp [hrow]), hrows]
    · refine ⟨page :: pages, by rw [hwritten, hpages]; rfl,
        List.forall_mem_cons.2 ⟨hpage.mono ?_, hlater⟩, ?_⟩
      · exact List.cons_subset_cons _ (List.nil_subset _)
      · rw [List.filter_cons_of_pos hrow, List.map_cons, List.map_cons, hrows]

/-- Behind the row of a page that is not the last there is another row. -/
theorem row_add_one_lt_of_later {items : List Value} {shows : Value × Nat → Bool}
    {before after : List Page} {page : Page}
    (h : (before ++ page :: after).map Page.row = (items.zipIdx.filter shows).map Prod.snd)
    (hafter : after ≠ []) : page.row + 1 < items.length := by
  have hsub : List.Sublist ((before ++ page :: after).map Page.row)
      (List.range' 0 items.length) := by
    rw [h, ← List.zipIdx_map_snd 0 items]
    exact List.filter_sublist.map _
  obtain ⟨next, hnext⟩ := List.exists_mem_of_ne_nil after hafter
  have hlater : page.row < next.row := by
    have hordered := List.Pairwise.sublist hsub List.pairwise_lt_range'
    rw [List.map_append, List.map_cons] at hordered
    have htail := List.pairwise_cons.1 (List.pairwise_append.1 hordered).2.1
    exact htail.1 next.row (List.mem_map_of_mem hnext)
  have hnumbered : next.row ∈ List.range' 0 items.length := by
    refine hsub.subset (List.mem_map_of_mem ?_)
    exact List.mem_append_right before (List.mem_cons_of_mem page hnext)
  have hbelow : next.row < items.length := by simpa using hnumbered
  omega

/-- Behind the row of the last page there is another row exactly where the last row is hidden. -/
theorem row_add_one_lt_iff_last_hidden {items : List Value} {shows : Value × Nat → Bool}
    {pages : List Page} {page : Page}
    (h : pages.map Page.row = (items.zipIdx.filter shows).map Prod.snd)
    (hlast : pages.getLast? = some page) :
    page.row + 1 < items.length ↔ ∃ entry ∈ items.zipIdx.getLast?, shows entry = false := by
  have hshown : (items.zipIdx.filter shows).getLast?.map Prod.snd = some page.row := by
    rw [← List.getLast?_map, ← h, List.getLast?_map, hlast]
    rfl
  rcases List.eq_nil_or_concat items with rfl | ⟨before, item, rfl⟩
  · cases hshown
  · have hentries : (before.concat item).zipIdx = before.zipIdx ++ [(item, before.length)] := by
      simp [List.zipIdx_append]
    rw [hentries, List.filter_append] at hshown
    rw [hentries, List.getLast?_concat, List.length_concat]
    cases hs : shows (item, before.length) with
    | true =>
      have hrow : before.length = page.row := by simpa [hs] using hshown
      refine iff_of_false (by omega) ?_
      rintro ⟨_, ⟨⟩, hhidden⟩
      exact Bool.false_ne_true (hhidden.symm.trans hs)
    | false =>
      have hfilter : (before.zipIdx.filter shows).getLast?.map Prod.snd = some page.row := by
        simpa [hs] using hshown
      obtain ⟨entry, hentry, hrow⟩ := Option.map_eq_some_iff.1 hfilter
      have hmem := (List.mem_filter.1 (List.mem_of_getLast? hentry)).1
      have hbelow : entry.2 < before.length := by
        simpa using List.mem_map_of_mem (f := Prod.snd) hmem
      exact iff_of_true (by omega) ⟨_, rfl, hs⟩

end Rows

/-- The rows of an element that is iterated, as a scope resolves its source. -/
def rowsIn (iteration : Iteration) (scope : DynamicScope) : List Value :=
  match scope.resolve iteration.source with
  | .list items => rows iteration items
  | _ => []

theorem showElement_eq_showRows {head : Head} {iteration : Iteration}
    (hi : head.iteration = some iteration) (content : DynamicScope → Except Fault Text)
    (scope : DynamicScope) : showElement head content scope =
      showRows (showOnce head content) iteration scope
        (iteration.kind == .page && !hasBreakAfter head) (rowsIn iteration scope).length 0
        (rowsIn iteration scope) := by
  simp only [showElement, hi, rowsIn]
  cases scope.resolve iteration.source <;> rfl

end Render

/-- An element that is iterated by pages and states no break after itself shows the pages of the
rows that are not hidden. Every page but the last ends in a break. The last one does exactly where
the last row is hidden, or where the break that is stated before the element brings one. -/
theorem last_page_ends_in_break_iff_last_row_is_hidden {zone : Text} {head : Head}
    {children : List Node} {iteration : Iteration} {scope : DynamicScope} {out : Text}
    (hi : head.iteration = some iteration) (hk : iteration.kind = .page)
    (hb : Render.hasBreakAfter head = false)
    (h : Render.node zone (.element head children) scope = .ok out) :
    ∃ items pages, items = Render.rowsIn iteration scope ∧
      out = pages.flatMap (Render.Page.written head items.length) ∧
      (∀ page ∈ pages, page.Holds head (Render.nodes zone children) iteration scope items.length
        items.zipIdx) ∧
      pages.map Render.Page.row = (items.zipIdx.filter
        (Render.showsRow head iteration scope items.length)).map Prod.snd ∧
      (∀ before page after, pages = before ++ page :: after → after ≠ [] →
        Render.EndsInBreak head (page.row + 1 < items.length)) ∧
      ∀ page, pages.getLast? = some page →
        (Render.EndsInBreak head (page.row + 1 < items.length) ↔
          (∃ entry ∈ items.zipIdx.getLast?,
            Render.showsRow head iteration scope items.length entry = false) ∨
            Render.pageBreakAfter <:+ head.valueOf "data-break-before") := by
  rw [Render.node, Render.showElement_eq_showRows hi, hk, hb] at h
  obtain ⟨pages, hpages, hhold, hrows⟩ := Render.exists_pages_of_showRows h
  refine ⟨_, pages, rfl, hpages, hhold, hrows, ?_, ?_⟩
  · rintro before page after rfl hafter
    have hlater := Render.row_add_one_lt_of_later hrows hafter
    exact (Render.endsInBreak_iff hb _).2 (.inl (decide_eq_true hlater))
  · intro page hlast
    rw [Render.endsInBreak_iff hb, decide_eq_true_iff,
      Render.row_add_one_lt_iff_last_hidden hrows hlast]

def switchedPage : Head where
  tag := "p"
  attributes := [("data-page", "pages as page"), ("data-if", "page.on")]
  iteration := some ⟨.page, "pages", "page", none, none⟩
  condition := some "page.on"

def switchedPages : Node :=
  .element ⟨"html", [], none, none⟩ [.element switchedPage [.text [.literal "x"]]]

def switches (all : List Bool) : Value :=
  .object [("pages", .list (all.map fun on => .object [("on", .bool on)]))]

/-- Of three pages the second is switched off. The break stands between the other two. -/
theorem break_stands_between_first_and_third_page :
    Render.node Settings.defaults.timezone (.element switchedPage [.text [.literal "x"]])
        (.ofData (switches [true, false, true])) =
      .ok "<p style=\"page-break-after:always\">x</p><p>x</p>" ∧
    ∃ first last : Render.Page, first.row = 0 ∧ last.row = 2 ∧
      "<p style=\"page-break-after:always\">x</p><p>x</p>".toList =
        first.written switchedPage 3 ++ last.written switchedPage 3 ∧
      Render.EndsInBreak switchedPage (first.row + 1 < 3) ∧
      ¬ Render.EndsInBreak switchedPage (last.row + 1 < 3) := by
  have hshown : Render.node Settings.defaults.timezone
      (.element switchedPage [.text [.literal "x"]]) (.ofData (switches [true, false, true])) =
        .ok "<p style=\"page-break-after:always\">x</p><p>x</p>" := by
    decide +kernel
  obtain ⟨_, pages, rfl, hpages, -, hrows, hbetween, hlast⟩ :=
    last_page_ends_in_break_iff_last_row_is_hidden rfl rfl (by decide +kernel) hshown
  have hnumbers : pages.map Render.Page.row = [0, 2] := hrows.trans (by decide +kernel)
  obtain ⟨first, _, rfl, hfirst, hrest⟩ := List.map_eq_cons_iff.1 hnumbers
  obtain ⟨last, _, rfl, hsecond, hnone⟩ := List.map_eq_cons_iff.1 hrest
  obtain rfl := List.map_eq_nil_iff.1 hnone
  refine ⟨hshown, first, last, hfirst, hsecond, ?_, ?_, ?_⟩
  · rwa [List.flatMap_cons, List.flatMap_singleton] at hpages
  · exact hbetween [] first [last] rfl (by simp)
  · exact fun hbreak => absurd ((hlast last rfl).1 hbreak) (by decide +kernel)

/-- Of two pages the second is switched off. The first still has a break behind it. -/
theorem break_stands_behind_only_shown_page :
    Node.ofMarkup "<p data-page='pages as page' data-if='page.on'>x</p>" = .ok switchedPages ∧
    Render.template (some .defaults) switchedPages (switches [true, false]) =
      .ok "<html><p style=\"page-break-after:always\">x</p></html>" := by
  decide +kernel

end TypedTemplate
