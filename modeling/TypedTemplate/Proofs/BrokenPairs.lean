import TypedTemplate.Proofs.TextSegments

/-!
# Braces that are shown

Braces are shown as text where they form no pair. As a pair stands on one line, closed braces are
shown too: those whose body holds a line break. A literal holds no others, and an innermost pair
of braces that is broken by a line break is never read, whatever stands around it. So a text shows
closed braces exactly if it holds such a pair.
-/
namespace TypedTemplate

namespace Segment

/-- Whether opening braces stand in a text with closing braces behind them. -/
def HoldsClosedBraces (t : Text) : Prop :=
  ∃ before body after, t = before ++ openBraces ++ body ++ closeBraces ++ after

/-- An innermost pair of braces with a line break in it. -/
structure IsBrokenPair (t before body after : Text) : Prop where
  eq : t = before ++ openBraces ++ body ++ closeBraces ++ after
  broken : '\n' ∈ body
  noOpening : ¬openBraces <:+: body
  noClosing : ¬closeBraces <:+: body

theorem exists_innermost {t before body after : Text}
    (h : t = before ++ openBraces ++ body ++ closeBraces ++ after) :
    ∃ b x a, t = b ++ openBraces ++ x ++ closeBraces ++ a ∧ ¬openBraces <:+: x ∧
      ¬closeBraces <:+: x := by
  by_cases ho : openBraces <:+: body
  · obtain ⟨x, y, hb⟩ := ho
    have hlater : t = (before ++ openBraces ++ x) ++ openBraces ++ y ++ closeBraces ++ after := by
      simp only [h, ← hb, List.append_assoc]
    have hshorter : y.length < body.length := by
      simp only [← hb, List.length_append, openBraces_length]
      omega
    exact exists_innermost hlater
  · by_cases hc : closeBraces <:+: body
    · obtain ⟨x, y, hb⟩ := hc
      have hearlier :
          t = before ++ openBraces ++ x ++ closeBraces ++ (y ++ closeBraces ++ after) := by
        simp only [h, ← hb, List.append_assoc]
      have hshorter : x.length < body.length := by
        simp only [← hb, List.length_append, closeBraces_length]
        omega
      exact exists_innermost hearlier
    · exact ⟨before, body, after, h, ho, hc⟩
termination_by body.length

theorem eq_of_literal_mem_literals {l t : Text} (h : .literal l ∈ literals t) : l = t := by
  rcases literals_cases t with ⟨-, hl⟩ | ⟨-, hl⟩
  · rw [hl] at h
    cases h
  · rw [hl] at h
    exact Segment.literal.inj (List.mem_singleton.1 h)

theorem not_isPair_of_literal_mem {t l : Text} {segments : List Segment}
    (h : readAll t = .ok segments) (hl : .literal l ∈ segments) (before body after : Text) :
    ¬IsPair l before body after := by
  induction t using inductionOnPairs generalizing segments with
  | none t hn =>
    rw [readAll_of_none hn] at h
    rw [← Except.ok.inj h] at hl
    rw [eq_of_literal_mem_literals hl]
    exact firstBody?_eq_none_iff.1 hn before body after
  | some t b x a hs ih =>
    obtain ⟨i, others, -, ho, rfl⟩ := (readAll_eq_ok_iff_of_some hs).1 h
    rcases List.mem_append.1 hl with hl | hl
    · rw [eq_of_literal_mem_literals hl]
      exact (isNextPair_of_firstBody? hs).not_isPair_before before body after
    · rcases List.mem_cons.1 hl with hl | hl
      · cases hl
      · exact ih ho hl

theorem infix_of_literal_mem {t l : Text} {segments : List Segment}
    (h : readAll t = .ok segments) (hl : .literal l ∈ segments) : l <:+: t := by
  induction t using inductionOnPairs generalizing segments with
  | none t hn =>
    rw [readAll_of_none hn] at h
    rw [← Except.ok.inj h] at hl
    exact eq_of_literal_mem_literals hl ▸ List.infix_refl l
  | some t b x a hs ih =>
    obtain ⟨i, others, -, ho, rfl⟩ := (readAll_eq_ok_iff_of_some hs).1 h
    rw [(isNextPair_of_firstBody? hs).eq]
    rcases List.mem_append.1 hl with hl | hl
    · rw [eq_of_literal_mem_literals hl]
      simp only [List.append_assoc]
      exact (List.prefix_append _ _).isInfix
    · rcases List.mem_cons.1 hl with hl | hl
      · cases hl
      · exact (ih ho hl).trans (List.suffix_append _ _).isInfix

theorem broken_of_literal_mem {t l : Text} {segments : List Segment}
    (h : readAll t = .ok segments) (hl : .literal l ∈ segments) {before body after : Text}
    (he : l = before ++ openBraces ++ body ++ closeBraces ++ after) : '\n' ∈ body := by
  by_contra hline
  exact not_isPair_of_literal_mem h hl before body after ⟨he, hline⟩

theorem exists_isBrokenPair_of_literal_mem {t l : Text} {segments : List Segment}
    (h : readAll t = .ok segments) (hl : .literal l ∈ segments) (hc : HoldsClosedBraces l) :
    ∃ before body after, IsBrokenPair t before body after := by
  obtain ⟨before, body, after, he⟩ := hc
  obtain ⟨b, x, a, he, ho, hc⟩ := exists_innermost he
  have hbroken := broken_of_literal_mem h hl he
  obtain ⟨first, last, ht⟩ := infix_of_literal_mem h hl
  refine ⟨first ++ b, x, a ++ last, ?_, hbroken, ho, hc⟩
  rw [← ht, he]
  simp only [List.append_assoc]

/-- A doubled character against the cut of an appended text: it stands behind the cut, the cut goes
through it, or it stands before the cut. -/
theorem doubled_eq_append {c : Char} {t u v : Text} (h : c :: c :: t = u ++ v) :
    u = [] ∧ v = c :: c :: t ∨ u = [c] ∧ v = c :: t ∨ ∃ w, u = c :: c :: w ∧ t = w ++ v := by
  cases u with
  | nil => exact .inl ⟨rfl, h.symm⟩
  | cons d u =>
    obtain ⟨rfl, hrest⟩ := List.cons.inj h
    cases u with
    | nil => exact .inr (.inl ⟨rfl, hrest.symm⟩)
    | cons e u =>
      obtain ⟨he, hbehind⟩ := List.cons.inj hrest
      exact .inr (.inr ⟨u, by rw [he], hbehind⟩)

/-- Doubled characters of two kinds do not overlap: the one stands before the other. -/
theorem doubled_eq_append_doubled {c d : Char} (hne : c ≠ d) {t u v : Text}
    (h : c :: c :: t = u ++ d :: d :: v) : ∃ w, u = c :: c :: w ∧ t = w ++ d :: d :: v := by
  rcases doubled_eq_append h with ⟨-, he⟩ | ⟨-, he⟩ | hw
  · exact absurd (List.cons.inj he).1.symm hne
  · exact absurd (List.cons.inj he).1.symm hne
  · exact hw

/-- Of two texts before closing braces in one text, the one with a line break holds the braces that
follow the one without. -/
theorem closeBraces_infix_of_line {x y a b : Text}
    (h : x ++ '\x7d' :: '\x7d' :: a = y ++ '\x7d' :: '\x7d' :: b) (hx : '\n' ∈ x)
    (hy : '\n' ∉ y) : closeBraces <:+: x := by
  rcases List.append_eq_append_iff.1 h with ⟨s, rfl, -⟩ | ⟨s, rfl, hs⟩
  · exact absurd (List.mem_append_left s hx) hy
  · rw [List.mem_append, or_iff_right hy] at hx
    rcases doubled_eq_append hs with ⟨rfl, -⟩ | ⟨rfl, -⟩ | ⟨w, rfl, -⟩
    · cases hx
    · exact absurd hx (by decide)
    · exact ⟨y, w, by simp [closeBraces]⟩

/-- The next pair and a broken pair do not overlap: the broken one stands before it or in what
follows it. -/
theorem IsBrokenPair.apart {t b x a before body after : Text} (h : IsBrokenPair t b x a)
    (hn : IsNextPair t before body after) :
    HoldsClosedBraces before ∨ ∃ b', IsBrokenPair after b' x a := by
  have hover : ∀ y d, x ++ '\x7d' :: '\x7d' :: a = y ++ '\x7d' :: '\x7d' :: d → '\n' ∉ y → False :=
    fun _ _ he hy => h.noClosing (closeBraces_infix_of_line he h.broken hy)
  have heq : b ++ '\x7b' :: '\x7b' :: (x ++ '\x7d' :: '\x7d' :: a) =
      before ++ '\x7b' :: '\x7b' :: (body ++ '\x7d' :: '\x7d' :: after) := by
    have hsame := h.eq.symm.trans hn.eq
    simpa [openBraces, closeBraces] using hsame
  have hline := hn.line
  rcases List.append_eq_append_iff.1 heq with ⟨s, rfl, hs⟩ | ⟨s, rfl, hs⟩
  · rcases doubled_eq_append hs with ⟨rfl, he⟩ | ⟨rfl, he⟩ | ⟨s, rfl, he⟩
    · exact (hover body after (by simpa using he.symm) hline).elim
    · refine (hover ('\x7b' :: body) after (by simpa using he.symm) ?_).elim
      simpa using hline
    · rcases List.append_eq_append_iff.1 he with ⟨r, rfl, hr⟩ | ⟨r, rfl, hr⟩
      · obtain ⟨w, rfl, -⟩ := doubled_eq_append_doubled (by decide) hr
        exact .inl ⟨b, x, w, by simp [openBraces, closeBraces]⟩
      · obtain ⟨w, rfl, -⟩ := doubled_eq_append_doubled (by decide) hr
        exact absurd ⟨s, w, by simp [openBraces]⟩ h.noOpening
  · rcases doubled_eq_append hs with ⟨rfl, he⟩ | ⟨rfl, he⟩ | ⟨s, rfl, he⟩
    · exact (hover body after (by simpa using he) hline).elim
    · cases body with
      | nil => cases he
      | cons d body =>
        refine (hover body after (by simpa using (List.cons.inj (List.cons.inj he).2).2) ?_).elim
        exact fun hd => hline (List.mem_cons_of_mem d hd)
    · rcases List.append_eq_append_iff.1 he with ⟨r, rfl, hr⟩ | ⟨r, rfl, hr⟩
      · obtain ⟨w, rfl, hbehind⟩ := doubled_eq_append_doubled (by decide) hr
        refine .inr ⟨w, ?_, h.broken, h.noOpening, h.noClosing⟩
        simpa [openBraces, closeBraces] using hbehind
      · obtain ⟨w, rfl, hinner⟩ := doubled_eq_append_doubled (by decide) hr
        refine (hover w after hinner ?_).elim
        exact fun hm => hline (List.mem_append_right s (by simp [hm]))

/-- A broken pair is shown. -/
theorem exists_literal_of_isBrokenPair {t : Text} {segments : List Segment}
    (h : readAll t = .ok segments) {b x a : Text} (hp : IsBrokenPair t b x a) :
    ∃ l, .literal l ∈ segments ∧ HoldsClosedBraces l := by
  have hliteral : ∀ {t}, HoldsClosedBraces t → .literal t ∈ literals t := by
    rintro t ⟨b, x, a, he⟩
    rcases literals_cases t with ⟨rfl, -⟩ | ⟨-, hl⟩
    · have hlength := congrArg List.length he
      simp only [List.length_nil, List.length_append, openBraces_length] at hlength
      omega
    · rw [hl]
      exact List.mem_cons_self
  induction t using inductionOnPairs generalizing segments b with
  | none t hn =>
    rw [readAll_of_none hn] at h
    have hclosed : HoldsClosedBraces t := ⟨b, x, a, hp.eq⟩
    exact ⟨t, Except.ok.inj h ▸ hliteral hclosed, hclosed⟩
  | some t before body after hs ih =>
    obtain ⟨i, others, -, ho, rfl⟩ := (readAll_eq_ok_iff_of_some hs).1 h
    rcases hp.apart (isNextPair_of_firstBody? hs) with hclosed | ⟨b', hp'⟩
    · exact ⟨before, List.mem_append_left _ (hliteral hclosed), hclosed⟩
    · obtain ⟨l, hl, hclosed⟩ := ih ho hp'
      exact ⟨l, List.mem_append_right _ (List.mem_cons_of_mem _ hl), hclosed⟩

end Segment

/-- No literal of a text that is read holds closed braces exactly if no innermost pair of braces of
the text is broken by a line break. All closed braces that are shown have a line break between
them. -/
theorem no_closed_braces_are_shown_iff_no_pair_is_broken {t : Text} {segments : List Segment}
    (h : Segment.readAll t = .ok segments) :
    ((∀ l, .literal l ∈ segments → ¬Segment.HoldsClosedBraces l) ↔
      ∀ before body after, ¬Segment.IsBrokenPair t before body after) ∧
    ∀ l, .literal l ∈ segments → ∀ before body after,
      l = before ++ Segment.openBraces ++ body ++ Segment.closeBraces ++ after →
        '\n' ∈ body := by
  refine ⟨⟨?_, ?_⟩, ?_⟩
  · intro hshown before body after hp
    obtain ⟨l, hl, hclosed⟩ := Segment.exists_literal_of_isBrokenPair h hp
    exact hshown l hl hclosed
  · intro hbroken l hl hclosed
    obtain ⟨before, body, after, hp⟩ := Segment.exists_isBrokenPair_of_literal_mem h hl hclosed
    exact hbroken before body after hp
  · intro l hl before body after he
    exact Segment.broken_of_literal_mem h hl he

def noteWithBraces : Text := "\x7d\x7d \x7b\x7bnote:string\x7d\x7d \x7d\x7d \x7b\x7b"

/-- The braces that are shown of the note are not closed. -/
theorem no_closed_braces_of_note_are_shown : ∃ segments,
    Segment.readAll noteWithBraces = .ok segments ∧
    (∃ l, .literal l ∈ segments ∧ Segment.closeBraces <:+: l ∧ Segment.openBraces <:+: l) ∧
    ∀ l, .literal l ∈ segments → ¬Segment.HoldsClosedBraces l := by
  have hr : Segment.readAll noteWithBraces = .ok [.literal "\x7d\x7d ",
      .interpolation ⟨"note", .string, false, [], []⟩, .literal " \x7d\x7d \x7b\x7b"] := by
    decide +kernel
  refine ⟨_, hr, ⟨" \x7d\x7d \x7b\x7b", by simp, by decide, by decide⟩, ?_⟩
  refine (no_closed_braces_are_shown_iff_no_pair_is_broken hr).1.2 ?_
  intro before body after hp
  have hline : '\n' ∉ noteWithBraces := by decide
  rw [hp.eq] at hline
  exact hline (by simp [hp.broken])

/-- An expression that is written over three lines. -/
def wrappedExpression : Text := "\nname:string\n"

/-- The expression can be read, but its braces are shown with it. -/
theorem wrapped_expression_is_shown :
    Expression.read wrappedExpression = .ok ⟨"name", .string, false, [], []⟩ ∧
    ∃ l, Segment.readAll (Segment.openBraces ++ wrappedExpression ++ Segment.closeBraces) =
      .ok [.literal l] ∧ Segment.HoldsClosedBraces l := by
  refine ⟨by decide +kernel,
    Segment.openBraces ++ wrappedExpression ++ Segment.closeBraces, by decide +kernel,
    [], wrappedExpression, [], ?_⟩
  rw [List.nil_append, List.append_nil]

end TypedTemplate
