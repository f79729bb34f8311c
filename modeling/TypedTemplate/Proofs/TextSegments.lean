import Mathlib.Data.List.Chain
import Mathlib.Data.List.Forall2
import TypedTemplate.Expression.Segments

/-!
# Segments and the pairs they are cut at

A text is cut at its pairs of braces, one after the other: the next pair is the leftmost one, the
shortest from there, and it holds no line break. So the bodies of the pairs are determined by the
text, the segments say what is read from each of them, and nothing of the text is lost between
them. Reading fails exactly where the body of one of these pairs cannot be read.
-/
namespace TypedTemplate

namespace Segment

def openBraces : Text := "\x7b\x7b"

def closeBraces : Text := "\x7d\x7d"

@[simp] theorem openBraces_length : openBraces.length = 2 := rfl

@[simp] theorem closeBraces_length : closeBraces.length = 2 := rfl

/-- A pair of braces in a text: what stands before it, what it holds on one line, and what
follows. -/
structure IsPair (t before body after : Text) : Prop where
  eq : t = before ++ openBraces ++ body ++ closeBraces ++ after
  line : '\n' ∉ body

/-- The pair that is met first: none begins before it, and none that begins with it is shorter. -/
structure IsNextPair (t before body after : Text) : Prop extends IsPair t before body after where
  leftmost : ∀ b x a, IsPair t b x a → before.length ≤ b.length
  shortest : ∀ x a, IsPair t before x a → body.length ≤ x.length

theorem isPair_nil_iff {t body after : Text} :
    IsPair t [] body after ↔
      t = '\x7b' :: '\x7b' :: (body ++ '\x7d' :: '\x7d' :: after) ∧ '\n' ∉ body := by
  have htext : [] ++ openBraces ++ body ++ closeBraces ++ after =
      '\x7b' :: '\x7b' :: (body ++ '\x7d' :: '\x7d' :: after) := by
    simp [openBraces, closeBraces]
  constructor
  · intro h
    exact ⟨h.eq.trans htext, h.line⟩
  · rintro ⟨rfl, hl⟩
    exact ⟨htext.symm, hl⟩

theorem isPair_cons_iff {c : Char} {t before body after : Text} :
    IsPair (c :: t) (c :: before) body after ↔ IsPair t before body after := by
  constructor
  · rintro ⟨h, hl⟩
    exact ⟨List.cons.inj h |>.2, hl⟩
  · rintro ⟨rfl, hl⟩
    exact ⟨rfl, hl⟩

theorem IsPair.exists_of_cons {c d : Char} {t before body after : Text}
    (h : IsPair (c :: t) (d :: before) body after) : IsPair t before body after := by
  obtain ⟨rfl, -⟩ := List.cons.inj h.eq
  exact isPair_cons_iff.1 h

theorem not_isPair_nil (before body after : Text) : ¬IsPair [] before body after := by
  intro h
  have hlength := congrArg List.length h.eq
  simp only [List.length_nil, List.length_append, openBraces_length] at hlength
  omega

namespace IsNextPair

variable {t before body after : Text}

theorem unique (h : IsNextPair t before body after) {before' body' after' : Text}
    (h' : IsNextPair t before' body' after') :
    before' = before ∧ body' = body ∧ after' = after := by
  have hbefore : before'.length = before.length :=
    Nat.le_antisymm (h'.leftmost _ _ _ h.toIsPair) (h.leftmost _ _ _ h'.toIsPair)
  have htext := h'.eq.symm.trans h.eq
  simp only [List.append_assoc] at htext
  obtain ⟨rfl, hbehind⟩ := List.append_inj htext hbefore
  have hbody : body'.length = body.length :=
    Nat.le_antisymm (h'.shortest _ _ h.toIsPair) (h.shortest _ _ h'.toIsPair)
  obtain ⟨rfl, hrest⟩ := List.append_inj ((List.append_right_inj openBraces).1 hbehind) hbody
  exact ⟨rfl, rfl, (List.append_right_inj closeBraces).1 hrest⟩

theorem not_infix_body (h : IsNextPair t before body after) : ¬closeBraces <:+: body := by
  rintro ⟨x, more, rfl⟩
  have hpair : IsPair t before x (more ++ closeBraces ++ after) := by
    refine ⟨?_, fun hx => h.line ?_⟩
    · rw [h.eq]
      simp only [List.append_assoc]
    · exact List.mem_append_left _ (List.mem_append_left _ hx)
  have hle := h.shortest _ _ hpair
  simp only [List.length_append, closeBraces_length] at hle
  omega

theorem not_isPair_before (h : IsNextPair t before body after) (b x a : Text) :
    ¬IsPair before b x a := by
  intro hp
  have hpair : IsPair t b x (a ++ openBraces ++ body ++ closeBraces ++ after) := by
    refine ⟨?_, hp.line⟩
    rw [h.eq, hp.eq]
    simp only [List.append_assoc]
  have hle := h.leftmost _ _ _ hpair
  rw [hp.eq] at hle
  simp only [List.length_append, openBraces_length] at hle
  omega

end IsNextPair

theorem line_of_untilClose? {t body after : Text} (h : untilClose? t = some (body, after)) :
    '\n' ∉ body := by
  fun_induction untilClose? t generalizing body after with
  | case1 => cases h
  | case2 rest =>
    rw [← (Prod.mk.inj (Option.some.inj h)).1]
    exact List.not_mem_nil
  | case3 => cases h
  | case4 c rest _ hc ih =>
    obtain ⟨⟨inner, tail⟩, hu, he⟩ := Option.map_eq_some_iff.1 h
    rw [← (Prod.mk.inj he).1, List.mem_cons, not_or]
    exact ⟨fun hn => hc (beq_iff_eq.2 hn.symm), ih hu⟩

theorem exists_untilClose? {t x a : Text} (h : t = x ++ '\x7d' :: '\x7d' :: a) (hl : '\n' ∉ x) :
    ∃ body after, untilClose? t = some (body, after) ∧ body.length ≤ x.length := by
  fun_induction untilClose? t generalizing x with
  | case1 => cases x <;> cases h
  | case2 rest => exact ⟨[], rest, rfl, Nat.zero_le _⟩
  | case3 c rest hbraces hc =>
    cases x with
    | nil =>
      obtain ⟨rfl, rfl⟩ := List.cons.inj h
      exact (hbraces a rfl rfl).elim
    | cons d x =>
      obtain ⟨rfl, -⟩ := List.cons.inj h
      exact absurd (eq_of_beq hc ▸ List.mem_cons_self) hl
  | case4 c rest hbraces hc ih =>
    cases x with
    | nil =>
      obtain ⟨rfl, rfl⟩ := List.cons.inj h
      exact (hbraces a rfl rfl).elim
    | cons d x =>
      obtain ⟨rfl, hrest⟩ := List.cons.inj h
      rw [List.mem_cons, not_or] at hl
      obtain ⟨body, after, hu, hle⟩ := ih hrest hl.2
      exact ⟨c :: body, after, by rw [hu]; rfl, Nat.succ_le_succ hle⟩

theorem bodyAt?_braces (rest : Text) : bodyAt? ('\x7b' :: '\x7b' :: rest) = untilClose? rest := rfl

theorem isPair_of_bodyAt? {t body after : Text} (h : bodyAt? t = some (body, after)) :
    IsPair t [] body after ∧ ∀ x a, IsPair t [] x a → body.length ≤ x.length := by
  unfold bodyAt? at h
  split at h
  · rename_i rest
    refine ⟨isPair_nil_iff.2 ⟨?_, line_of_untilClose? h⟩, ?_⟩
    · rw [untilClose?_eq_some h]
    · intro x a hp
      obtain ⟨heq, hl⟩ := isPair_nil_iff.1 hp
      obtain ⟨body', after', hu, hle⟩ :=
        exists_untilClose? (List.cons.inj (List.cons.inj heq).2).2 hl
      obtain ⟨rfl, rfl⟩ := Prod.mk.inj (Option.some.inj (h.symm.trans hu))
      exact hle
  · cases h

theorem not_isPair_of_bodyAt? {t : Text} (h : bodyAt? t = none) (body after : Text) :
    ¬IsPair t [] body after := by
  intro hp
  obtain ⟨rfl, hl⟩ := isPair_nil_iff.1 hp
  obtain ⟨body', after', hu, -⟩ := exists_untilClose? rfl hl
  rw [bodyAt?_braces, hu] at h
  cases h

/-- What is found first is the next pair. -/
theorem isNextPair_of_firstBody? {t before body after : Text}
    (h : firstBody? t = some (before, body, after)) : IsNextPair t before body after := by
  induction t generalizing before with
  | nil => cases h
  | cons c rest ih =>
    unfold firstBody? at h
    split at h
    · rename_i hbody
      cases h
      obtain ⟨hpair, hshortest⟩ := isPair_of_bodyAt? hbody
      exact ⟨hpair, fun _ _ _ _ => Nat.zero_le _, hshortest⟩
    · rename_i hnone
      obtain ⟨⟨b, x, a⟩, hrest, he⟩ := Option.map_eq_some_iff.1 h
      cases he
      have hnext := ih hrest
      refine ⟨isPair_cons_iff.2 hnext.toIsPair, ?_, ?_⟩
      · intro b' x' a' hp
        cases b' with
        | nil => exact absurd hp (not_isPair_of_bodyAt? hnone x' a')
        | cons d b' => exact Nat.succ_le_succ (hnext.leftmost _ _ _ hp.exists_of_cons)
      · intro x' a' hp
        exact hnext.shortest _ _ (isPair_cons_iff.1 hp)

theorem firstBody?_eq_none_iff {t : Text} :
    firstBody? t = none ↔ ∀ before body after, ¬IsPair t before body after := by
  induction t with
  | nil => exact iff_of_true rfl not_isPair_nil
  | cons c rest ih =>
    unfold firstBody?
    split
    · rename_i hbody
      exact iff_of_false nofun fun h => h _ _ _ (isPair_of_bodyAt? hbody).1
    · rename_i hnone
      rw [Option.map_eq_none_iff, ih]
      constructor
      · intro h before body after hp
        cases before with
        | nil => exact not_isPair_of_bodyAt? hnone body after hp
        | cons d before => exact h _ _ _ hp.exists_of_cons
      · intro h before body after hp
        exact h (c :: before) body after (isPair_cons_iff.2 hp)

theorem firstBody?_eq_some_iff {t before body after : Text} :
    firstBody? t = some (before, body, after) ↔ IsNextPair t before body after := by
  refine ⟨isNextPair_of_firstBody?, fun h => ?_⟩
  cases hf : firstBody? t with
  | none => exact absurd h.toIsPair (firstBody?_eq_none_iff.1 hf _ _ _)
  | some found =>
    obtain ⟨rfl, rfl, rfl⟩ := h.unique (isNextPair_of_firstBody? hf)
    rfl

theorem firstBody?_of_no_braces {t : Text} (h : ¬openBraces <:+: t) : firstBody? t = none := by
  rw [firstBody?_eq_none_iff]
  intro before body after hp
  refine h ⟨before, body ++ closeBraces ++ after, ?_⟩
  rw [hp.eq]
  simp only [List.append_assoc]

theorem length_lt_of_firstBody? {t before body after : Text}
    (h : firstBody? t = some (before, body, after)) : after.length < t.length := by
  have hlength := congrArg List.length (isNextPair_of_firstBody? h).eq
  simp only [List.length_append, openBraces_length, closeBraces_length] at hlength
  omega

/-- Numbers that are not below the length of the text bound nothing. -/
theorem readFrom_congr {fuel other : Nat} {t : Text} (h : t.length ≤ fuel)
    (ho : t.length ≤ other) : readFrom fuel t = readFrom other t := by
  have hnone : ∀ fuel, readFrom fuel [] = .ok [] := fun fuel => by cases fuel <;> rfl
  induction fuel generalizing t other with
  | zero =>
    obtain rfl := List.length_eq_zero_iff.1 (Nat.le_zero.1 h)
    rw [hnone, hnone]
  | succ fuel ih =>
    cases other with
    | zero =>
      obtain rfl := List.length_eq_zero_iff.1 (Nat.le_zero.1 ho)
      rw [hnone, hnone]
    | succ other =>
      rw [readFrom, readFrom]
      cases hf : firstBody? t with
      | none => rfl
      | some found =>
        obtain ⟨before, body, after⟩ := found
        have hlength := length_lt_of_firstBody? hf
        have hafter : readFrom fuel after = readFrom other after := ih (by omega) (by omega)
        simp only [hafter]

theorem readAll_of_none {t : Text} (h : firstBody? t = none) : readAll t = .ok (literals t) := by
  unfold readAll
  cases t with
  | nil => rfl
  | cons c rest => rw [List.length_cons, readFrom, h]

theorem readAll_of_no_braces {t : Text} (hne : t ≠ []) (h : ¬openBraces <:+: t) :
    readAll t = .ok [.literal t] := by
  have hliteral : literals t = [.literal t] := if_neg (by simpa using hne)
  rw [readAll_of_none (firstBody?_of_no_braces h), hliteral]

/-- A text with a pair is read up to the pair, and from behind it on. -/
theorem readAll_of_some {t before body after : Text}
    (h : firstBody? t = some (before, body, after)) :
    readAll t = do
      let i ← Expression.read body
      let others ← readAll after
      return literals before ++ .interpolation i :: others := by
  cases t with
  | nil => cases h
  | cons c rest =>
    have hlength : after.length ≤ rest.length := Nat.le_of_lt_succ (length_lt_of_firstBody? h)
    rw [readAll, List.length_cons, readFrom, h]
    simp only [readFrom_congr hlength Nat.le.refl]
    rfl

/-- What holds of a text without a pair, and of any text if it holds of what follows its next
pair, holds of every text. -/
theorem inductionOnPairs {motive : Text → Prop} (none : ∀ t, firstBody? t = none → motive t)
    (some : ∀ t before body after, firstBody? t = some (before, body, after) → motive after →
      motive t) (t : Text) : motive t := by
  cases hf : firstBody? t with
  | none => exact none t hf
  | some found =>
    obtain ⟨before, body, after⟩ := found
    have hlength := length_lt_of_firstBody? hf
    exact some t before body after hf (inductionOnPairs none some after)
termination_by t.length

theorem readAll_eq_ok_iff_of_some {t before body after : Text}
    (h : firstBody? t = some (before, body, after)) {segments : List Segment} :
    readAll t = .ok segments ↔ ∃ i others, Expression.read body = .ok i ∧
      readAll after = .ok others ∧ segments = literals before ++ .interpolation i :: others := by
  rw [readAll_of_some h]
  constructor
  · intro hr
    obtain ⟨i, hi, hr⟩ := Fault.bind_eq_ok_iff.1 hr
    obtain ⟨others, ho, hr⟩ := Fault.bind_eq_ok_iff.1 hr
    exact ⟨i, others, hi, ho, (Except.ok.inj hr).symm⟩
  · rintro ⟨i, others, hi, ho, rfl⟩
    rw [hi, ho]
    rfl

theorem readAll_eq_error_iff_of_some {t before body after : Text}
    (h : firstBody? t = some (before, body, after)) :
    (∃ fault, readAll t = .error fault) ↔
      (∃ fault, Expression.read body = .error fault) ∨ ∃ fault, readAll after = .error fault := by
  rw [readAll_of_some h]
  cases hi : Expression.read body with
  | error fault => exact iff_of_true ⟨fault, rfl⟩ (.inl ⟨fault, rfl⟩)
  | ok i =>
    cases ho : readAll after with
    | error fault => exact iff_of_true ⟨fault, rfl⟩ (.inr ⟨fault, rfl⟩)
    | ok others => exact iff_of_false nofun (by simp)

/-- The bodies of the pairs that are met in a text one after the other. -/
inductive HasBodies : Text → List Text → Prop
  | none {t : Text} : (∀ before body after, ¬IsPair t before body after) → HasBodies t []
  | next {t before body after : Text} {bodies : List Text} : IsNextPair t before body after →
      HasBodies after bodies → HasBodies t (body :: bodies)

theorem exists_hasBodies (t : Text) : ∃ bodies, HasBodies t bodies := by
  induction t using inductionOnPairs with
  | none t h => exact ⟨[], .none (firstBody?_eq_none_iff.1 h)⟩
  | some t before body after h ih =>
    obtain ⟨bodies, hb⟩ := ih
    exact ⟨body :: bodies, .next (isNextPair_of_firstBody? h) hb⟩

theorem HasBodies.unique {t : Text} {bodies bodies' : List Text} (h : HasBodies t bodies)
    (h' : HasBodies t bodies') : bodies' = bodies := by
  induction h generalizing bodies' with
  | none hn =>
    cases h' with
    | none _ => rfl
    | next hnext _ => exact absurd hnext.toIsPair (hn _ _ _)
  | next hnext _ ih =>
    cases h' with
    | none hn => exact absurd hnext.toIsPair (hn _ _ _)
    | next hnext' hrest =>
      obtain ⟨-, rfl, rfl⟩ := hnext.unique hnext'
      rw [ih hrest]

theorem HasBodies.plain {t : Text} {bodies : List Text} (h : HasBodies t bodies) :
    ∀ body ∈ bodies, ¬closeBraces <:+: body ∧ '\n' ∉ body := by
  induction h with
  | none _ => exact nofun
  | next hnext _ ih => exact List.forall_mem_cons.2 ⟨⟨hnext.not_infix_body, hnext.line⟩, ih⟩

theorem readAll_eq_error_iff {t : Text} {bodies : List Text} (h : HasBodies t bodies) :
    (∃ fault, readAll t = .error fault) ↔
      ∃ body ∈ bodies, ∃ fault, Expression.read body = .error fault := by
  induction h with
  | none hn =>
    rw [readAll_of_none (firstBody?_eq_none_iff.2 hn)]
    exact iff_of_false nofun nofun
  | next hnext _ ih =>
    rw [readAll_eq_error_iff_of_some (firstBody?_eq_some_iff.2 hnext), ih]
    simp only [List.mem_cons, exists_eq_or_imp]

def isLiteral : Segment → Bool
  | .literal _ => true
  | .interpolation _ => false

def interpolations (segments : List Segment) : List Interpolation :=
  segments.filterMap fun
    | .literal _ => none
    | .interpolation i => some i

/-- The text of some segments when each interpolation is written as the next body in braces. -/
def written : List Segment → List Text → Text
  | [], _ => []
  | .literal l :: rest, bodies => l ++ written rest bodies
  | .interpolation _ :: rest, bodies =>
    openBraces ++ bodies.headD [] ++ closeBraces ++ written rest bodies.tail

/-- Some segments as they are read from a text with these bodies. -/
structure AreReadFrom (t : Text) (bodies : List Text) (segments : List Segment) : Prop where
  nonempty : ∀ l, .literal l ∈ segments → l ≠ []
  apart : segments.IsChain fun first second => ¬(first.isLiteral ∧ second.isLiteral)
  read : List.Forall₂ (fun i body => Expression.read body = .ok i) (interpolations segments) bodies
  complete : written segments bodies = t

theorem literals_cases (t : Text) :
    t = [] ∧ literals t = [] ∨ t ≠ [] ∧ literals t = [.literal t] := by
  cases t with
  | nil => exact .inl ⟨rfl, rfl⟩
  | cons c rest => exact .inr ⟨List.cons_ne_nil c rest, rfl⟩

theorem areReadFrom_literals (t : Text) : AreReadFrom t [] (literals t) := by
  rcases literals_cases t with ⟨rfl, hl⟩ | ⟨hne, hl⟩
  · rw [hl]
    exact ⟨nofun, .nil, .nil, rfl⟩
  · rw [hl]
    refine ⟨?_, .singleton _, .nil, List.append_nil t⟩
    intro l hm
    rw [Segment.literal.inj (List.mem_singleton.1 hm)]
    exact hne

theorem AreReadFrom.cons {after : Text} {bodies : List Text} {others : List Segment}
    (h : AreReadFrom after bodies others) (before : Text) {body : Text} {i : Interpolation}
    (hi : Expression.read body = .ok i) :
    AreReadFrom (before ++ openBraces ++ body ++ closeBraces ++ after) (body :: bodies)
      (literals before ++ .interpolation i :: others) := by
  have hchain : (Segment.interpolation i :: others).IsChain
      fun first second => ¬(first.isLiteral ∧ second.isLiteral) := by
    refine List.isChain_cons.2 ⟨fun _ _ hl => ?_, h.apart⟩
    cases hl.1
  have hinner : AreReadFrom (openBraces ++ body ++ closeBraces ++ after) (body :: bodies)
      (.interpolation i :: others) := by
    refine ⟨?_, hchain, .cons hi h.read, ?_⟩
    · intro l hm
      rcases List.mem_cons.1 hm with hm | hm
      · cases hm
      · exact h.nonempty l hm
    · rw [written, List.headD_cons, List.tail_cons, h.complete]
  rcases literals_cases before with ⟨rfl, hl⟩ | ⟨hne, hl⟩
  · rw [hl]
    exact hinner
  · rw [hl]
    refine ⟨?_, ?_, hinner.read, ?_⟩
    · intro l hm
      rcases List.mem_cons.1 hm with hm | hm
      · exact Segment.literal.inj hm ▸ hne
      · exact hinner.nonempty l hm
    · refine List.isChain_cons.2 ⟨?_, hchain⟩
      rintro _ ⟨⟩ hl
      cases hl.2
    · rw [List.singleton_append, written, hinner.complete]
      simp only [List.append_assoc]

theorem areReadFrom_of_readAll {t : Text} {bodies : List Text} (h : HasBodies t bodies)
    {segments : List Segment} (hr : readAll t = .ok segments) : AreReadFrom t bodies segments := by
  induction h generalizing segments with
  | none hn =>
    rw [readAll_of_none (firstBody?_eq_none_iff.2 hn)] at hr
    exact Except.ok.inj hr ▸ areReadFrom_literals _
  | next hnext _ ih =>
    obtain ⟨i, others, hi, ho, rfl⟩ :=
      (readAll_eq_ok_iff_of_some (firstBody?_eq_some_iff.2 hnext)).1 hr
    rw [hnext.eq]
    exact (ih ho).cons _ hi

theorem ne_nil_of_readAll {t : Text} {segments : List Segment} (h : readAll t = .ok segments)
    (hne : t ≠ []) : segments ≠ [] := by
  rintro rfl
  obtain ⟨bodies, hb⟩ := exists_hasBodies t
  exact hne (areReadFrom_of_readAll hb h).complete.symm

end Segment

/-- Every text has its bodies: those of its pairs of braces, each the leftmost one behind the pair
before it and the shortest from there. None of them holds closing braces or a line break. If the
text is read, no literal is empty, no two stand side by side, each interpolation is read from its
body, and the segments written out again are the text. The text cannot be read exactly where one
of the bodies cannot be read. -/
theorem segments_write_out_the_text (t : Text) : ∃ bodies,
    (∀ other, Segment.HasBodies t other ↔ other = bodies) ∧
    (∀ body ∈ bodies, ¬Segment.closeBraces <:+: body ∧ '\n' ∉ body) ∧
    (∀ segments, Segment.readAll t = .ok segments →
      (∀ l, .literal l ∈ segments → l ≠ []) ∧
      segments.IsChain (fun first second => ¬(first.isLiteral ∧ second.isLiteral)) ∧
      List.Forall₂ (fun i body => Expression.read body = .ok i)
        (Segment.interpolations segments) bodies ∧
      Segment.written segments bodies = t) ∧
    ((∃ fault, Segment.readAll t = .error fault) ↔
      ∃ body ∈ bodies, ∃ fault, Expression.read body = .error fault) := by
  obtain ⟨bodies, h⟩ := Segment.exists_hasBodies t
  have hall : ∀ other, Segment.HasBodies t other ↔ other = bodies := fun other =>
    ⟨fun ho => h.unique ho, fun he => he ▸ h⟩
  refine ⟨bodies, hall, h.plain, ?_, Segment.readAll_eq_error_iff h⟩
  intro segments hr
  have hread := Segment.areReadFrom_of_readAll h hr
  exact ⟨hread.nonempty, hread.apart, hread.read, hread.complete⟩

/-- Two amounts side by side, the first between single braces, before braces that stay open. -/
def lineOfAmounts : Text :=
  "\x7b a\x7b\x7bnet:integer\x7d\x7d\x7b\x7b tax : integer? \x7d\x7d\x7d \x7b\x7b tip"

def segmentsOfAmounts : List Segment := [
  .literal "\x7b a", .interpolation ⟨"net", .integer, false, [], []⟩,
  .interpolation ⟨"tax", .integer, true, [], []⟩, .literal "\x7d \x7b\x7b tip"]

/-- The segments of the amounts write out their line. -/
theorem segments_of_amounts_write_out_the_line :
    Segment.readAll lineOfAmounts = .ok segmentsOfAmounts ∧
    ∃ bodies, Segment.HasBodies lineOfAmounts bodies ∧
      List.Forall₂ (fun i body => Expression.read body = .ok i)
        (Segment.interpolations segmentsOfAmounts) bodies ∧
      Segment.written segmentsOfAmounts bodies = lineOfAmounts := by
  have hr : Segment.readAll lineOfAmounts = .ok segmentsOfAmounts := by decide +kernel
  obtain ⟨bodies, hb, -, hsegments, -⟩ := segments_write_out_the_text lineOfAmounts
  obtain ⟨-, -, hread, hwritten⟩ := hsegments segmentsOfAmounts hr
  exact ⟨hr, bodies, (hb bodies).2 rfl, hread, hwritten⟩

end TypedTemplate
