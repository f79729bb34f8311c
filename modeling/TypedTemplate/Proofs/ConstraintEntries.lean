import TypedTemplate.Proofs.BannedValues
import TypedTemplate.Proofs.QuotedPieces

/-!
# Entries of constraint lists

A list of constraints is cut at those significant commas with a keyword and a colon behind them.
Whether a comma is one of them is seen in the text that follows, which reaches beyond the next cut;
but neither a keyword nor a blank is a comma, so the piece behind the comma decides it alone. Hence
every piece but the first begins an entry, no piece has a comma where another entry begins, and the
text has only one list of such pieces.
-/
namespace TypedTemplate.Quotes

section cuts

variable {isCut : Char → Text → Bool} {d : Char} {q : Option Char} {t : Text}

/-- Whether a piece has no delimiter at which it would be cut itself. -/
def IsUncut (isCut : Char → Text → Bool) (d : Char) (q : Option Char) (piece : Text) : Prop :=
  ∀ before rest, piece = before ++ d :: rest → openAfter q before = none → isCut d rest = false

theorem isCut_join (hstable : ∀ t rest, isCut d (t ++ d :: rest) = isCut d t) (first : Text)
    (others : List Text) : isCut d (Text.join [d] (first :: others)) = isCut d first := by
  rw [Text.join_cons]
  cases others with
  | nil => rw [List.flatMap_nil, List.append_nil]
  | cons second others => exact hstable first (second ++ others.flatMap ([d] ++ ·))

/-- Where what follows a delimiter decides a cut up to the next delimiter, each piece but the first
is one that a cut is made for, and no piece would be cut itself. -/
theorem isUncut_of_mem_pieces (hquote : isQuote d = false)
    (hcut : ∀ c rest, isCut c rest = true → c = d)
    (hstable : ∀ t rest, isCut d (t ++ d :: rest) = isCut d t) (q : Option Char) (t : Text) :
    ∃ first others, pieces isCut q t = first :: others ∧ IsUncut isCut d q first ∧
      ∀ piece ∈ others, isCut d piece = true ∧ IsUncut isCut d none piece := by
  have hjoin : ∀ q t first others, pieces isCut q t = first :: others →
      isCut d t = isCut d first := by
    intro q t first others hpieces
    rw [← join_pieces isCut hcut q t, hpieces, isCut_join hstable]
  have hnil : ∀ q, IsUncut isCut d q [] := by
    intro q before rest h
    cases before <;> cases h
  induction t generalizing q with
  | nil => exact ⟨[], [], rfl, hnil q, nofun⟩
  | cons c t ih =>
    rw [pieces]
    split
    · rename_i h
      have hc : isCut c t = true := (Bool.and_eq_true_iff.1 h).2
      obtain rfl : c = d := hcut c t hc
      obtain ⟨first, others, hpieces, hfirst, hothers⟩ := ih none
      rw [hjoin none t first others hpieces] at hc
      rw [hpieces]
      exact ⟨[], _, rfl, hnil q, List.forall_mem_cons.2 ⟨⟨hc, hfirst⟩, hothers⟩⟩
    · rename_i h
      obtain ⟨first, others, hpieces, hfirst, hothers⟩ := ih (step q c)
      rw [hpieces]
      refine ⟨c :: first, others, rfl, fun before rest hsplit hopen => ?_, hothers⟩
      cases before with
      | nil =>
        obtain ⟨rfl, rfl⟩ := List.cons.inj hsplit
        obtain rfl : q = none := hopen
        have hs : significant none c = true := significant_iff.2 ⟨rfl, hquote⟩
        rw [hs, Bool.true_and, Bool.not_eq_true] at h
        rw [← hjoin (step none c) t first others hpieces, h]
      | cons b before =>
        obtain ⟨rfl, hrest⟩ := List.cons.inj hsplit
        exact hfirst before rest hrest hopen

end cuts

/-- Whether a text begins, after blanks or none, with a keyword and a colon. -/
def BeginsEntry (keywords : List Text) (t : Text) : Prop :=
  ∃ k ∈ keywords, ∃ blanks value : Text, blanks.isBlank = true ∧ t = blanks ++ (k ++ ':' :: value)

section entries

variable {keywords : List Text} {t : Text}

theorem startsEntry_iff (hk : ∀ k ∈ keywords, ∀ c ∈ k, isBlank c = false) :
    startsEntry keywords t = true ↔ BeginsEntry keywords t := by
  rw [startsEntry, List.any_eq_true]
  constructor
  · rintro ⟨k, hmem, h⟩
    obtain ⟨value, hvalue⟩ := List.isPrefixOf_iff_prefix.1 h
    obtain ⟨blanks, hblanks, ht⟩ := Style.exists_blanks_trimLeft t
    refine ⟨k, hmem, blanks, value, hblanks, ?_⟩
    rw [← List.append_cons] at hvalue
    rw [ht, ← hvalue]
  · rintro ⟨k, hmem, blanks, value, hblanks, rfl⟩
    refine ⟨k, hmem, List.isPrefixOf_iff_prefix.2 ⟨value, ?_⟩⟩
    rw [← List.append_cons]
    cases k with
    | nil => exact (Style.trimLeft_blanks_append hblanks (by decide) value).symm
    | cons c k =>
      have hc : isBlank c = false := hk _ hmem c List.mem_cons_self
      exact (Style.trimLeft_blanks_append hblanks hc (k ++ ':' :: value)).symm

/-- No keyword is interrupted by a comma, so an entry that begins before a comma begins there
without what follows the comma. -/
theorem beginsEntry_append_comma_iff (hk : ∀ k ∈ keywords, ',' ∉ k) (rest : Text) :
    BeginsEntry keywords (t ++ ',' :: rest) ↔ BeginsEntry keywords t := by
  constructor
  · rintro ⟨k, hmem, blanks, value, hblanks, h⟩
    have hcomma : ',' ∉ blanks ++ (k ++ [':']) := by
      intro hm
      rcases List.mem_append.1 hm with hm | hm
      · exact absurd (List.all_eq_true.1 hblanks _ hm) (by decide)
      · rcases List.mem_append.1 hm with hm | hm
        · exact hk k hmem hm
        · exact absurd hm (by decide)
    have hword : t ++ ',' :: rest = blanks ++ (k ++ [':']) ++ value := by
      rw [h, List.append_assoc, List.append_assoc, List.singleton_append]
    rcases List.append_eq_append_iff.1 hword with ⟨s, hs, hrest⟩ | ⟨s, rfl, hvalue⟩
    · cases s with
      | nil =>
        rw [List.append_nil] at hs
        exact ⟨k, hmem, blanks, [], hblanks, hs.symm⟩
      | cons c s =>
        obtain ⟨rfl, -⟩ := List.cons.inj hrest
        exact absurd (hs ▸ List.mem_append_right t List.mem_cons_self) hcomma
    · exact ⟨k, hmem, blanks, s, hblanks, by simp⟩
  · rintro ⟨k, hmem, blanks, value, hblanks, rfl⟩
    exact ⟨k, hmem, blanks, value ++ ',' :: rest, hblanks, by simp⟩

theorem beginsEntry_flatMap_iff (hk : ∀ k ∈ keywords, ',' ∉ k) (others : List Text) :
    BeginsEntry keywords (t ++ others.flatMap ([','] ++ ·)) ↔ BeginsEntry keywords t := by
  cases others with
  | nil => rw [List.flatMap_nil, List.append_nil]
  | cons second others =>
    exact beginsEntry_append_comma_iff hk (second ++ others.flatMap ([','] ++ ·))

/-- Where a list of constraints is cut: at a comma with an entry behind it. -/
def endsBeforeEntry (keywords : List Text) (c : Char) (rest : Text) : Bool :=
  c == ',' && startsEntry keywords rest

theorem endsBeforeEntry_iff (hk : ∀ k ∈ keywords, ∀ c ∈ k, isBlank c = false) {c : Char}
    {rest : Text} :
    endsBeforeEntry keywords c rest = true ↔ c = ',' ∧ BeginsEntry keywords rest := by
  rw [endsBeforeEntry, Bool.and_eq_true, beq_iff_eq, startsEntry_iff hk]

/-- Whether a text is cut into pieces exactly before its entries: joined with commas the pieces are
the text, no region is cut, each piece but the first begins an entry, and no piece has a significant
comma with an entry behind it. -/
structure AreCutBeforeEntries (keywords : List Text) (t : Text) (parts : List Text) : Prop where
  ne_nil : parts ≠ []
  join : Text.join [','] parts = t
  closed : ∀ part ∈ parts, IsClosed part
  begins : ∀ part ∈ parts.tail, BeginsEntry keywords part
  whole : ∀ part ∈ parts, ∀ before rest, part = before ++ ',' :: rest → IsClosed before →
    ¬BeginsEntry keywords rest

/-- The first of such pieces does not go on beyond that of another list. -/
theorem AreCutBeforeEntries.first_eq_of_append (hk : ∀ k ∈ keywords, ',' ∉ k)
    {first more : Text} {others others' : List Text}
    (h : AreCutBeforeEntries keywords t (first :: others))
    (h' : AreCutBeforeEntries keywords t ((first ++ more) :: others')) : more = [] := by
  have hjoin := h.join.trans h'.join.symm
  rw [Text.join_cons, Text.join_cons, List.append_assoc, List.append_cancel_left_eq] at hjoin
  cases more with
  | nil => rfl
  | cons c more =>
    cases others with
    | nil => cases hjoin
    | cons second others =>
      obtain rfl : c = ',' := (List.cons.inj hjoin).1.symm
      have hrest : second ++ others.flatMap ([','] ++ ·) =
          more ++ others'.flatMap ([','] ++ ·) := (List.cons.inj hjoin).2
      have hsecond : BeginsEntry keywords second := h.begins second (by simp)
      have hmore : BeginsEntry keywords more := by
        rw [← beginsEntry_flatMap_iff hk others, hrest] at hsecond
        exact (beginsEntry_flatMap_iff hk others').1 hsecond
      have hclosed : IsClosed first := h.closed first List.mem_cons_self
      exact absurd hmore (h'.whole _ List.mem_cons_self first more rfl hclosed)

theorem AreCutBeforeEntries.tail {first second : Text} {others : List Text}
    (h : AreCutBeforeEntries keywords t (first :: second :: others)) :
    AreCutBeforeEntries keywords (Text.join [','] (second :: others)) (second :: others) where
  ne_nil := List.cons_ne_nil second others
  join := rfl
  closed part hpart := h.closed part (List.mem_cons_of_mem first hpart)
  begins part hpart := h.begins part (List.mem_cons_of_mem second hpart)
  whole part hpart := h.whole part (List.mem_cons_of_mem first hpart)

/-- A text is cut before its entries in one way only. -/
theorem AreCutBeforeEntries.unique (hk : ∀ k ∈ keywords, ',' ∉ k) {parts parts' : List Text}
    (h : AreCutBeforeEntries keywords t parts) (h' : AreCutBeforeEntries keywords t parts') :
    parts = parts' := by
  induction parts generalizing t parts' with
  | nil => exact absurd rfl h.ne_nil
  | cons first others ih =>
    obtain ⟨first', others', rfl⟩ := List.exists_cons_of_ne_nil h'.ne_nil
    have hjoin := h.join.trans h'.join.symm
    rw [Text.join_cons, Text.join_cons] at hjoin
    have hfirst : first = first' := by
      rcases List.append_eq_append_iff.1 hjoin with ⟨more, rfl, -⟩ | ⟨more, rfl, -⟩
      · rw [h.first_eq_of_append hk h', List.append_nil]
      · rw [h'.first_eq_of_append hk h, List.append_nil]
    subst hfirst
    rw [List.append_cancel_left_eq] at hjoin
    cases others with
    | nil =>
      cases others' with
      | nil => rfl
      | cons second' others' => cases hjoin
    | cons second others =>
      cases others' with
      | nil => cases hjoin
      | cons second' others' =>
        have hrest : Text.join [','] (second' :: others') = Text.join [','] (second :: others) := by
          rw [Text.join_cons, Text.join_cons]
          exact (List.cons.inj hjoin).2.symm
        rw [ih h.tail (hrest ▸ h'.tail)]

theorem areCutBeforeEntries_pieces (hk : ∀ k ∈ keywords, ∀ c ∈ k, isBlank c = false ∧ c ≠ ',')
    (ht : openAfter none t = none) :
    AreCutBeforeEntries keywords t (pieces (endsBeforeEntry keywords) none t) := by
  have hends : ∀ {c rest}, endsBeforeEntry keywords c rest = true ↔
      c = ',' ∧ BeginsEntry keywords rest :=
    endsBeforeEntry_iff fun k hmem c hc => (hk k hmem c hc).1
  have hcut : ∀ c rest, endsBeforeEntry keywords c rest = true → c = ',' :=
    fun c rest h => (hends.1 h).1
  have hstable : ∀ u rest, endsBeforeEntry keywords ',' (u ++ ',' :: rest) =
      endsBeforeEntry keywords ',' u := by
    intro u rest
    have hcomma : ∀ k ∈ keywords, ',' ∉ k := fun k hmem hm => (hk k hmem _ hm).2 rfl
    rw [Bool.eq_iff_iff, hends, hends, beginsEntry_append_comma_iff hcomma]
  obtain ⟨first, others, hpieces, hfirst, hothers⟩ :=
    isUncut_of_mem_pieces (by decide) hcut hstable none t
  obtain ⟨first', others', hpieces', hclosed, hclosed'⟩ := openAfter_of_mem_pieces _ ht
  obtain ⟨rfl, rfl⟩ := List.cons.inj (hpieces.symm.trans hpieces')
  have hjoin := join_pieces _ hcut none t
  rw [hpieces] at hjoin ⊢
  constructor
  case ne_nil => exact List.cons_ne_nil first others
  case join => exact hjoin
  case closed =>
    have hall : ∀ part ∈ first :: others, openAfter none part = none :=
      List.forall_mem_cons.2 ⟨hclosed, hclosed'⟩
    exact fun part hpart => openAfter_eq_none_iff.1 (hall part hpart)
  case begins => exact fun part hpart => (hends.1 (hothers part hpart).1).2
  case whole =>
    have hall : ∀ part ∈ first :: others, IsUncut (endsBeforeEntry keywords) ',' none part :=
      List.forall_mem_cons.2 ⟨hfirst, fun part hpart => (hothers part hpart).2⟩
    intro part hpart before rest hsplit hbefore hbegins
    have hkept := hall part hpart before rest hsplit hbefore.openAfter_eq
    exact absurd (hends.2 ⟨rfl, hbegins⟩) (Bool.eq_false_iff.1 hkept)

end entries

theorem splitEntries_eq (keywords : List Text) (t : Text) :
    splitEntries keywords t = (do
      checkClosed t (openAfter none t)
      return ((pieces (endsBeforeEntry keywords) none t).filter (! ·.isBlank)).map Text.trim) := by
  have hkept : (! ·.isEmpty) ∘ Text.trim = fun part : Text => !part.isBlank := by
    funext part
    have hblank : (Text.trim part).isEmpty = part.isBlank := by
      rw [Bool.eq_iff_iff, List.isEmpty_iff, Text.trim_eq_nil_iff]
    rw [Function.comp_apply, hblank]
  have hfilter : ∀ parts : List Text, (parts.map Text.trim).filter (! ·.isEmpty) =
      (parts.filter (! ·.isBlank)).map Text.trim := fun parts => by
    rw [List.filter_map, hkept]
  rw [← hfilter]
  rfl

/-- Keywords without blanks and commas cut a text at the significant commas that one of them and a
colon follow, after blanks or none: there is exactly one list of pieces that is cut so, and what is
read are those of them that are not blank, in order and without the blanks around them. A text that
ends inside of a region is not cut, and the cut fails for that quote. -/
theorem constraint_lists_are_cut_before_keywords {keywords : List Text}
    (hk : ∀ k ∈ keywords, ∀ c ∈ k, isBlank c = false ∧ c ≠ ',') (t : Text) :
    (∀ q, splitEntries keywords t = .error (.grammar (.unterminatedQuote q t) none) ↔
      EndsInside q t) ∧
    ((∀ q, ¬EndsInside q t) → ∃ parts, AreCutBeforeEntries keywords t parts ∧
      (∀ others, AreCutBeforeEntries keywords t others → others = parts) ∧
      splitEntries keywords t = .ok ((parts.filter (! ·.isBlank)).map Text.trim)) := by
  rw [splitEntries_eq]
  constructor
  · intro q
    rw [← openAfter_eq_some_iff]
    cases openAfter none t with
    | none => simp [checkClosed, bind, Except.bind, pure, Except.pure]
    | some _ => simp [checkClosed, bind, Except.bind]
  · intro hclosed
    have hopen : openAfter none t = none :=
      openAfter_eq_none_iff.2 ((isClosed_or_endsInside t).resolve_right (not_exists.2 hclosed))
    have hparts := areCutBeforeEntries_pieces hk hopen
    have hcomma : ∀ k ∈ keywords, ',' ∉ k := fun k hmem hm => (hk k hmem _ hm).2 rfl
    exact ⟨_, hparts, fun others h => h.unique hcomma hparts, by rw [hopen]; rfl⟩

/-- Of two keywords one of which begins the other, each begins its own entries, and a comma in
quotes parts nothing. -/
theorem choices_and_length_are_cut_before_keywords :
    (∀ parts, AreCutBeforeEntries ["enum", "min", "minLength"]
        "enum:'a, min:1',b,\n minLength:2,, min:3" parts ↔
      parts = ["enum:'a, min:1',b".toList, "\n minLength:2,".toList, " min:3".toList]) ∧
    splitEntries ["enum", "min", "minLength"] "enum:'a, min:1',b,\n minLength:2,, min:3" =
      .ok ["enum:'a, min:1',b".toList, "minLength:2,".toList, "min:3".toList] := by
  have hall : (["enum", "min", "minLength"] : List Text).all
      (·.all fun c => isBlank c = false ∧ c ≠ ',') := by decide
  have hk : ∀ k ∈ (["enum", "min", "minLength"] : List Text), ∀ c ∈ k,
      isBlank c = false ∧ c ≠ ',' := by
    simpa only [List.all_eq_true, decide_eq_true_eq] using hall
  have hclosed : ∀ q, ¬EndsInside q "enum:'a, min:1',b,\n minLength:2,, min:3" := by
    intro q hq
    have hnone : none = some q := openAfter_eq_some_iff.2 hq
    cases hnone
  obtain ⟨parts, -, hunique, -⟩ := (constraint_lists_are_cut_before_keywords hk _).2 hclosed
  have hpieces : AreCutBeforeEntries ["enum", "min", "minLength"]
      "enum:'a, min:1',b,\n minLength:2,, min:3"
      ["enum:'a, min:1',b".toList, "\n minLength:2,".toList, " min:3".toList] :=
    areCutBeforeEntries_pieces hk rfl
  refine ⟨fun others => ⟨fun h => ?_, ?_⟩, rfl⟩
  · rw [hunique others h, hunique _ hpieces]
  · rintro rfl
    exact hpieces

end TypedTemplate.Quotes
