import TypedTemplate.Proofs.WrittenLiterals

/-!
# Pieces of quoted texts

A text is closed when its quotes pair up into regions, and any other text ends inside of a region.
Where a closed text is cut at significant delimiters, every piece is closed, so a scan of a piece
that begins with no open quote sees what the scan of the whole text sees in that stretch. Pieces may
therefore be split again, each on its own.
-/
namespace TypedTemplate

namespace Text

theorem join_consHead (separator : Text) (c : Char) {pieces : List Text} (h : pieces ≠ []) :
    join separator (consHead c pieces) = c :: join separator pieces := by
  obtain ⟨first, others, rfl⟩ := List.exists_cons_of_ne_nil h
  cases others <;> rfl

/-- Joined texts, cut at one of them: the texts before it, each with the separator behind it, and
those after it, each with the separator before it. -/
theorem join_append_cons (separator : Text) (before : List Text) (t : Text) (after : List Text) :
    join separator (before ++ t :: after) =
      before.flatMap (· ++ separator) ++ (t ++ after.flatMap (separator ++ ·)) := by
  induction before with
  | nil => rw [List.nil_append, List.flatMap_nil, List.nil_append, join_cons]
  | cons u before ih =>
    have hne : before ++ t :: after ≠ [] := by simp
    obtain ⟨first, others, hrest⟩ := List.exists_cons_of_ne_nil hne
    rw [List.cons_append, hrest, join_cons_cons, ← hrest, ih, List.flatMap_cons]
    simp only [List.append_assoc]

end Text

namespace Quotes

/-- Whether the quotes of a text pair up: it is a row of characters that are no quotes and of
regions, each of which goes from a quote to the next one of its kind. -/
inductive IsClosed : Text → Prop
  | nil : IsClosed []
  | plain {c : Char} {t : Text} : isQuote c = false → IsClosed t → IsClosed (c :: t)
  | region {k : Char} {inside t : Text} : isQuote k = true → k ∉ inside → IsClosed t →
      IsClosed (k :: (inside ++ k :: t))

/-- Whether a text ends inside of a region that a quote opens: the text before the quote is closed,
and the quote does not occur again. -/
def EndsInside (k : Char) (t : Text) : Prop :=
  ∃ before inside, t = before ++ k :: inside ∧ IsClosed before ∧ isQuote k = true ∧ k ∉ inside

theorem significant_iff {q : Option Char} {c : Char} :
    significant q c = true ↔ q = none ∧ isQuote c = false := by
  simp [significant]

theorem step_plain {c : Char} (h : isQuote c = false) : step none c = none := by
  simp [step, h]

theorem step_opening {k : Char} (h : isQuote k = true) : step none k = some k := by
  simp [step, h]

theorem IsClosed.openAfter_eq {t : Text} (h : IsClosed t) : openAfter none t = none := by
  induction h with
  | nil => rfl
  | plain hc _ ih => exact (congrArg (openAfter · _) (step_plain hc)).trans ih
  | @region k inside t hk hinside _ ih =>
    have hopen : openAfter none (k :: (inside ++ k :: t)) = openAfter (some k) (inside ++ k :: t) :=
      congrArg (openAfter · _) (step_opening hk)
    have hclose : step (some k) k = none := if_pos rfl
    rw [hopen, openAfter_append, (openAfter_inside hinside).1]
    exact (congrArg (openAfter · t) hclose).trans ih

theorem EndsInside.openAfter_eq {k : Char} {t : Text} (h : EndsInside k t) :
    openAfter none t = some k := by
  obtain ⟨before, inside, rfl, hbefore, hk, hinside⟩ := h
  rw [openAfter_append, hbefore.openAfter_eq]
  exact (congrArg (openAfter · inside) (step_opening hk)).trans (openAfter_inside hinside).1

theorem EndsInside.append_left {k : Char} {before t : Text} (hbefore : IsClosed before)
    (h : EndsInside k t) : EndsInside k (before ++ t) := by
  obtain ⟨middle, inside, rfl, hmiddle, hk, hinside⟩ := h
  refine ⟨before ++ middle, inside, (List.append_assoc _ _ _).symm, ?_, hk, hinside⟩
  clear hinside
  induction hbefore with
  | nil => exact hmiddle
  | plain hc _ ih => exact .plain hc ih
  | region hq hno _ ih =>
    rw [List.cons_append, List.append_assoc, List.cons_append]
    exact .region hq hno ih

theorem isClosed_or_endsInside (t : Text) : IsClosed t ∨ ∃ k, EndsInside k t := by
  -- A region is taken off as a whole, so the rest is shorter by more than one character.
  induction ht : t.length using Nat.strong_induction_on generalizing t with
  | _ n ih =>
    cases t with
    | nil => exact .inl .nil
    | cons c rest =>
      cases hc : isQuote c with
      | false =>
        rcases ih rest.length (by simp [← ht]) rest rfl with hrest | ⟨k, hrest⟩
        · exact .inl (.plain hc hrest)
        · exact .inr ⟨k, hrest.append_left (.plain hc .nil)⟩
      | true =>
        by_cases hagain : c ∈ rest
        · obtain ⟨inside, after, rfl, hinside⟩ := List.eq_append_cons_of_mem hagain
          have hshorter : after.length < n := by
            simp only [← ht, List.length_cons, List.length_append]
            omega
          rcases ih after.length hshorter after rfl with hafter | ⟨k, hafter⟩
          · exact .inl (.region hc hinside hafter)
          · have hregion : IsClosed (c :: (inside ++ [c])) := .region hc hinside .nil
            exact .inr ⟨k, by simpa using hafter.append_left hregion⟩
        · exact .inr ⟨c, [], rest, rfl, .nil, hc, hagain⟩

theorem openAfter_eq_none_iff {t : Text} : openAfter none t = none ↔ IsClosed t := by
  constructor
  · intro h
    rcases isClosed_or_endsInside t with hclosed | ⟨k, hends⟩
    · exact hclosed
    · rw [hends.openAfter_eq] at h
      cases h
  · exact IsClosed.openAfter_eq

theorem openAfter_eq_some_iff {t : Text} {k : Char} :
    openAfter none t = some k ↔ EndsInside k t := by
  constructor
  · intro h
    rcases isClosed_or_endsInside t with hclosed | ⟨other, hends⟩
    · rw [hclosed.openAfter_eq] at h
      cases h
    · rw [hends.openAfter_eq] at h
      exact Option.some.inj h ▸ hends
  · exact EndsInside.openAfter_eq

section positions

variable {q : Option Char} {t : Text}

theorem positionsFrom_append (q : Option Char) (i : Nat) (a b : Text) :
    positionsFrom q i (a ++ b) =
      positionsFrom q i a ++ positionsFrom (openAfter q a) (i + a.length) b := by
  induction a generalizing q i with
  | nil => rfl
  | cons c a ih =>
    have hlength : i + (c :: a).length = i + 1 + a.length := by
      simp only [List.length_cons]
      omega
    have hopen : openAfter q (c :: a) = openAfter (step q c) a := rfl
    rw [List.cons_append, positionsFrom, positionsFrom, hlength, hopen, ih]
    split <;> rfl

theorem map_snd_positionsFrom (q : Option Char) (i : Nat) (t : Text) :
    (positionsFrom q i t).map (·.2) = outside q t := by
  induction t generalizing q i with
  | nil => rfl
  | cons c t ih =>
    rw [positionsFrom, outside]
    split
    · rw [List.map_cons, ih]
    · exact ih _ _

theorem positionsFrom_add (q : Option Char) (start i : Nat) (t : Text) :
    positionsFrom q (start + i) t =
      (positionsFrom q i t).map fun found => (start + found.1, found.2) := by
  induction t generalizing q i with
  | nil => rfl
  | cons c t ih =>
    rw [positionsFrom, positionsFrom, Nat.add_assoc, ih]
    split <;> rfl

theorem bounds_of_mem_positionsFrom {i : Nat} {found : Nat × Char}
    (h : found ∈ positionsFrom q i t) : i ≤ found.1 ∧ found.1 < i + t.length := by
  induction t generalizing q i with
  | nil => cases h
  | cons c t ih =>
    rw [List.length_cons]
    have hrest : found ∈ positionsFrom (step q c) (i + 1) t →
        i ≤ found.1 ∧ found.1 < i + (t.length + 1) := by
      intro hm
      have hbounds := ih hm
      omega
    rw [positionsFrom] at h
    split at h
    · rcases List.mem_cons.1 h with rfl | h
      · exact ⟨Nat.le_refl i, by omega⟩
      · exact hrest h
    · exact hrest h

/-- What a scan finds in a stretch of a text, counted from the beginning of the stretch. -/
def stretch (start length : Nat) (found : List (Nat × Char)) : List (Nat × Char) :=
  (found.filter fun p => start ≤ p.1 ∧ p.1 < start + length).map fun p => (p.1 - start, p.2)

/-- Behind closed text, a scan of a part sees what the scan of the whole sees in that stretch. -/
theorem positionsFrom_eq_stretch {before : Text} (hbefore : openAfter none before = none)
    (part after : Text) :
    positionsFrom none 0 part =
      stretch before.length part.length (positionsFrom none 0 (before ++ (part ++ after))) := by
  let isWithin : Nat × Char → Bool :=
    fun p => before.length ≤ p.1 ∧ p.1 < before.length + part.length
  have hearlier : (positionsFrom none 0 before).filter isWithin = [] := by
    refine List.filter_eq_nil_iff.2 fun p hp => ?_
    have hbounds := bounds_of_mem_positionsFrom hp
    simp only [isWithin, decide_eq_true_eq]
    omega
  have hwithin : (positionsFrom none before.length part).filter isWithin =
      positionsFrom none before.length part :=
    List.filter_eq_self.2 fun p hp => decide_eq_true (bounds_of_mem_positionsFrom hp)
  have hlater : (positionsFrom (openAfter none part) (before.length + part.length) after).filter
      isWithin = [] := by
    refine List.filter_eq_nil_iff.2 fun p hp => ?_
    have hbounds := bounds_of_mem_positionsFrom hp
    simp only [isWithin, decide_eq_true_eq]
    omega
  have hshift := positionsFrom_add none before.length 0 part
  rw [Nat.add_zero] at hshift
  rw [stretch, positionsFrom_append, hbefore, Nat.zero_add, positionsFrom_append,
    List.filter_append, List.filter_append, hearlier, hwithin, hlater, List.nil_append,
    List.append_nil, hshift, List.map_map]
  simp [Function.comp_def]

end positions

theorem pieces_ne_nil (isCut : Char → Text → Bool) (q : Option Char) (t : Text) :
    pieces isCut q t ≠ [] := by
  cases t with
  | nil => simp [pieces]
  | cons c t =>
    rw [pieces]
    split
    · simp
    · exact Text.consHead_ne_nil c _

/-- Where all cuts are made at one character, the pieces joined with it are the text. -/
theorem join_pieces (isCut : Char → Text → Bool) {d : Char}
    (h : ∀ c rest, isCut c rest = true → c = d) (q : Option Char) (t : Text) :
    Text.join [d] (pieces isCut q t) = t := by
  induction t generalizing q with
  | nil => rfl
  | cons c t ih =>
    rw [pieces]
    split
    · rename_i hcut
      have hc : c = d := h c t (Bool.and_eq_true_iff.1 hcut).2
      obtain ⟨first, others, hpieces⟩ := List.exists_cons_of_ne_nil (pieces_ne_nil isCut none t)
      rw [hpieces, Text.join_cons_cons, ← hpieces, ih, hc]
      rfl
    · rw [Text.join_consHead _ _ (pieces_ne_nil isCut _ t), ih]

/-- The pieces of a closed text are closed. The first one is closed from the quote on that is open
before the text. -/
theorem openAfter_of_mem_pieces (isCut : Char → Text → Bool) {q : Option Char} {t : Text}
    (h : openAfter q t = none) :
    ∃ first others, pieces isCut q t = first :: others ∧ openAfter q first = none ∧
      ∀ piece ∈ others, openAfter none piece = none := by
  -- A cut is made where no quote is open, so what is behind it begins as a text of its own.
  induction t generalizing q with
  | nil => exact ⟨[], [], rfl, h, nofun⟩
  | cons c t ih =>
    have hrest : openAfter (step q c) t = none := h
    rw [pieces]
    split
    · rename_i hcut
      obtain ⟨hq, hc⟩ := significant_iff.1 (Bool.and_eq_true_iff.1 hcut).1
      rw [hq, step_plain hc] at hrest
      obtain ⟨first, others, hpieces, hfirst, hothers⟩ := ih hrest
      exact ⟨[], _, rfl, hq, hpieces ▸ List.forall_mem_cons.2 ⟨hfirst, hothers⟩⟩
    · obtain ⟨first, others, hpieces, hfirst, hothers⟩ := ih hrest
      rw [hpieces]
      exact ⟨c :: first, others, rfl, hfirst, hothers⟩

/-- No piece has the delimiter in it where it is significant, and each of those that the text has
there begins a further piece. -/
theorem outside_of_mem_pieces (d : Char) (q : Option Char) (t : Text) :
    ∃ first others, pieces (fun c _ => c == d) q t = first :: others ∧ d ∉ outside q first ∧
      (∀ piece ∈ others, d ∉ outside none piece) ∧ others.length = (outside q t).count d := by
  induction t generalizing q with
  | nil => exact ⟨[], [], rfl, List.not_mem_nil, nofun, rfl⟩
  | cons c t ih =>
    rw [pieces, outside]
    by_cases hs : significant q c = true
    · obtain ⟨hq, hc⟩ := significant_iff.1 hs
      have hstep : step q c = none := hq ▸ step_plain hc
      rw [if_pos hs, hstep]
      obtain ⟨first, others, hpieces, hfirst, hothers, hcount⟩ := ih none
      by_cases hd : c = d
      · have hcut : (significant q c && c == d) = true :=
          Bool.and_eq_true_iff.2 ⟨hs, beq_iff_eq.2 hd⟩
        rw [if_pos hcut, hd, List.count_cons_self, hpieces]
        exact ⟨[], _, rfl, List.not_mem_nil, List.forall_mem_cons.2 ⟨hfirst, hothers⟩,
          by rw [List.length_cons, hcount]⟩
      · rw [if_neg (by simp [hd]), List.count_cons_of_ne hd, hpieces]
        refine ⟨c :: first, others, rfl, ?_, hothers, hcount⟩
        rw [outside, if_pos hs, hstep]
        exact List.not_mem_cons_of_ne_of_not_mem (Ne.symm hd) hfirst
    · rw [if_neg hs, if_neg (by simp [hs])]
      obtain ⟨first, others, hpieces, hfirst, hothers, hcount⟩ := ih (step q c)
      rw [hpieces]
      refine ⟨c :: first, others, rfl, ?_, hothers, hcount⟩
      rwa [outside, if_neg hs]

/-- The pieces of a closed text hide the delimiter, and there is one more of them than the text has
significant delimiters. -/
theorem hides_of_mem_pieces {d : Char} {t : Text} (h : openAfter none t = none) :
    (∀ piece ∈ pieces (fun c _ => c == d) none t, Hides [d] piece) ∧
      (pieces (fun c _ => c == d) none t).length = (outside none t).count d + 1 := by
  obtain ⟨first, others, hpieces, hfirst, hothers⟩ :=
    openAfter_of_mem_pieces (fun c _ => c == d) h
  obtain ⟨first', others', hpieces', hfirst', hothers', hcount⟩ := outside_of_mem_pieces d none t
  obtain ⟨rfl, rfl⟩ := List.cons.inj (hpieces.symm.trans hpieces')
  rw [hpieces, List.length_cons, hcount]
  refine ⟨List.forall_mem_cons.2 ⟨⟨hfirst, by simpa using hfirst'⟩, fun piece hm => ?_⟩, rfl⟩
  exact ⟨hothers piece hm, by simpa using hothers' piece hm⟩

/-- Of texts that hide the delimiter and are joined with it, each is what stands in its stretch of
the whole, and its scan finds what the scan of the whole finds there. -/
theorem scan_of_joined {d : Char} (hd : isQuote d = false) {before after : List Text}
    {piece t : Text} (hhides : ∀ u ∈ before ++ piece :: after, Hides [d] u)
    (hjoin : Text.join [d] (before ++ piece :: after) = t) :
    let start := (before.flatMap (· ++ [d])).length
    (t.drop start).take piece.length = piece ∧
      positionsFrom none 0 piece = stretch start piece.length (positionsFrom none 0 t) := by
  have hbefore : Hides [] (before.flatMap (· ++ [d])) := .flatMap fun u hu =>
    ((hhides u (by simp [hu])).mono (List.nil_subset _)).append (.char hd List.not_mem_nil)
  rw [Text.join_append_cons] at hjoin
  have hscan := positionsFrom_eq_stretch hbefore.closed piece (after.flatMap ([d] ++ ·))
  rw [hjoin] at hscan
  refine ⟨?_, hscan⟩
  rw [← hjoin, List.drop_left, List.take_left]

theorem positions_of_isClosed {t : Text} (h : openAfter none t = none) :
    positions t 0 = .ok (positionsFrom none 0 t) := by
  rw [positions, List.drop_zero, h]
  rfl

theorem split_of_ne_nil {t : Text} (ht : t ≠ []) (isDelimiter : Char → Bool) :
    split isDelimiter t = (do
      checkClosed t (openAfter none t)
      return pieces (fun c _ => isDelimiter c) none t) := by
  rw [split, if_neg (by simpa using ht)]

/-- A text is split at a delimiter unless it ends inside of a region, in which case the split fails
for that quote. The pieces joined with the delimiter are the text, and their number is one more than
that of its significant delimiters. Each piece, scanned on its own, is closed, has no significant
delimiter, and has those significant characters that the scan of the text finds in its stretch. -/
theorem pieces_are_scanned_as_in_text {t : Text} (ht : t ≠ []) {d : Char}
    (hd : isQuote d = false) :
    (∀ k, split (· == d) t = .error (.grammar (.unterminatedQuote k t) none) ↔ EndsInside k t) ∧
    ((∀ k, ¬EndsInside k t) → ∃ parts whole,
      split (· == d) t = .ok parts ∧ positions t 0 = .ok whole ∧
      Text.join [d] parts = t ∧
      parts.length = whole.countP (·.2 == d) + 1 ∧
      ∀ before piece after, parts = before ++ piece :: after →
        let start := (before.flatMap (· ++ [d])).length
        let found := stretch start piece.length whole
        (t.drop start).take piece.length = piece ∧ IsClosed piece ∧
          positions piece 0 = .ok found ∧ ∀ p ∈ found, p.2 ≠ d) := by
  rw [split_of_ne_nil ht]
  constructor
  · intro k
    rw [← openAfter_eq_some_iff]
    cases hopen : openAfter none t with
    | none => simp [checkClosed, bind, Except.bind, pure, Except.pure]
    | some q => simp [checkClosed, bind, Except.bind]
  · intro hclosed
    have hopen : openAfter none t = none :=
      openAfter_eq_none_iff.2 ((isClosed_or_endsInside t).resolve_right (not_exists.2 hclosed))
    obtain ⟨hhides, hlength⟩ := hides_of_mem_pieces (d := d) hopen
    have hjoin := join_pieces (fun c _ => c == d) (fun _ _ hc => beq_iff_eq.1 hc) none t
    refine ⟨pieces (fun c _ => c == d) none t, positionsFrom none 0 t, by rw [hopen]; rfl,
      positions_of_isClosed hopen, hjoin, ?_, ?_⟩
    · rw [hlength, ← map_snd_positionsFrom none 0, List.count_eq_countP, List.countP_map]
      rfl
    · intro before piece after hparts
      dsimp only
      rw [hparts] at hhides hjoin
      have hpiece := hhides piece (by simp)
      obtain ⟨hstretch, hscan⟩ := scan_of_joined hd hhides hjoin
      refine ⟨hstretch, openAfter_eq_none_iff.1 hpiece.closed, ?_, ?_⟩
      · rw [← hscan]
        exact positions_of_isClosed hpiece.closed
      · intro p hp hpd
        rw [← hscan] at hp
        refine hpiece.outside d (List.mem_singleton_self d) ?_
        rw [← map_snd_positionsFrom none 0]
        exact List.mem_map.2 ⟨p, hp, hpd⟩

/-- A bar in quotes parts nothing, and the scan of its piece passes over it as that of the text
does. -/
theorem quoted_bar_parts_nothing :
    split (· == '|') "a|'b|c'd" = .ok ["a".toList, "'b|c'd".toList] ∧
      positions "'b|c'd" 0 = .ok (stretch 2 6 [(0, 'a'), (1, '|'), (7, 'd')]) ∧
      IsClosed "'b|c'd" := by
  have hclosed : ∀ k, ¬EndsInside k "a|'b|c'd" := by
    intro k hk
    have hnone : none = some k := openAfter_eq_some_iff.2 hk
    cases hnone
  obtain ⟨parts, whole, hsplit, hwhole, -, -, hpieces⟩ :=
    (pieces_are_scanned_as_in_text (t := "a|'b|c'd") (d := '|') (by decide) (by decide)).2 hclosed
  have hparts : parts = ["a".toList, "'b|c'd".toList] := (Except.ok.inj hsplit).symm
  have hscan : whole = [(0, 'a'), (1, '|'), (7, 'd')] := (Except.ok.inj hwhole).symm
  obtain ⟨-, hpiece, hpositions, -⟩ := hpieces ["a".toList] "'b|c'd" [] hparts
  rw [hscan] at hpositions
  exact ⟨by rw [hsplit, hparts], hpositions, hpiece⟩

end Quotes
end TypedTemplate
