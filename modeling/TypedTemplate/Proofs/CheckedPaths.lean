import TypedTemplate.Proofs.WrittenLiterals

/-!
# Checked paths

Paths are checked where they stand in expressions, in conditions and in iterations. A path is one
identifier or more with single dots between them. The check of conditions and the reader of
iterations take these texts as they are and no others; the pattern itself also takes one line break
behind such a text. A path that passes is put together again from its components, and from its first
component and the others.
-/
namespace TypedTemplate

namespace Path

variable {path : Text}

/-- Whether a text is made of identifiers, of one at least, with single dots between them. -/
def IsDotted (path : Text) : Prop :=
  ∃ names : List Text, names ≠ [] ∧ (∀ name ∈ names, isIdentifier name = true) ∧
    path = Text.join ['.'] names

theorem isChain_iff_isDotted : isChain path = true ↔ IsDotted path := by
  constructor
  · exact exists_names_of_isChain
  · rintro ⟨names, hne, hnames, rfl⟩
    have hdots : ∀ name ∈ names, '.' ∉ name := fun name hm =>
      not_mem_of_isIdentifier (hnames name hm) (by decide)
    rw [isChain, Text.splitOn_join_of_not_mem hne hdots]
    exact List.all_eq_true.2 hnames

theorem dropFinalBreak_concat (t : Text) : dropFinalBreak (t ++ ['\n']) = t := by
  rw [dropFinalBreak, if_pos List.getLast?_concat, List.dropLast_concat]

theorem isLine_dropFinalBreak (t : Text) : (dropFinalBreak t).IsLine t := by
  unfold dropFinalBreak
  split
  · rename_i h
    exact .inr (List.dropLast_append_getLast? _ h).symm
  · exact .inl rfl

theorem dropFinalBreak_of_isChain (h : isChain path = true) : dropFinalBreak path = path := by
  rw [← trim_of_isChain h, Text.dropFinalBreak_trim]

theorem isValid_iff : isValid path = true ↔ ∃ t, IsDotted t ∧ t.IsLine path := by
  constructor
  · intro h
    exact ⟨dropFinalBreak path, isChain_iff_isDotted.1 h, isLine_dropFinalBreak path⟩
  · rintro ⟨t, ht, rfl | rfl⟩
    · have hchain := isChain_iff_isDotted.2 ht
      rw [isValid, dropFinalBreak_of_isChain hchain, hchain]
    · rw [isValid, dropFinalBreak_concat, isChain_iff_isDotted.2 ht]

/-- The check takes paths and nothing else: a text that is trimmed has no line break at its end. -/
theorem check_eq_ok_iff {role : Text} : check path role = .ok () ↔ IsDotted path := by
  rw [← isChain_iff_isDotted]
  constructor
  · intro h
    unfold check at h
    split at h
    · cases h
    split at h
    · cases h
    rename_i htrim
    split at h
    · cases h
    rename_i hvalid
    have hpath : path.trim = path := by simpa using htrim
    rw [← hpath]
    exact isChain_of_isValid_trim (by simpa [hpath] using hvalid)
  · exact fun h => check_of_isChain h role

theorem join_components (h : IsDotted path) : Text.join ['.'] (components path) = path := by
  rw [components_of_isResolved (isResolved_of_isChain (isChain_iff_isDotted.2 h)),
    Text.join_splitOn]

end Path

/-- The reader of iterations gives back the whole text as the source of rows, and with it the name
that it was given, where the text is a path. -/
theorem Directive.readIteration_eq_self_iff {path name : Text} :
    readIteration path name = .ok (path, name) ↔ Path.IsDotted path := by
  rw [← Path.isChain_iff_isDotted]
  constructor
  · intro h
    unfold readIteration at h
    dsimp only at h
    split at h
    · cases h
    rename_i hchain
    rw [Bool.not_eq_true', Bool.not_eq_false] at hchain
    split at h
    · rwa [(Prod.mk.inj (Except.ok.inj h)).1] at hchain
    split at h
    · cases h
    split at h
    · rwa [(Prod.mk.inj (Except.ok.inj h)).1] at hchain
    · cases h
  · intro h
    have hchars := fun c (hc : c ∈ path) => Path.isPathChar_of_mem h hc
    unfold readIteration
    dsimp only
    rw [Path.trim_of_isChain h, List.takeWhile_eq_self_iff.2 hchars,
      List.dropWhile_eq_nil_iff.2 hchars, h]
    rfl

/-- The check of a path and the reader of iterations take the same texts, identifiers with single
dots between them. The pattern takes these, with or without one line break behind them. The
components of such a text, joined with dots, are the text, and so is its first component with the
others behind it. -/
theorem path_checks_agree_up_to_final_break (path role name : Text) :
    (Path.isValid path = true ↔ Path.IsDotted path ∨ ∃ t, Path.IsDotted t ∧ path = t ++ ['\n']) ∧
    (Path.check path role = .ok () ↔ Path.IsDotted path) ∧
    (Directive.readIteration path name = .ok (path, name) ↔ Path.IsDotted path) ∧
    (Path.IsDotted path →
      Text.join ['.'] (Path.components path) = path ∧
        (Path.split path).1 ++ (Path.split path).2.elim [] ('.' :: ·) = path) := by
  refine ⟨?_, Path.check_eq_ok_iff, Directive.readIteration_eq_self_iff, fun h =>
    ⟨Path.join_components h, Text.cut_eq '.' path⟩⟩
  rw [Path.isValid_iff]
  constructor
  · rintro ⟨t, ht, rfl | hbreak⟩
    · exact .inl ht
    · exact .inr ⟨t, ht, hbreak⟩
  · rintro (h | ⟨t, ht, hbreak⟩)
    · exact ⟨path, h, .inl rfl⟩
    · exact ⟨t, ht, .inr hbreak⟩

/-- A path of two names passes every check, and is put together again. -/
theorem path_of_two_names_is_checked_alike : Path.IsDotted "user.name" ∧
    Path.isValid "user.name" = true ∧ Path.check "user.name" "path" = .ok () ∧
    Directive.readIteration "user.name" "item" = .ok ("user.name", "item") ∧
    Text.join ['.'] (Path.components "user.name") = "user.name".toList := by
  obtain ⟨hvalid, hcheck, hread, hjoin⟩ :=
    path_checks_agree_up_to_final_break "user.name" "path" "item"
  have hdotted : Path.IsDotted "user.name" := Path.isChain_iff_isDotted.1 (by decide)
  exact ⟨hdotted, hvalid.2 (.inl hdotted), hcheck.2 hdotted, hread.2 hdotted, (hjoin hdotted).1⟩

/-- The pattern alone takes a name with a line break behind it. -/
theorem name_before_break_is_valid : Path.isValid "a\n" = true ∧ ¬Path.IsDotted "a\n" ∧
    Path.check "a\n" "path" ≠ .ok () ∧
    Directive.readIteration "a\n" "item" ≠ .ok ("a\n", "item") := by
  have hdotted : ¬Path.IsDotted "a\n" := by
    rw [← Path.isChain_iff_isDotted]
    decide
  refine ⟨by decide, hdotted, ?_, ?_⟩
  · rwa [ne_eq, Path.check_eq_ok_iff]
  · rwa [ne_eq, Directive.readIteration_eq_self_iff]

end TypedTemplate
