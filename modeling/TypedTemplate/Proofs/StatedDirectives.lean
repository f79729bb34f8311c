import TypedTemplate.Proofs.Renaming
import TypedTemplate.Proofs.SanitizedTemplates

/-!
# Stated directives

An iteration and a condition that are written into the attributes of an element are read back from
them: the source is a chain, so that it ends where the word between source and alias begins, and
neither the alias nor a condition has blanks at its ends. So the heads of a renamed template state
the directives that they have, as those of a template that is read do.
-/
namespace TypedTemplate

namespace Text

theorem trim_eq_self {t : Text} (hf : ∀ c ∈ t.head?, TypedTemplate.isBlank c = false)
    (hl : ∀ c ∈ t.getLast?, TypedTemplate.isBlank c = false) : t.trim = t := by
  have hleft : ∀ {u : Text}, (∀ c ∈ u.head?, TypedTemplate.isBlank c = false) →
      u.dropWhile TypedTemplate.isBlank = u := by
    intro u hu
    cases u with
    | nil => rfl
    | cons c rest =>
      have hc : ¬ TypedTemplate.isBlank c = true := by simp [hu c rfl]
      exact List.dropWhile_cons_of_neg hc
  have hright : ∀ c ∈ t.reverse.head?, TypedTemplate.isBlank c = false := by
    rw [List.head?_reverse]
    exact hl
  rw [trim, trimLeft, hleft hf, trimRight, hleft hright, List.reverse_reverse]

theorem eq_or_mem_splitOn {c d : Char} {t : Text} (h : d ∈ t) :
    d = c ∨ ∃ piece ∈ splitOn c t, d ∈ piece := by
  induction t with
  | nil => cases h
  | cons e rest ih =>
    by_cases he : e = c
    · rw [he, splitOn_cons_self]
      rcases List.mem_cons.1 h with rfl | h
      · exact .inl he
      · refine (ih h).imp_right ?_
        rintro ⟨piece, hp, hd⟩
        exact ⟨piece, List.mem_cons_of_mem _ hp, hd⟩
    · rw [splitOn_cons_ne he]
      obtain ⟨first, others, hs⟩ := List.exists_cons_of_ne_nil (splitOn_ne_nil c rest)
      rw [hs] at ih ⊢
      rcases List.mem_cons.1 h with rfl | h
      · exact .inr ⟨d :: first, List.mem_cons_self, List.mem_cons_self⟩
      · refine (ih h).imp_right ?_
        rintro ⟨piece, hp, hd⟩
        rcases List.mem_cons.1 hp with rfl | hp
        · exact ⟨e :: piece, List.mem_cons_self, List.mem_cons_of_mem _ hd⟩
        · exact ⟨piece, List.mem_cons_of_mem _ hp, hd⟩

end Text

namespace Path

theorem isBlank_of_isIdentifierChar {c : Char} (h : isIdentifierChar c = true) :
    isBlank c = false := by
  have hrange : 33 ≤ c.toNat ∧ c.toNat < 128 := by
    simp only [isIdentifierChar, isIdentifierStart, isAsciiLetter, isAsciiDigit, Bool.or_eq_true,
      Bool.and_eq_true, decide_eq_true_eq, beq_iff_eq, Char.le_def, UInt32.le_iff_toNat_le] at h
    have hn : c.toNat = c.val.toNat := rfl
    rcases h with ((((⟨hlow, hhigh⟩ | ⟨hlow, hhigh⟩) | rfl) | rfl) | ⟨hlow, hhigh⟩)
    · change 97 ≤ c.val.toNat at hlow
      change c.val.toNat ≤ 122 at hhigh
      omega
    · change 65 ≤ c.val.toNat at hlow
      change c.val.toNat ≤ 90 at hhigh
      omega
    · decide
    · decide
    · change 48 ≤ c.val.toNat at hlow
      change c.val.toNat ≤ 57 at hhigh
      omega
  have hlow : ¬ (9 ≤ c.toNat ∧ c.toNat ≤ 13) := by omega
  have hsep : ¬ (28 ≤ c.toNat ∧ c.toNat ≤ 32) := by omega
  simp only [isBlank, hrange.2, if_true, Bool.or_eq_false_iff, Bool.and_eq_false_iff,
    decide_eq_false_iff_not]
  omega

theorem isPathChar_of_mem {path : Text} (h : isChain path = true) {c : Char} (hc : c ∈ path) :
    (isIdentifierChar c || c == '.') = true := by
  rcases Text.eq_or_mem_splitOn (c := '.') hc with rfl | ⟨piece, hp, hm⟩
  · rfl
  · rw [isIdentifierChar_of_mem (isIdentifier_of_mem_splitOn h hp) hm]
    rfl

theorem isBlank_of_mem {path : Text} (h : isChain path = true) {c : Char} (hc : c ∈ path) :
    isBlank c = false := by
  have hpath := isPathChar_of_mem h hc
  rw [Bool.or_eq_true, beq_iff_eq] at hpath
  rcases hpath with hpath | rfl
  · exact isBlank_of_isIdentifierChar hpath
  · decide

theorem trim_of_isChain {path : Text} (h : isChain path = true) : path.trim = path :=
  Text.trim_eq_self (fun _ hc => isBlank_of_mem h (List.mem_of_mem_head? hc))
    (fun _ hc => isBlank_of_mem h (List.mem_of_mem_getLast? hc))

theorem ne_nil_of_isChain {path : Text} (h : isChain path = true) : path ≠ [] := by
  intro e
  rw [e] at h
  exact absurd h (by decide)

theorem check_of_isChain {path : Text} (h : isChain path = true) (role : Text) :
    check path role = .ok () := by
  have hvalid : isValid path = true := by
    rw [isValid, ← trim_of_isChain h, Text.dropFinalBreak_trim, trim_of_isChain h]
    exact h
  simp [check, ne_nil_of_isChain h, trim_of_isChain h, hvalid]

end Path

namespace Directive

/-- What is written between the source and the alias of an iteration begins with a blank, so that
the source ends there. -/
theorem readIteration_written {i : Iteration} (hs : Path.isChain i.source = true)
    (hn : Path.isIdentifier i.itemName = true) (default : Text) :
    readIteration i.written default = .ok (i.source, i.itemName) := by
  have hrest : ∃ rest : Text, rest = ' ' :: 'a' :: 's' :: ' ' :: i.itemName ∧
      i.written = i.source ++ rest := by
    refine ⟨_, rfl, ?_⟩
    rw [Iteration.written, List.append_assoc]
    rfl
  obtain ⟨rest, hr, hw⟩ := hrest
  have hname : ∀ c ∈ i.itemName, isBlank c = false :=
    fun c hc => Path.isBlank_of_isIdentifierChar (Path.isIdentifierChar_of_mem hn hc)
  have htrim : i.written.trim = i.source ++ rest := by
    rw [hw]
    apply Text.trim_eq_self
    · intro c hc
      rw [List.head?_append_of_ne_nil _ (Path.ne_nil_of_isChain hs)] at hc
      exact Path.isBlank_of_mem hs (List.mem_of_mem_head? hc)
    · intro c hc
      rw [← hw, Iteration.written,
        List.getLast?_append_of_ne_nil _ (Path.isIdentifier_ne_nil hn)] at hc
      exact hname c (List.mem_of_mem_getLast? hc)
  have hchars : ∀ c ∈ i.source, (Path.isIdentifierChar c || c == '.') = true :=
    fun _ hc => Path.isPathChar_of_mem hs hc
  have htake : (i.source ++ rest).takeWhile (fun c => Path.isIdentifierChar c || c == '.') =
      i.source := by
    rw [List.takeWhile_append_of_pos hchars, hr]
    exact List.append_nil _
  have hdrop : (i.source ++ rest).dropWhile (fun c => Path.isIdentifierChar c || c == '.') =
      rest := by
    rw [List.dropWhile_append_of_pos hchars, hr]
    rfl
  have hafter : Text.after? "as" (Text.trimLeft rest) = some (' ' :: i.itemName) := by
    rw [hr]
    rfl
  have hleft : Text.trimLeft (' ' :: i.itemName) = i.itemName := by
    obtain ⟨first, more, hcons⟩ := List.exists_cons_of_ne_nil (Path.isIdentifier_ne_nil hn)
    have hfirst : ¬ isBlank first = true := by
      simp [hname first (hcons ▸ List.mem_cons_self)]
    rw [Text.trimLeft, List.dropWhile_cons_of_pos (by rfl), hcons]
    exact List.dropWhile_cons_of_neg hfirst
  unfold readIteration
  dsimp only
  rw [htrim, htake, hdrop, hs, hafter]
  dsimp only
  rw [hleft, hn, hr]
  rfl

theorem readKind_eq_some_iff {attributes : Attributes} {kind : IterationKind} {i : Iteration} :
    readKind attributes kind = .ok (some i) ↔
      i.kind = kind ∧ ∃ expression, Keyed.get? kind.attributeName attributes = some expression ∧
        expression ≠ [] ∧
        readIteration expression kind.defaultItemName = .ok (i.source, i.itemName) ∧
        readRowCount attributes "data-fixed-rows" = .ok i.fixedRows ∧
        readRowCount attributes "data-max-rows" = .ok i.maxRows := by
  unfold readKind
  constructor
  · intro h
    split at h
    · cases Except.ok.inj h
    · cases Except.ok.inj h
    · rename_i expression hne hget
      obtain ⟨⟨source, itemName⟩, hs, h⟩ := Fault.bind_eq_ok_iff.1 h
      obtain ⟨fixedRows, hf, h⟩ := Fault.bind_eq_ok_iff.1 h
      obtain ⟨maxRows, hm, h⟩ := Fault.bind_eq_ok_iff.1 h
      rw [← Option.some.inj (Except.ok.inj h)]
      exact ⟨rfl, expression, hget, hne, hs, hf, hm⟩
  · rintro ⟨rfl, expression, hget, hne, hs, hf, hm⟩
    obtain ⟨first, rest, rfl⟩ := List.exists_cons_of_ne_nil hne
    rw [hget]
    dsimp only
    rw [hs, hf, hm]
    rfl

theorem readRowCount_set {key name : Text} (h : name ≠ key) (value : Text)
    (attributes : Attributes) :
    readRowCount (attributes.set key value) name = readRowCount attributes name := by
  rw [readRowCount, Keyed.get?_set_ne value attributes h, readRowCount]

theorem readKind_set {key : Text} {kind : IterationKind} (hk : kind.attributeName ≠ key)
    (hf : "data-fixed-rows" ≠ key) (hm : "data-max-rows" ≠ key) (value : Text)
    (attributes : Attributes) :
    readKind (attributes.set key value) kind = readKind attributes kind := by
  simp only [readKind, Keyed.get?_set_ne value attributes hk, readRowCount_set hf value attributes,
    readRowCount_set hm value attributes]

theorem readCondition_set {key : Text} (h : "data-if" ≠ key) (value : Text)
    (attributes : Attributes) :
    readCondition (attributes.set key value) = readCondition attributes := by
  rw [readCondition, Keyed.get?_set_ne value attributes h, readCondition]

theorem readCondition_written {path : Text} (hp : Path.isChain path = true)
    (attributes : Attributes) :
    readCondition (attributes.set "data-if" path) = .ok (some path) := by
  have hempty : path.isEmpty = false := by
    simp [Path.ne_nil_of_isChain hp]
  rw [readCondition, Keyed.get?_set_self, Option.getD_some, Path.trim_of_isChain hp]
  simp only [hempty, Path.check_of_isChain hp]
  rfl

theorem readKind_written {attributes : Attributes} {i j : Iteration}
    (h : readKind attributes i.kind = .ok (some i)) (hk : j.kind = i.kind)
    (hf : j.fixedRows = i.fixedRows) (hm : j.maxRows = i.maxRows)
    (hs : Path.isChain j.source = true) (hn : Path.isIdentifier j.itemName = true) :
    readKind (attributes.set j.kind.attributeName j.written) i.kind = .ok (some j) := by
  have hfixed : ("data-fixed-rows" : Text) ≠ j.kind.attributeName := by
    cases j.kind <;> decide
  have hmax : ("data-max-rows" : Text) ≠ j.kind.attributeName := by
    cases j.kind <;> decide
  have hne : j.written ≠ [] := by
    simp [Iteration.written, Path.ne_nil_of_isChain hs]
  obtain ⟨-, _, -, -, -, hfixedRows, hmaxRows⟩ := readKind_eq_some_iff.1 h
  rw [readKind_eq_some_iff, ← hk, Keyed.get?_set_self, readRowCount_set hfixed,
    readRowCount_set hmax, hf, hm]
  exact ⟨rfl, j.written, rfl, hne, readIteration_written hs hn _, hfixedRows, hmaxRows⟩

end Directive

/-- The head is the one that is made of its tag and its attributes. -/
def Head.IsStated (head : Head) : Prop :=
  Head.ofAttributes head.tag head.attributes = .ok head

namespace Head

theorem isStated_iff {head : Head} : head.IsStated ↔
    Directive.readAll head.attributes = .ok (head.iteration, head.condition) := by
  constructor
  · intro h
    exact (ofAttributes_eq_ok h).2.2
  · intro h
    rw [IsStated, ofAttributes, h]

variable {head : Head}

theorem IsStated.hasChains (h : head.IsStated) : head.HasChains := hasChains_of_ofAttributes h

theorem IsStated.withIteration (h : head.IsStated) {i j : Iteration}
    (hi : head.iteration = some i) (hk : j.kind = i.kind) (hf : j.fixedRows = i.fixedRows)
    (hm : j.maxRows = i.maxRows) (hs : Path.isChain j.source = true)
    (hn : Path.isIdentifier j.itemName = true) : (head.withIteration j).IsStated := by
  unfold Head.withIteration
  split
  · exact h
  · rw [isStated_iff, Directive.readAll_eq_ok_iff] at h ⊢
    rw [hi] at h
    dsimp only
    have hcondition : ("data-if" : Text) ≠ j.kind.attributeName := by
      cases j.kind <;> decide
    rw [Directive.readCondition_set hcondition]
    refine ⟨?_, h.2⟩
    rcases h.1 with ⟨hpage, -⟩ | ⟨hpage, hrow⟩
    · have hkind := (Directive.readKind_eq_some_iff.1 hpage).1
      rw [← hkind] at hpage
      have hread := Directive.readKind_written hpage hk hf hm hs hn
      rw [hkind] at hread
      exact .inl ⟨hread, Option.some_ne_none j⟩
    · have hkind := (Directive.readKind_eq_some_iff.1 hrow).1
      rw [← hkind] at hrow
      have hread := Directive.readKind_written hrow hk hf hm hs hn
      rw [hkind] at hk hread
      refine .inr ⟨?_, hread⟩
      rw [hk, Directive.readKind_set (by decide) (by decide) (by decide)]
      exact hpage

theorem IsStated.withCondition (h : head.IsStated) {path : Text} (hp : Path.isChain path = true) :
    (head.withCondition path).IsStated := by
  unfold Head.withCondition
  split
  · exact h
  · have hkind : ∀ kind : IterationKind,
        Directive.readKind (head.attributes.set "data-if" path) kind =
          Directive.readKind head.attributes kind := by
      intro kind
      refine Directive.readKind_set ?_ (by decide) (by decide) path head.attributes
      cases kind <;> decide
    rw [isStated_iff, Directive.readAll_eq_ok_iff] at h ⊢
    dsimp only
    rw [hkind, hkind, Directive.readCondition_written hp]
    exact ⟨h.1, rfl⟩

theorem IsStated.renameCondition (h : head.IsStated) (a : Text) {b : Text}
    (hb : Path.isIdentifier b = true) : (head.renameCondition a b).IsStated := by
  unfold Head.renameCondition
  cases hc : head.condition with
  | none => exact h
  | some path => exact h.withCondition (Path.isChain_rename hb a (h.hasChains.condition path hc))

theorem IsStated.rename (h : head.IsStated) {a b : Text} (ha : Path.IsAliasName a)
    (hb : Path.IsAliasName b) : (head.rename a b).IsStated := by
  have hsource : (head.renameSource a b).IsStated := by
    unfold Head.renameSource
    cases hi : head.iteration with
    | none => exact h
    | some i =>
      obtain ⟨hs, hn⟩ := h.hasChains.iteration i hi
      exact h.withIteration hi rfl rfl rfl (Path.isChain_rename hb.identifier a hs) hn
  exact hsource.renameCondition a (isAliasName_innerName ha hb head).identifier

theorem IsStated.renameAlias (h : head.IsStated) {b : Text} (hb : Path.isIdentifier b = true) :
    (head.renameAlias b).IsStated := by
  unfold Head.renameAlias
  cases hi : head.iteration with
  | none => exact h
  | some i =>
    have hs := (h.hasChains.iteration i hi).1
    have halias : (head.withIteration { i with itemName := b }).IsStated :=
      h.withIteration hi rfl rfl rfl hs hb
    exact halias.renameCondition i.itemName hb

end Head

namespace Node

mutual

theorem isStated_of_mem_heads_rename {a b : Text} (ha : Path.IsAliasName a)
    (hb : Path.IsAliasName b) : ∀ {n : Node}, (∀ head ∈ n.heads, head.IsStated) →
      ∀ head ∈ (n.rename a b).heads, head.IsStated
  | .text _, _ => nofun
  | .element head children, h => by
    obtain ⟨hhead, hchildren⟩ := List.forall_mem_cons.1 h
    have hinner := Head.isAliasName_innerName ha hb head
    rw [rename_element]
    exact List.forall_mem_cons.2
      ⟨hhead.rename ha hb, isStated_of_mem_headsOfList_rename ha hinner hchildren⟩

theorem isStated_of_mem_headsOfList_rename {a b : Text} (ha : Path.IsAliasName a)
    (hb : Path.IsAliasName b) : ∀ {all : List Node}, (∀ head ∈ headsOfList all, head.IsStated) →
      ∀ head ∈ headsOfList (renameList a b all), head.IsStated
  | [], _ => nofun
  | n :: rest, h => by
    obtain ⟨hfirst, hrest⟩ := List.forall_mem_append.1 h
    exact List.forall_mem_append.2
      ⟨isStated_of_mem_heads_rename ha hb hfirst, isStated_of_mem_headsOfList_rename ha hb hrest⟩

end

theorem isStated_of_ofMarkup {markup : Text} {root : Node} (h : ofMarkup markup = .ok root) :
    ∀ head ∈ root.heads, head.IsStated := by
  intro head hm
  rw [Head.isStated_iff]
  exact ((isSanitized_of_ofMarkup h).heads head hm).directives

end Node
end TypedTemplate
