import TypedTemplate.Proofs.BuiltTrees
import TypedTemplate.Proofs.PathText

/-!
# Parsed templates

What reading a template promises about the tree: the path of every interpolation, iteration and
condition is a chain of identifiers, and every alias is an identifier. A path may be followed by
a line break where it is checked, but it has been trimmed by then.
-/
namespace TypedTemplate

theorem Text.dropFinalBreak_trim (t : Text) : Path.dropFinalBreak t.trim = t.trim := by
  unfold Path.dropFinalBreak
  split
  · rename_i h
    unfold Text.trim Text.trimRight at h
    rw [List.getLast?_reverse] at h
    have hblank := List.head?_dropWhile_not TypedTemplate.isBlank (Text.trimLeft t).reverse
    rw [h] at hblank
    exact absurd hblank (by decide)
  · rfl

theorem Path.isChain_of_isValid_trim {t : Text} (h : Path.isValid t.trim = true) :
    Path.isChain t.trim = true := by
  rw [Path.isValid, Text.dropFinalBreak_trim] at h
  exact h

namespace Expression

theorem isChain_of_readDeclaration {t path : Text} {type : DataType} {nullable : Bool}
    (h : readDeclaration t = .ok (path, type, nullable)) : Path.isChain path = true := by
  unfold readDeclaration at h
  split at h
  · cases h
  · rename_i before after hcut
    by_cases hv : Path.isValid before.trim
    · simp only [hv, Bool.not_true, Bool.false_eq_true, if_false] at h
      split at h
      · obtain ⟨rfl, -⟩ := Prod.mk.inj (Except.ok.inj h)
        exact Path.isChain_of_isValid_trim hv
      · cases h
    · simp only [hv, Bool.not_false, if_true] at h
      cases h

/-- An expression that is read is put together from what is read of its declaration, its constraints
and its filters. -/
theorem exists_parts_of_read {raw : Text} {i : Interpolation} (h : read raw = .ok i) :
    ∃ declaration constraints filters,
      readDeclaration declaration = .ok (i.path, i.type, i.nullable) ∧
      readConstraints i.type constraints = .ok i.constraints ∧
      readFilters i.type filters = .ok i.filters := by
  unfold read at h
  cases hb : readBody raw.trim with
  | error e =>
    rw [hb] at h
    cases h
  | ok j =>
    rw [hb] at h
    obtain rfl : j = i := Except.ok.inj h
    obtain ⟨parts, -, hb⟩ := Fault.bind_eq_ok_iff.1 hb
    obtain ⟨⟨declaration, body⟩, -, hb⟩ := Fault.bind_eq_ok_iff.1 hb
    obtain ⟨⟨path, type, nullable⟩, hdeclaration, hb⟩ := Fault.bind_eq_ok_iff.1 hb
    obtain ⟨constraints, hconstraints, hb⟩ := Fault.bind_eq_ok_iff.1 hb
    obtain ⟨filters, hfilters, hb⟩ := Fault.bind_eq_ok_iff.1 hb
    rw [← Except.ok.inj hb]
    exact ⟨declaration, body, parts.tail, hdeclaration, hconstraints, hfilters⟩

theorem isChain_of_read {raw : Text} {i : Interpolation} (h : read raw = .ok i) :
    Path.isChain i.path = true := by
  obtain ⟨_, _, _, hdeclaration, -, -⟩ := exists_parts_of_read h
  exact isChain_of_readDeclaration hdeclaration

end Expression

theorem Segment.exists_read_of_readFrom {fuel : Nat} {t : Text} {segments : List Segment}
    (h : readFrom fuel t = .ok segments) {i : Interpolation} (hi : .interpolation i ∈ segments) :
    ∃ raw, Expression.read raw = .ok i := by
  have hliterals : ∀ t, .interpolation i ∉ literals t := by
    intro t hm
    unfold literals at hm
    split at hm
    · cases hm
    · cases List.mem_singleton.1 hm
  induction fuel generalizing t segments with
  | zero =>
    rw [← Except.ok.inj h] at hi
    exact absurd hi (hliterals t)
  | succ fuel ih =>
    unfold readFrom at h
    split at h
    · rw [← Except.ok.inj h] at hi
      exact absurd hi (hliterals t)
    · rename_i before body tail hbody
      obtain ⟨j, hj, h⟩ := Fault.bind_eq_ok_iff.1 h
      obtain ⟨others, ho, h⟩ := Fault.bind_eq_ok_iff.1 h
      rw [← Except.ok.inj h] at hi
      rcases List.mem_append.1 hi with hi | hi
      · exact absurd hi (hliterals before)
      · rcases List.mem_cons.1 hi with he | hi
        · exact ⟨body, Segment.interpolation.inj he ▸ hj⟩
        · exact ih ho hi

def Segment.HaveChains (segments : List Segment) : Prop :=
  ∀ i, .interpolation i ∈ segments → Path.isChain i.path = true

theorem Segment.haveChains_of_readAll {t : Text} {segments : List Segment}
    (h : readAll t = .ok segments) : HaveChains segments := by
  intro i hi
  obtain ⟨raw, hraw⟩ := exists_read_of_readFrom h hi
  exact Expression.isChain_of_read hraw

/-- The directives of an element name chains, and the alias of its iteration is an
identifier. -/
structure Head.HasChains (head : Head) : Prop where
  iteration : ∀ i, head.iteration = some i →
    Path.isChain i.source = true ∧ Path.isIdentifier i.itemName = true
  condition : ∀ path, head.condition = some path → Path.isChain path = true

namespace Directive

theorem isChain_of_readIteration {expression default source itemName : Text}
    (hd : Path.isIdentifier default = true)
    (h : readIteration expression default = .ok (source, itemName)) :
    Path.isChain source = true ∧ Path.isIdentifier itemName = true := by
  unfold readIteration at h
  dsimp only at h
  split at h
  · cases h
  · rename_i hc
    rw [Bool.not_eq_true', Bool.not_eq_false] at hc
    split at h
    · obtain ⟨rfl, rfl⟩ := Prod.mk.inj (Except.ok.inj h)
      exact ⟨hc, hd⟩
    · split at h
      · cases h
      · split at h
        · rename_i hi
          simp only [Bool.and_eq_true] at hi
          obtain ⟨rfl, rfl⟩ := Prod.mk.inj (Except.ok.inj h)
          exact ⟨hc, hi.2⟩
        · cases h

theorem isChain_of_readKind {attributes : Attributes} {kind : IterationKind} {i : Iteration}
    (h : readKind attributes kind = .ok (some i)) :
    Path.isChain i.source = true ∧ Path.isIdentifier i.itemName = true := by
  have hd : Path.isIdentifier kind.defaultItemName = true := by cases kind <;> decide
  unfold readKind at h
  split at h
  · cases Except.ok.inj h
  · cases Except.ok.inj h
  · obtain ⟨⟨source, itemName⟩, hs, h⟩ := Fault.bind_eq_ok_iff.1 h
    obtain ⟨fixedRows, -, h⟩ := Fault.bind_eq_ok_iff.1 h
    obtain ⟨maxRows, -, h⟩ := Fault.bind_eq_ok_iff.1 h
    rw [← Option.some.inj (Except.ok.inj h)]
    exact isChain_of_readIteration hd hs

theorem isChain_of_readCondition {attributes : Attributes} {path : Text}
    (h : readCondition attributes = .ok (some path)) : Path.isChain path = true := by
  unfold readCondition at h
  dsimp only at h
  split at h
  · cases Except.ok.inj h
  · obtain ⟨checked, hc, h⟩ := Fault.bind_eq_ok_iff.1 h
    rw [← Option.some.inj (Except.ok.inj h)]
    unfold Path.check at hc
    split at hc
    · cases hc
    · split at hc
      · cases hc
      · split at hc
        · cases hc
        · rename_i hv
          rw [Bool.not_eq_true', Bool.not_eq_false] at hv
          exact Path.isChain_of_isValid_trim hv

theorem readKind_eq_none_iff (attributes : Attributes) (kind : IterationKind) :
    readKind attributes kind = .ok none ↔
      (Keyed.get? kind.attributeName attributes).getD [] = [] := by
  unfold readKind
  split
  · rename_i hnone
    simp [hnone, pure, Except.pure]
  · rename_i hempty
    simp [hempty, pure, Except.pure]
  · rename_i expression hnonempty hexpression
    refine iff_of_false (fun h => ?_) (by simpa [hexpression] using fun e => hnonempty e)
    obtain ⟨named, -, h⟩ := Fault.bind_eq_ok_iff.1 h
    obtain ⟨fixedRows, -, h⟩ := Fault.bind_eq_ok_iff.1 h
    obtain ⟨maxRows, -, h⟩ := Fault.bind_eq_ok_iff.1 h
    cases h

theorem readAll_eq_ok_iff {attributes : Attributes} {iteration : Option Iteration}
    {condition : Option Text} :
    readAll attributes = .ok (iteration, condition) ↔
      ((readKind attributes .page = .ok iteration ∧ iteration ≠ none) ∨
        (readKind attributes .page = .ok none ∧ readKind attributes .row = .ok iteration)) ∧
      readCondition attributes = .ok condition := by
  have hfinal : ∀ chosen : Option Iteration,
      (do let condition ← readCondition attributes
          return (chosen, condition)) = .ok (iteration, condition) ↔
        chosen = iteration ∧ readCondition attributes = .ok condition := by
    intro chosen
    cases readCondition attributes with
    | error e => simp [bind, Except.bind]
    | ok stated => simp [bind, Except.bind, pure, Except.pure]
  unfold readAll
  cases readKind attributes .page with
  | error e => simp [bind, Except.bind]
  | ok pages =>
    cases pages with
    | some i =>
      refine (hfinal (some i)).trans ?_
      constructor
      · rintro ⟨rfl, hc⟩
        exact ⟨.inl ⟨rfl, Option.some_ne_none i⟩, hc⟩
      · rintro ⟨⟨hi, -⟩ | ⟨hi, -⟩, hc⟩
        · exact ⟨Except.ok.inj hi, hc⟩
        · cases hi
    | none =>
      cases readKind attributes .row with
      | error e =>
        constructor
        · intro h
          cases h
        · rintro ⟨⟨hi, hne⟩ | ⟨-, hi⟩, -⟩
          · exact absurd (Except.ok.inj hi).symm hne
          · cases hi
      | ok rows =>
        refine (hfinal rows).trans ?_
        constructor
        · rintro ⟨rfl, hc⟩
          exact ⟨.inr ⟨rfl, rfl⟩, hc⟩
        · rintro ⟨⟨hi, hne⟩ | ⟨-, hi⟩, hc⟩
          · exact absurd (Except.ok.inj hi).symm hne
          · exact ⟨Except.ok.inj hi, hc⟩

end Directive

theorem Head.hasChains_of_ofAttributes {tag : Text} {attributes : Attributes} {head : Head}
    (h : Head.ofAttributes tag attributes = .ok head) : head.HasChains := by
  unfold Head.ofAttributes at h
  split at h
  · rename_i iteration condition hr
    obtain ⟨hi, hc⟩ := Directive.readAll_eq_ok_iff.1 hr
    rw [← Except.ok.inj h]
    refine ⟨fun i he => ?_, fun path he => ?_⟩
    · rcases hi with ⟨hi, -⟩ | ⟨-, hi⟩
      · exact Directive.isChain_of_readKind (hi.trans (congrArg Except.ok he))
      · exact Directive.isChain_of_readKind (hi.trans (congrArg Except.ok he))
    · exact Directive.isChain_of_readCondition (hc.trans (congrArg Except.ok he))
  · cases h
  · cases h

/-- Every path of a part of a template is a chain. -/
inductive Node.HasChains : Node → Prop
  | text {segments : List Segment} : Segment.HaveChains segments → HasChains (.text segments)
  | element {head : Head} {children : List Node} : head.HasChains →
      (∀ n ∈ children, HasChains n) → HasChains (.element head children)

theorem Node.IsBuilt.hasChains {n : Node} (h : n.IsBuilt) : n.HasChains := by
  induction h with
  | text _ hs => exact .text (Segment.haveChains_of_readAll hs)
  | element _ hh _ _ ih => exact .element (Head.hasChains_of_ofAttributes hh) ih

/-- Every path of a template that is read is a chain of identifiers. -/
theorem Node.hasChains_of_ofMarkup {markup : Text} {root : Node}
    (h : Node.ofMarkup markup = .ok root) : root.HasChains :=
  (Node.isBuilt_of_ofMarkup h).1.hasChains

end TypedTemplate
