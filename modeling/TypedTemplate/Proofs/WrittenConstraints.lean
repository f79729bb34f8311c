import Mathlib.Data.List.Forall2
import TypedTemplate.Proofs.WrittenLiterals

/-!
# Written constraints

How the constraints of an expression are written: each one as a keyword, a colon and what it holds
data against, with a comma and a blank between two of them. A list of choices holds commas too. Such
a comma is no end of an entry since what follows it starts with a quote, a digit or a sign, and no
keyword does. So a list of constraints is cut into its entries, and each entry is read back.
-/
namespace TypedTemplate

open Quotes (Encloses Hides IsKept)

theorem exists_of_mem_forall₂ {α β : Type} {r : α → β → Prop} {l : List α} {m : List β}
    (h : List.Forall₂ r l m) {b : β} (hb : b ∈ m) : ∃ a ∈ l, r a b := by
  induction h with
  | nil => cases hb
  | cons hr _ ih =>
    rcases List.mem_cons.1 hb with rfl | hb
    · exact ⟨_, List.mem_cons_self, hr⟩
    · obtain ⟨a, ha, hr⟩ := ih hb
      exact ⟨a, List.mem_cons_of_mem _ ha, hr⟩

theorem exists_forall₂_iff {α β : Type} {r : α → β → Prop} {l : List α} :
    (∃ m, List.Forall₂ r l m) ↔ ∀ a ∈ l, ∃ b, r a b := by
  induction l with
  | nil => exact ⟨fun _ => nofun, fun _ => ⟨[], .nil⟩⟩
  | cons a l ih =>
    rw [List.forall_mem_cons, ← ih]
    constructor
    · rintro ⟨_, hm⟩
      cases hm with
      | cons hr hl => exact ⟨⟨_, hr⟩, ⟨_, hl⟩⟩
    · rintro ⟨⟨b, hr⟩, ⟨m, hl⟩⟩
      exact ⟨b :: m, .cons hr hl⟩

theorem ne_nil_of_forall₂ {α β : Type} {r : α → β → Prop} {l : List α} {m : List β}
    (h : List.Forall₂ r l m) (hne : l ≠ []) : m ≠ [] := by
  rintro rfl
  exact hne (List.forall₂_nil_right_iff.1 h)

theorem Literal.isSolid_and_hides_of_mem {values : List Literal} {parts : List Text}
    (h : List.Forall₂ IsWritten values parts) : ∀ t ∈ parts, t.IsSolid ∧ Hides delimiters t := by
  intro t ht
  obtain ⟨_, -, hwritten⟩ := exists_of_mem_forall₂ h ht
  exact ⟨hwritten.isSolid, hwritten.hides⟩

theorem Literal.toValue_injective : Function.Injective Literal.toValue := by
  intro first second h
  cases first <;> cases second <;> cases h <;> rfl

namespace Constraint

/-- How what a constraint holds data against is written. -/
inductive IsOperand : Constraint → Text → Prop
  | choices {values : List Literal} {parts : List Text}
    (each : List.Forall₂ Literal.IsWritten values parts) :
    IsOperand (.choices values) (Text.join [','] parts)
  | bound (b : Bound) (n : Int) : IsOperand (.bound b (.whole n)) (Text.ofInt n)
  | pattern {t written : Text} (enclosed : Encloses t written) : IsOperand (.pattern t) written
  | fixed {value : Literal} {written : Text} (literal : value.IsWritten written) :
    IsOperand (.fixed value) written
  | minLength (n : Int) : IsOperand (.minLength n) (Text.ofInt n)
  | maxLength (n : Int) : IsOperand (.maxLength n) (Text.ofInt n)

/-- How a constraint is written for a type: a keyword that means it for the type, and what it holds
data against. -/
def IsWritten (type : DataType) (c : Constraint) (written : Text) : Prop :=
  ∃ k operand, ConstraintKind.resolve? type k = some c.kind ∧ c.IsOperand operand ∧
    written = k.keyword ++ ':' :: operand

/-- Whether what a constraint holds data against can be written. -/
def IsQuotable : Constraint → Prop
  | .choices values => ∀ value ∈ values, value.IsQuotable
  | .bound _ n => ∃ k, n = .whole k
  | .pattern t => t.IsQuotable
  | .fixed value => value.IsQuotable
  | .minLength _ | .maxLength _ => True

variable {type : DataType} {c : Constraint} {values : List Literal} {operand written : Text}

theorem exists_isOperand_iff : (∃ operand, c.IsOperand operand) ↔ c.IsQuotable := by
  cases c with
  | choices values =>
    simp only [IsQuotable, ← Literal.exists_isWritten_iff, ← exists_forall₂_iff]
    exact ⟨fun ⟨_, .choices each⟩ => ⟨_, each⟩, fun ⟨_, each⟩ => ⟨_, .choices each⟩⟩
  | bound b n =>
    constructor
    · rintro ⟨_, hoperand⟩
      cases hoperand
      exact ⟨_, rfl⟩
    · rintro ⟨k, rfl⟩
      exact ⟨_, .bound b k⟩
  | pattern t =>
    rw [IsQuotable, ← Encloses.exists_iff]
    exact ⟨fun ⟨_, .pattern h⟩ => ⟨_, h⟩, fun ⟨_, h⟩ => ⟨_, .pattern h⟩⟩
  | fixed value =>
    rw [IsQuotable, ← Literal.exists_isWritten_iff]
    exact ⟨fun ⟨_, .fixed h⟩ => ⟨_, h⟩, fun ⟨_, h⟩ => ⟨_, .fixed h⟩⟩
  | minLength n => exact ⟨fun _ => trivial, fun _ => ⟨_, .minLength n⟩⟩
  | maxLength n => exact ⟨fun _ => trivial, fun _ => ⟨_, .maxLength n⟩⟩

theorem exists_isWritten_iff (hc : c.kind ∈ ConstraintKind.allowed type) :
    (∃ written, c.IsWritten type written) ↔ c.IsQuotable := by
  rw [← exists_isOperand_iff]
  constructor
  · rintro ⟨_, _, operand, -, hoperand, -⟩
    exact ⟨operand, hoperand⟩
  · rintro ⟨operand, hoperand⟩
    obtain ⟨k, -, hk⟩ := List.mem_filterMap.1 hc
    exact ⟨_, k, operand, hk, hoperand, rfl⟩

theorem takes_choices (h : (choices values).kind.Takes type (choices values).operand) :
    values ≠ [] ∧ ∀ value ∈ values, value.HasType type := by
  obtain ⟨others, hne, htype, he⟩ := h
  rw [List.map_injective_iff.2 Literal.toValue_injective (Value.list.inj he)]
  exact ⟨hne, htype⟩

theorem takes_fixed {value : Literal} (h : (fixed value).kind.Takes type (fixed value).operand) :
    value.HasType type := by
  obtain ⟨other, htype, he⟩ := h
  rwa [Literal.toValue_injective he]

end Constraint

theorem ConstraintKind.isBare_keyword (k : ConstraintKind) : ∀ c ∈ k.keyword, isBare c = true :=
  List.all_eq_true.1 (by cases k <;> decide)

theorem ConstraintKind.keyword_ne_nil (k : ConstraintKind) : k.keyword ≠ [] := by
  cases k <;> decide

namespace Expression

variable {type : DataType} {c : Constraint} {values : List Literal} {parts : List Text}
  {operand t : Text}

theorem readChoices_of_isWritten (htype : ∀ value ∈ values, value.HasType type)
    (h : List.Forall₂ Literal.IsWritten values parts) (keyword : Text) :
    readChoices type keyword parts = .ok values := by
  induction h with
  | nil => rfl
  | @cons value part values parts hpart _ ih =>
    obtain ⟨hvalue, hvalues⟩ := List.forall_mem_cons.1 htype
    have hnonempty : part.isEmpty = false := by simpa using hpart.isSolid.ne_nil
    rw [readChoices, hpart.isSolid.trim, hnonempty, readLiteral_of_isWritten hvalue hpart,
      ih hvalues]
    rfl

theorem readConstraint_of_isOperand {k : ConstraintKind}
    (hk : ConstraintKind.resolve? type k = some c.kind) (htakes : c.kind.Takes type c.operand)
    (h : c.IsOperand operand) : readConstraint type k.keyword operand = .ok c := by
  rw [readConstraint, ConstraintKind.ofKeyword?_keyword]
  dsimp only
  rw [hk]
  cases h with
  | @choices values parts each =>
    obtain ⟨hne, htype⟩ := Constraint.takes_choices htakes
    have hsplit := Quotes.split_join (d := ',') rfl (ne_nil_of_forall₂ each hne) fun t ht =>
      (Literal.isSolid_and_hides_of_mem each t ht).imp_right fun h => h.mono (by decide)
    refine Fault.bind_eq_ok_iff.2 ⟨parts, hsplit, ?_⟩
    refine Fault.bind_eq_ok_iff.2 ⟨values, readChoices_of_isWritten htype each k.keyword, ?_⟩
    rw [if_neg (by simpa using hne)]
    rfl
  | bound b n => cases b <;> exact Fault.bind_eq_ok_iff.2 ⟨_, readNumber_ofInt n _ false, rfl⟩
  | pattern enclosed => exact congrArg (Except.ok ∘ Constraint.pattern) enclosed.unquote
  | fixed literal =>
    have htype := Constraint.takes_fixed htakes
    exact Fault.bind_eq_ok_iff.2 ⟨_, readLiteral_of_isWritten htype literal k.keyword, rfl⟩
  | minLength n | maxLength n =>
    exact Fault.bind_eq_ok_iff.2 ⟨n, readWhole_ofInt n k.keyword, rfl⟩

/-- Where a list of constraints is cut: at a comma with a keyword and a colon behind it. -/
def endsEntry (c : Char) (rest : Text) : Bool := c == ',' && Quotes.startsEntry keywords rest

/-- Whether a text is cut neither from what comes before it in a list of constraints nor within, but
from what comes before it with a comma. -/
structure IsEntry (t : Text) : Prop where
  isSolid : t.IsSolid
  hides : Hides ['|', '(', ')'] t
  kept : ∀ rest, IsKept endsEntry t rest
  starts : ∀ rest, endsEntry ',' (' ' :: (t ++ rest)) = true

/-- No entry starts with a character that is neither a blank nor a letter. -/
theorem endsEntry_of_head {d : Char} (hblank : isBlank d = false)
    (hletter : isAsciiLetter d = false) (e : Char) (rest : Text) :
    endsEntry e (d :: rest) = false := by
  have hheads : ∀ k ∈ keywords, k.head?.any isAsciiLetter = true := by decide
  have hleft : Text.trimLeft (d :: rest) = d :: rest := by
    rw [Text.trimLeft, List.dropWhile_cons_of_neg (by simp [hblank])]
  rw [endsEntry, Bool.and_eq_false_iff, Quotes.startsEntry, List.any_eq_false, hleft]
  refine .inr fun k hk => ?_
  obtain ⟨l, hhead, hl⟩ := (Option.any_eq_true _ _).1 (hheads k hk)
  have hne : l ≠ d := by
    rintro rfl
    exact absurd hletter (by simp [hl])
  rw [List.eq_cons_of_mem_head? hhead]
  simp [hne]

/-- What is written for a choice starts no entry, so that a list of choices stays whole. -/
theorem endsEntry_of_isWritten {value : Literal} {part : Text} (h : value.IsWritten part)
    (e : Char) (rest : Text) : endsEntry e (part ++ rest) = false := by
  cases h with
  | text h =>
    obtain ⟨quote, hquote, -, rfl⟩ := h
    rcases Quotes.isQuote_iff.1 hquote with rfl | rfl
    · exact endsEntry_of_head (by decide) (by decide) e _
    · exact endsEntry_of_head (by decide) (by decide) e _
  | whole n =>
    obtain ⟨d, more, hn⟩ := List.exists_cons_of_ne_nil (Text.ofNat_ne_nil n.natAbs)
    have hdigit : isAsciiDigit d = true :=
      Text.isAsciiDigit_of_mem_ofNat (n := n.natAbs) (by simp [hn])
    rw [Text.ofInt_eq, hn]
    split
    · exact endsEntry_of_head (by decide) (by decide) e _
    · exact endsEntry_of_head (isBlank_of_isBare (isBare_of_isAsciiDigit hdigit))
        (isAsciiLetter_of_isAsciiDigit hdigit) e _
  | boolean b =>
    rw [endsEntry, Bool.and_eq_false_iff]
    cases b <;> exact .inr rfl

theorem exists_parts_of_isOperand (htakes : c.kind.Takes type c.operand) (h : c.IsOperand operand) :
    ∃ values parts, values ≠ [] ∧ List.Forall₂ Literal.IsWritten values parts ∧
      operand = Text.join [','] parts := by
  have hone : ∀ {value : Literal} {written : Text}, value.IsWritten written →
      List.Forall₂ Literal.IsWritten [value] [written] := fun h => .cons h .nil
  cases h with
  | choices each => exact ⟨_, _, (Constraint.takes_choices htakes).1, each, rfl⟩
  | pattern enclosed => exact ⟨_, _, List.cons_ne_nil _ _, hone (.text enclosed), rfl⟩
  | fixed literal => exact ⟨_, _, List.cons_ne_nil _ _, hone literal, rfl⟩
  | bound _ n | minLength n | maxLength n =>
    exact ⟨_, _, List.cons_ne_nil _ _, hone (.whole n), rfl⟩

theorem isSolid_of_isOperand (htakes : c.kind.Takes type c.operand) (h : c.IsOperand operand) :
    operand.IsSolid := by
  obtain ⟨values, parts, hne, hparts, rfl⟩ := exists_parts_of_isOperand htakes h
  exact Text.isSolid_join _ (ne_nil_of_forall₂ hparts hne) fun part hpart =>
    (Literal.isSolid_and_hides_of_mem hparts part hpart).1

theorem kept_of_hides (h : Hides [','] t) (rest : Text) : IsKept endsEntry t rest := by
  refine .of_hides h fun d r hd => ?_
  rw [endsEntry, Bool.and_eq_false_iff]
  exact .inl (by simpa using hd)

/-- By induction on the literals, since every comma between two of them is kept by what follows. -/
theorem kept_join (h : List.Forall₂ Literal.IsWritten values parts) (rest : Text) :
    IsKept endsEntry (Text.join [','] parts) rest := by
  induction h with
  | nil => rfl
  | @cons value part values parts hpart hparts ih =>
    have hfirst : ∀ rest, IsKept endsEntry part rest :=
      kept_of_hides (hpart.hides.mono (by decide))
    cases hparts with
    | nil => exact hfirst rest
    | cons hnext _ =>
      rw [Text.join_cons_cons, List.append_assoc]
      refine (hfirst _).append (.append (.char rfl ?_) ih)
      rw [Text.join_cons, List.append_assoc]
      exact endsEntry_of_isWritten hnext ',' _

theorem isEntry_of_isWritten (htakes : c.kind.Takes type c.operand) (h : c.IsWritten type t) :
    IsEntry t := by
  obtain ⟨k, operand, -, hoperand, rfl⟩ := h
  have hkeyword : Hides delimiters k.keyword := Quotes.hides_of_isBare k.isBare_keyword
  have hsolid := isSolid_of_isOperand htakes hoperand
  obtain ⟨values, parts, -, hparts, rfl⟩ := exists_parts_of_isOperand htakes hoperand
  constructor
  case isSolid =>
    have hsolidKeyword := Text.isSolid_of_isBare k.keyword_ne_nil k.isBare_keyword
    exact hsolidKeyword.append [':'] hsolid
  case hides =>
    have hjoined : Hides ['|', '(', ')'] (Text.join [','] parts) :=
      .join (.char rfl (by decide)) fun part hpart =>
        (Literal.isSolid_and_hides_of_mem hparts part hpart).2.mono (by decide)
    exact (hkeyword.mono (by decide)).append (.cons rfl (by decide) hjoined)
  case kept =>
    intro rest
    have hcolon : ∀ rest, IsKept endsEntry [':'] rest := kept_of_hides (.char rfl (by decide))
    exact (kept_of_hides (hkeyword.mono (by decide)) _).append
      ((hcolon _).append (kept_join hparts rest))
  case starts =>
    intro rest
    cases k <;> rfl

theorem isEntry_of_mem {constraints : List Constraint} {entries : List Text}
    (htakes : ∀ c ∈ constraints, c.kind.Takes type c.operand)
    (h : List.Forall₂ (Constraint.IsWritten type) constraints entries) :
    ∀ t ∈ entries, IsEntry t := by
  intro t ht
  obtain ⟨c, hc, hwritten⟩ := exists_of_mem_forall₂ h ht
  exact isEntry_of_isWritten (htakes c hc) hwritten

theorem hides_join_entries {entries : List Text} (h : ∀ t ∈ entries, IsEntry t) :
    Hides ['|', '(', ')'] (Text.join [',', ' '] entries) :=
  .join (.cons rfl (by decide) (.char rfl (by decide))) fun t ht => (h t ht).hides

theorem pieces_entries {first : Text} {others : List Text}
    (hfirst : ∀ rest, IsKept endsEntry first rest) (h : ∀ t ∈ others, IsEntry t) :
    Quotes.pieces endsEntry none (first ++ others.flatMap ([',', ' '] ++ ·)) =
      first :: others.map (' ' :: ·) := by
  induction others generalizing first with
  | nil =>
    rw [List.flatMap_nil, List.append_nil]
    exact (hfirst []).pieces_eq
  | cons t others ih =>
    obtain ⟨ht, hothers⟩ := List.forall_mem_cons.1 h
    have hblank : ∀ rest, IsKept endsEntry (' ' :: t) rest := fun rest =>
      (kept_of_hides (.char rfl (by decide)) _).append (ht.kept rest)
    rw [List.flatMap_cons, List.append_assoc]
    refine ((hfirst _).pieces_cons rfl (ht.starts _)).trans ?_
    exact congrArg (first :: ·) (ih hblank hothers)

/-- Entries with a comma and a blank between them are cut into those entries. -/
theorem splitEntries_join {entries : List Text} (h : ∀ t ∈ entries, IsEntry t) :
    Quotes.splitEntries keywords (Text.join [',', ' '] entries) = .ok entries := by
  cases entries with
  | nil => rfl
  | cons first others =>
    obtain ⟨hfirst, hothers⟩ := List.forall_mem_cons.1 h
    have htrim : (first :: others.map (' ' :: ·)).map Text.trim = first :: others := by
      rw [List.map_cons, hfirst.isSolid.trim, List.map_map]
      refine congrArg (first :: ·) ?_
      calc others.map (Text.trim ∘ (' ' :: ·))
          = others.map id := List.map_congr_left fun t ht =>
            (Text.trim_cons_blank (by decide) t).trans (hothers t ht).isSolid.trim
        _ = others := List.map_id others
    have hnonempty : (first :: others).filter (! ·.isEmpty) = first :: others := by
      refine List.filter_eq_self.2 fun t ht => ?_
      simpa using (h t ht).isSolid.ne_nil
    rw [Quotes.splitEntries, (hides_join_entries h).closed, Text.join_cons]
    change Except.ok ((Quotes.pieces endsEntry none _).map Text.trim |>.filter _) = _
    rw [pieces_entries hfirst.kept hothers, htrim, hnonempty]

theorem readEntries_of_isWritten {constraints : List Constraint} {entries : List Text}
    (htakes : ∀ c ∈ constraints, c.kind.Takes type c.operand)
    (h : List.Forall₂ (Constraint.IsWritten type) constraints entries) :
    readEntries type entries = .ok constraints := by
  induction h with
  | nil => rfl
  | @cons c entry constraints entries hentry _ ih =>
    obtain ⟨hc, hconstraints⟩ := List.forall_mem_cons.1 htakes
    obtain ⟨k, operand, hk, hoperand, rfl⟩ := hentry
    have hcolon : ':' ∉ k.keyword := fun hm => absurd (k.isBare_keyword _ hm) (by decide)
    have hkeyword := (Text.isSolid_of_isBare k.keyword_ne_nil k.isBare_keyword).trim
    have hread := readConstraint_of_isOperand hk hc hoperand
    rw [readEntries, Text.cut_append_self hcolon]
    dsimp only
    rw [hkeyword, (isSolid_of_isOperand hc hoperand).trim, hread, ih hconstraints]
    rfl

theorem readConstraints_join {constraints : List Constraint} {entries : List Text}
    (htakes : ∀ c ∈ constraints, c.kind.Takes type c.operand)
    (h : List.Forall₂ (Constraint.IsWritten type) constraints entries) :
    readConstraints type (Text.join [',', ' '] entries) = .ok constraints := by
  have hentries := isEntry_of_mem htakes h
  have hread := readEntries_of_isWritten htakes h
  cases h with
  | nil => rfl
  | cons _ _ =>
    have hsolid := Text.isSolid_join [',', ' '] (List.cons_ne_nil _ _) fun t ht =>
      (hentries t ht).isSolid
    rw [readConstraints, if_neg (by simpa using hsolid.ne_nil)]
    exact Fault.bind_eq_ok_iff.2 ⟨_, splitEntries_join hentries, hread⟩

end Expression
end TypedTemplate
