import TypedTemplate.Proofs.ParsedTemplates

/-!
# Faults of parsing

What can be wrong with markup that the tokenizer takes. A text and an expression are refused for
their grammar alone. So are the directives of an element, but for one slip: a row count may be
written with digits that are no decimal digits, which are taken for digits first and then form no
number. As directives are read from the innermost elements outwards, a template meets the slip
exactly when the first of its elements in that order that cannot be read has such a row count.
-/
namespace TypedTemplate

namespace Fault

def IsGrammar (e : Fault) : Prop := ∃ fault expression, e = .grammar fault expression

/-- Whether a step fails only with some faults. -/
def FailsOnly {α : Type} (allowed : Fault → Prop) (x : Except Fault α) : Prop :=
  ∀ e, x = .error e → allowed e

namespace FailsOnly

variable {α β : Type} {allowed : Fault → Prop} {x y : Except Fault α}

theorem ok (a : α) : FailsOnly allowed (.ok a : Except Fault α) := nofun

theorem error {e : Fault} (h : allowed e) : FailsOnly allowed (.error e : Except Fault α) := by
  intro e' he
  rwa [← Except.error.inj he]

theorem bind {next : α → Except Fault β} (hx : FailsOnly allowed x)
    (hnext : ∀ a, FailsOnly allowed (next a)) : FailsOnly allowed (x >>= next) := by
  intro e he
  rcases Fault.bind_eq_error_iff.1 he with he | ⟨a, -, he⟩
  · exact hx e he
  · exact hnext a e he

theorem map {f : α → β} (hx : FailsOnly allowed x) : FailsOnly allowed (f <$> x) :=
  fun e he => hx e (Fault.map_eq_error_iff.1 he)

theorem ite {c : Prop} [Decidable c] (hx : FailsOnly allowed x) (hy : FailsOnly allowed y) :
    FailsOnly allowed (if c then x else y) := by
  split
  · exact hx
  · exact hy

theorem of_eq {slip : Fault} (h : ∀ e, x = .error e → e = slip) (hs : allowed slip) :
    FailsOnly allowed x := by
  intro e he
  rwa [h e he]

theorem grammar (fault : GrammarFault) (expression : Option Text) :
    FailsOnly IsGrammar (.error (.grammar fault expression) : Except Fault α) :=
  error ⟨fault, expression, rfl⟩

end FailsOnly
end Fault

open Fault (FailsOnly IsGrammar)

namespace Quotes

theorem failsOnly_checkClosed (whole : Text) (q : Option Char) :
    FailsOnly IsGrammar (checkClosed whole q) := by
  cases q with
  | none => exact .ok ()
  | some k => exact .grammar _ _

theorem failsOnly_findFrom (whole : Text) (target : Char) (q : Option Char) (i : Nat) (t : Text) :
    FailsOnly IsGrammar (findFrom whole target q i t) := by
  induction t generalizing q i with
  | nil => exact .bind (failsOnly_checkClosed whole q) fun _ => .ok none
  | cons c rest ih => exact .ite (.ok _) (ih _ _)

theorem failsOnly_findCloseFrom (whole : Text) (q : Option Char) (depth : Int) (i : Nat)
    (t : Text) : FailsOnly IsGrammar (findCloseFrom whole q depth i t) := by
  induction t generalizing q depth i with
  | nil => exact .bind (failsOnly_checkClosed whole q) fun _ => .ok none
  | cons c rest ih => exact .ite (.ok _) (ih _ _ _)

theorem failsOnly_split (isDelimiter : Char → Bool) (t : Text) :
    FailsOnly IsGrammar (split isDelimiter t) := by
  unfold split
  split
  · exact .ok []
  · exact .bind (failsOnly_checkClosed _ _) fun _ => .ok _

theorem failsOnly_splitEntries (keywords : List Text) (t : Text) :
    FailsOnly IsGrammar (splitEntries keywords t) :=
  .bind (failsOnly_checkClosed _ _) fun _ => .ok _

end Quotes

namespace Expression

theorem failsOnly_splitConstraints (main : Text) :
    FailsOnly IsGrammar (splitConstraints main) := by
  refine .bind (Quotes.failsOnly_findFrom _ _ _ _ _) fun opening => ?_
  cases opening with
  | none =>
    refine .bind (Quotes.failsOnly_findFrom _ _ _ _ _) fun closing => ?_
    cases closing with
    | none => exact .ok _
    | some _ => exact .grammar _ _
  | some first =>
    refine .bind (Quotes.failsOnly_findCloseFrom _ _ _ _ _) fun closing => ?_
    cases closing with
    | none => exact .grammar _ _
    | some last => exact .ite (.ok _) (.grammar _ _)

theorem failsOnly_readDeclaration (t : Text) : FailsOnly IsGrammar (readDeclaration t) := by
  unfold readDeclaration
  split
  · exact .grammar _ _
  · dsimp only
    split
    · exact .grammar _ _
    · split
      · exact .ok _
      · exact .grammar _ _

theorem failsOnly_readNumber (raw keyword : Text) (wholeOnly : Bool) :
    FailsOnly IsGrammar (readNumber raw keyword wholeOnly) := by
  unfold readNumber
  dsimp only
  split
  · exact .grammar _ _
  · refine .ite (.ok _) (.ite ?_ (.ok _))
    split
    · exact .ok _
    · exact .grammar _ _

theorem failsOnly_readWhole (raw keyword : Text) : FailsOnly IsGrammar (readWhole raw keyword) := by
  refine .bind (failsOnly_readNumber raw keyword true) fun n => ?_
  cases n <;> exact .ok _

theorem failsOnly_readLiteral (raw : Text) (type : DataType) (keyword : Text) :
    FailsOnly IsGrammar (readLiteral raw type keyword) := by
  cases type with
  | integer | number => exact .map (failsOnly_readNumber _ _ _)
  | boolean => exact .ite (.ok _) (.ite (.ok _) (.grammar _ _))
  | string | date | time | datetime => exact .ok _

theorem failsOnly_readChoices (type : DataType) (keyword : Text) (parts : List Text) :
    FailsOnly IsGrammar (readChoices type keyword parts) := by
  induction parts with
  | nil => exact .ok _
  | cons part rest ih =>
    exact .ite ih (.bind (failsOnly_readLiteral _ _ _) fun _ => .bind ih fun _ => .ok _)

theorem failsOnly_readConstraint (type : DataType) (keyword raw : Text) :
    FailsOnly IsGrammar (readConstraint type keyword raw) := by
  have hwhole : ∀ c : Int → Constraint,
      FailsOnly IsGrammar (readWhole raw keyword >>= fun n => pure (c n)) :=
    fun _ => .bind (failsOnly_readWhole raw keyword) fun _ => .ok _
  have hnumber : ∀ b : Bound,
      FailsOnly IsGrammar (readNumber raw keyword false >>= fun n => pure (Constraint.bound b n)) :=
    fun _ => .bind (failsOnly_readNumber raw keyword false) fun _ => .ok _
  unfold readConstraint
  split
  · exact .grammar _ _
  split
  case h_1 => exact .grammar _ _
  case h_2 =>
    refine .bind (Quotes.failsOnly_split _ _) fun parts =>
      .bind (failsOnly_readChoices _ _ _) fun values => ?_
    split
    · exact .grammar _ _
    · exact .ok _
  case h_3 => exact .bind (failsOnly_readLiteral _ _ _) fun _ => .ok _
  case h_4 => exact .ok _
  case h_5 | h_6 => exact hwhole _
  all_goals exact hnumber _

theorem failsOnly_readEntries (type : DataType) (entries : List Text) :
    FailsOnly IsGrammar (readEntries type entries) := by
  induction entries with
  | nil => exact .ok _
  | cons entry rest ih =>
    unfold readEntries
    split
    · exact .grammar _ _
    · exact .bind (failsOnly_readConstraint _ _ _) fun _ => .bind ih fun _ => .ok _

theorem failsOnly_readConstraints (type : DataType) (body : Text) :
    FailsOnly IsGrammar (readConstraints type body) := by
  unfold readConstraints
  split
  · exact .ok _
  · exact .bind (Quotes.failsOnly_splitEntries _ _) fun _ => failsOnly_readEntries _ _

theorem failsOnly_readFilter (type : DataType) (t : Text) :
    FailsOnly IsGrammar (readFilter type t) := by
  have hargs : FailsOnly IsGrammar (readArguments (Text.cut ':' t).2) :=
    .bind (Quotes.failsOnly_split _ _) fun _ => .ok _
  refine .bind hargs fun args => ?_
  dsimp only
  split
  · exact .grammar _ _
  · split
    · exact .grammar _ _
    · split
      · exact .ok _
      · exact .grammar _ _

theorem failsOnly_readFilters (type : DataType) (texts : List Text) :
    FailsOnly IsGrammar (readFilters type texts) := by
  induction texts with
  | nil => exact .ok _
  | cons t rest ih => exact .bind (failsOnly_readFilter _ _) fun _ => .bind ih fun _ => .ok _

theorem failsOnly_read (raw : Text) : FailsOnly IsGrammar (read raw) := by
  have hbody : FailsOnly IsGrammar (readBody raw.trim) :=
    .bind (Quotes.failsOnly_split _ _) fun _ =>
      .bind (failsOnly_splitConstraints _) fun _ =>
        .bind (failsOnly_readDeclaration _) fun _ =>
          .bind (failsOnly_readConstraints _ _) fun _ =>
            .bind (failsOnly_readFilters _ _) fun _ => .ok _
  intro e he
  unfold read at he
  cases hb : readBody raw.trim with
  | ok i =>
    rw [hb] at he
    cases he
  | error e' =>
    rw [hb] at he
    obtain ⟨fault, expression, rfl⟩ := hbody e' hb
    rw [← Except.error.inj he]
    cases expression <;> exact ⟨_, _, rfl⟩

end Expression

theorem Segment.failsOnly_readFrom (fuel : Nat) (t : Text) :
    FailsOnly IsGrammar (readFrom fuel t) := by
  induction fuel generalizing t with
  | zero => exact .ok _
  | succ fuel ih =>
    unfold readFrom
    split
    · exact .ok _
    · exact .bind (Expression.failsOnly_read _) fun _ => .bind (ih _) fun _ => .ok _

theorem Segment.failsOnly_readAll (t : Text) : FailsOnly IsGrammar (readAll t) :=
  failsOnly_readFrom _ t

namespace Fault

/-- Whether a step fails with a given fault under a condition, and otherwise only for the
grammar. -/
def Slips {α : Type} (slip : Fault) (p : Prop) (x : Except Fault α) : Prop :=
  (p ∧ x = .error slip) ∨ (¬p ∧ FailsOnly IsGrammar x)

namespace Slips

variable {α β : Type} {slip : Fault} {p q : Prop} {x : Except Fault α}

theorem of_failsOnly (h : FailsOnly IsGrammar x) : Slips slip False x := .inr ⟨not_false, h⟩

theorem congr (h : Slips slip p x) (hpq : p ↔ q) : Slips slip q x := by rwa [← propext hpq]

theorem bind {next : α → Except Fault β} {q : α → Prop} (hx : Slips slip p x)
    (hnext : ∀ a, Slips slip (q a) (next a)) :
    Slips slip (p ∨ ∃ a, x = .ok a ∧ q a) (x >>= next) := by
  rcases hx with ⟨hp, rfl⟩ | ⟨hp, hx⟩
  · exact .inl ⟨.inl hp, rfl⟩
  · cases x with
    | error e =>
      refine .inr ⟨?_, .error (hx e rfl)⟩
      rintro (h | ⟨a, ⟨⟩, -⟩)
      exact hp h
    | ok a =>
      refine (hnext a).congr ⟨fun h => .inr ⟨a, rfl, h⟩, ?_⟩
      rintro (h | ⟨_, ⟨⟩, h⟩)
      · exact absurd h hp
      · exact h

theorem failsOnly_or (h : Slips slip p x) (e : Fault) (he : x = .error e) :
    e.IsGrammar ∨ e = slip := by
  rcases h with ⟨-, rfl⟩ | ⟨-, hx⟩
  · exact .inr (Except.error.inj he).symm
  · exact .inl (hx e he)

theorem eq_error_iff (h : Slips slip p x) (hslip : ¬slip.IsGrammar) :
    x = .error slip ↔ p := by
  rcases h with ⟨hp, hx⟩ | ⟨hp, hx⟩
  · exact iff_of_true hx hp
  · exact iff_of_false (fun he => hslip (hx slip he)) hp

end Slips
end Fault

open Fault (Slips)

namespace Directive

variable {attributes : Attributes} {kind : IterationKind} {name : Text}

/-- Whether an attribute gives a row count in digits of which not all are decimal digits. -/
def HasUnreadableCount (attributes : Attributes) (name : Text) : Prop :=
  ∃ raw, Keyed.get? name attributes = some raw ∧ raw.trim ≠ [] ∧
    (∀ c ∈ raw.trim, isAnyDigit c = true) ∧ ∃ c ∈ raw.trim, isDecimal c = false

/-- Whether an iteration of some kind is stated that can be read but for a row count. -/
def HasUnreadableRowsOf (attributes : Attributes) (kind : IterationKind) : Prop :=
  ∃ expression, Keyed.get? kind.attributeName attributes = some expression ∧ expression ≠ [] ∧
    (∃ named, readIteration expression kind.defaultItemName = .ok named) ∧
    (HasUnreadableCount attributes "data-fixed-rows" ∨
      (∃ rows, readRowCount attributes "data-fixed-rows" = .ok rows) ∧
        HasUnreadableCount attributes "data-max-rows")

/-- Whether a row count is unreadable in the iteration of an element, which is that of the pages
where it states one, else that of the rows. -/
def HasUnreadableRows (attributes : Attributes) : Prop :=
  HasUnreadableRowsOf attributes .page ∨
    (Keyed.get? "data-page" attributes).getD [] = [] ∧ HasUnreadableRowsOf attributes .row

theorem failsOnly_readIteration (expression default : Text) :
    FailsOnly IsGrammar (readIteration expression default) := by
  unfold readIteration
  dsimp only
  split
  · exact .grammar _ _
  · split
    · exact .ok _
    · split
      · exact .grammar _ _
      · exact .ite (.ok _) (.grammar _ _)

theorem failsOnly_readCondition (attributes : Attributes) :
    FailsOnly IsGrammar (readCondition attributes) := by
  unfold readCondition
  dsimp only
  split
  · exact .ok _
  · exact .bind (.ite (.grammar _ _) (.ite (.grammar _ _) (.ite (.grammar _ _) (.ok _))))
      fun _ => .ok _

theorem slips_readRowCount (attributes : Attributes) (name : Text) :
    Slips .rowCountUnreadable (HasUnreadableCount attributes name)
      (readRowCount attributes name) := by
  unfold readRowCount HasUnreadableCount
  cases hraw : Keyed.get? name attributes with
  | none => exact .inr ⟨by simp, .ok none⟩
  | some raw =>
    dsimp only
    split
    · rename_i hdigits
      refine .inr ⟨?_, .grammar _ _⟩
      rintro ⟨_, ⟨⟩, hne, hall, -⟩
      simp only [Bool.or_eq_true, List.isEmpty_iff, Bool.not_eq_true', List.all_eq_false] at hdigits
      obtain hempty | ⟨c, hc, hno⟩ := hdigits
      · exact hne hempty
      · exact hno (hall c hc)
    · rename_i hdigits
      simp only [Bool.or_eq_true, List.isEmpty_iff, Bool.not_eq_true', List.all_eq_false, not_or,
        not_exists, not_and, Classical.not_not] at hdigits
      split
      · rename_i hdecimal
        exact .inl ⟨⟨raw, rfl, hdigits.1, hdigits.2, by simpa using hdecimal⟩, rfl⟩
      · rename_i hdecimal
        refine .inr ⟨?_, ?_⟩
        · rintro ⟨_, ⟨⟩, -, -, hloose⟩
          exact hdecimal (by simpa using hloose)
        · split
          · exact .grammar _ _
          · exact .ok _

theorem slips_readKind (attributes : Attributes) (kind : IterationKind) :
    Slips .rowCountUnreadable (HasUnreadableRowsOf attributes kind)
      (readKind attributes kind) := by
  unfold readKind HasUnreadableRowsOf
  cases hexpression : Keyed.get? kind.attributeName attributes with
  | none => exact .inr ⟨by simp, .ok none⟩
  | some expression =>
    cases expression with
    | nil => exact .inr ⟨by simp, .ok none⟩
    | cons c rest =>
      refine Slips.congr (.bind (.of_failsOnly (failsOnly_readIteration _ _)) fun named =>
        .bind (slips_readRowCount attributes "data-fixed-rows") fun fixedRows =>
          .bind (slips_readRowCount attributes "data-max-rows") fun maxRows =>
            .of_failsOnly (.ok _)) ?_
      simp

theorem slips_readRows {α : Type} (attributes : Attributes)
    {rest : Option Iteration → Except Fault α}
    (hrest : ∀ iteration, Slips .rowCountUnreadable False (rest iteration))
    (pages : Option Iteration) :
    Slips .rowCountUnreadable (pages = none ∧ HasUnreadableRowsOf attributes .row)
      (match pages with
        | some i => pure (some i) >>= rest
        | none => readKind attributes .row >>= rest) := by
  cases pages with
  | none => exact Slips.congr (.bind (slips_readKind attributes .row) hrest) (by simp)
  | some i => exact (hrest (some i)).congr (by simp)

theorem slips_readAll (attributes : Attributes) :
    Slips .rowCountUnreadable (HasUnreadableRows attributes) (readAll attributes) := by
  have hrest : ∀ iteration : Option Iteration, Slips .rowCountUnreadable False
      (readCondition attributes >>= fun condition => pure (iteration, condition)) :=
    fun _ => .of_failsOnly (.bind (failsOnly_readCondition attributes) fun _ => .ok _)
  have hpages : readKind attributes .page = .ok none ↔
      (Keyed.get? "data-page" attributes).getD [] = [] := readKind_eq_none_iff attributes .page
  refine Slips.congr (.bind (slips_readKind attributes .page) (slips_readRows attributes hrest)) ?_
  rw [HasUnreadableRows, ← hpages]
  refine or_congr_right ⟨?_, ?_⟩
  · rintro ⟨_, hnone, rfl, hrow⟩
    exact ⟨hnone, hrow⟩
  · rintro ⟨hnone, hrow⟩
    exact ⟨none, hnone, rfl, hrow⟩

/-- Whether the first of some elements whose directives cannot be read has an unreadable row
count. -/
inductive MeetUnreadableRows : List Attributes → Prop
  | here {attributes : Attributes} {rest : List Attributes} :
    HasUnreadableRows attributes → MeetUnreadableRows (attributes :: rest)
  | later {attributes : Attributes} {rest : List Attributes} :
    (∃ stated, readAll attributes = .ok stated) → MeetUnreadableRows rest →
    MeetUnreadableRows (attributes :: rest)

theorem meetUnreadableRows_cons_iff {rest : List Attributes} :
    MeetUnreadableRows (attributes :: rest) ↔ HasUnreadableRows attributes ∨
      (∃ stated, readAll attributes = .ok stated) ∧ MeetUnreadableRows rest := by
  constructor
  · intro h
    cases h with
    | here h => exact .inl h
    | later hread h => exact .inr ⟨hread, h⟩
  · rintro (h | ⟨hread, h⟩)
    · exact .here h
    · exact .later hread h

theorem meetUnreadableRows_append_iff {first second : List Attributes} :
    MeetUnreadableRows (first ++ second) ↔ MeetUnreadableRows first ∨
      (∀ attributes ∈ first, ∃ stated, readAll attributes = .ok stated) ∧
        MeetUnreadableRows second := by
  induction first with
  | nil =>
    have hnone : ¬MeetUnreadableRows [] := nofun
    simp [hnone]
  | cons attributes rest ih =>
    rw [List.cons_append, meetUnreadableRows_cons_iff, ih, meetUnreadableRows_cons_iff,
      List.forall_mem_cons]
    grind

end Directive

theorem Head.slips_ofAttributes (tag : Text) (attributes : Attributes) :
    Slips .elementUnreadable (Directive.HasUnreadableRows attributes)
      (ofAttributes tag attributes) := by
  unfold ofAttributes
  rcases Directive.slips_readAll attributes with ⟨hp, he⟩ | ⟨hp, hx⟩
  · rw [he]
    exact .inl ⟨hp, rfl⟩
  · refine .inr ⟨hp, ?_⟩
    cases hread : Directive.readAll attributes with
    | ok stated => exact .ok _
    | error e =>
      obtain ⟨fault, expression, rfl⟩ := hx e hread
      exact .grammar _ _

theorem Head.exists_ofAttributes_iff (tag : Text) (attributes : Attributes) :
    (∃ head, ofAttributes tag attributes = .ok head) ↔
      ∃ stated, Directive.readAll attributes = .ok stated := by
  constructor
  · rintro ⟨head, h⟩
    unfold ofAttributes at h
    split at h
    · rename_i hread
      exact ⟨_, hread⟩
    · cases h
    · cases h
  · rintro ⟨⟨iteration, condition⟩, hread⟩
    exact ⟨⟨tag, attributes, iteration, condition⟩, by rw [ofAttributes, hread]⟩

namespace Draft

mutual

/-- The attributes of the elements of a draft, in the order in which their directives are read:
those of the children come first. -/
def elements : Draft → List Attributes
  | .element _ attributes children => elementsOfList children ++ [attributes]
  | .text _ => []

def elementsOfList : List Draft → List Attributes
  | [] => []
  | d :: rest => elements d ++ elementsOfList rest

end

mutual

theorem exists_toNode_iff (d : Draft) : (∃ n, d.toNode = .ok n) ↔
    ∀ attributes ∈ d.elements, ∃ stated, Directive.readAll attributes = .ok stated := by
  cases d with
  | text segments => exact iff_of_true ⟨_, rfl⟩ nofun
  | element tag attributes children =>
    rw [elements, List.forall_mem_append, ← exists_toNodes_iff children, List.forall_mem_singleton,
      ← Head.exists_ofAttributes_iff tag]
    constructor
    · rintro ⟨n, h⟩
      obtain ⟨nodes, hnodes, h⟩ := Fault.bind_eq_ok_iff.1 h
      obtain ⟨head, hhead, -⟩ := Fault.bind_eq_ok_iff.1 h
      exact ⟨⟨nodes, hnodes⟩, head, hhead⟩
    · rintro ⟨⟨nodes, hnodes⟩, head, hhead⟩
      exact ⟨_, Fault.bind_eq_ok_iff.2 ⟨nodes, hnodes, Fault.bind_eq_ok_iff.2 ⟨head, hhead, rfl⟩⟩⟩

theorem exists_toNodes_iff (drafts : List Draft) : (∃ nodes, Draft.toNodes drafts = .ok nodes) ↔
    ∀ attributes ∈ elementsOfList drafts,
      ∃ stated, Directive.readAll attributes = .ok stated := by
  cases drafts with
  | nil => exact iff_of_true ⟨_, rfl⟩ nofun
  | cons d rest =>
    rw [elementsOfList, List.forall_mem_append, ← exists_toNode_iff d, ← exists_toNodes_iff rest]
    constructor
    · rintro ⟨nodes, h⟩
      obtain ⟨first, hfirst, h⟩ := Fault.bind_eq_ok_iff.1 h
      obtain ⟨others, hothers, -⟩ := Fault.bind_eq_ok_iff.1 h
      exact ⟨⟨first, hfirst⟩, others, hothers⟩
    · rintro ⟨⟨first, hfirst⟩, others, hothers⟩
      exact ⟨_, Fault.bind_eq_ok_iff.2
        ⟨first, hfirst, Fault.bind_eq_ok_iff.2 ⟨others, hothers, rfl⟩⟩⟩

end

mutual

theorem slips_toNode (d : Draft) :
    Slips .elementUnreadable (Directive.MeetUnreadableRows d.elements) d.toNode := by
  cases d with
  | text segments => exact .inr ⟨nofun, .ok _⟩
  | element tag attributes children =>
    refine Slips.congr (.bind (slips_toNodes children) fun nodes =>
      .bind (Head.slips_ofAttributes tag attributes) fun head => .of_failsOnly (.ok _)) ?_
    have hnone : ¬Directive.MeetUnreadableRows [] := nofun
    rw [elements, Directive.meetUnreadableRows_append_iff, ← exists_toNodes_iff,
      Directive.meetUnreadableRows_cons_iff]
    simp [hnone]

theorem slips_toNodes (drafts : List Draft) :
    Slips .elementUnreadable (Directive.MeetUnreadableRows (elementsOfList drafts))
      (Draft.toNodes drafts) := by
  cases drafts with
  | nil => exact .inr ⟨nofun, .ok _⟩
  | cons d rest =>
    refine Slips.congr (.bind (slips_toNode d) fun first =>
      .bind (slips_toNodes rest) fun others => .of_failsOnly (.ok _)) ?_
    rw [elementsOfList, Directive.meetUnreadableRows_append_iff, ← exists_toNode_iff]
    simp

end

end Draft

namespace Builder

theorem failsOnly_take (b : Builder) {token : Token} (h : token ≠ .malformed) :
    FailsOnly IsGrammar (b.take token) := by
  cases token with
  | text t => exact .ite (.ok _) (.bind (Segment.failsOnly_readAll t) fun _ => .ok _)
  | start name attributes selfClosing => exact .ok _
  | finish name => exact .ok _
  | malformed => exact absurd rfl h

theorem failsOnly_takeAll (b : Builder) {tokens : List Token} (h : .malformed ∉ tokens) :
    FailsOnly IsGrammar (b.takeAll tokens) := by
  induction tokens generalizing b with
  | nil => exact .ok _
  | cons token rest ih =>
    obtain ⟨htoken, hrest⟩ := not_or.1 (mt List.mem_cons.2 h)
    exact .bind (failsOnly_take b (Ne.symm htoken)) fun b' => ih b' hrest

end Builder

theorem Node.slips_ofMarkup {markup : Text} (h : .malformed ∉ Token.readAll markup) :
    Slips .elementUnreadable
      (∃ b, Builder.empty.takeAll (Token.readAll markup) = .ok b ∧
        Directive.MeetUnreadableRows (Draft.document b.parts).elements)
      (ofMarkup markup) := by
  refine Slips.congr (.bind (.of_failsOnly (Builder.failsOnly_takeAll .empty h)) fun b =>
    Draft.slips_toNode (Draft.document b.parts)) ?_
  simp

/-- Texts and expressions are refused for their grammar alone. The directives of an element are
refused for it too, unless the iteration that counts has a row count in digits that are no decimal
digits. Markup without malformed sections is refused for the grammar of a text or an element,
unless its texts can be read and, from the innermost elements outwards, the first element that
cannot be read has such a row count. -/
theorem parsing_fails_for_grammar_unless_rows_are_unreadable (t raw markup : Text)
    (attributes : Attributes) :
    (∀ e, Segment.readAll t = .error e → e.IsGrammar) ∧
    (∀ e, Expression.read raw = .error e → e.IsGrammar) ∧
    ((∀ e, Directive.readAll attributes = .error e → e.IsGrammar ∨ e = .rowCountUnreadable) ∧
      (Directive.readAll attributes = .error .rowCountUnreadable ↔
        Directive.HasUnreadableRows attributes)) ∧
    (.malformed ∉ Token.readAll markup →
      (∀ e, Node.ofMarkup markup = .error e → e.IsGrammar ∨ e = .elementUnreadable) ∧
      (Node.ofMarkup markup = .error .elementUnreadable ↔
        ∃ b, Builder.empty.takeAll (Token.readAll markup) = .ok b ∧
          Directive.MeetUnreadableRows (Draft.document b.parts).elements)) := by
  have hcount : ¬Fault.rowCountUnreadable.IsGrammar := nofun
  have helement : ¬Fault.elementUnreadable.IsGrammar := nofun
  have hslips := Directive.slips_readAll attributes
  refine ⟨Segment.failsOnly_readAll t, Expression.failsOnly_read raw,
    ⟨hslips.failsOnly_or, hslips.eq_error_iff hcount⟩, fun hm => ?_⟩
  have hmarkup := Node.slips_ofMarkup hm
  exact ⟨hmarkup.failsOnly_or, hmarkup.eq_error_iff helement⟩

def textItem : Text := "<p>\x7b\x7bitem:text\x7d\x7d</p>"

/-- An unknown type is refused for the grammar. -/
theorem parsing_unknown_type_fails_for_grammar : .malformed ∉ Token.readAll textItem ∧
    ∃ e, Node.ofMarkup textItem = .error e ∧ e.IsGrammar := by
  have hm : .malformed ∉ Token.readAll textItem := by decide +kernel
  have hfails : Node.ofMarkup textItem =
      .error (.grammar (.invalidType "text") (some "item:text")) := by decide +kernel
  obtain ⟨-, -, -, hread⟩ :=
    parsing_fails_for_grammar_unless_rows_are_unreadable "item:text" "item:text" textItem []
  have hgrammar := (hread hm).1 _ hfails
  exact ⟨hm, _, hfails, hgrammar.resolve_right nofun⟩

/-- A row count in digits that are no decimal digits is no fault of the grammar. -/
theorem parsing_raised_row_count_does_not_fail_for_grammar :
    .malformed ∉ Token.readAll "<li data-repeat='rows' data-fixed-rows='²'>x</li>" ∧
    Node.ofMarkup "<li data-repeat='rows' data-fixed-rows='²'>x</li>" =
      .error .elementUnreadable := by
  constructor <;> decide +kernel

end TypedTemplate
