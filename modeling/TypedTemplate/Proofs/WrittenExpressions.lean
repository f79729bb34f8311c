import TypedTemplate.Proofs.WrittenConstraints

/-!
# Written expressions

How an expression is written: its path and its type, its constraints in parentheses, and its filters
behind bars, with every text inside of a quote that it does not contain. An expression is cut at
bars, parentheses, commas and colons, each at its own level, and what is enclosed hides all of them.
So the reader takes every legal expression back as it was, whatever its texts contain.
-/
namespace TypedTemplate

open Quotes (Encloses Hides)

namespace Expression

def inParentheses : List Text → Text
  | [] => []
  | entries => [' ', '('] ++ Text.join [',', ' '] entries ++ [')']

theorem parts_at_parentheses (before body rest : Text) :
    (before ++ '(' :: (body ++ ')' :: rest)).take before.length = before ∧
      ((before ++ '(' :: (body ++ ')' :: rest)).take (before.length + 1 + body.length)).drop
        (before.length + 1) = body ∧
      (before ++ '(' :: (body ++ ')' :: rest)).drop (before.length + 1 + body.length + 1) =
        rest := by
  have hinside : before ++ '(' :: (body ++ ')' :: rest) =
      (before ++ ['(']) ++ (body ++ ')' :: rest) := by simp
  have hbehind : before ++ '(' :: (body ++ ')' :: rest) =
      (before ++ '(' :: (body ++ [')'])) ++ rest := by simp
  refine ⟨List.take_left, ?_, ?_⟩
  · rw [hinside, List.drop_take, Nat.add_sub_cancel_left, List.drop_left' (by simp),
      List.take_left]
  · rw [hbehind, List.drop_left' (by simp; omega)]

theorem splitConstraints_inParentheses {declaration : Text} {entries : List Text}
    (hsolid : declaration.IsSolid) (hhides : Hides ['(', ')'] declaration)
    (h : ∀ t ∈ entries, IsEntry t) :
    splitConstraints (declaration ++ inParentheses entries) =
      .ok (declaration, Text.join [',', ' '] entries) := by
  cases entries with
  | nil =>
    rw [inParentheses, List.append_nil]
    refine Fault.bind_eq_ok_iff.2 ⟨none, Quotes.find_eq_none hhides (by decide), ?_⟩
    exact Fault.bind_eq_ok_iff.2 ⟨none, Quotes.find_eq_none hhides (by decide), rfl⟩
  | cons entry entries =>
    have hbody : Hides ['(', ')'] (Text.join [',', ' '] (entry :: entries)) :=
      (hides_join_entries h).mono (by decide)
    have hbefore : Hides ['(', ')'] (declaration ++ [' ']) :=
      hhides.append (.char rfl (by decide))
    have htrim : (Text.join [',', ' '] (entry :: entries)).trim = _ :=
      (Text.isSolid_join _ (List.cons_ne_nil _ _) fun t ht => (h t ht).isSolid).trim
    generalize hjoin : Text.join [',', ' '] (entry :: entries) = body at hbody htrim
    have hwhole : declaration ++ inParentheses (entry :: entries) =
        (declaration ++ [' ']) ++ '(' :: (body ++ [')']) := by
      rw [inParentheses, hjoin] <;> simp
    rw [hwhole]
    refine Fault.bind_eq_ok_iff.2 ⟨_, Quotes.find_append hbefore (by decide) rfl, ?_⟩
    refine Fault.bind_eq_ok_iff.2 ⟨_, Quotes.findClose_append hbody (by decide) (by decide), ?_⟩
    obtain ⟨hfirst, hinside, hrest⟩ := parts_at_parentheses (declaration ++ [' ']) body []
    dsimp only
    rw [hrest, hfirst, hinside, Text.trim_concat_blank (by decide), hsolid.trim, htrim]
    rfl

end Expression

theorem Path.isChain_join {names : List Text} (hne : names ≠ [])
    (h : ∀ name ∈ names, isIdentifier name = true) : isChain (Text.join ['.'] names) = true := by
  induction names with
  | nil => exact absurd rfl hne
  | cons name rest ih =>
    obtain ⟨hname, hrest⟩ := List.forall_mem_cons.1 h
    have hpieces : Text.splitOn '.' name = [name] :=
      Text.splitOn_of_not_mem (not_mem_of_isIdentifier hname (by decide))
    cases rest with
    | nil => simpa [isChain, Text.join, hpieces] using hname
    | cons next rest =>
      have hchain := ih (List.cons_ne_nil _ _) hrest
      rw [isChain] at hchain
      rw [isChain, Text.join_cons_cons, List.append_assoc, List.singleton_append,
        Text.splitOn_append, hpieces, List.singleton_append, List.all_cons, hname, hchain]
      rfl

theorem Path.isValid_of_isChain {path : Text} (h : isChain path = true) : isValid path = true := by
  rw [isValid, ← trim_of_isChain h, Text.dropFinalBreak_trim, trim_of_isChain h]
  exact h

theorem Path.isBare_of_isChain {path : Text} (h : isChain path = true) :
    ∀ c ∈ path, isBare c = true := by
  intro c hc
  rw [isBare, isPathChar_of_mem h hc, Bool.true_or]

theorem DataType.isBare_name (d : DataType) : ∀ c ∈ d.name, isBare c = true :=
  List.all_eq_true.1 (by cases d <;> decide)

theorem DataType.name_ne_nil (d : DataType) : d.name ≠ [] := by
  cases d <;> decide

namespace Interpolation

/-- The path and the type of an expression, and the mark of one that admits null. -/
def declaration (i : Interpolation) : Text :=
  i.path ++ ':' :: (i.type.name ++ if i.nullable then ['?'] else [])

variable {i : Interpolation}

theorem isSolid_declaration (h : Path.isChain i.path = true) : i.declaration.IsSolid := by
  have hpath := Text.isSolid_of_isBare (Path.ne_nil_of_isChain h) (Path.isBare_of_isChain h)
  have hname := Text.isSolid_of_isBare i.type.name_ne_nil i.type.isBare_name
  rw [declaration]
  split
  · have hmark : Text.IsSolid ['?'] := .char (by decide)
    exact hpath.append (':' :: i.type.name) hmark
  · rw [List.append_nil]
    exact hpath.append [':'] hname

theorem hides_declaration (h : Path.isChain i.path = true) :
    Hides ['|', '(', ')'] i.declaration := by
  have hpath : Hides delimiters i.path := Quotes.hides_of_isBare (Path.isBare_of_isChain h)
  have hname : Hides delimiters i.type.name := Quotes.hides_of_isBare i.type.isBare_name
  have hmark : Hides ['|', '(', ')'] (if i.nullable then ['?'] else []) := by
    split
    · exact .char rfl (by decide)
    · exact .nil
  exact (hpath.mono (by decide)).append
    (.cons rfl (by decide) ((hname.mono (by decide)).append hmark))

theorem readDeclaration_declaration (h : Path.isChain i.path = true) :
    Expression.readDeclaration i.declaration = .ok (i.path, i.type, i.nullable) := by
  have hcolon : ':' ∉ i.path := fun hm => absurd (Path.isBare_of_isChain h _ hm) (by decide)
  have hcut := Text.cut_append_self hcolon (i.type.name ++ if i.nullable then ['?'] else [])
  rw [Expression.readDeclaration, declaration, hcut]
  dsimp only
  rw [Path.trim_of_isChain h, Path.isValid_of_isChain h]
  cases i.type <;> cases i.nullable <;> rfl

end Interpolation

/-- How a filter is written: its name, and behind a colon its arguments. Without arguments the colon
may be left out. -/
def FilterCall.IsWritten (c : FilterCall) (written : Text) : Prop :=
  ∃ args, List.Forall₂ Encloses c.args args ∧
    (written = c.name ++ ':' :: Text.join [','] args ∨ args = [] ∧ written = c.name)

theorem FilterCall.exists_isWritten_iff {c : FilterCall} :
    (∃ written, c.IsWritten written) ↔ ∀ t ∈ c.args, t.IsQuotable := by
  simp only [← Encloses.exists_iff, ← exists_forall₂_iff]
  exact ⟨fun ⟨_, args, hargs, _⟩ => ⟨args, hargs⟩, fun ⟨args, hargs⟩ => ⟨_, args, hargs, .inl rfl⟩⟩

theorem FilterKind.isBare_name (f : FilterKind) : ∀ c ∈ f.name, isBare c = true :=
  List.all_eq_true.1 (by cases f <;> decide)

theorem FilterKind.name_ne_nil (f : FilterKind) : f.name ≠ [] := by
  cases f <;> decide

/-- Whether a text is put as a piece between the bars of an expression. -/
structure Expression.IsPiece (t : Text) : Prop where
  isSolid : t.IsSolid
  hides : Hides ['|'] t

namespace FilterCall

variable {type : DataType} {c : FilterCall} {written : Text}

theorem IsLegal.isBare_name (h : c.IsLegal type) : c.name ≠ [] ∧ ∀ d ∈ c.name, isBare d = true := by
  obtain ⟨f, hf, -⟩ := h
  rw [← (FilterKind.forType?_eq_some_iff.1 hf).2]
  exact ⟨f.name_ne_nil, f.isBare_name⟩

theorem IsWritten.isPiece (hlegal : c.IsLegal type) (h : c.IsWritten written) :
    Expression.IsPiece written := by
  obtain ⟨hne, hbare⟩ := hlegal.isBare_name
  have hname := Text.isSolid_of_isBare hne hbare
  have hcolon : Text.IsSolid [':'] := .char (by decide)
  have hhides : Hides ['|'] c.name := (Quotes.hides_of_isBare hbare).mono (by decide)
  obtain ⟨args, hargs, rfl | ⟨-, rfl⟩⟩ := h
  · have hencloses : ∀ arg ∈ args, ∃ t, Encloses t arg := fun arg harg =>
      (exists_of_mem_forall₂ hargs harg).imp fun _ h => h.2
    constructor
    · cases args with
      | nil => exact hname.append [] hcolon
      | cons arg args =>
        exact hname.append [':'] (Text.isSolid_join _ (List.cons_ne_nil _ _) fun arg harg =>
          (hencloses arg harg).elim fun _ h => h.isSolid)
    · refine hhides.append (.cons rfl (by decide) (.join (.char rfl (by decide)) ?_))
      exact fun arg harg => (hencloses arg harg).elim fun _ h => h.hides _
  · exact ⟨hname, hhides⟩

end FilterCall

namespace Expression

variable {type : DataType} {c : FilterCall}

theorem readArguments_join {texts args : List Text} (h : List.Forall₂ Encloses texts args) :
    readArguments (some (Text.join [','] args)) = .ok texts := by
  have hunquote : args.map (fun part => Quotes.unquote part.trim) = texts := by
    induction h with
    | nil => rfl
    | cons harg _ ih => rw [List.map_cons, harg.isSolid.trim, harg.unquote, ih]
  cases args with
  | nil => exact congrArg Except.ok hunquote
  | cons arg args =>
    have hparts : ∀ t ∈ arg :: args, t.IsSolid ∧ Hides [','] t := by
      intro t ht
      obtain ⟨_, -, hencloses⟩ := exists_of_mem_forall₂ h ht
      exact ⟨hencloses.isSolid, hencloses.hides _⟩
    have hsolid := Text.isSolid_join [','] (List.cons_ne_nil arg args) fun t ht => (hparts t ht).1
    rw [readArguments, Option.getD_some, hsolid.trim]
    refine Fault.bind_eq_ok_iff.2 ⟨_, Quotes.split_join rfl (List.cons_ne_nil _ _) hparts, ?_⟩
    exact congrArg Except.ok hunquote

theorem readFilter_of_isWritten (hlegal : c.IsLegal type) {written : Text}
    (h : c.IsWritten written) : readFilter type written = .ok c := by
  obtain ⟨hne, hbare⟩ := hlegal.isBare_name
  have htrim := (Text.isSolid_of_isBare hne hbare).trim
  have hcolon : ':' ∉ c.name := fun hm => absurd (hbare _ hm) (by decide)
  obtain ⟨f, hf, haccepts⟩ := hlegal
  have hread : ∀ raw, readArguments raw = .ok c.args → Text.cut ':' written = (c.name, raw) →
      readFilter type written = .ok c := by
    intro raw hargs hcut
    rw [readFilter, hcut]
    dsimp only
    rw [htrim]
    refine Fault.bind_eq_ok_iff.2 ⟨c.args, hargs, ?_⟩
    rw [FilterKind.ofName?_of_forType? hf, hf]
    exact if_pos haccepts
  obtain ⟨args, hargs, rfl | ⟨rfl, rfl⟩⟩ := h
  · exact hread _ (readArguments_join hargs) (Text.cut_append_self hcolon _)
  · refine hread none ?_ (Text.cut_of_not_mem hcolon)
    rw [List.forall₂_nil_right_iff.1 hargs]
    rfl

theorem isPiece_declaration {i : Interpolation} {entries : List Text}
    (h : Path.isChain i.path = true) (hentries : ∀ t ∈ entries, IsEntry t) :
    IsPiece (i.declaration ++ inParentheses entries) := by
  have hsolid := Interpolation.isSolid_declaration h
  have hhides : Hides ['|'] i.declaration :=
    (Interpolation.hides_declaration h).mono (by decide)
  cases entries with
  | nil =>
    rw [inParentheses, List.append_nil]
    exact ⟨hsolid, hhides⟩
  | cons entry entries =>
    have hclose : Text.IsSolid [')'] := .char (by decide)
    have hbody : Hides ['|'] (Text.join [',', ' '] (entry :: entries)) :=
      (hides_join_entries hentries).mono (by decide)
    have hopen : Hides ['|'] [' ', '('] := .cons rfl (by decide) (.char rfl (by decide))
    exact ⟨hsolid.append _ hclose,
      hhides.append ((hopen.append hbody).append (.char rfl (by decide)))⟩

/-- The blanks around the bars go to the pieces, and are trimmed there. -/
theorem exists_pieces {main : Text} {filters : List Text} (h : ∀ t ∈ main :: filters, IsPiece t) :
    ∃ first others, Text.join [' ', '|', ' '] (main :: filters) =
        first ++ others.flatMap ('|' :: ·) ∧
      first.trim = main ∧ others.map Text.trim = filters ∧
      ∀ t ∈ first :: others, Hides ['|'] t := by
  induction filters generalizing main with
  | nil =>
    obtain ⟨hmain, -⟩ := List.forall_mem_cons.1 h
    exact ⟨main, [], (List.append_nil main).symm, hmain.isSolid.trim, rfl,
      List.forall_mem_singleton.2 hmain.hides⟩
  | cons t filters ih =>
    obtain ⟨hmain, hfilters⟩ := List.forall_mem_cons.1 h
    obtain ⟨first, others, hjoin, hfirst, hothers, hhides⟩ := ih hfilters
    obtain ⟨hhead, htail⟩ := List.forall_mem_cons.1 hhides
    refine ⟨main ++ [' '], (' ' :: first) :: others, ?_, ?_, ?_, ?_⟩
    · rw [Text.join_cons_cons, hjoin]
      simp
    · rw [Text.trim_concat_blank (by decide), hmain.isSolid.trim]
    · rw [List.map_cons, Text.trim_cons_blank (by decide), hfirst, hothers]
    · refine List.forall_mem_cons.2 ⟨hmain.hides.append (.char rfl (by decide)), ?_⟩
      exact List.forall_mem_cons.2 ⟨.cons rfl (by decide) hhead, htail⟩

theorem readFilters_of_isWritten {calls : List FilterCall} {texts : List Text}
    (hlegal : ∀ c ∈ calls, c.IsLegal type)
    (h : List.Forall₂ FilterCall.IsWritten calls (texts.map Text.trim)) :
    readFilters type texts = .ok calls := by
  induction texts generalizing calls with
  | nil =>
    rw [List.forall₂_nil_right_iff.1 h]
    rfl
  | cons t texts ih =>
    cases h with
    | cons hwritten hrest =>
      obtain ⟨hc, hcalls⟩ := List.forall_mem_cons.1 hlegal
      refine Fault.bind_eq_ok_iff.2 ⟨_, readFilter_of_isWritten hc hwritten, ?_⟩
      exact Fault.bind_eq_ok_iff.2 ⟨_, ih hcalls hrest, rfl⟩

end Expression

namespace Interpolation

/-- How an expression is written. -/
def IsWritten (i : Interpolation) (written : Text) : Prop :=
  ∃ entries filters, List.Forall₂ (Constraint.IsWritten i.type) i.constraints entries ∧
    List.Forall₂ FilterCall.IsWritten i.filters filters ∧
    written = Text.join [' ', '|', ' ']
      ((i.declaration ++ Expression.inParentheses entries) :: filters)

/-- Whether an expression can be written: its numbers are whole, and none of its texts contains both
quotes. -/
structure IsQuotable (i : Interpolation) : Prop where
  constraints : ∀ c ∈ i.constraints, c.IsQuotable
  arguments : ∀ c ∈ i.filters, ∀ t ∈ c.args, t.IsQuotable

theorem IsLegal.filterCalls {i : Interpolation} (h : i.IsLegal) :
    ∀ c ∈ i.filters, c.IsLegal i.type := by
  intro c hc
  obtain ⟨f, hf, hname, -, hmin, hmax⟩ := h.filters c hc
  exact ⟨f, FilterKind.forType?_eq_some_iff.2 ⟨hf, hname⟩, FilterKind.accepts_iff.2 ⟨hmin, hmax⟩⟩

theorem IsLegal.isChain {i : Interpolation} (h : i.IsLegal) : Path.isChain i.path = true := by
  obtain ⟨names, hne, hnames, hpath⟩ := h.path
  rw [hpath]
  exact Path.isChain_join hne hnames

theorem exists_isWritten_iff {i : Interpolation} (h : i.IsLegal) :
    (∃ written, i.IsWritten written) ↔ i.IsQuotable := by
  constructor
  · rintro ⟨_, entries, filters, hentries, hfilters, -⟩
    constructor
    · intro c hc
      rw [← Constraint.exists_isWritten_iff (h.constraints c hc).1]
      exact exists_forall₂_iff.1 ⟨entries, hentries⟩ c hc
    · intro c hc
      rw [← FilterCall.exists_isWritten_iff]
      exact exists_forall₂_iff.1 ⟨filters, hfilters⟩ c hc
  · intro hquotable
    obtain ⟨entries, hentries⟩ := exists_forall₂_iff.2 fun c hc =>
      (Constraint.exists_isWritten_iff (h.constraints c hc).1).2 (hquotable.constraints c hc)
    obtain ⟨filters, hfilters⟩ := exists_forall₂_iff.2 fun c hc =>
      FilterCall.exists_isWritten_iff.2 (hquotable.arguments c hc)
    exact ⟨_, entries, filters, hentries, hfilters, rfl⟩

theorem read_of_isWritten {i : Interpolation} {written : Text} (h : i.IsLegal)
    (hw : i.IsWritten written) : Expression.read written = .ok i := by
  obtain ⟨entries, filters, hentries, hfilters, rfl⟩ := hw
  have htakes : ∀ c ∈ i.constraints, c.kind.Takes i.type c.operand := fun c hc =>
    (h.constraints c hc).2
  have hconstraints := Expression.readConstraints_join htakes hentries
  have hisEntry := Expression.isEntry_of_mem htakes hentries
  have hsplit := Expression.splitConstraints_inParentheses (isSolid_declaration h.isChain)
    ((hides_declaration h.isChain).mono (by decide)) hisEntry
  have hpieces : ∀ t ∈ (i.declaration ++ Expression.inParentheses entries) :: filters,
      Expression.IsPiece t := by
    refine List.forall_mem_cons.2 ⟨?_, fun t ht => ?_⟩
    · exact Expression.isPiece_declaration h.isChain hisEntry
    · obtain ⟨c, hc, hwritten⟩ := exists_of_mem_forall₂ hfilters ht
      exact hwritten.isPiece (h.filterCalls c hc)
  have hsolid := Text.isSolid_join [' ', '|', ' '] (List.cons_ne_nil _ _) fun t ht =>
    (hpieces t ht).isSolid
  obtain ⟨first, others, hjoin, hfirst, rfl, hhides⟩ := Expression.exists_pieces hpieces
  rw [Expression.read, hsolid.trim]
  rw [hjoin] at hsolid ⊢
  have hbody : Expression.readBody (first ++ others.flatMap ('|' :: ·)) = .ok i := by
    refine Fault.bind_eq_ok_iff.2 ⟨_, Quotes.split_flatMap rfl hsolid.ne_nil hhides, ?_⟩
    rw [List.headD_cons, hfirst]
    refine Fault.bind_eq_ok_iff.2 ⟨_, hsplit, ?_⟩
    refine Fault.bind_eq_ok_iff.2 ⟨_, readDeclaration_declaration h.isChain, ?_⟩
    refine Fault.bind_eq_ok_iff.2 ⟨_, hconstraints, ?_⟩
    exact Fault.bind_eq_ok_iff.2
      ⟨_, Expression.readFilters_of_isWritten h.filterCalls hfilters, rfl⟩
  rw [hbody]
  rfl

end Interpolation

/-- Every legal expression whose numbers are whole and whose texts lack one of the quotes can be
written in quotes, and however it is written so, it is read back with its constraints and its
filters in order, whatever its texts contain and however many digits its numbers have. -/
theorem written_expression_is_read_back {i : Interpolation} (h : i.IsLegal) :
    ((∃ written, i.IsWritten written) ↔ i.IsQuotable) ∧
      ∀ written, i.IsWritten written → Expression.read written = .ok i :=
  ⟨Interpolation.exists_isWritten_iff h, fun _ hw => Interpolation.read_of_isWritten h hw⟩

/-- A note whose texts hold delimiters, parentheses, a keyword, a filter and a quote. -/
def hostileNote : Interpolation where
  path := "order.note"
  type := .string
  nullable := true
  constraints := [.choices [.text "a, min:1", .text "it's (new) | upper"], .minLength 2,
    .pattern "^[\"(]+, max:2 "]
  filters := [⟨"replace", ["|", "),'"]⟩, ⟨"upper", []⟩]

def quotedNote : Text :=
  "order.note:string? (enum:'a, min:1',\"it's (new) | upper\", min:2, pattern:'^[\"(]+, max:2 ')" ++
    " | replace:'|',\"),'\" | upper"

/-- The note is legal, and is read back. -/
theorem hostile_note_is_read_back :
    hostileNote.IsLegal ∧ hostileNote.IsQuotable ∧
      Expression.read quotedNote = .ok hostileNote := by
  have hencloses : ∀ (quote : Char) (t : Text), Quotes.isQuote quote = true → quote ∉ t →
      Encloses t (quote :: t ++ [quote]) := fun quote t hquote ht => ⟨quote, hquote, ht, rfl⟩
  have hlegal : hostileNote.IsLegal := by
    refine ⟨⟨["order", "note"], by decide, by decide, by decide⟩, ?_, by decide⟩
    refine List.forall_mem_cons.2 ⟨⟨by decide, _, by decide, ?_, rfl⟩, ?_⟩
    · exact List.forall_mem_cons.2 ⟨trivial, List.forall_mem_singleton.2 trivial⟩
    · exact List.forall_mem_cons.2 ⟨⟨by decide, _, rfl⟩,
        List.forall_mem_singleton.2 ⟨by decide, _, rfl⟩⟩
  have hchoices : List.Forall₂ Literal.IsWritten [.text "a, min:1", .text "it's (new) | upper"] _ :=
    .cons (.text (hencloses '\'' _ rfl (by decide)))
      (.cons (.text (hencloses '"' _ rfl (by decide))) .nil)
  have hwritten : hostileNote.IsWritten quotedNote := by
    refine ⟨_, _, .cons ⟨.choices, _, rfl, .choices hchoices, rfl⟩
      (.cons ⟨.minimum, _, rfl, .minLength 2, rfl⟩
        (.cons ⟨.pattern, _, rfl, .pattern (hencloses '\'' _ rfl (by decide)), rfl⟩ .nil)),
      .cons ⟨_, .cons (hencloses '\'' _ rfl (by decide))
        (.cons (hencloses '"' _ rfl (by decide)) .nil), .inl rfl⟩
        (.cons ⟨[], .nil, .inr ⟨rfl, rfl⟩⟩ .nil), by decide +kernel⟩
  have hread := written_expression_is_read_back hlegal
  exact ⟨hlegal, hread.1.1 ⟨_, hwritten⟩, hread.2 _ hwritten⟩

end TypedTemplate
