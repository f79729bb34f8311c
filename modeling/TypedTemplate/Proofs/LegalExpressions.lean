import TypedTemplate.Proofs.AppliedFilters
import TypedTemplate.Proofs.LegalKeywords
import TypedTemplate.Proofs.ParsingFaults

/-!
# Legal expressions

What an expression is that the reader accepts. Its path is a chain of identifiers with nothing
around it. Each of its constraints is one that the type admits, with an operand of the shape that
the kind of the constraint asks for. Each of its filters is one that the type admits, with a number
of arguments that the filter can use. A chain of filters is applied by their names alone, whatever
the type; since a name means the same filter for every type that admits it, no chain that was read
ends because a filter is unknown or lacks an argument, at any value.
-/
namespace TypedTemplate

open Fault (FailsOnly)

theorem Path.exists_names_of_isChain {path : Text} (h : isChain path = true) :
    ∃ names : List Text, names ≠ [] ∧ (∀ name ∈ names, isIdentifier name = true) ∧
      path = Text.join ['.'] names :=
  ⟨Text.splitOn '.' path, Text.splitOn_ne_nil '.' path,
    fun _ hname => isIdentifier_of_mem_splitOn h hname, (Text.join_splitOn '.' path).symm⟩

/-- What a kind of constraint holds data of a type against. -/
def ConstraintKind.Takes (type : DataType) : ConstraintKind → Value → Prop
  | .choices, operand => ∃ values : List Literal, values ≠ [] ∧
      (∀ value ∈ values, value.HasType type) ∧ operand = .list (values.map Literal.toValue)
  | .fixed, operand => ∃ value : Literal, value.HasType type ∧ operand = value.toValue
  | .pattern, operand => ∃ t, operand = .text t
  | .minLength, operand | .maxLength, operand => ∃ n : Int, operand = .ofInt n
  | .minimum, operand | .maximum, operand | .exclusiveMinimum, operand
  | .exclusiveMaximum, operand | .step, operand => ∃ n : Number, operand = .number n

theorem Constraint.IsLegal.takes {type : DataType} {c : Constraint} (h : c.IsLegal type)
    (hc : c ≠ .choices []) : c.kind.Takes type c.operand := by
  cases c with
  | choices values => exact ⟨values, fun he => hc (he ▸ rfl), h.choices values rfl, rfl⟩
  | fixed value => exact ⟨value, h.fixed value rfl, rfl⟩
  | bound b n => cases b <;> exact ⟨n, rfl⟩
  | pattern t => exact ⟨t, rfl⟩
  | minLength n | maxLength n => exact ⟨n, rfl⟩

namespace Expression

theorem readConstraint_ne_choices_nil {type : DataType} {keyword raw : Text} {c : Constraint}
    (h : readConstraint type keyword raw = .ok c) : c ≠ .choices [] := by
  unfold readConstraint at h
  split at h
  · cases h
  split at h
  case h_1 => cases h
  case h_2 =>
    obtain ⟨parts, -, h⟩ := Fault.bind_eq_ok_iff.1 h
    obtain ⟨values, -, h⟩ := Fault.bind_eq_ok_iff.1 h
    split at h
    · cases h
    · rename_i hne
      rw [← Except.ok.inj h]
      exact fun he => hne (List.isEmpty_iff.2 (Constraint.choices.inj he))
  case h_4 =>
    rw [← Except.ok.inj h]
    exact nofun
  all_goals
    obtain ⟨_, -, h⟩ := Fault.bind_eq_ok_iff.1 h
    rw [← Except.ok.inj h]
    exact nofun

end Expression

namespace FilterKind

variable {type : DataType} {name : Text} {f : FilterKind}

theorem forType?_eq_some_iff : forType? type name = some f ↔ f ∈ allowed type ∧ f.name = name := by
  constructor
  · intro h
    exact ⟨List.mem_of_find?_eq_some h, name_of_ofName? (ofName?_of_forType? h)⟩
  · rintro ⟨hf, rfl⟩
    cases hg : forType? type f.name with
    | none => exact absurd (beq_self_eq_true f.name) (List.find?_eq_none.1 hg f hf)
    | some g => rw [name_injective (name_of_ofName? (ofName?_of_forType? hg))]

theorem exists_mem_allowed (f : FilterKind) : ∃ type ∈ DataType.all, f ∈ allowed type := by
  cases f <;> decide

theorem ofName?_eq_some_iff_exists_forType? :
    ofName? name = some f ↔ ∃ type, forType? type name = some f := by
  constructor
  · intro h
    obtain ⟨type, -, hf⟩ := exists_mem_allowed f
    exact ⟨type, forType?_eq_some_iff.2 ⟨hf, name_of_ofName? h⟩⟩
  · rintro ⟨_, h⟩
    exact ofName?_of_forType? h

end FilterKind

/-- Whether a fault says that a filter is unknown, or has not the arguments that it reads. -/
def Fault.IsMiscall : Fault → Prop
  | .argumentMissing | .argumentsUnpaired | .grammar (.unregisteredFilter _) _ => True
  | _ => False

theorem Value.failsOnly_isFalsy (value : Value) : FailsOnly (¬ ·.IsMiscall) value.isFalsy :=
  .of_eq (fun _ he => (isFalsy_eq_error_iff.1 he).1) id

theorem ZoneName.failsOnly_find (name : Text) : FailsOnly (¬ ·.IsMiscall) (find name) := by
  unfold find
  refine .ite (.error id) ?_
  split
  · exact .ok _
  · refine .error ?_
    unfold faultOf
    split_ifs <;> exact id

theorem Temporal.failsOnly_fields? (type : Option DataType) (zone t : Text) :
    FailsOnly (¬ ·.IsMiscall) (fields? type zone t) := by
  unfold fields?
  split
  · exact .ok _
  · exact .ok _
  · split
    · exact .ok _
    · exact .bind (ZoneName.failsOnly_find zone) fun z =>
        .bind (.of_eq (fun _ he => (Zone.moment_eq_error_iff.1 he).1) id) fun _ => .ok _

theorem Temporal.failsOnly_format (value : Value) (type : Option DataType) (pattern zone : Text) :
    FailsOnly (¬ ·.IsMiscall) (format value type pattern zone) := by
  unfold format
  split
  · exact .ok _
  · refine .bind (failsOnly_fields? type zone _) fun fields => ?_
    cases fields <;> exact .ok _

namespace Filter

variable {context : Context} {args : List Text} {value : Value}

theorem failsOnly_argument {allowed : Fault → Prop} {i : Nat} (h : i < args.length) :
    FailsOnly allowed (argument args i) := by
  rw [argument, List.getElem?_eq_getElem h]
  exact .ok _

theorem failsOnly_argumentPair {allowed : Fault → Prop} (h : args.length = 2) :
    FailsOnly allowed (argumentPair args) := by
  obtain ⟨first, second, rfl⟩ := List.length_eq_two.1 h
  exact .ok _

theorem failsOnly_padLeft (t : Text) (width : Int) (fill : Text) :
    FailsOnly (¬ ·.IsMiscall) (padLeft t width fill) :=
  .ite (.ok _) (.ite (.error id) (.ite (.error id) (.ok _)))

/-- A filter with a number of arguments that it accepts finds every argument that it reads. -/
theorem failsOnly_apply {f : FilterKind} (h : f.accepts args.length = true) :
    FailsOnly (¬ ·.IsMiscall) (apply f context args value) := by
  have hcount := FilterKind.accepts_iff.1 h
  cases f with
  | upper | lower | zenkaku | hankaku => exact .ok _
  | default =>
    cases value with
    | null => exact .map (failsOnly_argument hcount.1)
    | _ => exact .ok _
  | replace =>
    exact .bind (failsOnly_argumentPair (Nat.le_antisymm hcount.2 hcount.1)) fun _ => .ok _
  | padLeft =>
    exact .bind (failsOnly_argument hcount.1) fun _ =>
      .bind (failsOnly_padLeft _ _ _) fun _ => .ok _
  | slice =>
    exact .bind (failsOnly_argument (Nat.lt_of_succ_lt hcount.1)) fun _ =>
      .bind (failsOnly_argument hcount.1) fun _ => .ok _
  | comma => exact .map (.of_eq (fun _ he => (comma_eq_error_iff.1 he).1) id)
  | fixed =>
    obtain ⟨places, rfl⟩ := List.length_eq_one_iff.1 (Nat.le_antisymm hcount.2 hcount.1)
    exact .map (.of_eq (fun _ he => (fixed_eq_error_iff.1 he).1) id)
  | either =>
    exact .bind (failsOnly_argumentPair (Nat.le_antisymm hcount.2 hcount.1)) fun _ =>
      .bind (Value.failsOnly_isFalsy value) fun _ => .ok _
  | dateFormat => exact .map (Temporal.failsOnly_format _ _ _ _)

theorem failsOnly_call {type : DataType} {c : FilterCall} (h : c.IsLegal type) :
    FailsOnly (¬ ·.IsMiscall) (call context value c) := by
  obtain ⟨f, hf, haccepts⟩ := h
  rw [call, FilterKind.ofName?_of_forType? hf]
  exact failsOnly_apply haccepts

theorem failsOnly_applyAll {type : DataType} {calls : List FilterCall}
    (h : ∀ c ∈ calls, c.IsLegal type) :
    FailsOnly (¬ ·.IsMiscall) (applyAll context calls value) := by
  induction calls generalizing value with
  | nil => exact .ok _
  | cons c rest ih =>
    obtain ⟨hc, hrest⟩ := List.forall_mem_cons.1 h
    exact .bind (failsOnly_call hc) fun _ => ih hrest

end Filter

/-- Whether an interpolation holds nothing but what the grammar of paths and the registries of
constraints and filters admit for its type. -/
structure Interpolation.IsLegal (i : Interpolation) : Prop where
  path : ∃ names : List Text, names ≠ [] ∧ (∀ name ∈ names, Path.isIdentifier name = true) ∧
    i.path = Text.join ['.'] names
  constraints : ∀ c ∈ i.constraints,
    c.kind ∈ ConstraintKind.allowed i.type ∧ c.kind.Takes i.type c.operand
  filters : ∀ c ∈ i.filters, ∃ f ∈ FilterKind.allowed i.type, f.name = c.name ∧
    FilterKind.ofName? c.name = some f ∧ f.minArgs ≤ c.args.length ∧ c.args.length ≤ f.maxArgs

/-- An expression that is read is legal, and the chain of its filters never ends because a filter
is unknown or has not the arguments that it reads, whatever it is applied to. -/
theorem read_expressions_are_legal_and_call_filters_rightly {raw : Text} {i : Interpolation}
    (h : Expression.read raw = .ok i) :
    i.IsLegal ∧ ∀ context value, ∀ e, Filter.applyAll context i.filters value = .error e →
      ¬e.IsMiscall := by
  obtain ⟨_, _, _, -, -, hfilters⟩ := Expression.exists_parts_of_read h
  have hcalls := Expression.isLegal_of_readFilters hfilters
  refine ⟨⟨Path.exists_names_of_isChain (Expression.isChain_of_read h), fun c hc => ?_,
    fun c hc => ?_⟩, fun _ _ => Filter.failsOnly_applyAll hcalls⟩
  · obtain ⟨_, _, hread⟩ := Expression.exists_readConstraint_of_read h hc
    have hlegal := Expression.isLegal_of_readConstraint hread
    exact ⟨hlegal.kind_mem, hlegal.takes (Expression.readConstraint_ne_choices_nil hread)⟩
  · obtain ⟨f, hf, haccepts⟩ := hcalls c hc
    obtain ⟨hmem, hname⟩ := FilterKind.forType?_eq_some_iff.1 hf
    exact ⟨f, hmem, hname, FilterKind.ofName?_eq_some_iff_exists_forType?.2 ⟨i.type, hf⟩,
      FilterKind.accepts_iff.1 haccepts⟩

def boundedPrice : Interpolation where
  path := "order.price"
  type := .integer
  nullable := true
  constraints := [.bound .minimum (.whole 1), .choices [.number (.whole 10), .number (.whole 25)]]
  filters := [⟨"pad-left", ["6", "*"]⟩, ⟨"comma", []⟩]

/-- The expression of the price is read, and is legal. -/
theorem read_bounded_price_is_legal :
    Expression.read " order.price : integer? (min:1, enum:10,'25') | pad-left:6,'*' | comma " =
      .ok boundedPrice ∧
    boundedPrice.IsLegal ∧
    ∀ context value, ∀ e, Filter.applyAll context boundedPrice.filters value = .error e →
      ¬e.IsMiscall := by
  have hread : Expression.read
      " order.price : integer? (min:1, enum:10,'25') | pad-left:6,'*' | comma " =
        .ok boundedPrice := by decide +kernel
  exact ⟨hread, read_expressions_are_legal_and_call_filters_rightly hread⟩

end TypedTemplate
