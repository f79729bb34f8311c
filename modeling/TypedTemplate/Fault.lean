import TypedTemplate.Text.Basic

/-!
# Faults

Every way in which reading, compiling, rendering or validating a template can fail.
A fault is a cause; its wording is a function of the cause. Grammar faults carry
the expression they were found in, once it is known.
-/
namespace TypedTemplate

/-- The declared type of an interpolation. -/
inductive DataType where
  | string | integer | number | boolean | date | time | datetime
  deriving DecidableEq, Repr

namespace DataType

def name : DataType → Text
  | .string => "string"
  | .integer => "integer"
  | .number => "number"
  | .boolean => "boolean"
  | .date => "date"
  | .time => "time"
  | .datetime => "datetime"

def all : List DataType := [.string, .integer, .number, .boolean, .date, .time, .datetime]

def ofName? (t : Text) : Option DataType := all.find? (·.name == t)

end DataType

/-- Why an expression or a directive does not follow the grammar. -/
inductive GrammarFault where
  | unterminatedQuote (quote : Char) (text : Text)
  | unmatchedParenthesis
  | unclosedParenthesis
  | missingType
  | invalidPath (path : Text)
  | invalidType (name : Text)
  | missingColon (entry : Text)
  | unknownConstraint (keyword : Text)
  | constraintNotAllowed (keyword : Text) (type : DataType)
  | noChoices (keyword : Text)
  | notNumeric (keyword literal : Text)
  | notWhole (keyword literal : Text)
  | notBoolean (literal : Text)
  | unknownFilter (name : Text)
  | filterNotAllowed (name : Text) (type : DataType)
  | filterArity (name : Text) (type : DataType) (expected : Text) (given : Nat)
  | unregisteredFilter (name : Text)
  | invalidIteration
  | notPositive (name : Text)
  | emptyPath (role : Text)
  | surroundedPath (role : Text)
  | malformedPath (role : Text)
  deriving DecidableEq, Repr

namespace GrammarFault

def words (parts : List Text) : Text := parts.flatten

def message : GrammarFault → Text
  | .unterminatedQuote q t => words ["Unterminated ", [q], " quote in '", t, "'"]
  | .unmatchedParenthesis => "Unmatched constraint parentheses"
  | .unclosedParenthesis => "Unclosed constraint parentheses"
  | .missingType => "Type is required. Use \x7b\x7b path:type ... \x7d\x7d"
  | .invalidPath p => words ["Invalid path: ", p]
  | .invalidType n => words ["Invalid data type: ", n]
  | .missingColon e => words ["Constraint entry '", e, "' is missing ':'"]
  | .unknownConstraint k => words ["Unknown constraint: ", k]
  | .constraintNotAllowed k d =>
    words ["Constraint \"", k, "\" is not allowed for type \"", d.name, "\""]
  | .noChoices k => words ["Constraint \"", k, "\" requires at least one value"]
  | .notNumeric k t => words ["Constraint \"", k, "\" expects a numeric value, got \"", t, "\""]
  | .notWhole k t => words ["Constraint \"", k, "\" expects an integer, got \"", t, "\""]
  | .notBoolean t => words ["Invalid boolean literal: ", t]
  | .unknownFilter n => words ["Unknown filter \"", n, "\""]
  | .filterNotAllowed n d =>
    words ["Filter \"", n, "\" is not allowed for type \"", d.name, "\""]
  | .filterArity n d expected given =>
    words ["Filter \"", n, "\" for type \"", d.name, "\" expects ", expected, " args, got ",
      Text.ofNat given]
  | .unregisteredFilter n => words ["Unknown filter '", n, "'"]
  | .invalidIteration => "Invalid iteration expression"
  | .notPositive a => words [a, " must be a positive integer"]
  | .emptyPath r => words [r, " must be a non-empty string"]
  | .surroundedPath r => words [r, " must not have leading or trailing whitespace"]
  | .malformedPath r => words ["Invalid ", r]

end GrammarFault

/-- A setting that templates and callers can give. -/
inductive Setting where
  | timezone
  | examplesDelimiter
  deriving DecidableEq, Repr

def Setting.refusal : Setting → Text
  | .timezone => "Value error, unknown IANA timezone"
  | .examplesDelimiter => "Value error, delimiter must not be empty"

/-- What a reference between schemas names that is not there. -/
inductive Missing where
  | resource
  | part
  | anchor
  /-- An anchor with a slash in its name, which no anchor should have. -/
  | malformedAnchor
  deriving DecidableEq, Repr

inductive Fault where
  /-- An expression or directive does not follow the grammar. -/
  | grammar (fault : GrammarFault) (expression : Option Text)
  /-- A template declares a setting, under some name, with a refused value. -/
  | declaredSetting (name value : Text) (setting : Setting)
  /-- A caller gives a setting with a refused value. -/
  | givenSetting (setting : Setting)
  /-- Data violates a schema at a path. -/
  | violation (path reason : Text)
  /-- A whole number exceeds the range of doubles where one is needed. -/
  | numberTooLarge
  /-- An instant leaves the years 1 to 9999. -/
  | instantOutOfRange
  /-- A row count is written with digits that form no numeral. -/
  | rowCountUnreadable
  /-- The same, met while an element is built. -/
  | elementUnreadable
  /-- A filter is given fewer arguments than it reads. -/
  | argumentMissing
  /-- A filter that reads a pair of arguments is given another number of them. -/
  | argumentsUnpaired
  /-- A scan starts before the first character that a negative position can name. -/
  | positionOutside
  /-- A text is to be padded with more repetitions than can be counted. -/
  | paddingUncountable
  /-- A text is to be padded to a length that no memory holds. -/
  | paddingTooLong
  /-- A list of examples is split at an empty delimiter. -/
  | emptyDelimiter
  /-- A schema position is asked for without naming one. -/
  | emptySchemaPath
  /-- An iteration binds the reserved name `self`. -/
  | reservedAlias
  /-- A schema asks for multiples of zero. -/
  | multipleOfZero
  /-- A quotient that is not a number is asked to be whole. -/
  | quotientNotANumber
  /-- A schema holds a pattern that cannot be read. -/
  | invalidPattern
  /-- A pattern asks for more repetitions than can be counted. -/
  | repetitionTooLarge
  /-- A pattern asks at once for the characters of ASCII and for those of every script. -/
  | conflictingModes
  /-- A schema names a type that does not exist. -/
  | unknownSchemaType
  /-- A schema gives a keyword an operand that the keyword cannot use. -/
  | unfitOperand
  /-- Something that is no schema stands where a schema or a table of schemas belongs. -/
  | notASchema
  /-- A schema refers to something that is not there. -/
  | unresolvedReference (missing : Missing)
  /-- The same, met in the search for what a schema evaluates. -/
  | unevaluatedReference (missing : Missing)
  /-- A schema refers to an item of a list by something that is no numeral. -/
  | unreadableItemNumber
  /-- References between schemas lead on without end. -/
  | endlessReference
  /-- A list is to be sorted whose entries have no order. -/
  | unordered
  /-- An instant is to be shown in an unknown time zone. -/
  | unknownZone
  /-- A folder of zones is named in place of one of them. -/
  | zoneFolder
  /-- A list about zones is named in place of one of them. -/
  | zoneRegister
  /-- An instant is to be shown in a zone whose name is no plain relative path. -/
  | malformedZoneName
  /-- Markup holds a marked section with an unknown keyword. -/
  | malformedSection
  deriving DecidableEq, Repr

namespace Fault

def message : Fault → Text
  | .grammar f none => f.message
  | .grammar f (some e) => "Invalid expression '" ++ e ++ "': " ++ f.message
  | .declaredSetting name value setting =>
    "Invalid " ++ name ++ " '" ++ value ++ "': " ++ setting.refusal
  | .violation path reason => "Validation failed at " ++ path ++ ": " ++ reason
  | _ => []

/-- Two steps succeed together when the first does and the second does with its result. -/
theorem bind_eq_ok_iff {α β : Type} {x : Except Fault α} {f : α → Except Fault β} {b : β} :
    x >>= f = .ok b ↔ ∃ a, x = .ok a ∧ f a = .ok b := by
  cases x with
  | error e => exact ⟨nofun, nofun⟩
  | ok a => exact ⟨fun h => ⟨a, rfl, h⟩, fun ⟨_, ha, h⟩ => Except.ok.inj ha ▸ h⟩

/-- Two steps fail together when the first does, or the second does with its result. -/
theorem bind_eq_error_iff {α β : Type} {x : Except Fault α} {f : α → Except Fault β}
    {e : Fault} : x >>= f = .error e ↔ x = .error e ∨ ∃ a, x = .ok a ∧ f a = .error e := by
  cases x with
  | error e' =>
    exact ⟨fun h => .inl (congrArg _ (Except.error.inj h)),
      fun h => h.elim (fun h => congrArg _ (Except.error.inj h)) nofun⟩
  | ok a =>
    exact ⟨fun h => .inr ⟨a, rfl, h⟩,
      fun h => h.elim nofun fun ⟨_, ha, h⟩ => Except.ok.inj ha ▸ h⟩

theorem map_eq_ok_iff {α β : Type} {x : Except Fault α} {f : α → β} {b : β} :
    x.map f = .ok b ↔ ∃ a, x = .ok a ∧ f a = b := by
  cases x with
  | error e => exact ⟨nofun, nofun⟩
  | ok a => exact ⟨fun h => ⟨a, rfl, Except.ok.inj h⟩, fun ⟨_, ha, h⟩ =>
      congrArg Except.ok (Except.ok.inj ha ▸ h)⟩

theorem map_eq_error_iff {α β : Type} {x : Except Fault α} {f : α → β} {e : Fault} :
    f <$> x = .error e ↔ x = .error e := by
  cases x with
  | error e' => exact ⟨fun h => congrArg _ (Except.error.inj h),
      fun h => congrArg _ (Except.error.inj h)⟩
  | ok a => exact ⟨nofun, nofun⟩

/-- Whether a step succeeds with a result that passes a test. -/
def succeedsWith {α : Type} (test : α → Bool) : Except Fault α → Bool
  | .ok a => test a
  | .error _ => false

theorem exists_of_succeedsWith {α : Type} {test : α → Bool} {x : Except Fault α}
    (h : succeedsWith test x = true) : ∃ a, x = .ok a ∧ test a = true := by
  cases x with
  | error e => cases h
  | ok a => exact ⟨a, rfl, h⟩

instance decidableEqOk {α : Type} [DecidableEq α] (a : α) :
    (x : Except Fault α) → Decidable (x = .ok a)
  | .ok b => decidable_of_iff (b = a) (by simp)
  | .error _ => .isFalse nofun

instance decidableEqError {α : Type} (e : Fault) :
    (x : Except Fault α) → Decidable (x = .error e)
  | .error e' => decidable_of_iff (e' = e) (by simp)
  | .ok _ => .isFalse nofun

end Fault
end TypedTemplate
