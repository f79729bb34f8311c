import TypedTemplate.Path
import TypedTemplate.Value.Basic

/-!
# Expressions

The content of an interpolation `path:type? (constraints) | filters`, and the text
of a template as literal pieces with interpolations between them. Each declared
type admits certain constraint keywords, and a keyword may mean a different
constraint for texts than for numbers.
-/
namespace TypedTemplate

/-- A literal inside a constraint. -/
inductive Literal where
  | text (t : Text)
  | number (n : Number)
  | boolean (b : Bool)
  deriving DecidableEq, Repr

namespace Literal

def toValue : Literal → Value
  | .text t => .text t
  | .number n => .number n
  | .boolean b => .bool b

/-- Whether a literal is one of a declared type. -/
def HasType : Literal → DataType → Prop
  | .text _, .string | .text _, .date | .text _, .time | .text _, .datetime => True
  | .number (.whole _), .integer => True
  | .number _, .number => True
  | .boolean _, .boolean => True
  | _, _ => False

end Literal

/-- What a constraint restricts. -/
inductive ConstraintKind where
  | choices | minimum | maximum | exclusiveMinimum | exclusiveMaximum | step
  | pattern | fixed | minLength | maxLength
  deriving DecidableEq, Repr

namespace ConstraintKind

def all : List ConstraintKind :=
  [.choices, .minimum, .maximum, .exclusiveMinimum, .exclusiveMaximum, .step, .pattern,
    .fixed, .minLength, .maxLength]

/-- The keyword that names the constraint in a template. -/
def keyword : ConstraintKind → Text
  | .choices => "enum"
  | .minimum => "min"
  | .maximum => "max"
  | .exclusiveMinimum => "exMin"
  | .exclusiveMaximum => "exMax"
  | .step => "step"
  | .pattern => "pattern"
  | .fixed => "fixed"
  | .minLength => "minLength"
  | .maxLength => "maxLength"

def ofKeyword? (t : Text) : Option ConstraintKind := all.find? (·.keyword == t)

/-- The constraint that a keyword means for a declared type, if the type admits it.
For texts, the least and the greatest are bounds of the length. -/
def resolve? : DataType → ConstraintKind → Option ConstraintKind
  | .string, .minimum => some .minLength
  | .string, .maximum => some .maxLength
  | .string, .choices => some .choices
  | .string, .minLength => some .minLength
  | .string, .maxLength => some .maxLength
  | .string, .pattern => some .pattern
  | .string, .fixed => some .fixed
  | .integer, k | .number, k =>
    match k with
    | .pattern | .minLength | .maxLength => none
    | k => some k
  | .boolean, .fixed => some .fixed
  | _, _ => none

def allowed (d : DataType) : List ConstraintKind := all.filterMap (resolve? d)

/-- The keyword that states the constraint in a schema. -/
def schemaKeyword : ConstraintKind → Text
  | .choices => "enum"
  | .minimum => "minimum"
  | .maximum => "maximum"
  | .exclusiveMinimum => "exclusiveMinimum"
  | .exclusiveMaximum => "exclusiveMaximum"
  | .step => "multipleOf"
  | .pattern => "pattern"
  | .fixed => "const"
  | .minLength => "minLength"
  | .maxLength => "maxLength"

theorem ofKeyword?_keyword (k : ConstraintKind) : ofKeyword? k.keyword = some k := by
  cases k <;> decide

theorem schemaKeyword_injective {k l : ConstraintKind} (h : k.schemaKeyword = l.schemaKeyword) :
    k = l := by
  revert h; cases k <;> cases l <;> decide

end ConstraintKind

/-- A bound that numbers are held against. -/
inductive Bound where
  | minimum | maximum | exclusiveMinimum | exclusiveMaximum | step
  deriving DecidableEq, Repr

def Bound.kind : Bound → ConstraintKind
  | .minimum => .minimum
  | .maximum => .maximum
  | .exclusiveMinimum => .exclusiveMinimum
  | .exclusiveMaximum => .exclusiveMaximum
  | .step => .step

inductive Constraint where
  | choices (values : List Literal)
  | bound (b : Bound) (n : Number)
  | pattern (t : Text)
  | fixed (value : Literal)
  | minLength (n : Int)
  | maxLength (n : Int)
  deriving DecidableEq, Repr

namespace Constraint

def kind : Constraint → ConstraintKind
  | .choices _ => .choices
  | .bound b _ => b.kind
  | .pattern _ => .pattern
  | .fixed _ => .fixed
  | .minLength _ => .minLength
  | .maxLength _ => .maxLength

def operand : Constraint → Value
  | .choices values => .list (values.map Literal.toValue)
  | .bound _ n => .number n
  | .pattern t => .text t
  | .fixed value => value.toValue
  | .minLength n | .maxLength n => .ofInt n

end Constraint

/-- A filter by name with its arguments as they are written. -/
structure FilterCall where
  name : Text
  args : List Text
  deriving DecidableEq, Repr

structure Interpolation where
  path : Text
  type : DataType
  nullable : Bool
  constraints : List Constraint
  filters : List FilterCall
  deriving DecidableEq, Repr

/-- A piece of template text. -/
inductive Segment where
  | literal (t : Text)
  | interpolation (i : Interpolation)
  deriving DecidableEq, Repr

end TypedTemplate
