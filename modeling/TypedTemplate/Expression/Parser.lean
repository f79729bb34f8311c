import TypedTemplate.Expression.Basic
import TypedTemplate.Expression.Quotes
import TypedTemplate.Filter.Registry

/-!
# Reading expressions

An interpolation is cut at its bars into the declaration and the filters; the
declaration is a path, a type and an optional list of constraints in parentheses.
The first fault, in the order of reading, is the one reported, with the trimmed
expression.
-/
namespace TypedTemplate.Expression

/-- The declaration before the parentheses, and the constraints inside them. -/
def splitConstraints (main : Text) : Except Fault (Text × Text) := do
  match ← Quotes.find main '(' with
  | none =>
    match ← Quotes.find main ')' with
    | some _ => throw (.grammar .unmatchedParenthesis none)
    | none => return (main, [])
  | some first =>
    match ← Quotes.findClose main first with
    | none => throw (.grammar .unclosedParenthesis none)
    | some last =>
      if (Text.trim (main.drop (last + 1))).isEmpty then
        return (Text.trim (main.take first), Text.trim ((main.take last).drop (first + 1)))
      else throw (.grammar .unmatchedParenthesis none)

/-- The path, the type, and whether null is admitted. -/
def readDeclaration (t : Text) : Except Fault (Text × DataType × Bool) := do
  match Text.cut ':' t with
  | (_, none) => throw (.grammar .missingType none)
  | (path, some type) =>
    let path := path.trim
    if !Path.isValid path then
      throw (.grammar (.invalidPath path) none)
    let type := type.trim
    let nullable := type.getLast? == some '?'
    let type := if nullable then Text.trim type.dropLast else type
    match DataType.ofName? type with
    | some d => return (path, d, nullable)
    | none => throw (.grammar (.invalidType type) none)

/-- A number in a constraint. Where a whole number is needed, a literal with point
or exponent is taken as the nearest double, which has to be whole. Digits alone are read
however many they are: the host's bound `Number.longestWhole` is left out. -/
def readNumber (raw keyword : Text) (wholeOnly : Bool) : Except Fault Number :=
  let literal := Quotes.unquote raw
  match Decimal.read? (Path.dropFinalBreak literal) with
  | none => .error (.grammar (.notNumeric keyword literal) none)
  | some d =>
    if d.plain then .ok (.whole d.toInt)
    else if wholeOnly then
      match d.toDouble.isWhole, d.toDouble.truncate? with
      | true, some n => .ok (.whole n)
      | _, _ => .error (.grammar (.notWhole keyword literal) none)
    else .ok (.real d.toDouble)

def readWhole (raw keyword : Text) : Except Fault Int := do
  match ← readNumber raw keyword true with
  | .whole n => return n
  | .real x => return x.truncate?.getD 0

def readLiteral (raw : Text) (type : DataType) (keyword : Text) : Except Fault Literal :=
  match type with
  | .integer => .number <$> readNumber raw keyword true
  | .number => .number <$> readNumber raw keyword false
  | .boolean =>
    let literal := Quotes.unquote raw
    if literal = "true" then .ok (.boolean true)
    else if literal = "false" then .ok (.boolean false)
    else .error (.grammar (.notBoolean literal) none)
  | _ => .ok (.text (Quotes.unquote raw))

/-- The literals of a list of choices; blank ones are passed over. -/
def readChoices (type : DataType) (keyword : Text) : List Text → Except Fault (List Literal)
  | [] => .ok []
  | part :: rest =>
    if part.trim.isEmpty then readChoices type keyword rest
    else do
      let first ← readLiteral part.trim type keyword
      let others ← readChoices type keyword rest
      return first :: others

/-- The constraint that a keyword and its value state for a type. -/
def readConstraint (type : DataType) (keyword raw : Text) : Except Fault Constraint := do
  match ConstraintKind.ofKeyword? keyword with
  | none => throw (.grammar (.unknownConstraint keyword) none)
  | some k =>
    match ConstraintKind.resolve? type k with
    | none => throw (.grammar (.constraintNotAllowed keyword type) none)
    | some .choices =>
      let values ← readChoices type keyword (← Quotes.split (· == ',') raw)
      if values.isEmpty then
        throw (.grammar (.noChoices keyword) none)
      return .choices values
    | some .fixed => return .fixed (← readLiteral raw type keyword)
    | some .pattern => return .pattern (Quotes.unquote raw)
    | some .minLength => return .minLength (← readWhole raw keyword)
    | some .maxLength => return .maxLength (← readWhole raw keyword)
    | some .minimum => return .bound .minimum (← readNumber raw keyword false)
    | some .maximum => return .bound .maximum (← readNumber raw keyword false)
    | some .exclusiveMinimum => return .bound .exclusiveMinimum (← readNumber raw keyword false)
    | some .exclusiveMaximum => return .bound .exclusiveMaximum (← readNumber raw keyword false)
    | some .step => return .bound .step (← readNumber raw keyword false)

def readEntries (type : DataType) : List Text → Except Fault (List Constraint)
  | [] => .ok []
  | entry :: rest =>
    match Text.cut ':' entry with
    | (_, none) => .error (.grammar (.missingColon entry) none)
    | (keyword, some raw) => do
      let first ← readConstraint type keyword.trim raw.trim
      let others ← readEntries type rest
      return first :: others

def keywords : List Text := ConstraintKind.all.map (·.keyword)

def readConstraints (type : DataType) (body : Text) : Except Fault (List Constraint) := do
  if body.isEmpty then
    return []
  readEntries type (← Quotes.splitEntries keywords body)

def readArguments (raw : Option Text) : Except Fault (List Text) := do
  let parts ← Quotes.split (· == ',') (raw.getD []).trim
  return parts.map fun part => Quotes.unquote part.trim

/-- A filter with its arguments, checked against the registry. -/
def readFilter (type : DataType) (t : Text) : Except Fault FilterCall := do
  let (name, raw) := Text.cut ':' t
  let name := name.trim
  let args ← readArguments raw
  if (FilterKind.ofName? name).isNone then
    throw (.grammar (.unknownFilter name) none)
  match FilterKind.forType? type name with
  | none => throw (.grammar (.filterNotAllowed name type) none)
  | some f =>
    if f.accepts args.length then
      return ⟨name, args⟩
    throw (.grammar (.filterArity name type f.arity args.length) none)

def readFilters (type : DataType) : List Text → Except Fault (List FilterCall)
  | [] => .ok []
  | t :: rest => do
    let first ← readFilter type t.trim
    let others ← readFilters type rest
    return first :: others

def readBody (body : Text) : Except Fault Interpolation := do
  let parts ← Quotes.split (· == '|') body
  let (declaration, constraints) ← splitConstraints (parts.headD []).trim
  let (path, type, nullable) ← readDeclaration declaration
  let constraints ← readConstraints type constraints
  let filters ← readFilters type parts.tail
  return { path, type, nullable, constraints, filters }

/-- Names the expression in a grammar fault that does not name one yet. -/
def locate (expression : Text) : Fault → Fault
  | .grammar f none => .grammar f (some expression)
  | f => f

def read (raw : Text) : Except Fault Interpolation :=
  (readBody raw.trim).mapError (locate raw.trim)

example : read " a.b : integer? (min:1) | comma " =
    .ok ⟨"a.b", .integer, true, [.bound .minimum (.whole 1)], [⟨"comma", []⟩]⟩ := by rfl

end TypedTemplate.Expression
