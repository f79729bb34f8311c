import TypedTemplate.Expression.Basic
import TypedTemplate.Filter.Registry
import TypedTemplate.Instant.Temporal
import TypedTemplate.Text.Case

/-!
# Applying filters

A filter turns a value into a value, nearly always a text. The chain of an
interpolation is applied from left to right; each filter takes what the one before
it gave. Odd values are passed through rather than refused.
-/
namespace TypedTemplate.Filter

/-- What filters know of the interpolation: its type and the zone of the display. -/
structure Context where
  type : Option DataType
  zone : Text
  deriving DecidableEq, Repr

/-- An argument that is a whole number; a fraction is cut off, and what is no finite
number is zero. -/
def intArgument (t : Text) : Int := (Number.ofText t).toIntLenient

def greatestLength : Nat := 9223372036854775807

/-- The length from which on a filling is taken to be one that no memory holds. It stands
for the memory of the machine, whose limit is another one everywhere. -/
def unholdableLength : Nat := 1099511627776

/-- A text filled on the left up to a width. The filling is cut from whole repetitions
of a text. -/
def padLeft (t : Text) (width : Int) (fill : Text) : Except Fault Text :=
  let missing := (width - t.length).toNat
  let repetitions := missing / fill.length + 1
  if missing = 0 ∨ fill.isEmpty then .ok t
  else if greatestLength < repetitions * fill.length then .error .paddingUncountable
  else if unholdableLength ≤ missing then .error .paddingTooLong
  else .ok ((List.replicate repetitions fill).flatten.take missing ++ t)

/-- The printable characters of ASCII in their wide form. -/
def widen (t : Text) : Text :=
  t.map fun c => if '!' ≤ c ∧ c ≤ '~' then Char.ofNat (c.toNat + 0xfee0) else c

/-- The wide forms of the printable characters of ASCII as those characters. -/
def narrow (t : Text) : Text :=
  t.map fun c => if '！' ≤ c ∧ c ≤ '～' then Char.ofNat (c.toNat - 0xfee0) else c

/-- A value with its thousands separated, or its text when it is no finite number. -/
def comma (value : Value) : Except Fault Text :=
  let n := value.toNumber
  if n.exceedsDouble then .error .numberTooLarge
  else
    match n with
    | .whole n => .ok (Numeral.groupedInt n)
    | .real (.finite negative m e) =>
      let x := Double.finite negative m e
      match x.isWhole, x.truncate? with
      | true, some n => .ok (Numeral.groupedInt n)
      | _, _ => .ok (Numeral.groupedFinite negative m e)
    | .real _ => .ok value.display

def maxPlaces : Nat := 100

/-- The number of decimal places that an argument asks for. -/
def placesArgument (t : Text) : Nat := min (intArgument t).toNat maxPlaces

def argument (args : List Text) (i : Nat) : Except Fault Text :=
  match args[i]? with
  | some t => .ok t
  | none => .error .argumentMissing

def argumentPair : List Text → Except Fault (Text × Text)
  | [first, second] => .ok (first, second)
  | _ => .error .argumentsUnpaired

/-- A value with a fixed number of decimal places, or its text when it is no finite
number. -/
def fixed (value : Value) (args : List Text) : Except Fault Text :=
  let n := value.toNumber
  if n.exceedsDouble then .error .numberTooLarge
  else
    match n with
    | .whole n => do
      let places := placesArgument (← argument args 0)
      return Numeral.fixedPlaces (n < 0) n.natAbs 1 places
    | .real (.finite negative m e) => do
      let places := placesArgument (← argument args 0)
      let (num, den) := Double.magnitude m e
      return Numeral.fixedPlaces negative num den places
    | .real _ => .ok value.display

def defaultDatePattern : Text := "YYYY-MM-DD"

/-- Applies one filter. Arguments beyond those that a filter reads are passed over,
except where it reads a pair. -/
def apply (f : FilterKind) (context : Context) (args : List Text) (value : Value) :
    Except Fault Value :=
  match f with
  | .default =>
    match value with
    | .null => .text <$> argument args 0
    | value => .ok value
  | .upper => .ok (.text (Text.upper value.display))
  | .lower => .ok (.text (Text.lower value.display))
  | .replace => do
    let (old, new) ← argumentPair args
    return .text (Text.replace old new value.display)
  | .padLeft => do
    let width := intArgument (← argument args 0)
    return .text (← padLeft value.display width (args[1]?.getD ['0']))
  | .slice => do
    let first := intArgument (← argument args 0)
    let last := intArgument (← argument args 1)
    return .text (Text.slice first last value.display)
  | .zenkaku => .ok (.text (widen value.display))
  | .hankaku => .ok (.text (narrow value.display))
  | .comma => .text <$> comma value
  | .fixed => .text <$> fixed value args
  | .either => do
    let (whenTrue, whenFalse) ← argumentPair args
    return .text (if ← value.isFalsy then whenFalse else whenTrue)
  | .dateFormat =>
    .text <$> Temporal.format value context.type (args.headD defaultDatePattern) context.zone

def call (context : Context) (value : Value) (c : FilterCall) : Except Fault Value :=
  match FilterKind.ofName? c.name with
  | none => .error (.grammar (.unregisteredFilter c.name) none)
  | some f => apply f context c.args value

def applyAll (context : Context) : List FilterCall → Value → Except Fault Value
  | [], value => .ok value
  | c :: rest, value => do applyAll context rest (← call context value c)

end TypedTemplate.Filter
