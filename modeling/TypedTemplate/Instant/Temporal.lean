import TypedTemplate.Instant.Iso
import TypedTemplate.Instant.ZoneName
import TypedTemplate.Value.Reading

/-!
# Temporal formats

Dates and times are shown through patterns with the fields YYYY, MM, DD, HH, mm and
ss. Values declared as dates or times are taken field by field as they are written;
everything else is an instant, shown by the clocks of a zone. A value that cannot
be read is shown as it is.
-/
namespace TypedTemplate.Temporal

/-- The texts that replace the fields of a pattern. -/
structure Fields where
  year : Text
  month : Text
  day : Text
  hour : Text
  minute : Text
  second : Text
  deriving DecidableEq, Repr

/-- A pattern with its fields replaced, from left to right. -/
def Fields.fill (f : Fields) : Text → Text
  | [] => []
  | 'Y' :: 'Y' :: 'Y' :: 'Y' :: rest => f.year ++ f.fill rest
  | 'M' :: 'M' :: rest => f.month ++ f.fill rest
  | 'D' :: 'D' :: rest => f.day ++ f.fill rest
  | 'H' :: 'H' :: rest => f.hour ++ f.fill rest
  | 'm' :: 'm' :: rest => f.minute ++ f.fill rest
  | 's' :: 's' :: rest => f.second ++ f.fill rest
  | c :: rest => c :: f.fill rest

/-- Whether some characters are the decimal digits of a numeral. -/
def areDigits (t : Text) : Bool := t.all isDecimal

def ofDate? : Text → Option Fields
  | y₁ :: y₂ :: y₃ :: y₄ :: '-' :: m₁ :: m₂ :: '-' :: d₁ :: d₂ :: _ =>
    if areDigits [y₁, y₂, y₃, y₄, m₁, m₂, d₁, d₂] then
      some ⟨[y₁, y₂, y₃, y₄], [m₁, m₂], [d₁, d₂], "00", "00", "00"⟩
    else none
  | _ => none

/-- The seconds after the minutes of a time, zero when there are none. -/
def secondsAfter : Text → Text
  | ':' :: s₁ :: s₂ :: _ => if areDigits [s₁, s₂] then [s₁, s₂] else "00"
  | _ => "00"

def ofTime? : Text → Option Fields
  | h₁ :: h₂ :: ':' :: m₁ :: m₂ :: rest =>
    if areDigits [h₁, h₂, m₁, m₂] then
      some ⟨"0000", "00", "00", [h₁, h₂], [m₁, m₂], secondsAfter rest⟩
    else none
  | _ => none

def ofMoment (m : Moment) : Fields where
  year := padded 4 m.year
  month := padded 2 m.month
  day := padded 2 m.day
  hour := padded 2 m.hour
  minute := padded 2 m.minute
  second := padded 2 m.second

/-- The fields of the text of a value, if it can be read. -/
def fields? (type : Option DataType) (zone t : Text) : Except Fault (Option Fields) :=
  match type with
  | some .date => .ok (ofDate? t)
  | some .time => .ok (ofTime? t)
  | _ =>
    match Iso.read? t with
    | none => .ok none
    | some i => do
      let z ← ZoneName.find zone
      let m ← z.moment i
      return some (ofMoment m)

def format (value : Value) (type : Option DataType) (pattern zone : Text) :
    Except Fault Text := do
  match value with
  | .null => return []
  | value =>
    match ← fields? type zone value.display with
    | some f => return f.fill pattern
    | none => return value.display

end TypedTemplate.Temporal
