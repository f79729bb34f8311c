import TypedTemplate.Text.Class

/-!
# Formats of texts

The formats that schemas ask of dates, times and instants. They look at digits and
marks only, not at the calendar, and let one line break follow.
-/
namespace TypedTemplate.Format

/-- Whether the decimal digits of a text stand where the letter d stands in a shape,
and the other characters of the shape as they are; with what follows the shape. -/
def afterShape? : Text → Text → Option Text
  | [], t => some t
  | _ :: _, [] => none
  | s :: shape, c :: rest =>
    if (if s == 'd' then isDecimal c else s == c) then afterShape? shape rest else none

/-- Nothing, or one line break. -/
def isLineEnd (t : Text) : Bool := t.isEmpty || t == ['\n']

/-- Tries to pass over a shape, and goes on either way. -/
def orSkip (shape : Text) (accepts : Text → Bool) (t : Text) : Bool :=
  ((afterShape? shape t).any accepts) || accepts t

/-- The offset of a time, or its end. -/
def acceptsOffset (t : Text) : Bool :=
  isLineEnd t
    || match t with
      | c :: rest =>
        if c == 'Z' || c == 'z' then isLineEnd rest
        else if c == '+' || c == '-' then
          (afterShape? "dd:dd" rest).any isLineEnd || (afterShape? "dddd" rest).any isLineEnd
        else false
      | [] => false

/-- The fraction of a second, if there is one, and the offset. -/
def acceptsFraction (t : Text) : Bool :=
  acceptsOffset t
    || (match t with
      | '.' :: c :: rest => isDecimal c && acceptsOffset (rest.dropWhile isDecimal)
      | _ => false)

/-- Whether a text has one of the known formats; other formats accept every text. -/
def accepts (format t : Text) : Bool :=
  if format = "date" then (afterShape? "dddd-dd-dd" t).any isLineEnd
  else if format = "time" then (afterShape? "dd:dd" t).any (orSkip ":dd" isLineEnd)
  else if format = "date-time" then
    (afterShape? "dddd-dd-dd" t).any fun rest =>
      match rest with
      | c :: rest =>
        (c == 'T' || c == 't') && (afterShape? "dd:dd" rest).any (orSkip ":dd" acceptsFraction)
      | [] => false
  else true

example : accepts "date" "2026-13-40" = true := by decide
example : accepts "time" "9:30" = false := by decide
example : accepts "date-time" "2026-01-01t09:30:00.5+0900" = true := by decide

end TypedTemplate.Format
