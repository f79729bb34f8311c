import TypedTemplate.Instant.Basic
import TypedTemplate.Number.Power
import TypedTemplate.Text.Class

/-!
# ISO instants

Reading instants in the forms of ISO 8601: calendar dates and week dates, with or
without separators, then any one character, then a time with or without colons and
with a fraction, then an offset. A missing offset means UTC. After the last part of
a time that an offset follows, one stray character is passed over. After the letter Z
and after a fraction of six digits a null character ends the text.
-/
namespace TypedTemplate.Iso

/-- The text with its offset in the form `+hh:mm`. The letter Z and a missing offset
both mean UTC. -/
def spellOffset (t : Text) : Text :=
  match t.reverse with
  | 'Z' :: _ | 'z' :: _ => t.dropLast ++ "+00:00"
  | m₂ :: m₁ :: ':' :: h₂ :: h₁ :: sign :: _ =>
    if [m₂, m₁, h₂, h₁].all isDecimal && (sign == '+' || sign == '-') then t
    else t ++ "+00:00"
  | m₂ :: m₁ :: h₂ :: h₁ :: sign :: _ =>
    if [m₂, m₁, h₂, h₁].all isDecimal && (sign == '+' || sign == '-') then
      t.take (t.length - 2) ++ [':', m₁, m₂]
    else t ++ "+00:00"
  | _ => t ++ "+00:00"

/-- The number that an ASCII numeral of a fixed width stands for, and what follows. -/
def digits? (width : Nat) (t : Text) : Option (Nat × Text) :=
  let d := t.take width
  if d.length = width ∧ d.all isAsciiDigit then
    some (d.foldl (fun n c => 10 * n + (c.toNat - 48)) 0, t.drop width)
  else none

/-- Where the date ends. A week date without separators ends after its week or its
day, as an even number of digits is left for the time. -/
def dateLength (t : Text) : Nat :=
  if t[4]? == some '-' then
    if t[5]? == some 'W' then
      if t[8]? == some '-' then if t[10]?.any isAsciiDigit then 8 else 10 else 8
    else 10
  else if t[4]? == some 'W' then
    let stop := 7 + ((t.drop 7).takeWhile isAsciiDigit).length
    if stop < 9 then stop else if stop % 2 = 0 then 7 else 8
  else 8

def hyphen? (used : Bool) (t : Text) : Option Text :=
  if used then Text.after? "-" t else some t

/-- The date at the beginning of a text, of the given length. -/
def date? (t : Text) (length : Nat) : Option (Nat × Nat × Nat) := do
  let (year, rest) ← digits? 4 t
  let separated := rest.head? == some '-'
  let rest := if separated then rest.drop 1 else rest
  match rest with
  | 'W' :: rest =>
    let (week, rest) ← digits? 2 rest
    let day ←
      if t.length - rest.length < length then do
        let rest ← hyphen? separated rest
        let (day, _) ← digits? 1 rest
        pure day
      else pure 1
    Calendar.ofWeek? year week day
  | rest =>
    let (month, rest) ← digits? 2 rest
    let rest ← hyphen? separated rest
    let (day, rest) ← digits? 2 rest
    if t.length - rest.length = length then some (year, month, day) else none

/-- A time of day, and whether it fills its text. -/
structure Clock where
  hour : Nat
  minute : Nat
  second : Nat
  microsecond : Nat
  complete : Bool
  deriving DecidableEq, Repr

/-- Whether nothing more is read of a text: it ends, or a null character ends it. -/
def isEnd (t : Text) : Bool := t.isEmpty || t.head? == some '\x00'

/-- The fraction of a second: its first six digits count, further digits do not. -/
def fraction? (c : Clock) (t : Text) : Option Clock := do
  let width := min 6 t.length
  let (n, rest) ← digits? width t
  let rest := rest.dropWhile isAsciiDigit
  some { c with microsecond := n * tenTo (6 - width), complete := isEnd rest }

/-- What comes after a part of a time. -/
inductive Next where
  | done (complete : Bool)
  | part (t : Text)
  | fraction (t : Text)
  | broken

/-- Decides how a time goes on. A single ASCII character that is left over ends it. -/
def next (colons : Bool) : Text → Next
  | [] => .done true
  | [c] => if c.toNat < 128 then .done (isEnd [c]) else .broken
  | c :: rest =>
    if colons && c == ':' then .part rest
    else if c == '.' || c == ',' then .fraction rest
    else if !colons then .part (c :: rest)
    else .broken

def seconds? (colons : Bool) (hour minute : Nat) (t : Text) : Option Clock := do
  let (second, rest) ← digits? 2 t
  let c : Clock := ⟨hour, minute, second, 0, true⟩
  match next colons rest with
  | .done complete => some { c with complete }
  | .part t | .fraction t => fraction? c t
  | .broken => none

def minutes? (colons : Bool) (hour : Nat) (t : Text) : Option Clock := do
  let (minute, rest) ← digits? 2 t
  let c : Clock := ⟨hour, minute, 0, 0, true⟩
  match next colons rest with
  | .done complete => some { c with complete }
  | .part t => seconds? colons hour minute t
  | .fraction t => fraction? c t
  | .broken => none

/-- A time of day. Colons are used throughout or not at all. -/
def clock? (t : Text) : Option Clock := do
  let (hour, rest) ← digits? 2 t
  let colons := rest.head? == some ':'
  let c : Clock := ⟨hour, 0, 0, 0, true⟩
  match next colons rest with
  | .done complete => some { c with complete }
  | .part t => minutes? colons hour t
  | .fraction t => fraction? c t
  | .broken => none

/-- The microseconds of an offset whose length is shown like a time of day. An offset
of less than a second counts as none. -/
def offsetLength (c : Clock) : Nat :=
  let seconds := c.hour * 3600 + c.minute * 60 + c.second
  if seconds = 0 then 0 else seconds * 1000000 + c.microsecond

/-- A time with the offset after it, in microseconds; without an offset it is UTC. -/
def time? (t : Text) : Option (Clock × Int) := do
  let isSign (c : Char) : Bool := c == '+' || c == '-' || c == 'Z'
  let body := t.takeWhile (!isSign ·)
  let c ← clock? body
  match t.dropWhile (!isSign ·) with
  | [] => if c.complete then some (c, 0) else none
  | sign :: offset =>
    if sign == 'Z' then if isEnd offset then some (c, 0) else none
    else
      let o ← clock? offset
      let n := offsetLength o
      if o.complete ∧ n < 86400000000 then some (c, if sign == '-' then -(n : Int) else n)
      else none

/-- Reads an instant whose offset has been spelled out. -/
def readSpelled? (t : Text) : Option Instant := do
  if t.length < 7 then none
  else
    let length := dateLength t
    let (year, month, day) ← date? t length
    let (c, offset) ←
      if 1 < t.length - length then time? (t.drop (length + 1)) else some (⟨0, 0, 0, 0, true⟩, 0)
    let moment : Moment := ⟨year, month, day, c.hour, c.minute, c.second, c.microsecond⟩
    if moment.isValid then some ⟨moment, offset⟩ else none

def read? (t : Text) : Option Instant := readSpelled? (spellOffset t.trim)

example : (read? "2026-02-23T10:00:00.5Z").map Instant.isoText =
    some "2026-02-23T10:00:00.500000+00:00".toList := by decide
example : (read? "2026-02-23-0500").map Instant.isoText =
    some "2026-02-23T05:00:00+00:00".toList := by decide

example : (read? "2026-02-23T10:00:00Z\x00").map Instant.isoText =
    some "2026-02-23T10:00:00+00:00".toList := by decide

end TypedTemplate.Iso
