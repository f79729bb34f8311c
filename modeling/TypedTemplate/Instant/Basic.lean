import TypedTemplate.Fault
import TypedTemplate.Instant.Calendar

/-!
# Instants

A moment is what clock and calendar show; an instant is a moment together with its
offset from UTC in microseconds. Time is counted from the beginning of year 1.
Instants have to stay in the years 1 to 9999.
-/
namespace TypedTemplate

structure Moment where
  year : Nat
  month : Nat
  day : Nat
  hour : Nat
  minute : Nat
  second : Nat
  microsecond : Nat
  deriving DecidableEq, Repr

structure Instant where
  moment : Moment
  offset : Int
  deriving DecidableEq, Repr

/-- The numeral of a number with zeros in front, up to a width. -/
def padded (width n : Nat) : Text :=
  let digits := Text.ofNat n
  List.replicate (width - digits.length) '0' ++ digits

namespace Moment

/-- The whole seconds since the beginning of year 1. -/
def seconds (m : Moment) : Nat :=
  (Calendar.dayCount m.year m.month m.day - 1) * 86400
    + m.hour * 3600 + m.minute * 60 + m.second

/-- The number of seconds in the years 1 to 9999. -/
def secondLimit : Nat := Calendar.dayCount 9999 12 31 * 86400

/-- The moment after some seconds, unless it leaves the years 1 to 9999. -/
def ofSeconds? (s : Int) (microsecond : Nat) : Option Moment :=
  if s < 0 ∨ (secondLimit : Int) ≤ s then none
  else
    let n := s.toNat
    let (year, month, day) := Calendar.dateOf (n / 86400 + 1)
    let clock := n % 86400
    some
      { year, month, day, hour := clock / 3600, minute := clock / 60 % 60, second := clock % 60
        microsecond }

/-- Whether the moment exists. -/
def isValid (m : Moment) : Bool :=
  Calendar.isDate m.year m.month m.day && m.hour < 24 && m.minute < 60 && m.second < 60

end Moment

namespace Instant

/-- The microseconds since the beginning of year 1 in UTC. -/
def utcMicroseconds (i : Instant) : Int :=
  (i.moment.seconds : Int) * 1000000 + i.moment.microsecond - i.offset

/-- The whole seconds since the beginning of year 1 in UTC. -/
def utcSeconds (i : Instant) : Int := i.utcMicroseconds / 1000000

def utcMicrosecond (i : Instant) : Nat := (i.utcMicroseconds % 1000000).toNat

/-- The offset as it is written, with seconds and microseconds only where there are
some. -/
def offsetText (offset : Int) : Text :=
  let n := offset.natAbs / 1000000
  let rest := offset.natAbs % 1000000
  (if offset < 0 then '-' else '+') :: padded 2 (n / 3600) ++ [':'] ++ padded 2 (n / 60 % 60)
    ++ (if n % 60 = 0 && rest = 0 then [] else ':' :: padded 2 (n % 60))
    ++ (if rest = 0 then [] else '.' :: padded 6 rest)

/-- The instant in ISO form, in its own offset. -/
def isoText (i : Instant) : Text :=
  let m := i.moment
  padded 4 m.year ++ ['-'] ++ padded 2 m.month ++ ['-'] ++ padded 2 m.day ++ ['T']
    ++ padded 2 m.hour ++ [':'] ++ padded 2 m.minute ++ [':'] ++ padded 2 m.second
    ++ (if m.microsecond = 0 then [] else '.' :: padded 6 m.microsecond)
    ++ offsetText i.offset

end Instant
end TypedTemplate
