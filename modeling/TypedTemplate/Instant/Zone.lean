import TypedTemplate.Instant.Basic

/-!
# Time zones

A zone tells the offset from UTC at every time. It lists the changes of the offset;
after the last of them a rule may repeat two changes every year. Times are seconds
from the beginning of 1970.
-/
namespace TypedTemplate

/-- From a time on, an offset. -/
structure Change where
  time : Int
  offset : Int
  deriving DecidableEq, Repr

/-- A day of the week in a month, the fifth being the last and Sunday being 0, and a time
from its beginning by the clock that is in use until then. -/
structure Turn where
  month : Nat
  week : Nat
  weekday : Nat
  second : Int
  deriving DecidableEq, Repr

/-- Two offsets that alternate every year. -/
structure YearlyRule where
  standard : Int
  summer : Int
  start : Turn
  finish : Turn
  deriving DecidableEq, Repr

structure Zone where
  initial : Int
  changes : List Change
  yearly : Option YearlyRule
  deriving DecidableEq, Repr

/-- The seconds from the beginning of year 1 to the beginning of 1970. -/
def epoch : Nat := 719162 * 86400

/-- The time of a turn in a year, by a clock that runs as in UTC. -/
def Turn.inYear (turn : Turn) (year : Nat) : Int :=
  let first := Calendar.dayCount year turn.month 1
  let day := 1 + (7 + turn.weekday - first % 7) % 7 + 7 * (turn.week - 1)
  let day := if Calendar.daysInMonth year turn.month < day then day - 7 else day
  ((first - 1 + day - 1) * 86400 : Nat) + turn.second - epoch

namespace YearlyRule

/-- The offset at a time in a year. Where summer time spans the turn of the year, it
ends before it starts. -/
def offsetAt (rule : YearlyRule) (year : Nat) (time : Int) : Int :=
  let start := rule.start.inYear year - rule.standard
  let finish := rule.finish.inYear year - rule.summer
  let isSummer :=
    if start < finish then decide (start ≤ time ∧ time < finish)
    else !decide (finish ≤ time ∧ time < start)
  if isSummer then rule.summer else rule.standard

end YearlyRule

namespace Zone

def offsetAt (zone : Zone) (time : Int) : Int :=
  let past := zone.changes.takeWhile (·.time ≤ time)
  match zone.yearly, past.getLast? with
  | some rule, some last =>
    if past.length = zone.changes.length ∧ last.time < time then
      let year := (Moment.ofSeconds? (time + epoch) 0).elim 0 (·.year)
      rule.offsetAt year time
    else last.offset
  | _, some last => last.offset
  | _, none => zone.initial

def moment (zone : Zone) (i : Instant) : Except Fault Moment :=
  match Moment.ofSeconds? i.utcSeconds i.utcMicrosecond with
  | none => .error .instantOutOfRange
  | some _ =>
    let offset := zone.offsetAt (i.utcSeconds - epoch)
    match Moment.ofSeconds? (i.utcSeconds + offset) i.utcMicrosecond with
    | some m => .ok m
    | none => .error .instantOutOfRange

end Zone
end TypedTemplate
