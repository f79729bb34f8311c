/-!
# Calendar

Days of the Gregorian calendar, counted from the first day of year 1, and the
weeks of the ISO calendar, whose first week of a year is the one with the first
Thursday. Day 1 is a Monday.
-/
namespace TypedTemplate.Calendar

def isLeap (year : Nat) : Bool := year % 4 == 0 && (year % 100 != 0 || year % 400 == 0)

def daysInMonth (year month : Nat) : Nat :=
  if month = 2 then if isLeap year then 29 else 28
  else if month = 4 ∨ month = 6 ∨ month = 9 ∨ month = 11 then 30
  else 31

def daysBeforeYear (year : Nat) : Nat :=
  let y := year - 1
  y * 365 + y / 4 - y / 100 + y / 400

def daysBeforeMonth (year month : Nat) : Nat :=
  (List.range (month - 1)).foldl (fun days m => days + daysInMonth year (m + 1)) 0

def dayCount (year month day : Nat) : Nat :=
  daysBeforeYear year + daysBeforeMonth year month + day

/-- The month and the day of a day of a year, counted from zero. The first argument
bounds the months still to be passed. -/
def monthAndDay (year : Nat) : Nat → Nat → Nat → Nat × Nat
  | 0, month, rest => (month, rest + 1)
  | fuel + 1, month, rest =>
    if rest < daysInMonth year month then (month, rest + 1)
    else monthAndDay year fuel (month + 1) (rest - daysInMonth year month)

def dateOf (count : Nat) : Nat × Nat × Nat :=
  let n := count - 1
  let cycles := n / 146097
  let n := n % 146097
  let centuries := n / 36524
  let n := n % 36524
  let fours := n / 1461
  let n := n % 1461
  let years := n / 365
  let year := 400 * cycles + 100 * centuries + 4 * fours + years + 1
  if years = 4 ∨ centuries = 4 then (year - 1, 12, 31)
  else
    let (month, day) := monthAndDay year 12 1 (n % 365)
    (year, month, day)

/-- Whether a year of the ISO calendar has 53 weeks. -/
def hasLongYear (year : Nat) : Bool :=
  let first := dayCount year 1 1 % 7
  first == 4 || (first == 3 && isLeap year)

/-- The count of the Monday of the first ISO week of a year, one too high so that it
is never negative. -/
def firstMonday (year : Nat) : Nat :=
  let first := dayCount year 1 1
  let weekday := (first + 6) % 7
  if weekday ≤ 3 then first + 1 - weekday else first + 8 - weekday

/-- The date of a day of an ISO week, if there is such a day. -/
def ofWeek? (year week day : Nat) : Option (Nat × Nat × Nat) :=
  if year = 0 ∨ day = 0 ∨ 7 < day ∨ week = 0 then none
  else if 53 < week ∨ (week = 53 ∧ !hasLongYear year) then none
  else
    let count := firstMonday year - 1 + 7 * (week - 1) + (day - 1)
    if count = 0 then none else some (dateOf count)

/-- Whether a date exists and lies in the years 1 to 9999. -/
def isDate (year month day : Nat) : Bool :=
  1 ≤ year && year ≤ 9999 && 1 ≤ month && month ≤ 12 && 1 ≤ day && day ≤ daysInMonth year month

example : dayCount 1970 1 1 = 719163 := by decide
example : dateOf 719163 = (1970, 1, 1) := by decide
example : dateOf (dayCount 2024 12 31) = (2024, 12, 31) := by decide
example : ofWeek? 2026 53 7 = some (2027, 1, 3) := by decide

end TypedTemplate.Calendar
