/-!
# BatchMailer.Calendar

Dates of the Gregorian calendar, extended to all years from 1 to 9999, and wall
clock readings at an offset from UTC.

Days are counted from 1 January of year 1, which is day 0.  `Date.ofDay` finds
the year of a day by a guess that is at most one short (`daysBefore_yearOf_le`,
`lt_daysBefore_succ_yearOf`) and then the month by walking the month lengths.
-/

namespace BatchMailer

/-- A day of the calendar. -/
structure Date where
  year : Nat
  month : Nat
  day : Nat
  deriving DecidableEq, Repr

/-- What a wall clock shows: a date, a time of day to the microsecond, and how
many seconds the clock is ahead of UTC. -/
structure Moment where
  date : Date
  hour : Nat
  minute : Nat
  second : Nat
  microsecond : Nat
  offset : Int
  deriving DecidableEq, Repr

namespace Calendar

/-! ## years -/

/-- Whether a year has a 29 February. -/
def isLeap (year : Nat) : Bool := year % 4 == 0 && (year % 100 != 0 || year % 400 == 0)

/-- The days in the first `years` years of the calendar. -/
def daysBefore (years : Nat) : Nat := 365 * years + years / 4 - years / 100 + years / 400

/-- How many whole years lie before a day. -/
def yearOf (day : Nat) : Nat :=
  let guess := day * 400 / 146097
  if daysBefore (guess + 1) ≤ day then guess + 1 else guess

/-- The days of the calendar, up to the last of year 9999. -/
def dayCount : Nat := daysBefore 9999

theorem daysBefore_yearOf_le (day : Nat) : daysBefore (yearOf day) ≤ day := by
  unfold yearOf
  simp only
  split
  · assumption
  · unfold daysBefore
    omega

theorem lt_daysBefore_succ_yearOf (day : Nat) : day < daysBefore (yearOf day + 1) := by
  unfold yearOf
  simp only
  split
  · unfold daysBefore
    omega
  · omega

/-! ## months -/

/-- The lengths of the months of a year. -/
def monthLengths (leap : Bool) : List Nat :=
  [31, if leap then 29 else 28, 31, 30, 31, 30, 31, 31, 30, 31, 30, 31]

/-- The days of some months together. -/
def daysOf : (lengths : List Nat) → Nat
  | [] => 0
  | length :: more => length + daysOf more

/-- How many whole months lie before a day of a year, and which day of its month
it is, both from zero. -/
def monthOf : List Nat → (day : Nat) → Nat × Nat
  | [], day => (0, day)
  | length :: more, day =>
    if day < length then (0, day)
    else
      let (months, rest) := monthOf more (day - length)
      (months + 1, rest)

/-- The months before a day and the day within its month add up to the day. -/
theorem daysOf_take_monthOf (lengths : List Nat) (day : Nat) :
    daysOf (lengths.take (monthOf lengths day).1) + (monthOf lengths day).2 = day := by
  induction lengths generalizing day with
  | nil => simp [monthOf, daysOf]
  | cons length more ih =>
    unfold monthOf
    split
    · simp [daysOf]
    · have := ih (day - length)
      simp only [List.take_succ_cons, daysOf]
      omega

/-! ## dates -/

end Calendar

open Calendar

/-- The count of a date's day from the start of the calendar. -/
def Date.toDay (d : Date) : Nat :=
  daysBefore (d.year - 1) + daysOf ((monthLengths (isLeap d.year)).take (d.month - 1)) + (d.day - 1)

/-- The date of a day. -/
def Date.ofDay (day : Nat) : Date :=
  let years := yearOf day
  let year := years + 1
  let (months, days) := monthOf (monthLengths (isLeap year)) (day - daysBefore years)
  { year, month := months + 1, day := days + 1 }

/-- A day is read back from its date. -/
@[simp] theorem Date.toDay_ofDay (day : Nat) : (Date.ofDay day).toDay = day := by
  have hle := daysBefore_yearOf_le day
  have hmonth := daysOf_take_monthOf (monthLengths (isLeap (yearOf day + 1)))
    (day - daysBefore (yearOf day))
  simp only [Date.ofDay, Date.toDay, Nat.add_sub_cancel]
  omega

/-! ## moments -/

namespace Moment

/-- Seconds from the start of the calendar to a moment, in UTC. -/
def utcSeconds (m : Moment) : Int :=
  m.date.toDay * 86400 + m.hour * 3600 + m.minute * 60 + m.second - m.offset

/-- The moment a count of seconds from the start of the calendar stands for. -/
def ofSeconds (seconds microsecond : Nat) : Moment :=
  let time := seconds % 86400
  { date := Date.ofDay (seconds / 86400)
    hour := time / 3600
    minute := time / 60 % 60
    second := time % 60
    microsecond
    offset := 0 }

/-- The same instant on a clock that shows UTC, if the calendar has a date for
it. -/
def toUtc? (m : Moment) : Option Moment :=
  let seconds := m.utcSeconds
  if 0 ≤ seconds ∧ seconds < dayCount * 86400 then
    some (ofSeconds seconds.toNat m.microsecond)
  else none

/-- A count of seconds is read back from its moment. -/
@[simp] theorem utcSeconds_ofSeconds (seconds microsecond : Nat) :
    (ofSeconds seconds microsecond).utcSeconds = seconds := by
  simp only [ofSeconds, utcSeconds, Date.toDay_ofDay]
  omega

/-- Going to UTC keeps the instant. -/
theorem utcSeconds_of_toUtc? {m u : Moment} (h : m.toUtc? = some u) :
    u.utcSeconds = m.utcSeconds ∧ u.microsecond = m.microsecond := by
  simp only [toUtc?, Option.ite_none_right_eq_some, Option.some.injEq] at h
  obtain ⟨⟨hlow, _⟩, rfl⟩ := h
  refine ⟨?_, rfl⟩
  rw [utcSeconds_ofSeconds]
  omega

end Moment

end BatchMailer
