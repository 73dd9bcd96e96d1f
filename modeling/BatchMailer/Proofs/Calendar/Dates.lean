import BatchMailer.Calendar
import Mathlib.Order.Monotone.Basic

/-!
# BatchMailer.Proofs.Calendar.Dates

Dates and times of day on a clock that shows UTC.

Such a clock shows each instant of the calendar in one way (`Moment.Proper`), and going
to UTC finds it (`Moment.toUtc?_eq_some_iff`).  Its dates follow each other by year,
month and day (`Date.toDay_lt_iff`), and its moments by date and time of day
(`Moment.millis_lt_iff`): a month ends before the next begins, and so does a year, which
is as long as its months (`Calendar.daysBefore_succ`).
-/

namespace BatchMailer

/-! ## years and months -/

namespace Calendar

theorem daysOf_monthLengths (leap : Bool) : daysOf (monthLengths leap) = 365 + leap.toNat := by
  cases leap <;> rfl

/-- A year is as long as its months. -/
theorem daysBefore_succ (year : Nat) :
    daysBefore (year + 1) = daysBefore year + daysOf (monthLengths (isLeap (year + 1))) := by
  have hcentury : year / 100 ≤ year / 4 := Nat.div_le_div_left (by decide) (by decide)
  have hleap : isLeap (year + 1) = true ↔
      4 ∣ year + 1 ∧ (¬ 100 ∣ year + 1 ∨ 400 ∣ year + 1) := by
    simp [isLeap, Nat.dvd_iff_mod_eq_zero]
  have hfour : 100 ∣ year + 1 → 4 ∣ year + 1 := Nat.dvd_trans (by decide)
  have hhundred : 400 ∣ year + 1 → 100 ∣ year + 1 := Nat.dvd_trans (by decide)
  rw [daysOf_monthLengths, daysBefore, daysBefore, Nat.succ_div, Nat.succ_div, Nat.succ_div]
  -- the quotients play no further part, and it matters only which of them grow
  generalize year / 4 = fours at *
  generalize year / 100 = hundreds at *
  generalize year / 400 = cycles
  cases hyear : isLeap (year + 1) with
  | true =>
      obtain ⟨h4, h⟩ := hleap.1 hyear
      rw [if_pos h4, Bool.toNat_true]
      split <;> split <;> omega
  | false =>
      have hcommon := mt hleap.2 (by rw [hyear]; exact Bool.false_ne_true)
      rw [Bool.toNat_false]
      split <;> split <;> split <;> omega

theorem daysBefore_mono {years more : Nat} (h : years ≤ more) :
    daysBefore years ≤ daysBefore more :=
  monotone_nat_of_le_succ (fun year => by rw [daysBefore_succ]; omega) h

theorem yearOf_lt {day : Nat} (h : day < dayCount) : yearOf day < 9999 := by
  have hle := daysBefore_yearOf_le day
  refine Nat.lt_of_not_le fun hyear => ?_
  have hlast : dayCount ≤ daysBefore (yearOf day) := daysBefore_mono hyear
  omega

theorem lt_daysOf_of_yearOf (day : Nat) :
    day - daysBefore (yearOf day) < daysOf (monthLengths (isLeap (yearOf day + 1))) := by
  have hlt := lt_daysBefore_succ_yearOf day
  have hle := daysBefore_yearOf_le day
  have hyear := daysBefore_succ (yearOf day)
  omega

/-- A day of a month lies before the months that follow. -/
theorem daysOf_take_add_lt_take {lengths : List Nat} {months more day : Nat}
    (h : day < lengths.getD months 0) (hlt : months < more) :
    daysOf (lengths.take months) + day < daysOf (lengths.take more) := by
  induction lengths generalizing months more with
  | nil => simp at h
  | cons length rest ih =>
      obtain ⟨more, rfl⟩ := Nat.exists_eq_succ_of_ne_zero (Nat.ne_zero_of_lt hlt)
      cases months with
      | zero =>
          simp only [List.getD_cons_zero] at h
          simp only [List.take_zero, List.take_succ_cons, daysOf]
          omega
      | succ months =>
          have hrest := ih (by simpa using h) (Nat.lt_of_succ_lt_succ hlt)
          simp only [List.take_succ_cons, daysOf]
          omega

theorem lt_length_of_lt_getD {lengths : List Nat} {months day : Nat}
    (h : day < lengths.getD months 0) : months < lengths.length := by
  refine Nat.lt_of_not_le fun hbeyond => ?_
  rw [List.getD_eq_getElem?_getD, List.getElem?_eq_none hbeyond] at h
  exact Nat.not_lt_zero _ h

/-- A day of a year lies in one of its months. -/
theorem monthOf_snd_lt_getD {lengths : List Nat} {day : Nat} (h : day < daysOf lengths) :
    (monthOf lengths day).2 < lengths.getD (monthOf lengths day).1 0 := by
  induction lengths generalizing day with
  | nil => simp [daysOf] at h
  | cons length rest ih =>
      rw [daysOf] at h
      rw [monthOf]
      split
      · simpa
      · simpa using ih (show day - length < daysOf rest by omega)

end Calendar

/-! ## dates -/

/-- A date of the calendar. -/
structure Date.Proper (d : Date) : Prop where
  year : 1 ≤ d.year ∧ d.year ≤ 9999
  month : 1 ≤ d.month
  day : 1 ≤ d.day ∧
    d.day ≤ (Calendar.monthLengths (Calendar.isLeap d.year)).getD (d.month - 1) 0

namespace Date

open Calendar

/-- One date is before another. -/
def Before (d e : Date) : Prop :=
  d.year < e.year ∨ d.year = e.year ∧ (d.month < e.month ∨ d.month = e.month ∧ d.day < e.day)

variable {d e : Date}

/-- A day of a month lies within its year. -/
theorem toDay_lt (hyear : 1 ≤ d.year) (hday : 1 ≤ d.day ∧
    d.day ≤ (monthLengths (isLeap d.year)).getD (d.month - 1) 0) : d.toDay < daysBefore d.year := by
  have hday' := Nat.lt_of_lt_of_le (Nat.sub_lt hday.1 Nat.one_pos) hday.2
  have hwithin := daysOf_take_add_lt_take hday' (lt_length_of_lt_getD hday')
  have hnext := daysBefore_succ (d.year - 1)
  rw [Nat.sub_add_cancel hyear] at hnext
  rw [List.take_length] at hwithin
  rw [toDay]
  omega

theorem Before.toDay_lt (h : d.Before e) (hd : d.Proper) : d.toDay < e.toDay := by
  obtain hyear | ⟨hyear, hmonth | ⟨hmonth, hday⟩⟩ := h
  · calc
      d.toDay < daysBefore d.year := Date.toDay_lt hd.year.1 hd.day
      _ ≤ daysBefore (e.year - 1) := daysBefore_mono (Nat.le_sub_one_of_lt hyear)
      _ ≤ e.toDay := by rw [toDay]; omega
  · obtain ⟨hpos, hlength⟩ := hd.day
    have hmonths := daysOf_take_add_lt_take
      (Nat.lt_of_lt_of_le (Nat.sub_lt hpos Nat.one_pos) hlength)
      (Nat.sub_lt_sub_right hd.month hmonth)
    rw [toDay, toDay, ← hyear]
    omega
  · have hpos := hd.day.1
    rw [toDay, toDay, hyear, hmonth]
    omega

theorem Before.trichotomy (d e : Date) : d.Before e ∨ d = e ∨ e.Before d := by
  obtain ⟨year, month, day⟩ := d
  obtain ⟨year', month', day'⟩ := e
  simp only [Before, mk.injEq]
  omega

/-- Days follow each other as their dates do. -/
theorem toDay_lt_iff (hd : d.Proper) (he : e.Proper) : d.toDay < e.toDay ↔ d.Before e := by
  refine ⟨fun hlt => ?_, fun h => h.toDay_lt hd⟩
  obtain hbefore | rfl | hafter := Before.trichotomy d e
  · exact hbefore
  · exact absurd hlt (Nat.lt_irrefl _)
  · exact absurd hlt (Nat.lt_asymm (hafter.toDay_lt he))

theorem toDay_inj (hd : d.Proper) (he : e.Proper) : d.toDay = e.toDay ↔ d = e := by
  refine ⟨fun heq => ?_, fun h => by rw [h]⟩
  obtain hbefore | hsame | hafter := Before.trichotomy d e
  · exact absurd heq (Nat.ne_of_lt (hbefore.toDay_lt hd))
  · exact hsame
  · exact absurd heq (Nat.ne_of_gt (hafter.toDay_lt he))

end Date

/-! ## moments -/

namespace Moment

/-- A moment of a clock that shows UTC. -/
structure Proper (m : Moment) : Prop where
  date : m.date.Proper
  hour : m.hour < 24
  minute : m.minute < 60
  second : m.second < 60
  microsecond : m.microsecond < 1000000
  offset : m.offset = 0

/-- A moment of a clock that shows UTC, at the instant of another. -/
structure Utc (m u : Moment) : Prop where
  proper : u.Proper
  seconds : u.utcSeconds = m.utcSeconds
  microsecond : u.microsecond = m.microsecond

/-- The millisecond a moment falls into, from the start of the calendar. -/
def millis (m : Moment) : Int := m.utcSeconds * 1000 + (m.microsecond / 1000 : Nat)

variable {m u v : Moment}

theorem Utc.millis_eq (h : m.Utc u) : u.millis = m.millis := by
  rw [millis, millis, h.seconds, h.microsecond]

theorem proper_ofSeconds {seconds microsecond : Nat} (h : seconds < Calendar.dayCount * 86400)
    (hmicro : microsecond < 1000000) : (ofSeconds seconds microsecond).Proper := by
  have hday : seconds / 86400 < Calendar.dayCount := by omega
  have hyear := Calendar.yearOf_lt hday
  have hmonth := Calendar.monthOf_snd_lt_getD (Calendar.lt_daysOf_of_yearOf (seconds / 86400))
  refine ⟨⟨?_, ?_, ?_⟩, ?_, ?_, ?_, hmicro, rfl⟩ <;>
    simp only [ofSeconds, Date.ofDay, Nat.add_sub_cancel] <;> omega

theorem Proper.utcSeconds_eq (hu : u.Proper) :
    u.utcSeconds = (u.date.toDay * 86400 + u.hour * 3600 + u.minute * 60 + u.second : Nat) := by
  rw [utcSeconds, hu.offset]
  omega

theorem Proper.utcSeconds_lt (hu : u.Proper) :
    0 ≤ u.utcSeconds ∧ u.utcSeconds < Calendar.dayCount * 86400 := by
  have hday : u.date.toDay < Calendar.dayCount :=
    Nat.lt_of_lt_of_le (Date.toDay_lt hu.date.year.1 hu.date.day)
      (Calendar.daysBefore_mono hu.date.year.2)
  have hhour := hu.hour
  have hminute := hu.minute
  have hsecond := hu.second
  rw [hu.utcSeconds_eq]
  omega

/-- A clock that shows UTC shows each second in one way. -/
theorem Proper.utcSeconds_eq_iff (hu : u.Proper) (hv : v.Proper) : u.utcSeconds = v.utcSeconds ↔
    u.date = v.date ∧ u.hour = v.hour ∧ u.minute = v.minute ∧ u.second = v.second := by
  have hhour := hu.hour
  have hminute := hu.minute
  have hsecond := hu.second
  have hhour' := hv.hour
  have hminute' := hv.minute
  have hsecond' := hv.second
  rw [hu.utcSeconds_eq, hv.utcSeconds_eq, ← Date.toDay_inj hu.date hv.date]
  omega

/-- Going to UTC finds the moment there, if the calendar has one. -/
theorem toUtc?_eq_some_iff (hm : m.microsecond < 1000000) : m.toUtc? = some u ↔ m.Utc u := by
  have hfound : ∀ w, m.toUtc? = some w → m.Utc w := by
    intro w hw
    obtain ⟨hseconds, hmicro⟩ := utcSeconds_of_toUtc? hw
    simp only [toUtc?, Option.ite_none_right_eq_some, Option.some.injEq] at hw
    obtain ⟨⟨hlow, hhigh⟩, rfl⟩ := hw
    exact ⟨proper_ofSeconds (by omega) hm, hseconds, hmicro⟩
  refine ⟨hfound u, fun h => ?_⟩
  have hrange := h.proper.utcSeconds_lt
  rw [h.seconds] at hrange
  have hthere : m.toUtc? = some (ofSeconds m.utcSeconds.toNat m.microsecond) := if_pos hrange
  have hother := hfound _ hthere
  obtain ⟨hdate, hhour, hminute, hsecond⟩ :=
    (h.proper.utcSeconds_eq_iff hother.proper).1 (h.seconds.trans hother.seconds.symm)
  have hmicro := h.microsecond.trans hother.microsecond.symm
  have hoffset := h.proper.offset.trans hother.proper.offset.symm
  have hsame : u = ofSeconds m.utcSeconds.toNat m.microsecond := by
    cases u
    simp_all
  rw [hthere, hsame]

/-- One clock reading in UTC is before another, down to the millisecond. -/
def Before (u v : Moment) : Prop :=
  u.date.Before v.date ∨ u.date = v.date ∧ (u.hour < v.hour ∨ u.hour = v.hour ∧
    (u.minute < v.minute ∨ u.minute = v.minute ∧ (u.second < v.second ∨ u.second = v.second ∧
      u.microsecond / 1000 < v.microsecond / 1000)))

/-- Instants follow each other as what a clock shows does. -/
theorem millis_lt_iff (hu : u.Proper) (hv : v.Proper) : u.millis < v.millis ↔ u.Before v := by
  have hhour := hu.hour
  have hminute := hu.minute
  have hsecond := hu.second
  have hmicro := hu.microsecond
  have hhour' := hv.hour
  have hminute' := hv.minute
  have hsecond' := hv.second
  have hmicro' := hv.microsecond
  rw [millis, millis, hu.utcSeconds_eq, hv.utcSeconds_eq, Before, ← Date.toDay_lt_iff hu.date hv.date,
    ← Date.toDay_inj hu.date hv.date]
  omega

end Moment

end BatchMailer
