import Mathlib
import FieldQuery.Proofs.Calendar.Days

/-!
# Days and minutes counted

Every day has a number, and the next day the next one. So clocks that are set apart show times that
are so many minutes apart, also where that is on another day, in another month or another year.
-/

namespace FieldQuery

/-! ## Days of a year -/

/-- The days from year 1 up to the start of a year, less than none for a year before it. -/
def daysBeforeYear (year : Int) : Int :=
  365 * (year - 1) + (year - 1) / 4 - (year - 1) / 100 + (year - 1) / 400

/-- The days of the first so many months of a year. -/
def daysInMonths (year : Int) : (months : Nat) → Nat
  | 0 => 0
  | months + 1 => daysInMonths year months + daysInMonth year (months + 1)

theorem daysInMonths_of_pos {month : Nat} (year : Int) (h : 1 ≤ month) :
    daysInMonths year month = daysInMonths year (month - 1) + daysInMonth year month := by
  obtain ⟨months, rfl⟩ := Nat.exists_eq_add_of_le' h
  rfl

theorem daysInMonths_mono (year : Int) {m n : Nat} (h : m ≤ n) :
    daysInMonths year m ≤ daysInMonths year n := by
  induction n, h using Nat.le_induction with
  | base => exact Nat.le_refl _
  | succ n _ ih => exact ih.trans (Nat.le_add_right _ _)

theorem daysBeforeYear_succ (year : Int) :
    daysBeforeYear (year + 1) = daysBeforeYear year + daysInMonths year 12 := by
  have hdays : daysInMonths year 12 = 337 + daysInMonth year 2 := by
    simp only [daysInMonths, daysInMonth]
    omega
  rw [hdays]
  unfold daysBeforeYear daysInMonth isLeapYear
  simp only [Bool.and_eq_true, Bool.or_eq_true, decide_eq_true_eq]
  split <;> omega

theorem daysBeforeYear_mono {year later : Int} (h : year ≤ later) :
    daysBeforeYear year ≤ daysBeforeYear later := by
  unfold daysBeforeYear
  omega

namespace Date

variable {d e : Date}

/-- The days from the start of year 1 up to the end of the day. -/
def number (d : Date) : Int := daysBeforeYear d.year + daysInMonths d.year (d.month - 1) + d.day

theorem number_le (d : Date) : d.number ≤ daysBeforeYear d.year + daysInMonths d.year d.month := by
  have hday := d.day_range.2
  have hmonths := daysInMonths_of_pos d.year d.month_range.1
  unfold number
  omega

theorem lt_number (d : Date) :
    daysBeforeYear d.year + daysInMonths d.year (d.month - 1) < d.number := by
  have hday := d.day_range.1
  unfold number
  omega

theorem number_lt_of_month_lt (hyear : d.year = e.year) (h : d.month < e.month) :
    d.number < e.number := by
  have hd := d.number_le
  have he := e.lt_number
  have hmonths := daysInMonths_mono e.year (Nat.le_sub_one_of_lt h)
  rw [hyear] at hd
  omega

theorem number_lt_of_year_lt (h : d.year < e.year) : d.number < e.number := by
  have hd := d.number_le
  have he := e.lt_number
  have hmonths := daysInMonths_mono d.year d.month_range.2
  have hnext := daysBeforeYear_succ d.year
  have hyears := daysBeforeYear_mono (show d.year + 1 ≤ e.year by omega)
  omega

theorem number_inj (h : d.number = e.number) : d = e := by
  have hyear : d.year = e.year := by
    rcases Int.lt_trichotomy d.year e.year with hlt | heq | hgt
    · exact absurd h (number_lt_of_year_lt hlt).ne
    · exact heq
    · exact absurd h (number_lt_of_year_lt hgt).ne'
  have hmonth : d.month = e.month := by
    rcases Nat.lt_trichotomy d.month e.month with hlt | heq | hgt
    · exact absurd h (number_lt_of_month_lt hyear hlt).ne
    · exact heq
    · exact absurd h (number_lt_of_month_lt hyear.symm hgt).ne'
  have hday : d.day = e.day := by
    unfold number at h
    rw [hyear, hmonth] at h
    omega
  exact ext_numbers hyear hmonth hday

/-! ## The next day and the day before -/

theorem number_next (h : d.next? = some e) : e.number = d.number + 1 := by
  have hend := d.day_range.2
  have hmonths := daysInMonths_of_pos d.year d.month_range.1
  unfold next? at h
  split at h
  case isTrue hwithin =>
    obtain ⟨hyear, hmonth, hday⟩ := of?_eq_some h
    simp only [number, hyear, hmonth, hday]
    omega
  case isFalse hlast =>
    split at h
    case isTrue hwithin =>
      obtain ⟨hyear, hmonth, hday⟩ := of?_eq_some h
      simp only [number, hyear, hmonth, hday, Nat.add_sub_cancel]
      omega
    case isFalse hbeyond =>
      obtain ⟨hyear, hmonth, hday⟩ := of?_eq_some h
      have hlength := daysBeforeYear_succ d.year
      have hdecember : d.month = 12 := by
        have hrange := d.month_range.2
        omega
      have hnone : daysInMonths (d.year + 1) (1 - 1) = 0 := rfl
      rw [hdecember] at hmonths hend hlast
      simp only [number, hyear, hmonth, hday, hdecember, hnone]
      omega

theorem number_prev (h : d.prev? = some e) : e.number = d.number - 1 := by
  have hstart := d.day_range.1
  unfold prev? at h
  split at h
  case isTrue hwithin =>
    obtain ⟨hyear, hmonth, hday⟩ := of?_eq_some h
    simp only [number, hyear, hmonth, hday]
    omega
  case isFalse hfirst =>
    split at h
    case isTrue hwithin =>
      obtain ⟨hyear, hmonth, hday⟩ := of?_eq_some h
      have hmonths := daysInMonths_of_pos d.year (show 1 ≤ d.month - 1 by omega)
      simp only [number, hyear, hmonth, hday]
      omega
    case isFalse hbefore =>
      obtain ⟨hyear, hmonth, hday⟩ := of?_eq_some h
      have hlength := daysBeforeYear_succ (d.year - 1)
      have hmonths : daysInMonths (d.year - 1) 12 = daysInMonths (d.year - 1) (12 - 1) + 31 := rfl
      have hjanuary : d.month - 1 = 0 := by omega
      have hnone : daysInMonths d.year 0 = 0 := rfl
      rw [Int.sub_add_cancel] at hlength
      simp only [number, hyear, hmonth, hday, hjanuary, hnone]
      omega

theorem next?_ne_none (h : d.year < 262142) : d.next? ≠ none := by
  rw [ne_eq, next?_eq_none_iff]
  rintro rfl
  exact absurd h (by decide)

theorem prev?_ne_none (h : -262143 < d.year) : d.prev? ≠ none := by
  have hyear := d.year_range
  have hmonth := d.month_range
  have hday := d.day_range
  unfold prev?
  split
  case isTrue hwithin =>
    rw [ne_eq, of?_eq_none_iff]
    omega
  case isFalse hfirst =>
    split
    case isTrue hwithin =>
      have hlength := le_daysInMonth d.year (d.month - 1)
      rw [ne_eq, of?_eq_none_iff]
      omega
    case isFalse hjanuary =>
      have hlength : daysInMonth (d.year - 1) 12 = 31 := rfl
      rw [ne_eq, of?_eq_none_iff]
      omega

end Date

/-! ## Clocks set apart -/

namespace DateTime

variable {t u clock : DateTime} {offset : Int}

/-- The whole minutes up to the point in time. -/
def minutes (t : DateTime) : Int :=
  t.date.number * 1440 + (t.time.hour * 60 + t.time.minute : Nat)

/-- What a clock shows at a point in time that is set so many minutes ahead. The seconds are the
same on all clocks. -/
structure IsAhead (offset : Int) (t clock : DateTime) : Prop where
  minutes : clock.minutes = t.minutes + offset
  second : clock.time.second = t.time.second
  nanosecond : clock.time.nanosecond = t.time.nanosecond

theorem eq_of_minutes (hminutes : t.minutes = u.minutes) (hsecond : t.time.second = u.time.second)
    (hnanosecond : t.time.nanosecond = u.time.nanosecond) : t = u := by
  have ht := t.time.hour_lt
  have hu := u.time.hour_lt
  have ht' := t.time.minute_lt
  have hu' := u.time.minute_lt
  unfold minutes at hminutes
  have hdate : t.date = u.date := Date.number_inj (by omega)
  have hhour : t.time.hour = u.time.hour := by omega
  have hminute : t.time.minute = u.time.minute := by omega
  obtain ⟨date, ⟨⟩⟩ := t
  obtain ⟨date', ⟨⟩⟩ := u
  simp_all

/-- The day that is shown so many minutes after the start of a day, for less than a day either way
from it. -/
def dateAfter? (d : Date) (minutes : Int) : Option Date :=
  if minutes < 0 then d.prev? else if 1440 ≤ minutes then d.next? else some d

theorem exists_dateAfter {d : Date} {minutes : Int} (hminutes : -1440 ≤ minutes ∧ minutes < 2880)
    (hyear : -262143 < d.year ∧ d.year < 262142) :
    ∃ e, dateAfter? d minutes = some e ∧ e.number = d.number + minutes / 1440 := by
  unfold dateAfter?
  split
  case isTrue hneg =>
    obtain ⟨e, he⟩ := Option.ne_none_iff_exists'.mp (Date.prev?_ne_none hyear.1)
    have hnumber := Date.number_prev he
    exact ⟨e, he, by omega⟩
  case isFalse hnonneg =>
    split
    case isTrue hlate =>
      obtain ⟨e, he⟩ := Option.ne_none_iff_exists'.mp (Date.next?_ne_none hyear.2)
      have hnumber := Date.number_next he
      exact ⟨e, he, by omega⟩
    case isFalse hwithin => exact ⟨d, rfl, by omega⟩

theorem behind?_eq (t : DateTime) (offset : Int) :
    t.behind? offset =
      let total := (t.time.hour * 60 + t.time.minute : Nat) - offset
      let ofDay := (total % 1440).toNat
      (dateAfter? t.date total).bind fun date =>
        (TimeOfDay.of? (ofDay / 60) (ofDay % 60) t.time.second t.time.nanosecond).bind
          fun time => some ⟨date, time⟩ := by
  unfold behind? dateAfter?
  extract_lets total ofDay next
  split
  · rfl
  · split <;> rfl

theorem of?_clock {ofDay : Nat} (h : ofDay < 1440) (t : TimeOfDay) :
    ∃ time, TimeOfDay.of? (ofDay / 60) (ofDay % 60) t.second t.nanosecond = some time ∧
      time.hour * 60 + time.minute = ofDay ∧ time.second = t.second ∧
      time.nanosecond = t.nanosecond := by
  have hhour : ofDay / 60 < 24 := by omega
  have hminute : ofDay % 60 < 60 := Nat.mod_lt _ (by decide)
  exact ⟨⟨_, _, _, _, hhour, hminute, t.second_le, t.nanosecond_lt⟩,
    dif_pos ⟨hhour, hminute, t.second_le, t.nanosecond_lt⟩, Nat.div_add_mod' ofDay 60, rfl, rfl⟩

/-- A clock that is set ahead is read by setting it back. -/
theorem behind?_of_isAhead (h : IsAhead offset t clock) (hoffset : -1440 < offset ∧ offset < 1440)
    (hyear : -262143 < clock.date.year ∧ clock.date.year < 262142) :
    clock.behind? offset = some t := by
  have hhour := clock.time.hour_lt
  have hminute := clock.time.minute_lt
  rw [behind?_eq]
  extract_lets total ofDay
  have htotal : total = (clock.time.hour * 60 + clock.time.minute : Nat) - offset := rfl
  have hnear : -1440 ≤ total ∧ total < 2880 := by omega
  obtain ⟨date, hdate, hnumber⟩ := exists_dateAfter hnear hyear
  have hofDay : (ofDay : Int) = total % 1440 := Int.toNat_of_nonneg (by omega)
  have hwithin : ofDay < 1440 := by omega
  obtain ⟨time, htime, hminutes, hsecond, hnanosecond⟩ := of?_clock hwithin clock.time
  rw [hdate, htime]
  refine congrArg some (eq_of_minutes ?_ (hsecond.trans h.second) (hnanosecond.trans h.nanosecond))
  have hclock := h.minutes
  simp only [minutes] at hclock ⊢
  omega

end DateTime

end FieldQuery
