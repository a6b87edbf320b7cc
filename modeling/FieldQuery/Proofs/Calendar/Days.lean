import Mathlib
import FieldQuery.Calendar.DateTime

/-!
# Days in order

A day is followed by another, with no day between them, and only the last one is not. So a point in
time is on a day exactly if it lies between the midnights that begin the day and the next one.
-/

namespace FieldQuery

/-! ## Days of a month -/

theorem daysInMonth_le (year : Int) (month : Nat) : daysInMonth year month ≤ 31 := by
  unfold daysInMonth
  split
  · split <;> omega
  all_goals omega

theorem le_daysInMonth (year : Int) (month : Nat) : 28 ≤ daysInMonth year month := by
  unfold daysInMonth
  split
  · split <;> omega
  all_goals omega

namespace Date

variable {d e : Date}

theorem of?_self (d : Date) : of? d.year d.month d.day = some d :=
  dif_pos ⟨d.year_range, d.month_range, d.day_range⟩

theorem of?_eq_some {year : Int} {month day : Nat} (h : of? year month day = some d) :
    d.year = year ∧ d.month = month ∧ d.day = day := by
  unfold of? at h
  split at h
  · cases h
    exact ⟨rfl, rfl, rfl⟩
  · cases h

theorem of?_eq_none_iff {year : Int} {month day : Nat} :
    of? year month day = none ↔
      ¬ ((-262143 ≤ year ∧ year ≤ 262142) ∧ (1 ≤ month ∧ month ≤ 12) ∧
        (1 ≤ day ∧ day ≤ daysInMonth year month)) := by
  unfold of?
  split <;> simp_all

theorem ext_numbers (hyear : d.year = e.year) (hmonth : d.month = e.month)
    (hday : d.day = e.day) : d = e := by
  have hself := of?_self d
  rw [hyear, hmonth, hday, of?_self e] at hself
  exact (Option.some.inj hself).symm

/-! ## The order of days -/

/-- Counts days so that no month has more than 32 of them. -/
def place (d : Date) : Int := (d.year * 12 + d.month) * 32 + d.day

theorem day_lt (d : Date) : 1 ≤ d.day ∧ d.day < 32 :=
  ⟨d.day_range.1, Nat.lt_succ_of_le (d.day_range.2.trans (daysInMonth_le d.year d.month))⟩

theorem compare_eq_lt_iff (d e : Date) : d.compare e = .lt ↔ d.place < e.place := by
  have hd := d.day_lt
  have he := e.day_lt
  have hdm := d.month_range
  have hem := e.month_range
  simp only [compare, place, Ordering.then_eq_lt, Int.compare_eq_lt, Int.compare_eq_eq,
    Nat.compare_eq_lt, Nat.compare_eq_eq]
  omega

theorem place_inj (h : d.place = e.place) : d = e := by
  have hd := d.day_lt
  have he := e.day_lt
  have hdm := d.month_range
  have hem := e.month_range
  unfold place at h
  exact ext_numbers (by omega) (by omega) (by omega)

/-! ## The next day -/

/-- The day after the last one of a month is the first one of the next. -/
theorem place_lt_next (h : d.next? = some e) (x : Date) :
    x.place < e.place ↔ x.place ≤ d.place := by
  have hx := x.day_lt
  have hd := d.day_lt
  have hxm := x.month_range
  have hdm := d.month_range
  have hxd := x.day_range.2
  unfold next? at h
  split at h
  case isTrue hwithin =>
    obtain ⟨hyear, hmonth, hday⟩ := of?_eq_some h
    simp only [place, hyear, hmonth, hday]
    omega
  case isFalse hlast =>
    have hfull : x.year = d.year → x.month = d.month → x.day ≤ d.day := by
      intro hyear hmonth
      rw [hyear, hmonth] at hxd
      omega
    split at h
    case isTrue hwithin =>
      obtain ⟨hyear, hmonth, hday⟩ := of?_eq_some h
      simp only [place, hyear, hmonth, hday]
      omega
    case isFalse hlast =>
      obtain ⟨hyear, hmonth, hday⟩ := of?_eq_some h
      simp only [place, hyear, hmonth, hday]
      omega

def last : Date := ⟨262142, 12, 31, by decide, by decide, by decide⟩

theorem next?_eq_none_iff : d.next? = none ↔ d = last := by
  constructor
  · intro h
    have hyear := d.year_range
    have hmonth := d.month_range
    have hday := d.day_range
    unfold next? at h
    split at h
    case isTrue hwithin =>
      rw [of?_eq_none_iff] at h
      omega
    case isFalse hfull =>
      split at h
      case isTrue hwithin =>
        have hfirst := le_daysInMonth d.year (d.month + 1)
        rw [of?_eq_none_iff] at h
        omega
      case isFalse hdecember =>
        have hfirst := le_daysInMonth (d.year + 1) 1
        have hlength : daysInMonth d.year 12 = 31 := rfl
        have hmonth : d.month = 12 := by omega
        rw [of?_eq_none_iff] at h
        rw [hmonth] at hfull hday
        exact ext_numbers (by simp only [last]; omega) hmonth (by simp only [last]; omega)
  · rintro rfl
    rfl

end Date

/-! ## Points in time on a day -/

theorem TimeOfDay.compare_midnight_ne_lt (t : TimeOfDay) : t.compare .midnight ≠ .lt := by
  simp [compare, midnight, Ordering.then_eq_lt, Nat.compare_eq_lt]

namespace DateTime

theorem compare_midnight (t : DateTime) (d : Date) :
    t.compare ⟨d, .midnight⟩ = .lt ↔ t.date.place < d.place := by
  rw [← Date.compare_eq_lt_iff]
  simp [compare, Ordering.then_eq_lt, TimeOfDay.compare_midnight_ne_lt]

theorem date_eq_iff_between {d e : Date} (h : d.next? = some e) (t : DateTime) :
    t.date = d ↔ t.compare ⟨d, .midnight⟩ ≠ .lt ∧ t.compare ⟨e, .midnight⟩ = .lt := by
  simp only [ne_eq, compare_midnight, Date.place_lt_next h, Int.not_lt]
  constructor
  · rintro rfl
    exact ⟨Int.le_refl _, Int.le_refl _⟩
  · rintro ⟨hstart, hstop⟩
    exact Date.place_inj (Int.le_antisymm hstop hstart)

theorem nextDay?_midnight (d : Date) :
    (⟨d, .midnight⟩ : DateTime).nextDay? = d.next?.map fun e => ⟨e, .midnight⟩ := rfl

theorem compare_nextDay? {t u : DateTime} (h : t.nextDay? = some u) : t.compare u = .lt := by
  obtain ⟨e, hnext, rfl⟩ := Option.map_eq_some_iff.mp h
  have hplace : t.date.place < e.place := (Date.place_lt_next hnext t.date).mpr (Int.le_refl _)
  rw [compare, (Date.compare_eq_lt_iff t.date e).mpr hplace]
  rfl

end DateTime

end FieldQuery
