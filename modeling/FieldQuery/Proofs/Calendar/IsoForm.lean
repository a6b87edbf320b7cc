import Mathlib
import FieldQuery.Proofs.Calendar.Days
import FieldQuery.Proofs.Calendar.Numerals
import FieldQuery.Query.Parameter

/-!
# The ISO form read back

What the ISO form of a date and a time of day is, and that reading it gives back the date and the
time it was written for.
-/

namespace FieldQuery

theorem TimeOfDay.of?_self (t : TimeOfDay) :
    TimeOfDay.of? t.hour t.minute t.second t.nanosecond = some t :=
  dif_pos ⟨t.hour_lt, t.minute_lt, t.second_le, t.nanosecond_lt⟩

namespace Calendar

/-! ## The form -/

/-- A year from 0 to 9999 has four digits. Any other has a sign, and four digits or more. -/
inductive IsYear : Int → List Char → Prop
  | plain {n : Nat} {ds : List Char} (numeral : IsNumeral n ds) (length : ds.length = 4) :
      IsYear n ds
  | before {n : Nat} {ds : List Char} (numeral : IsNumeral n ds) (length : 4 ≤ ds.length)
      (pos : 0 < n) : IsYear (-n) ('-' :: ds)
  | after {n : Nat} {ds : List Char} (numeral : IsNumeral n ds) (length : 4 ≤ ds.length)
      (beyond : 9999 < n) : IsYear n ('+' :: ds)

/-- Nothing for no nanoseconds, and else a point and the fewest of 3, 6 or 9 digits that are
exact. -/
inductive IsFraction : Nat → List Char → Prop
  | whole : IsFraction 0 []
  | digits {n : Nat} {ds : List Char} (numeral : IsNumeral n ds)
      (length : ds.length = 3 ∨ ds.length = 6 ∨ ds.length = 9) (fewest : ¬ 1000 ∣ n) :
      IsFraction (n * 10 ^ (9 - ds.length)) ('.' :: ds)

/-- Nothing for no nanoseconds, or else a point and any digits that are exact. -/
inductive IsExactFraction : Nat → List Char → Prop
  | whole : IsExactFraction 0 []
  | digits {n nanosecond : Nat} {ds : List Char} (numeral : IsNumeral n ds) (ne_nil : ds ≠ [])
      (exact : n * 10 ^ 9 = nanosecond * 10 ^ ds.length) : IsExactFraction nanosecond ('.' :: ds)

inductive IsoDate (d : Date) : List Char → Prop
  | intro {year month day : List Char} (year_form : IsYear d.year year)
      (month_form : IsPair d.month month) (day_form : IsPair d.day day) :
      IsoDate d (year ++ '-' :: month ++ '-' :: day)

inductive IsoTime (t : TimeOfDay) : List Char → Prop
  | intro {hour minute second fraction : List Char} (hour_form : IsPair t.hour hour)
      (minute_form : IsPair t.minute minute) (second_form : IsPair t.second second)
      (fraction_form : IsFraction t.nanosecond fraction) :
      IsoTime t (hour ++ ':' :: minute ++ ':' :: second ++ fraction)

/-- As in the ISO form, with any fraction that is exact. -/
inductive IsExactTime (t : TimeOfDay) : List Char → Prop
  | intro {hour minute second fraction : List Char} (hour_form : IsPair t.hour hour)
      (minute_form : IsPair t.minute minute) (second_form : IsPair t.second second)
      (fraction_form : IsExactFraction t.nanosecond fraction) :
      IsExactTime t (hour ++ ':' :: minute ++ ':' :: second ++ fraction)

inductive IsoForm (t : DateTime) : List Char → Prop
  | intro {date time : List Char} (date_form : IsoDate t.date date)
      (time_form : IsoTime t.time time) : IsoForm t (date ++ 'T' :: time)

/-! ## What is written has the form -/

theorem isYear_isoYear (year : Int) : IsYear year (isoYear year) := by
  have hnumeral := isNumeral_padded 4 year.natAbs
  have hlength : 4 ≤ (padded 4 year.natAbs).length := by
    rw [length_padded]
    omega
  unfold isoYear
  split
  case isTrue hneg =>
    have hyear : year = -(year.natAbs : Int) := by omega
    rw [hyear, Int.natAbs_neg, Int.natAbs_natCast]
    exact .before hnumeral hlength (by omega)
  case isFalse hneg =>
    have hyear : year = (year.natAbs : Int) := by omega
    split
    case isTrue hbeyond =>
      rw [hyear, Int.natAbs_natCast]
      exact .after hnumeral hlength (by omega)
    case isFalse hbeyond =>
      rw [hyear, Int.natAbs_natCast]
      exact .plain hnumeral (length_padded_of_lt (by decide) (by omega))

theorem isFraction_padded {width n : Nat} (hwidth : width = 3 ∨ width = 6 ∨ width = 9)
    (hn : n < 10 ^ width) (hfewest : ¬ 1000 ∣ n) :
    IsFraction (n * 10 ^ (9 - width)) ('.' :: padded width n) := by
  have hlength : (padded width n).length = width := length_padded_of_lt (by omega) hn
  have hform := IsFraction.digits (isNumeral_padded width n) (by rwa [hlength]) hfewest
  rwa [hlength] at hform

theorem isFraction_isoFraction {nanosecond : Nat} (h : nanosecond < 1000000000) :
    IsFraction nanosecond (isoFraction nanosecond) := by
  unfold isoFraction
  split
  case isTrue hzero =>
    rw [hzero]
    exact .whole
  case isFalse hzero =>
    split
    case isTrue hmilli =>
      have hform := isFraction_padded (.inl rfl) (n := nanosecond / 1000000) (by omega) (by omega)
      rwa [show nanosecond / 1000000 * 10 ^ (9 - 3) = nanosecond by omega] at hform
    case isFalse hmilli =>
      split
      case isTrue hmicro =>
        have hform :=
          isFraction_padded (.inr (.inl rfl)) (n := nanosecond / 1000) (by omega) (by omega)
        rwa [show nanosecond / 1000 * 10 ^ (9 - 6) = nanosecond by omega] at hform
      case isFalse hmicro =>
        have hform := isFraction_padded (.inr (.inr rfl)) (n := nanosecond) (by omega) (by omega)
        rwa [show nanosecond * 10 ^ (9 - 9) = nanosecond by omega] at hform

theorem isoDate_iso (d : Date) : IsoDate d d.iso := by
  have hday := d.day_range.2.trans (daysInMonth_le d.year d.month)
  have hmonth := d.month_range.2
  exact .intro (isYear_isoYear d.year) (isPair_padded (by omega)) (isPair_padded (by omega))

theorem isoTime_iso (t : TimeOfDay) : IsoTime t t.iso := by
  have hhour := t.hour_lt
  have hminute := t.minute_lt
  have hsecond := t.second_le
  exact .intro (isPair_padded (by omega)) (isPair_padded (by omega)) (isPair_padded (by omega))
    (isFraction_isoFraction t.nanosecond_lt)

theorem isoForm_iso (t : DateTime) : IsoForm t t.iso.toList := by
  rw [DateTime.iso, String.toList_ofList]
  exact .intro (isoDate_iso t.date) (isoTime_iso t.time)

/-! ## No blanks -/

def NoBlanks (cs : List Char) : Prop := ∀ c ∈ cs, Text.isBlank c = false

theorem noBlanks_append {cs ds : List Char} :
    NoBlanks (cs ++ ds) ↔ NoBlanks cs ∧ NoBlanks ds := List.forall_mem_append

theorem noBlanks_cons {c : Char} {cs : List Char} :
    NoBlanks (c :: cs) ↔ Text.isBlank c = false ∧ NoBlanks cs := List.forall_mem_cons

variable {d : Date} {t : DateTime} {n : Nat} {year : Int} {cs rest : List Char}

theorem IsNumeral.noBlanks (h : IsNumeral n cs) : NoBlanks cs :=
  fun c hc => Text.isBlank_of_isDigit (h.digits c hc)

theorem IsYear.noBlanks (h : IsYear year cs) : NoBlanks cs := by
  cases h with
  | plain numeral => exact numeral.noBlanks
  | before numeral => exact noBlanks_cons.mpr ⟨rfl, numeral.noBlanks⟩
  | after numeral => exact noBlanks_cons.mpr ⟨rfl, numeral.noBlanks⟩

theorem IsFraction.noBlanks (h : IsFraction n cs) : NoBlanks cs := by
  cases h with
  | whole => exact List.forall_mem_nil _
  | digits numeral => exact noBlanks_cons.mpr ⟨rfl, numeral.noBlanks⟩

theorem IsoDate.noBlanks (h : IsoDate d cs) : NoBlanks cs := by
  obtain ⟨hyear, hmonth, hday⟩ := h
  simp only [noBlanks_append, noBlanks_cons]
  exact ⟨⟨hyear.noBlanks, rfl, hmonth.noBlanks⟩, rfl, hday.noBlanks⟩

theorem IsoTime.noBlanks {t : TimeOfDay} (h : IsoTime t cs) : NoBlanks cs := by
  obtain ⟨hhour, hminute, hsecond, hfraction⟩ := h
  simp only [noBlanks_append, noBlanks_cons]
  exact ⟨⟨⟨hhour.noBlanks, rfl, hminute.noBlanks⟩, rfl, hsecond.noBlanks⟩, hfraction.noBlanks⟩

theorem IsoForm.noBlanks (h : IsoForm t cs) : NoBlanks cs := by
  obtain ⟨hdate, htime⟩ := h
  rw [noBlanks_append, noBlanks_cons]
  exact ⟨hdate.noBlanks, rfl, htime.noBlanks⟩

/-! ## Reading the parts -/

theorem year?_append (h : IsYear year cs) (hrest : NoDigitFirst rest) :
    year? (cs ++ rest) = some (year, rest) := by
  cases h with
  | plain numeral length =>
    have hne : cs ≠ [] := by
      rintro rfl
      cases length
    rw [year?, skipBlanks_append numeral hne]
    -- The text starts with a digit, not with a sign.
    split
    case h_1 tail heq => exact absurd (numeral.isDigit_first hne heq) (by decide)
    case h_2 tail heq => exact absurd (numeral.isDigit_first hne heq) (by decide)
    case h_3 =>
      rw [digits?_append numeral (by omega) (by omega) (.inl length)]
      rfl
  | @before n ds numeral length =>
    have hread : digits? 1 (ds ++ rest).length (ds ++ rest) = some (n, rest) :=
      digits?_append numeral (by omega) (by simp) (.inr hrest)
    have hskip : skipBlanks ('-' :: ds ++ rest) = '-' :: (ds ++ rest) := rfl
    simp only [year?, hskip, hread, Option.map_some]
  | @after n ds numeral length =>
    have hread : digits? 1 (ds ++ rest).length (ds ++ rest) = some (n, rest) :=
      digits?_append numeral (by omega) (by simp) (.inr hrest)
    have hskip : skipBlanks ('+' :: ds ++ rest) = '+' :: (ds ++ rest) := rfl
    simp only [year?, hskip, hread, Option.map_some]

/-- No fraction goes on into the text. -/
def EndsFraction (rest : List Char) : Prop := ∀ c ∈ rest.head?, c.isDigit = false ∧ c ≠ '.'

theorem endsFraction_nil : EndsFraction [] := by simp [EndsFraction]

theorem fraction?_append (h : IsExactFraction n cs) (hrest : EndsFraction rest) :
    fraction? (cs ++ rest) = some (n, rest) := by
  cases h with
  | whole =>
    rw [List.nil_append]
    unfold fraction?
    split
    case h_1 => exact absurd rfl (hrest '.' rfl).2
    case h_2 => rfl
  | digits numeral ne_nil exact =>
    exact nanoseconds?_exact numeral ne_nil exact fun c hc => (hrest c hc).1

theorem IsFraction.exact (h : IsFraction n cs) : IsExactFraction n cs := by
  cases h with
  | whole => exact .whole
  | @digits m ds numeral length =>
    have hne : ds ≠ [] := by
      rintro rfl
      simp at length
    refine .digits numeral hne ?_
    rw [Nat.mul_assoc, ← Nat.pow_add, Nat.sub_add_cancel (by omega)]

theorem IsoTime.exact {t : TimeOfDay} (h : IsoTime t cs) : IsExactTime t cs := by
  obtain ⟨hhour, hminute, hsecond, hfraction⟩ := h
  exact .intro hhour hminute hsecond hfraction.exact

theorem expect?_cons (c : Char) (rest : List Char) : expect? c (c :: rest) = some rest :=
  if_pos rfl

theorem noDigitFirst_dash (rest : List Char) : NoDigitFirst ('-' :: rest) := noDigitFirst_cons rfl

theorem date?_append (h : IsoDate d cs) (rest : List Char) :
    date? (cs ++ rest) = some (d, rest) := by
  obtain ⟨hyear, hmonth, hday⟩ := h
  simp only [date?, List.append_assoc, List.cons_append, Option.bind_eq_bind, Option.bind_some,
    year?_append hyear (noDigitFirst_dash _), expect?_cons, twoDigits?_append hmonth,
    twoDigits?_append hday, Date.of?_self]
  rfl

theorem time?_of_isoTime {t : TimeOfDay} (h : IsoTime t cs) : time? cs = some (t, []) := by
  obtain ⟨hhour, hminute, hsecond, hfraction⟩ := h
  have hread := fraction?_append hfraction.exact endsFraction_nil
  rw [List.append_nil] at hread
  simp only [time?, List.append_assoc, List.cons_append, Option.bind_eq_bind, Option.bind_some,
    expect?_cons, twoDigits?_append hhour, twoDigits?_append hminute, twoDigits?_append hsecond,
    hread, TimeOfDay.of?_self]
  rfl

theorem dateTime?_of_isoForm (h : IsoForm t cs) :
    dateTime? (expect? 'T') cs = some (t, []) := by
  obtain ⟨hdate, htime⟩ := h
  simp only [dateTime?, Option.bind_eq_bind, Option.bind_some, date?_append hdate, expect?_cons,
    time?_of_isoTime htime]
  rfl

theorem digits?_fourDigits (h : IsYear year cs) (hyear : 0 ≤ year ∧ year ≤ 9999) :
    ∃ n : Nat, year = n ∧ ∀ rest, digits? 4 4 (cs ++ rest) = some (n, rest) := by
  cases h with
  | @plain n ds numeral length =>
    exact ⟨n, rfl, fun rest => digits?_append numeral (by omega) (by omega) (.inl length)⟩
  | before | after => omega

theorem digits?_signed (h : IsYear year cs) (hyear : ¬ (0 ≤ year ∧ year ≤ 9999))
    (rest : List Char) : digits? 4 4 (cs ++ rest) = none := by
  cases h with
  | @plain n ds numeral length =>
    have hlt := Text.digitsValue_lt numeral.digits
    rw [numeral.value, length] at hlt
    omega
  | before | after => exact digits?_of_noDigitFirst (by decide) (noDigitFirst_cons rfl)

theorem bind_of_eq_some {α β : Type} {x : Option α} {a : α} (h : x = some a) (f : α → Option β) :
    (x >>= f) = f a := by
  rw [h]
  rfl

theorem dateMark?_cons {mark : Char} (h : mark = 'T' ∨ mark = 't' ∨ mark = ' ') :
    dateMark? (mark :: rest) = some rest := if_pos h

/-- What stands behind the time of a timestamp is read as an offset. -/
theorem timestamp?_append {time : TimeOfDay} {mark : Char} {ds : List Char} (hdate : IsoDate d cs)
    (hyear : 0 ≤ d.year ∧ d.year ≤ 9999) (hmark : mark = 'T' ∨ mark = 't' ∨ mark = ' ')
    (htime : IsExactTime time ds) (hrest : EndsFraction rest) :
    timestamp? (cs ++ mark :: (ds ++ rest)) =
      (offset? rest).bind fun (ahead, left) =>
        (DateTime.behind? ⟨d, time⟩ ahead).bind fun utc => some (utc, left) := by
  obtain ⟨hyears, hmonth, hday⟩ := hdate
  obtain ⟨hhour, hminute, hsecond, hfraction⟩ := htime
  obtain ⟨n, hn, hread⟩ := digits?_fourDigits hyears hyear
  simp only [List.append_assoc, List.cons_append]
  unfold timestamp?
  simp only [↓bind_of_eq_some (hread _), ↓bind_of_eq_some (expect?_cons _ _),
    ↓bind_of_eq_some (digits?_pair hmonth _), ↓bind_of_eq_some (digits?_pair hday _),
    ↓bind_of_eq_some (dateMark?_cons hmark), ↓bind_of_eq_some (digits?_pair hhour _),
    ↓bind_of_eq_some (digits?_pair hminute _), ↓bind_of_eq_some (digits?_pair hsecond _),
    ↓bind_of_eq_some (fraction?_append hfraction hrest), ← hn, Date.of?_self, TimeOfDay.of?_self]
  rfl

/-- A timestamp ends in an offset, which the ISO form lacks. -/
theorem timestamp?_of_isoForm (h : IsoForm t cs) : timestamp? cs = none := by
  obtain ⟨hdate, htime⟩ := h
  by_cases hyear : 0 ≤ t.date.year ∧ t.date.year ≤ 9999
  · have hread := timestamp?_append hdate hyear (.inl rfl) htime.exact endsFraction_nil
    rw [List.append_nil] at hread
    exact hread
  · obtain ⟨hyears, -, -⟩ := hdate
    simp only [List.append_assoc, List.cons_append]
    rw [timestamp?, digits?_signed hyears hyear]
    rfl

/-! ## Reading the whole -/

theorem whole?_of_read {α : Type} {read : List Char → Option (α × List Char)} {a : α}
    (h : read cs = some (a, [])) : whole? read cs = some a := by
  rw [whole?, h]

theorem whole?_date?_of_isoDate (h : IsoDate d cs) : whole? date? cs = some d := by
  have hread := date?_append h []
  rw [List.append_nil] at hread
  exact whole?_of_read hread

theorem readChars?_of_isoDate (h : IsoDate d cs) : readChars? cs = some ⟨d, .midnight⟩ := by
  rw [readChars?, whole?_date?_of_isoDate h]
  rfl

theorem readChars?_of_isoForm (h : IsoForm t cs) : readChars? cs = some t := by
  have hdate : whole? date? cs = none := by
    obtain ⟨hdate, -⟩ := h
    rw [whole?, date?_append hdate]
  have htimestamp : whole? timestamp? cs = none := by rw [whole?, timestamp?_of_isoForm h]
  rw [readChars?, hdate, htimestamp, whole?_of_read (dateTime?_of_isoForm h)]
  rfl

end Calendar

namespace DateTime

open Calendar

theorem read?_of_isoDate {d : Date} {s : String} (h : IsoDate d s.toList) :
    read? s = some ⟨d, .midnight⟩ := by
  rw [read?, Text.trimBlanks_eq_self h.noBlanks, readChars?_of_isoDate h]

theorem read?_of_isoForm {t : DateTime} {s : String} (h : IsoForm t s.toList) :
    read? s = some t := by
  rw [read?, Text.trimBlanks_eq_self h.noBlanks, readChars?_of_isoForm h]

/-- A point in time is shown and stored as one text. It has the ISO form, and reading it gives the
point in time back, a leap second and a year of any length included. -/
theorem read?_written (t : DateTime) :
    ∃ text, (Parameter.dateTime t).toString = text ∧ (Parameter.dateTime t).toJson = .string text ∧
      IsoForm t text.toList ∧ read? text = some t := by
  have hform := isoForm_iso t
  refine ⟨t.iso, ?_, ?_, hform, read?_of_isoForm hform⟩
  · rw [Parameter.toString]
  · rw [Parameter.toJson]

example : (read? " -0001-02-28 23:59:60.25 ").map iso = some "-0001-02-28T23:59:60.250" := by cbv

end DateTime

end FieldQuery
