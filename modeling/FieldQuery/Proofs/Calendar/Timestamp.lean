import Mathlib
import FieldQuery.Proofs.Calendar.IsoForm
import FieldQuery.Proofs.Calendar.Minutes

/-!
# Timestamps of one point in time

A timestamp has the time that a clock shows and how far the clock is ahead. It is read as the point
in time at which the clock shows this, so timestamps are read alike if they are of one point in time
and only then.
-/

namespace FieldQuery

namespace Calendar

/-! ## The form -/

/-- How many minutes a clock is ahead: a sign with hours and minutes, or a letter for none. -/
inductive IsOffset : Int → List Char → Prop
  | none {mark : Char} (letter : mark = 'Z' ∨ mark = 'z') : IsOffset 0 [mark]
  | ahead {hours minutes : Nat} {hh mm : List Char} (hours_form : IsPair hours hh)
      (minutes_form : IsPair minutes mm) (range : hours < 24 ∧ minutes < 60) :
      IsOffset (hours * 60 + minutes : Nat) ('+' :: (hh ++ ':' :: mm))
  | behind {hours minutes : Nat} {hh mm : List Char} (hours_form : IsPair hours hh)
      (minutes_form : IsPair minutes mm) (range : hours < 24 ∧ minutes < 60) :
      IsOffset (-(hours * 60 + minutes : Nat)) ('-' :: (hh ++ ':' :: mm))

/-- The time of a clock that is set ahead of UTC, in a year of four digits, and its offset. -/
inductive IsTimestamp (t : DateTime) : List Char → Prop
  | intro {clock : DateTime} {offset : Int} {mark : Char} {date time zone : List Char}
      (ahead : t.IsAhead offset clock) (year : 0 ≤ clock.date.year ∧ clock.date.year ≤ 9999)
      (date_form : IsoDate clock.date date) (mark_form : mark = 'T' ∨ mark = 't' ∨ mark = ' ')
      (time_form : IsExactTime clock.time time) (zone_form : IsOffset offset zone) :
      IsTimestamp t (date ++ mark :: (time ++ zone))

variable {d : Date} {t clock : DateTime} {offset : Int} {cs zone : List Char}

/-- What any clock shows can be written, in a year of four digits. -/
theorem isTimestamp_written {mark : Char} {fraction : List Char} (hahead : t.IsAhead offset clock)
    (hyear : 0 ≤ clock.date.year ∧ clock.date.year ≤ 9999)
    (hmark : mark = 'T' ∨ mark = 't' ∨ mark = ' ')
    (hfraction : IsExactFraction clock.time.nanosecond fraction) (hzone : IsOffset offset zone) :
    IsTimestamp t (clock.date.iso ++ mark :: (padded 2 clock.time.hour ++
      ':' :: padded 2 clock.time.minute ++ ':' :: padded 2 clock.time.second ++ fraction ++
      zone)) := by
  have hhour := clock.time.hour_lt
  have hminute := clock.time.minute_lt
  have hsecond := clock.time.second_le
  have htime := IsExactTime.intro (isPair_padded (by omega)) (isPair_padded (by omega))
    (isPair_padded (by omega)) hfraction
  exact .intro hahead hyear (isoDate_iso clock.date) hmark htime hzone

/-! ## Reading the offset -/

theorem IsOffset.range (h : IsOffset offset zone) : -1440 < offset ∧ offset < 1440 := by
  cases h <;> omega

theorem IsOffset.noBlanks (h : IsOffset offset zone) : NoBlanks zone := by
  cases h with
  | none letter =>
    rcases letter with rfl | rfl <;> exact noBlanks_cons.mpr ⟨rfl, List.forall_mem_nil _⟩
  | ahead hours minutes | behind hours minutes =>
    simp only [noBlanks_cons, noBlanks_append]
    exact ⟨rfl, hours.noBlanks, rfl, minutes.noBlanks⟩

theorem IsOffset.ne_nil (h : IsOffset offset zone) : zone ≠ [] := by
  cases h <;> exact List.cons_ne_nil _ _

theorem IsOffset.endsFraction (h : IsOffset offset zone) : EndsFraction zone := by
  intro c hc
  cases h with
  | none letter =>
    obtain rfl := Option.some.inj hc
    rcases letter with rfl | rfl <;> decide
  | ahead | behind =>
    obtain rfl := Option.some.inj hc
    decide

theorem offset?_signed {sign : Char} {hours minutes : Nat} {hh mm : List Char}
    (hsign : sign = '+' ∨ sign = '-') (hhours : IsPair hours hh) (hminutes : IsPair minutes mm)
    (hrange : hours < 24 ∧ minutes < 60) :
    offset? (sign :: (hh ++ ':' :: mm)) =
      some (if sign = '+' then ((hours * 60 + minutes : Nat) : Int)
        else -(hours * 60 + minutes : Nat), []) := by
  have hread := digits?_pair hminutes []
  rw [List.append_nil] at hread
  have hletter : ¬ (sign = 'Z' ∨ sign = 'z') := by rcases hsign with rfl | rfl <;> decide
  have hmark : sign = '+' ∨ sign = '-' ∨ sign = '\u2212' := hsign.imp_right .inl
  unfold offset?
  simp only [if_neg hletter, if_pos hmark, if_pos hrange, ↓bind_of_eq_some hread,
    ↓bind_of_eq_some (digits?_pair hhours _), ↓bind_of_eq_some (expect?_cons _ _)]
  rfl

theorem offset?_of_isOffset (h : IsOffset offset zone) : offset? zone = some (offset, []) := by
  cases h with
  | none letter => exact if_pos letter
  | ahead hours_form minutes_form range =>
    exact offset?_signed (.inl rfl) hours_form minutes_form range
  | behind hours_form minutes_form range =>
    exact offset?_signed (.inr rfl) hours_form minutes_form range

/-! ## Reading the whole -/

theorem timestamp?_of_isTimestamp (h : IsTimestamp t cs) : timestamp? cs = some (t, []) := by
  obtain ⟨hahead, hyear, hdate, hmark, htime, hzone⟩ := h
  have hutc := DateTime.behind?_of_isAhead hahead hzone.range (by omega)
  rw [timestamp?_append hdate hyear hmark htime hzone.endsFraction, offset?_of_isOffset hzone]
  exact congrArg (Option.bind · fun utc => some (utc, [])) hutc

/-- A date alone does not go on with a time. -/
theorem readChars?_of_isTimestamp (h : IsTimestamp t cs) : readChars? cs = some t := by
  have hdate : whole? date? cs = none := by
    obtain ⟨-, -, hdate, -⟩ := h
    rw [whole?, date?_append hdate]
  rw [readChars?, hdate, whole?_of_read (timestamp?_of_isTimestamp h)]
  rfl

theorem IsoDate.ne_nil (h : IsoDate d cs) : cs ≠ [] := by
  obtain ⟨⟩ := h
  exact List.append_ne_nil_of_right_ne_nil _ (List.cons_ne_nil _ _)

/-- A blank may stand before the time, but none at the ends. -/
theorem trimBlanks_of_isTimestamp (h : IsTimestamp t cs) : Text.trimBlanks cs = cs := by
  obtain ⟨-, -, hdate, -, -, hzone⟩ := h
  apply Text.trimBlanks_of_ends
  · intro c hc
    rw [List.head?_append_of_ne_nil _ hdate.ne_nil] at hc
    exact hdate.noBlanks c (List.mem_of_mem_head? hc)
  · intro c hc
    rw [← List.cons_append, ← List.append_assoc,
      List.getLast?_append_of_ne_nil _ hzone.ne_nil] at hc
    exact hzone.noBlanks c (List.mem_of_getLast? hc)

end Calendar

namespace DateTime

open Calendar

/-- Any timestamp of a point in time is read as this point, whatever offset it is written with, and
is read like another one if and only if that is of the same point. -/
theorem read?_timestamp {t : DateTime} {text : String} (h : IsTimestamp t text.toList) :
    read? text = some t ∧
      ∀ (u : DateTime) (other : String), IsTimestamp u other.toList →
        (read? text = read? other ↔ t = u) := by
  have hread {t : DateTime} {text : String} (h : IsTimestamp t text.toList) :
      read? text = some t := by
    rw [read?, trimBlanks_of_isTimestamp h, readChars?_of_isTimestamp h]
  refine ⟨hread h, fun u other hother => ?_⟩
  rw [hread h, hread hother, Option.some.injEq]

/-! ### A leap second behind the last year of four digits -/

def yearTurn : DateTime where
  date := (Date.of? 10000 1 1).get (by decide)
  time := (TimeOfDay.of? 0 29 60 250000000).get (by decide)

/-- What a clock that is half an hour behind shows of it. -/
def halfAnHourBefore : DateTime where
  date := (Date.of? 9999 12 31).get (by decide)
  time := (TimeOfDay.of? 23 59 60 250000000).get (by decide)

/-- What a clock that is almost a day behind shows of it. -/
def almostADayBefore : DateTime where
  date := (Date.of? 9999 12 31).get (by decide)
  time := (TimeOfDay.of? 0 30 60 250000000).get (by decide)

theorem yearTurn_read_from_the_day_before :
    IsTimestamp yearTurn "9999-12-31 23:59:60.2500000000-00:30".toList ∧
      IsTimestamp yearTurn "9999-12-31t00:30:60.25-23:59".toList ∧
      read? "9999-12-31 23:59:60.2500000000-00:30" = some yearTurn ∧
      read? "9999-12-31 23:59:60.2500000000-00:30" = read? "9999-12-31t00:30:60.25-23:59" := by
  have hlate : yearTurn.IsAhead (-(0 * 60 + 30 : Nat)) halfAnHourBefore := ⟨by decide, rfl, rfl⟩
  have hearly : yearTurn.IsAhead (-(23 * 60 + 59 : Nat)) almostADayBefore :=
    ⟨by decide, rfl, rfl⟩
  have hten : IsExactFraction 250000000 ('.' :: padded 10 2500000000) :=
    .digits (isNumeral_padded 10 2500000000) (by decide +kernel) (by decide +kernel)
  have htwo : IsExactFraction 250000000 ('.' :: padded 2 25) :=
    .digits (isNumeral_padded 2 25) (by decide +kernel) (by decide +kernel)
  have hform : IsTimestamp yearTurn "9999-12-31 23:59:60.2500000000-00:30".toList := by
    have hwritten := isTimestamp_written hlate (by decide) (.inr (.inr rfl)) hten
      (.behind (isPair_padded (by decide)) (isPair_padded (by decide)) (by decide))
    convert hwritten using 1
    decide +kernel
  have hother : IsTimestamp yearTurn "9999-12-31t00:30:60.25-23:59".toList := by
    have hwritten := isTimestamp_written hearly (by decide) (.inr (.inl rfl)) htwo
      (.behind (isPair_padded (by decide)) (isPair_padded (by decide)) (by decide))
    convert hwritten using 1
    decide +kernel
  obtain ⟨hread, halike⟩ := read?_timestamp hform
  exact ⟨hform, hother, hread, (halike _ _ hother).mpr rfl⟩

end DateTime

end FieldQuery
