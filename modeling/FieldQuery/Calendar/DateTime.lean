import FieldQuery.Calendar.Date

/-!
# Points in time

A date and a time of day to the nanosecond. Second 60 is a leap second.
-/

namespace FieldQuery

structure TimeOfDay where
  hour : Nat
  minute : Nat
  second : Nat
  nanosecond : Nat
  hour_lt : hour < 24
  minute_lt : minute < 60
  second_le : second ≤ 60
  nanosecond_lt : nanosecond < 1000000000
  deriving DecidableEq, Repr

namespace TimeOfDay

def of? (hour minute second nanosecond : Nat) : Option TimeOfDay :=
  if h : hour < 24 ∧ minute < 60 ∧ second ≤ 60 ∧ nanosecond < 1000000000 then
    some ⟨hour, minute, second, nanosecond, h.1, h.2.1, h.2.2.1, h.2.2.2⟩
  else none

def midnight : TimeOfDay := ⟨0, 0, 0, 0, by decide, by decide, by decide, by decide⟩

def compare (a b : TimeOfDay) : Ordering :=
  (Ord.compare a.hour b.hour).then ((Ord.compare a.minute b.minute).then
    ((Ord.compare a.second b.second).then (Ord.compare a.nanosecond b.nanosecond)))

/-- Outside its own day a leap second is the second before it. -/
def withoutLeap (t : TimeOfDay) : TimeOfDay :=
  { t with second := min t.second 59, second_le := by omega }

end TimeOfDay

structure DateTime where
  date : Date
  time : TimeOfDay
  deriving DecidableEq, Repr

namespace DateTime

def compare (a b : DateTime) : Ordering :=
  (a.date.compare b.date).then (a.time.compare b.time)

/-- The same time one day later, unless that is beyond the last day. -/
def nextDay? (t : DateTime) : Option DateTime :=
  t.date.next?.map fun date => ⟨date, t.time.withoutLeap⟩

/-- The time that a clock `minutes` behind shows, for less than a day; seconds stay as they are. -/
def behind? (t : DateTime) (minutes : Int) : Option DateTime := do
  let total := (t.time.hour * 60 + t.time.minute : Nat) - minutes
  let date ←
    if total < 0 then t.date.prev?
    else if 1440 ≤ total then t.date.next?
    else some t.date
  let ofDay := (total % 1440).toNat
  let time ← TimeOfDay.of? (ofDay / 60) (ofDay % 60) t.time.second t.time.nanosecond
  return ⟨date, time⟩

end DateTime

end FieldQuery
