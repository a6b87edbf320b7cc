import FieldQuery.Calendar.DateTime

/-!
# The ISO form of dates and times

`2019-02-03T10:11:12.250`: years outside 0 to 9999 have a sign, and the fraction has the fewest of
0, 3, 6 or 9 digits that are exact.
-/

namespace FieldQuery

/-- The decimal digits of `n`, with zeros in front up to `width` digits. -/
def padded (width n : Nat) : List Char :=
  let digits := Nat.toDigits 10 n
  List.replicate (width - digits.length) '0' ++ digits

def isoYear (year : Int) : List Char :=
  if year < 0 then '-' :: padded 4 year.natAbs
  else if 9999 < year then '+' :: padded 4 year.natAbs
  else padded 4 year.natAbs

/-- The fraction of a second, with the point in front of it. -/
def isoFraction (nanosecond : Nat) : List Char :=
  if nanosecond = 0 then []
  else if nanosecond % 1000000 = 0 then '.' :: padded 3 (nanosecond / 1000000)
  else if nanosecond % 1000 = 0 then '.' :: padded 6 (nanosecond / 1000)
  else '.' :: padded 9 nanosecond

def Date.iso (d : Date) : List Char :=
  isoYear d.year ++ '-' :: padded 2 d.month ++ '-' :: padded 2 d.day

def TimeOfDay.iso (t : TimeOfDay) : List Char :=
  padded 2 t.hour ++ ':' :: padded 2 t.minute ++ ':' :: padded 2 t.second ++
    isoFraction t.nanosecond

def DateTime.iso (t : DateTime) : String :=
  String.ofList (t.date.iso ++ 'T' :: t.time.iso)

end FieldQuery
