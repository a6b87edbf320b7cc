import FieldQuery.Number.Decimal

/-!
# Numbers of documents and arguments

A number is an integer that fits 64 bits, signed or unsigned, or a finite double.
-/

namespace FieldQuery

inductive Number where
  | integer (n : Int) (lower : -9223372036854775808 ≤ n) (upper : n < 18446744073709551616)
  | float (x : Binary64)
  deriving DecidableEq, Repr

namespace Number

/-- The integer, if it fits 64 bits. -/
def ofInt? (n : Int) : Option Number :=
  if h : -9223372036854775808 ≤ n ∧ n < 18446744073709551616 then some (.integer n h.1 h.2) else none

def ofInt64 (n : Int64) : Number :=
  .integer n.toInt n.le_toInt (Int.lt_trans n.toInt_lt (by decide))

/-- The integer a number is, if it fits the signed 64-bit range. -/
def toInt64? : Number → Option Int64
  | .integer n _ _ => if n < 9223372036854775808 then some (Int64.ofInt n) else none
  | .float _ => none

/-- The natural number a number is, floats excluded. -/
def toNat? : Number → Option Nat
  | .integer n _ _ => if 0 ≤ n then some n.toNat else none
  | .float _ => none

/-- The nearest double. -/
def toBinary64 : Number → Binary64
  | .integer n lower upper => Binary64.ofInt n (by omega)
  | .float x => x

/-- Number literals keep `.0`, and need an exponent outside 10^-5 to 10^16. -/
def literalStyle : DecimalStyle := ⟨.toEven, some (-4, 16), ".0"⟩

def toLiteral : Number → String
  | .integer n _ _ => toString n
  | .float x => x.write literalStyle

/-- The number that a number's literal is read as; the last bit of a double may change. -/
def reread : Number → Number
  | .integer n lower upper => .integer n lower upper
  | .float x => .float ((Decimal.scanBinary64? (x.write literalStyle)).getD x)

end Number

end FieldQuery
