/-!
# Equality up to ASCII case
-/

namespace FieldQuery.Text

/-- Two texts that differ in the case of ASCII letters only. -/
def eqAsciiCase (a b : String) : Bool :=
  a.toList.map Char.toLower == b.toList.map Char.toLower

end FieldQuery.Text
