import Mathlib
import FieldQuery.Graph.Output
import FieldQuery.Proofs.Compose.Faults
import FieldQuery.Proofs.Number.Nearest

/-!
# Argument values as parameters

An argument value becomes a parameter unless there is an input object or a row of bytes in it. The
parameter is stored as the value itself would be, only that a great integer gives way to a double.
-/

namespace FieldQuery

/-! ## Numbers -/

/-- An integer beyond the signed 64-bit range gives way to a double. -/
def Number.signed : Number → Number
  | .integer n lower upper =>
    if n < 9223372036854775808 then .integer n lower upper
    else .float (integer n lower upper).toBinary64
  | .float x => .float x

theorem Number.exists_nearest {n : Int} (lower : -9223372036854775808 ≤ n)
    (upper : n < 18446744073709551616) (hbeyond : 9223372036854775808 ≤ n) :
    ∃ x, (Number.integer n lower upper).signed = .float x ∧ x.IsNearest n :=
  ⟨_, if_neg (by omega), Binary64.isNearest_ofInt n _⟩

theorem Parameter.toJson_ofNumber (n : Number) : (ofNumber n).toJson = .number n.signed := by
  unfold ofNumber
  cases hn : n.toInt64? with
  | some i =>
    obtain rfl := Number.toInt64?_eq_some.mp hn
    have hlt : i.toInt < 9223372036854775808 := i.toInt_lt
    rw [toJson, Number.ofInt64, Number.signed, if_pos hlt]
  | none =>
    cases n with
    | integer n lower upper =>
      have hbeyond : ¬ n < 9223372036854775808 := by
        intro hlt
        simp [Number.toInt64?, hlt] at hn
      rw [toJson, Number.signed, if_neg hbeyond]
    | float x => rfl

/-! ## Stored forms -/

namespace Json

mutual

/-- The document with every number in it changed. -/
def mapNumbers (f : Number → Number) : Json → Json
  | .null => .null
  | .boolean b => .boolean b
  | .number n => .number (f n)
  | .string s => .string s
  | .array items => .array (mapNumbersOf f items)
  | .object members => .object (mapNumbersIn f members)

def mapNumbersOf (f : Number → Number) : List Json → List Json
  | [] => []
  | item :: rest => item.mapNumbers f :: mapNumbersOf f rest

def mapNumbersIn (f : Number → Number) : List (String × Json) → List (String × Json)
  | [] => []
  | (name, value) :: rest => (name, value.mapNumbers f) :: mapNumbersIn f rest

end

end Json

variable {argument : String}

mutual

theorem toJson_ofLiteral {v : Literal} {q : Parameter}
    (h : Parameter.ofLiteral argument v = .ok q) :
    q.toJson = v.toJson.mapNumbers Number.signed := by
  match v with
  | .null | .boolean _ | .string _ | .enumeration _ =>
    cases h
    rfl
  | .number n =>
    cases h
    rw [Parameter.toJson_ofNumber, Literal.toJson, Json.mapNumbers]
  | .list items =>
    rw [Parameter.ofLiteral, map_eq_ok] at h
    obtain ⟨qs, hqs, rfl⟩ := h
    rw [Parameter.toJson, Literal.toJson, Json.mapNumbers, toJsons_ofLiterals hqs]
  | .object _ | .binary _ => simp [Parameter.ofLiteral] at h

theorem toJsons_ofLiterals {items : List Literal} {qs : List Parameter}
    (h : Parameter.ofLiterals argument items = .ok qs) :
    Parameter.toJsons qs = Json.mapNumbersOf Number.signed (Literal.toJsons items) := by
  match items with
  | [] =>
    cases h
    rfl
  | item :: rest =>
    simp only [Parameter.ofLiterals, bind_eq_ok, pure, Except.pure, Except.ok.injEq] at h
    obtain ⟨q, hq, others, hothers, rfl⟩ := h
    rw [Parameter.toJsons, Literal.toJsons, Json.mapNumbersOf, toJson_ofLiteral hq,
      toJsons_ofLiterals hothers]

end

/-! ## Refused values -/

namespace Literal

mutual

/-- The values in a value that are no lists, in reading order. -/
def leaves : Literal → List Literal
  | .list items => leavesOf items
  | v => [v]

def leavesOf : List Literal → List Literal
  | [] => []
  | item :: rest => item.leaves ++ leavesOf rest

end

/-- Why a value by itself is no parameter, if it is none. -/
def refusal? : Literal → Option String
  | .object _ => some "input objects cannot be compared"
  | .binary _ => some "binary values cannot be compared"
  | _ => none

mutual

theorem incomparable_eq (v : Literal) : v.incomparable = v.leaves.filterMap refusal? := by
  match v with
  | .list items =>
    rw [incomparable, leaves]
    exact incomparableIn_eq items
  | .null | .boolean _ | .number _ | .string _ | .enumeration _ | .object _ | .binary _ => rfl

theorem incomparableIn_eq (items : List Literal) :
    incomparableIn items = (leavesOf items).filterMap refusal? := by
  match items with
  | [] => rfl
  | item :: rest =>
    rw [incomparableIn, leavesOf, List.filterMap_append, incomparable_eq item,
      incomparableIn_eq rest]

end

/-- What stands in a value is refused, and nothing before it. -/
def RefusedFirst (v bad : Literal) (reason : String) : Prop :=
  bad.refusal? = some reason ∧
    ∃ before after, v.leaves = before ++ bad :: after ∧ ∀ w ∈ before, w.refusal? = none

theorem head?_incomparable {v : Literal} {reason : String} :
    v.incomparable.head? = some reason ↔ ∃ bad, v.RefusedFirst bad reason := by
  rw [incomparable_eq, List.head?_filterMap, List.findSome?_eq_some_iff]
  constructor
  · rintro ⟨before, bad, after, hleaves, hbad, hbefore⟩
    exact ⟨bad, hbad, before, after, hleaves, hbefore⟩
  · rintro ⟨bad, hbad, before, after, hleaves, hbefore⟩
    exact ⟨before, bad, after, hleaves, hbad, hbefore⟩

theorem ofLiteral_ok_iff {v : Literal} :
    (∃ q, Parameter.ofLiteral argument v = .ok q) ↔ ∀ w ∈ v.leaves, w.refusal? = none := by
  rw [(ofLiteral_failsFirst argument v).exists_ok_iff, List.map_eq_nil_iff, incomparable_eq,
    List.filterMap_eq_nil_iff]

theorem ofLiteral_error_iff {v : Literal} {e : QueryError} :
    Parameter.ofLiteral argument v = .error e ↔
      ∃ bad reason, v.RefusedFirst bad reason ∧ e = .unsupportedValue argument reason := by
  rw [ofLiteral_failsFirst argument v e, List.head?_map, Option.map_eq_some_iff]
  simp only [head?_incomparable]
  constructor
  · rintro ⟨reason, ⟨bad, hbad⟩, rfl⟩
    exact ⟨bad, reason, hbad, rfl⟩
  · rintro ⟨bad, reason, hbad, rfl⟩
    exact ⟨reason, ⟨bad, hbad⟩, rfl⟩

end Literal

/-- An argument value becomes a parameter exactly if nothing in it is refused, and otherwise the
first value refused is reported. The parameter is stored in the JSON form of the value, with the
nearest double for each integer beyond the signed 64-bit range. -/
theorem argument_converted_without_loss (argument : String) (v : Literal) :
    ((∃ q, Parameter.ofLiteral argument v = .ok q) ↔ ∀ w ∈ v.leaves, w.refusal? = none) ∧
    (∀ e, Parameter.ofLiteral argument v = .error e ↔
      ∃ bad reason, v.RefusedFirst bad reason ∧ e = .unsupportedValue argument reason) ∧
    (∀ q, Parameter.ofLiteral argument v = .ok q →
      q.toJson = v.toJson.mapNumbers Number.signed) ∧
    ∀ n lower upper, 9223372036854775808 ≤ n →
      ∃ x, (Number.integer n lower upper).signed = .float x ∧ x.IsNearest n :=
  ⟨Literal.ofLiteral_ok_iff, fun _ => Literal.ofLiteral_error_iff, fun _ => toJson_ofLiteral,
    fun _ => Number.exists_nearest⟩

/-! ### Tags in lists -/

/-- The first integer beyond the signed 64-bit range that is no double. -/
def oddTag : Number := .integer 9223372036854775809 (by decide) (by decide)

def mixedTags : Literal :=
  .list [.enumeration "Quiet", .list [.null, .number oddTag, .list []], .string "sea view"]

def mixedTagsParameter : Parameter :=
  .list [.string "Quiet", .list [.null, .float oddTag.toBinary64, .list []], .string "sea view"]

/-- The bytes stand before the object, though deeper. -/
def refusedTags : Literal :=
  .list [.string "sea view", .list [.number oddTag, .binary [7]], .object [("Quiet", .null)]]

theorem mixed_tags_converted :
    Parameter.ofLiteral "Tags" mixedTags = .ok mixedTagsParameter ∧
      mixedTagsParameter.toJson = mixedTags.toJson.mapNumbers Number.signed ∧
      (9223372036854775808 : Int) ≤ 9223372036854775809 ∧
      oddTag.toBinary64.IsNearest 9223372036854775809 ∧
      refusedTags.RefusedFirst (.binary [7]) "binary values cannot be compared" ∧
      Parameter.ofLiteral "Tags" refusedTags =
        .error (.unsupportedValue "Tags" "binary values cannot be compared") := by
  have hq : Parameter.ofLiteral "Tags" mixedTags = .ok mixedTagsParameter := rfl
  have hfirst : refusedTags.RefusedFirst (.binary [7]) "binary values cannot be compared" :=
    ⟨rfl, [.string "sea view", .number oddTag], [.object [("Quiet", .null)]], rfl, by
      simp [Literal.refusal?]⟩
  obtain ⟨-, -, hjson, hnearest⟩ := argument_converted_without_loss "Tags" mixedTags
  obtain ⟨-, herror, -, -⟩ := argument_converted_without_loss "Tags" refusedTags
  obtain ⟨x, hx, hnear⟩ := hnearest 9223372036854775809 (by decide) (by decide) (by decide)
  obtain rfl : oddTag.toBinary64 = x := by
    rw [Number.signed, if_neg (by decide)] at hx
    exact Number.float.inj hx
  exact ⟨hq, hjson _ hq, by decide, hnear, hfirst, (herror _).mpr ⟨_, _, hfirst, rfl⟩⟩

end FieldQuery
