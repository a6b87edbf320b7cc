import Mathlib
import FieldQuery.Compose.Plan
import FieldQuery.Proofs.Number.Rounding
import FieldQuery.Proofs.Query.Run

/-!
# Values and their stored form

A document that stores an argument value is looked for by that value. It is found, unless a list in
the value has a null for an item: a null equals a null only where neither is in a list.
-/

namespace FieldQuery

/-! ## Nulls in lists -/

namespace Literal

mutual

/-- A list in the value, at any depth, has a null for an item. -/
def hasNullItem : Literal → Bool
  | .list items => anyNullItem items
  | .null | .boolean _ | .number _ | .string _ | .enumeration _ | .binary _ | .object _ => false

def anyNullItem : List Literal → Bool
  | [] => false
  | item :: rest => item.isNull || item.hasNullItem || anyNullItem rest

end

end Literal

/-! ## Numbers -/

theorem Binary64.compare_self (x : Binary64) : x.compare x = .eq :=
  Std.ReflOrd.compare_self

theorem Number.compareInt64_ofInt64 (i : Int64) : (Number.ofInt64 i).compareInt64 i = .eq := by
  simp only [compareInt64, toInt64?_ofInt64]
  exact Std.ReflOrd.compare_self

/-- The stored form of a number equals it, be it rounded or not. -/
theorem compare?_ofNumber (n : Number) :
    (Parameter.ofNumber n).toJson.compare? (Parameter.ofNumber n) = some .eq := by
  unfold Parameter.ofNumber
  cases n.toInt64? with
  | some i => simp only [Parameter.toJson, Json.compare?, Number.compareInt64_ofInt64]
  | none =>
    have hself : (Number.float n.toBinary64).toBinary64.compare n.toBinary64 = .eq :=
      Binary64.compare_self _
    simp only [Parameter.toJson, Json.compare?, hself]

/-! ## Values -/

variable {argument : String}

mutual

/-- The induction is on the value, and goes along with that on the items of a list. -/
theorem compare?_toJson {v : Literal} {q : Parameter} (h : Parameter.ofLiteral argument v = .ok q) :
    (q.toJson.compare? q == some .eq) = (!v.isNull && !v.hasNullItem) := by
  match v with
  | .null =>
    cases h
    rfl
  | .boolean b | .string s | .enumeration s =>
    cases h
    simp [Parameter.toJson, Json.compare?, Literal.isNull, Literal.hasNullItem]
  | .number n =>
    cases h
    rw [compare?_ofNumber]
    rfl
  | .list items =>
    rw [Parameter.ofLiteral, map_eq_ok] at h
    obtain ⟨qs, hqs, rfl⟩ := h
    have hitems := allEqual_toJsons hqs
    simp only [Parameter.toJson, Json.compare?, hitems, Literal.isNull, Literal.hasNullItem]
    cases Literal.anyNullItem items <;> rfl
  | .object fields | .binary bytes => simp [Parameter.ofLiteral] at h

theorem allEqual_toJsons {items : List Literal} {qs : List Parameter}
    (h : Parameter.ofLiterals argument items = .ok qs) :
    Json.allEqual (Parameter.toJsons qs) qs = !Literal.anyNullItem items := by
  match items with
  | [] =>
    cases h
    rfl
  | item :: rest =>
    simp only [Parameter.ofLiterals, bind_eq_ok, pure, Except.pure, Except.ok.injEq] at h
    obtain ⟨q, hq, others, hothers, rfl⟩ := h
    rw [Parameter.toJsons, Json.allEqual, compare?_toJson hq, allEqual_toJsons hothers,
      Literal.anyNullItem, Bool.not_or, Bool.not_or]

end

theorem isNull_toJson {v : Literal} {q : Parameter} (h : Parameter.ofLiteral argument v = .ok q) :
    (q.toJson.isNull && q.isNull) = v.isNull := by
  cases v with
  | null | boolean | string | enumeration =>
    cases h
    rfl
  | number n =>
    cases h
    unfold Parameter.ofNumber
    cases n.toInt64? <;> rfl
  | list items =>
    rw [Parameter.ofLiteral, map_eq_ok] at h
    obtain ⟨qs, -, rfl⟩ := h
    rfl
  | object | binary => simp [Parameter.ofLiteral] at h

theorem eq_holds_toJson {v : Literal} {q : Parameter} (h : Parameter.ofLiteral argument v = .ok q) :
    CompareOp.eq.holds q.toJson q = !v.hasNullItem := by
  rw [CompareOp.holds, isNull_toJson h, compare?_toJson h]
  cases v <;> rfl

/-! ## Rows that store a value -/

variable {α : Type}

theorem MemoryQuery.filterRows_const {f : Filter} {keep : Bool} {rows : List (Row α)}
    (h : ∀ row ∈ rows, f.eval row.1 = .ok keep) :
    filterRows f rows = .ok (if keep then rows else []) := by
  induction rows with
  | nil => cases keep <;> rfl
  | cons row rest ih =>
    rw [List.forall_mem_cons] at h
    rw [filterRows, h.1, ih h.2]
    cases keep <;> rfl

/-- A member that holds the stored form of a value equals the value exactly when no list in it has a
null for an item. So the rows that store it are all kept by a filter for it, or all dropped. -/
theorem stored_equal_iff_no_null_item {v : Literal} {q : Parameter}
    (h : Parameter.ofLiteral argument v = .ok q) {member : MemberPath} {index : Nat}
    {nullPropagating : Bool} {params : List Parameter} (hparam : params[index]? = some q) :
    let c : Comparison := ⟨member, .eq, index, nullPropagating⟩
    (∀ row, member.access nullPropagating row = .ok q.toJson →
      c.eval params row = .ok (!v.hasNullItem)) ∧
    ∀ rows : List (Row α), (∀ row ∈ rows, member.access nullPropagating row.1 = .ok q.toJson) →
      MemoryQuery.filterRows ⟨.compare c, params⟩ rows =
        .ok (if v.hasNullItem then [] else rows) := by
  intro c
  have heval : ∀ row, member.access nullPropagating row = .ok q.toJson →
      (Expr.compare c).eval params row = .ok (!v.hasNullItem) := by
    intro row hrow
    have hbound : params[c.param]? = some q := hparam
    rw [Expr.eval_compare_bound hbound, hrow, ← eq_holds_toJson h]
    rfl
  constructor
  · intro row hrow
    rw [← Expr.eval_compare, heval row hrow]
  · intro rows hrows
    have hkeep : ∀ row ∈ rows,
        (⟨.compare c, params⟩ : Filter).eval row.1 = .ok (!v.hasNullItem) :=
      fun row hmem => heval row.1 (hrows row hmem)
    rw [MemoryQuery.filterRows_const hkeep]
    cases v.hasNullItem <;> rfl

/-! ### Rooms by their tags -/

def tagged (tags : Json) : Json := .object [("Tags", tags)]

def byTags : Comparison := ⟨⟨["Tags"]⟩, .eq, 0, false⟩

/-- A number beyond the signed 64-bit range, which is compared as a double. -/
def beyond : Number := .integer 18446744073709551615 (by decide) (by decide)

def nestedTags : Literal :=
  .list [.list [.enumeration "Quiet", .list []], .number beyond, .string "sea view"]

def nestedTagsParameter : Parameter :=
  .list [.list [.string "Quiet", .list []], .float beyond.toBinary64, .string "sea view"]

theorem nested_tags_found :
    Parameter.ofLiteral "Tags" nestedTags = .ok nestedTagsParameter ∧
      nestedTags.hasNullItem = false ∧
      byTags.eval [nestedTagsParameter] (tagged nestedTagsParameter.toJson) = .ok true := by
  have hq : Parameter.ofLiteral "Tags" nestedTags = .ok nestedTagsParameter := rfl
  have hrow : byTags.member.access false (tagged nestedTagsParameter.toJson) =
      .ok nestedTagsParameter.toJson := rfl
  exact ⟨hq, rfl, (stored_equal_iff_no_null_item (α := Unit) hq rfl).1 _ hrow⟩

def quietOrNot : Literal := .list [.string "quiet", .null]

def quietOrNotParameter : Parameter := .list [.string "quiet", .null]

def tagArguments : ArgumentList :=
  .ofDescriptors
    [⟨.filter ⟨"Tags", ⟨[.ofPath "Tags"]⟩, by simp, .list (.scalar .string), true⟩, none⟩]

/-- The room that stores the very list it is asked for is not found. -/
theorem null_tag_not_found :
    Parameter.ofLiteral "Tags" quietOrNot = .ok quietOrNotParameter ∧
      byTags.member.access false (tagged quietOrNotParameter.toJson) =
        .ok quietOrNotParameter.toJson ∧
      byTags.eval [quietOrNotParameter] (tagged quietOrNotParameter.toJson) = .ok false ∧
      Compose.plan tagArguments ⟨[("tags", quietOrNot)]⟩ =
        .ok ⟨some ⟨.compare byTags, [quietOrNotParameter]⟩, [], none⟩ ∧
      (Queryable.filter
        (MemoryQuery.ofList [quietOrNotParameter.toJson] fun tags => .ok (tagged tags))
        ⟨.compare byTags, [quietOrNotParameter]⟩).toList = .ok [] := by
  refine ⟨rfl, rfl, rfl, ?_, rfl⟩
  cbv

end FieldQuery
