import Mathlib
import FieldQuery.Compose.Plan
import FieldQuery.Proofs.Compose.Filter
import FieldQuery.Proofs.Discovery.Conform

/-!
# Where a composed filter fails

On documents that conform to their type, a filter over discovered arguments fails only by reading
through a null element of a list. This says when it does.
-/

namespace FieldQuery

/-! ## Reading through a null -/

/-- A null that a path starts from is read through if some member before the next list, or up to the
end, may be null. -/
def absorbsNull (segments : List Segment) : Bool :=
  (segments.takeWhile fun s => !s.isList).any (·.isNullable)

theorem absorbsNull_single {lead : List Segment} (hlead : Single lead) :
    absorbsNull lead = lead.any (·.isNullable) := by
  have htake : (lead.takeWhile fun s => !s.isList) = lead :=
    List.takeWhile_eq_self_iff.mpr fun s hs => by simp [hlead s hs]
  rw [absorbsNull, htake]

theorem absorbsNull_list {lead : List Segment} (hlead : Single lead) {s : Segment}
    (hs : s.isList = true) (rest : List Segment) :
    absorbsNull (lead ++ s :: rest) = lead.any (·.isNullable) := by
  rw [absorbsNull, List.takeWhile_append_of_pos fun x hx => by simp [hlead x hx],
    List.takeWhile_cons_of_neg (by simp [hs]), List.append_nil]

theorem first_list_unique {lead other : List Segment} {s t : Segment} {rest more : List Segment}
    (hlead : Single lead) (hother : Single other) (hs : s.isList = true) (ht : t.isList = true)
    (h : lead ++ s :: rest = other ++ t :: more) : lead = other ∧ s = t ∧ rest = more := by
  induction lead generalizing other with
  | nil =>
    cases other with
    | nil => simpa using h
    | cons x other =>
      obtain ⟨rfl, -⟩ := List.cons.inj h
      rw [(single_cons.mp hother).1] at hs
      cases hs
  | cons x lead ih =>
    cases other with
    | nil =>
      obtain ⟨rfl, -⟩ := List.cons.inj h
      rw [(single_cons.mp hlead).1] at ht
      cases ht
    | cons y other =>
      obtain ⟨rfl, htail⟩ := List.cons.inj h
      obtain ⟨rfl, rfl, rfl⟩ := ih (single_cons.mp hlead).2 (single_cons.mp hother).2 htail
      exact ⟨rfl, rfl, rfl⟩

namespace FilterArgument

/-- The search for a leaf that passes comes to a null that is not read through, before any element
of the same list has such a leaf. -/
inductive Stumbles (a : FilterArgument) (value : Literal) : List Segment → Json → Prop
  | null {segments : List Segment} (strict : absorbsNull segments = false) :
      Stumbles a value segments .null
  | element {segments lead rest : List Segment} {s : Segment} {scope item : Json}
      {before after : List Json} (path : segments = lead ++ s :: rest) (single : Single lead)
      (list : s.isList = true)
      (found : scope.at? ((lead ++ [s]).flatMap Segment.members) =
        some (.array (before ++ item :: after)))
      (passed : ∀ x ∈ before, ¬ ∃ leaf, Reaches rest x leaf ∧ a.Passes value leaf)
      (below : Stumbles a value rest item) : Stumbles a value segments scope

variable {a : FilterArgument} {value : Literal} {scope : Json}

theorem stumbles_single {lead : List Segment} (hlead : Single lead) :
    a.Stumbles value lead scope ↔ scope = .null ∧ lead.any (·.isNullable) = false := by
  rw [← absorbsNull_single hlead]
  constructor
  · intro h
    cases h with
    | null strict => exact ⟨rfl, strict⟩
    | element path _ list =>
      rw [hlead _ (by rw [path]; simp)] at list
      cases list
  · rintro ⟨rfl, hstrict⟩
    exact .null hstrict

theorem stumbles_list {lead rest : List Segment} {s : Segment} (hlead : Single lead)
    (hs : s.isList = true) :
    a.Stumbles value (lead ++ s :: rest) scope ↔
      (scope = .null ∧ lead.any (·.isNullable) = false) ∨
        ∃ before item after,
          scope.at? ((lead ++ [s]).flatMap Segment.members) =
            some (.array (before ++ item :: after)) ∧
          (∀ x ∈ before, ¬ ∃ leaf, Reaches rest x leaf ∧ a.Passes value leaf) ∧
          a.Stumbles value rest item := by
  rw [← absorbsNull_list hlead hs rest]
  constructor
  · intro h
    cases h with
    | null strict => exact Or.inl ⟨rfl, strict⟩
    | element path single list found passed below =>
      obtain ⟨rfl, rfl, rfl⟩ := first_list_unique hlead single hs list path
      exact Or.inr ⟨_, _, _, found, passed, below⟩
  · rintro (⟨rfl, hstrict⟩ | ⟨before, item, after, found, passed, below⟩)
    · exact .null hstrict
    · exact .element rfl hlead hs found passed below

end FilterArgument

/-! ## One argument -/

theorem Expr.anyElement_ne_ok {test : Json → Except QueryError Bool} {before after : List Json}
    {item : Json} (hbefore : ∀ x ∈ before, test x ≠ .ok true) (hitem : ∀ b, test item ≠ .ok b)
    (b : Bool) : anyElement test (before ++ item :: after) ≠ .ok b := by
  intro h
  induction before with
  | nil =>
    rw [List.nil_append, anyElement_cons, bind_eq_ok] at h
    obtain ⟨c, hc, -⟩ := h
    exact hitem c hc
  | cons x before ih =>
    rw [List.cons_append, anyElement_cons, bind_eq_ok] at h
    obtain ⟨c, hc, h⟩ := h
    cases c with
    | true => exact hbefore x (by simp) hc
    | false => exact ih (fun y hy => hbefore y (by simp [hy])) (by simpa using h)

/-- Either the outcome is an error for a null and the condition holds, or there is an outcome and
the condition does not hold. -/
def FailsExactlyIf (outcome : Except QueryError Bool) (condition : Prop) : Prop :=
  (∃ path, outcome = .error (.nullReference path)) ∧ condition ∨
    (∃ b, outcome = .ok b) ∧ ¬ condition

theorem FailsExactlyIf.congr {outcome : Except QueryError Bool} {condition other : Prop}
    (h : FailsExactlyIf outcome condition) (heq : condition ↔ other) :
    FailsExactlyIf outcome other := by
  rwa [← heq]

/-- A search fails at the first element its test fails on, unless one is found before. -/
theorem Expr.anyElement_failsExactlyIf {test : Json → Except QueryError Bool}
    {fails passes : Json → Prop} {items : List Json}
    (hfails : ∀ x ∈ items, FailsExactlyIf (test x) (fails x))
    (hpasses : ∀ x b, test x = .ok b → (b = true ↔ passes x)) :
    FailsExactlyIf (anyElement test items)
      (∃ before item after, items = before ++ item :: after ∧ (∀ x ∈ before, ¬ passes x) ∧
        fails item) := by
  cases houtcome : anyElement test items with
  | error e =>
    obtain ⟨before, item, after, rfl, hbefore, hitem⟩ := anyElement_error_iff.mp houtcome
    rcases hfails item (by simp) with ⟨⟨path, hpath⟩, hfailing⟩ | ⟨⟨b, hb⟩, -⟩
    · obtain rfl := Except.error.inj (hitem.symm.trans hpath)
      refine Or.inl ⟨⟨path, rfl⟩, before, item, after, rfl, ?_, hfailing⟩
      intro x hx hpass
      exact Bool.false_ne_true ((hpasses x false (hbefore x hx)).mpr hpass)
    · rw [hitem] at hb
      cases hb
  | ok b =>
    refine Or.inr ⟨⟨b, rfl⟩, ?_⟩
    rintro ⟨before, item, after, rfl, hbefore, hfailing⟩
    refine anyElement_ne_ok (fun x hx htrue => ?_) (fun c hc => ?_) b houtcome
    · exact hbefore x hx ((hpasses x true htrue).mp rfl)
    · rcases hfails item (by simp) with ⟨⟨path, hpath⟩, -⟩ | ⟨-, hnot⟩
      · rw [hc] at hpath
        cases hpath
      · exact hnot hfailing

namespace Leaf

theorem propagates_of_ends {isRequired : Bool} {lead : List Segment} (h : Ends isRequired lead) :
    propagates isRequired lead = lead.any (·.isNullable) := by
  obtain ⟨last, hlast, -, hnullable⟩ := h
  obtain ⟨init, rfl⟩ := List.getLast?_eq_some_iff.mp hlast
  simp [propagates, hnullable, Bool.or_comm]

variable {params : List Parameter} {a : FilterArgument} {value : Literal}

theorem isNull_of_not_strict {lead : List Segment} {scope : Json}
    (h : ¬ (scope = .null ∧ lead.any (·.isNullable) = false))
    (hany : lead.any (·.isNullable) = false) : scope.isNull = false := by
  rw [Bool.eq_false_iff, ne_eq, Json.isNull_iff]
  intro hscope
  exact h ⟨hscope, hany⟩

theorem eval_toExpr_failsExactlyIf {leaf : Leaf} (hbound : leaf.Bound params)
    {lead : List Segment} (hlead : Single lead) (hplain : Plain lead)
    (hends : Ends a.isRequired lead) {scope : Json} (hfits : Fits lead scope) :
    FailsExactlyIf ((leaf.toExpr lead a.isRequired).eval params scope)
      (a.Stumbles value lead scope) := by
  have hne : lead ≠ [] := by
    rintro rfl
    obtain ⟨last, hlast, -⟩ := hends
    cases hlast
  rw [eval_toExpr hbound, propagates_of_ends hends, FilterArgument.stumbles_single hlead]
  by_cases hstrict : scope = .null ∧ lead.any (·.isNullable) = false
  · obtain ⟨rfl, hany⟩ := hstrict
    obtain ⟨path, hpath⟩ := MemberPath.access_null hplain hne
    rw [hany, hpath]
    exact Or.inl ⟨⟨path, rfl⟩, rfl, rfl⟩
  · obtain ⟨next, hnext⟩ := hfits.access_single hlead (isNull_of_not_strict hstrict) id
    rw [hnext]
    exact Or.inr ⟨⟨_, rfl⟩, hstrict⟩

/-- A search of a list stumbles at the null it starts from, or below an element. -/
theorem eval_any_failsExactlyIf {inner : Expr} {lead rest : List Segment} {s : Segment}
    (hlead : Single lead) (hs : s.isList = true) (hplain : Plain (lead ++ [s])) {scope : Json}
    (hfits : Fits (lead ++ s :: rest) scope)
    (hinner : ∀ item, Fits rest item →
      FailsExactlyIf (inner.eval params item) (a.Stumbles value rest item))
    (hpasses : ∀ item b, inner.eval params item = .ok b →
      (b = true ↔ ∃ v, Reaches rest item v ∧ a.Passes value v)) :
    FailsExactlyIf
      ((Expr.any (.ofSegments (lead ++ [s])) (lead.any (·.isNullable)) inner).eval params scope)
      (a.Stumbles value (lead ++ s :: rest) scope) := by
  rw [Expr.eval_any, FilterArgument.stumbles_list hlead hs]
  by_cases hstrict : scope = .null ∧ lead.any (·.isNullable) = false
  · obtain ⟨rfl, hany⟩ := hstrict
    obtain ⟨path, hpath⟩ := MemberPath.access_null hplain (by simp)
    rw [hany, hpath]
    exact Or.inl ⟨⟨path, rfl⟩, Or.inl ⟨rfl, rfl⟩⟩
  rcases hfits.access_list hlead hs (isNull_of_not_strict hstrict) id with
    hmissing | ⟨items, hitems, helements⟩
  · rw [hmissing]
    refine Or.inr ⟨⟨false, rfl⟩, ?_⟩
    rintro (hscope | ⟨before, item, after, hfound, -⟩)
    · exact hstrict hscope
    · have haccess : (MemberPath.ofSegments (lead ++ [s])).access (lead.any (·.isNullable)) scope =
          .ok (.array (before ++ item :: after)) := MemberPath.follow_of_at? hfound
      rw [hmissing] at haccess
      cases haccess
  · have hat : scope.at? ((lead ++ [s]).flatMap Segment.members) = some (.array items) :=
      MemberPath.at?_of_access_ok hitems rfl
    have hsearch := Expr.anyElement_failsExactlyIf
      (fun item hitem => hinner item (helements item hitem)) hpasses
    rw [hitems]
    refine hsearch.congr ?_
    simp only [hstrict, hat, false_or, Option.some.injEq, Json.array.injEq]

/-- On a document that fits, the search for a leaf fails exactly where it stumbles. -/
theorem eval_along_failsExactlyIf {leaf : Leaf} (htest : FilterArgument.TestFor params a value leaf)
    {segments : List Segment} (hplain : Plain segments) (hends : Ends a.isRequired segments)
    {scope : Json} (hfits : Fits segments scope) :
    FailsExactlyIf ((leaf.along a.isRequired [] segments).eval params scope)
      (a.Stumbles value segments scope) := by
  have hnull : leaf.test params .null = false := by
    rw [Bool.eq_false_iff, ne_eq, htest.passes]
    exact FilterArgument.not_passes_null _ _
  induction segments using scopes_induction generalizing scope with
  | single lead hlead =>
    rw [along_single leaf a.isRequired hlead]
    exact eval_toExpr_failsExactlyIf htest.bound hlead hplain hends hfits
  | list lead s rest hlead hs ih =>
    rw [along_list leaf a.isRequired hlead hs]
    rw [List.append_cons] at hplain
    have hfront : Plain (lead ++ [s]) := fun x hx => hplain x (List.mem_append_left rest hx)
    have hrest : Plain rest := fun x hx => hplain x (List.mem_append_right (lead ++ [s]) hx)
    refine eval_any_failsExactlyIf hlead hs hfront hfits ?_ ?_
    · intro item hitem
      exact ih hrest (ends_of_list hs hends) hitem
    · intro item b hb
      simp only [← htest.passes]
      exact eval_along_ok htest.bound hnull a.isRequired hb

end Leaf

/-! ## All supplied arguments -/

namespace Compose

/-- The search for one of the supplied arguments stumbles, and all before it succeed. -/
def Stumbles (supplied : List (FilterArgument × Literal)) (row : Json) : Prop :=
  ∃ before a value after, supplied = before ++ (a, value) :: after ∧
    (∀ pair ∈ before, pair.1.Matches pair.2 row) ∧ a.Stumbles value a.path.segments row

theorem stumbles_nil (row : Json) : ¬ Stumbles [] row := by
  rintro ⟨before, a, value, after, h, -⟩
  cases before <;> cases h

theorem stumbles_cons {pair : FilterArgument × Literal} {rest : List (FilterArgument × Literal)}
    {row : Json} :
    Stumbles (pair :: rest) row ↔
      pair.1.Stumbles pair.2 pair.1.path.segments row ∨
        pair.1.Matches pair.2 row ∧ Stumbles rest row := by
  constructor
  · rintro ⟨before, a, value, after, hsplit, hbefore, hstumbles⟩
    cases before with
    | nil =>
      obtain ⟨rfl, -⟩ := List.cons.inj hsplit
      exact Or.inl hstumbles
    | cons first before =>
      obtain ⟨rfl, rfl⟩ := List.cons.inj hsplit
      rw [List.forall_mem_cons] at hbefore
      exact Or.inr ⟨hbefore.1, before, a, value, after, rfl, hbefore.2, hstumbles⟩
  · rintro (hstumbles | ⟨hmatches, before, a, value, after, rfl, hbefore, hstumbles⟩)
    · exact ⟨[], pair.1, pair.2, rest, rfl, by simp, hstumbles⟩
    · refine ⟨pair :: before, a, value, after, rfl, ?_, hstumbles⟩
      exact List.forall_mem_cons.mpr ⟨hmatches, hbefore⟩

theorem evalAll_failsExactlyIf {params : List Parameter}
    {supplied : List (FilterArgument × Literal)} {exprs : List Expr}
    (htests : List.Forall₂ (Tests params) supplied exprs) {row : Json}
    (hfails : ∀ pair ∈ supplied, ∀ expr, Tests params pair expr →
      FailsExactlyIf (expr.eval params row) (pair.1.Stumbles pair.2 pair.1.path.segments row)) :
    FailsExactlyIf (Expr.evalAll params exprs row) (Stumbles supplied row) := by
  induction htests with
  | nil => exact Or.inr ⟨⟨true, rfl⟩, stumbles_nil row⟩
  | @cons pair expr rest exprs htest _ ih =>
    rw [List.forall_mem_cons] at hfails
    have hrest := ih hfails.2
    rw [Expr.evalAll_cons]
    refine FailsExactlyIf.congr ?_ stumbles_cons.symm
    rcases hfails.1 expr htest with ⟨⟨path, hpath⟩, hstumbles⟩ | ⟨⟨b, hb⟩, hnot⟩
    · rw [hpath]
      exact Or.inl ⟨⟨path, rfl⟩, Or.inl hstumbles⟩
    · have hmatches := tests_ok htest hb
      rw [hb]
      cases b with
      | true => exact hrest.congr (by simp [hnot, hmatches.mp rfl])
      | false =>
        refine Or.inr ⟨⟨false, rfl⟩, ?_⟩
        rintro (hstumbles | ⟨hmatch, -⟩)
        · exact hnot hstumbles
        · exact Bool.false_ne_true (hmatches.mpr hmatch)

theorem filter?_of_plan {arguments : ArgumentList} {request : RequestArguments} {p : QueryPlan}
    (h : plan arguments request = .ok p) : filter? arguments request = .ok p.filter := by
  rw [plan, bind_eq_ok] at h
  obtain ⟨filter, hfilter, h⟩ := h
  simp only [bind_eq_ok, pure, Except.pure, Except.ok.injEq] at h
  obtain ⟨_, -, _, -, rfl⟩ := h
  exact hfilter

/-- On a document that conforms to its type, a filter over arguments discovered from the type fails
for a null only, and does so exactly if some supplied argument stumbles. -/
theorem filter_fails_iff_stumbles {d : Discovery} {typeName : String}
    (hresolver : d.resolver = .identity) (hplain : d.registry.PlainNames)
    {arguments : ArgumentList} (hdiscovered : arguments.filters ⊆ (d.ofType typeName).filters)
    {request : RequestArguments} {p : QueryPlan} (hplan : plan arguments request = .ok p)
    {f : Filter} (hf : p.filter = some f) {row : Json}
    (hrow : d.registry.Conforms (.object typeName) row) :
    (∀ e, f.eval row = .error e → ∃ path, e = .nullReference path) ∧
      ((∃ b, f.eval row = .ok b) ↔
        ¬ Stumbles (suppliedFilters request arguments.filters) row) := by
  have hfilter := filter?_of_plan hplan
  rw [hf] at hfilter
  obtain ⟨exprs, hexpr, htests⟩ := filter?_spec hfilter
  have houtcome : FailsExactlyIf (f.eval row)
      (Stumbles (suppliedFilters request arguments.filters) row) := by
    rw [Filter.eval, hexpr, Expr.eval_conjunction]
    refine evalAll_failsExactlyIf htests ?_
    rintro ⟨a, value⟩ hpair _ ⟨leaf, rfl, hleaf⟩
    have ha := Discovery.discovered_of_mem hresolver hplain
      (hdiscovered (mem_suppliedFilters.mp hpair).1)
    exact Leaf.eval_along_failsExactlyIf hleaf ha.plain ha.ends (ha.fits hrow)
  rcases houtcome with ⟨⟨path, hpath⟩, hstumbles⟩ | ⟨⟨b, hb⟩, hnot⟩
  · rw [hpath]
    refine ⟨?_, by simp [hstumbles]⟩
    rintro e ⟨⟩
    exact ⟨path, rfl⟩
  · rw [hb]
    exact ⟨by simp, by simp [hnot]⟩

/-! ### Rooms that may be null -/

/-- Buildings with rooms, each null or with a number. -/
def buildings : Discovery where
  registry := ⟨[("Building", ⟨"Building", "Building", [⟨"Rooms", .list (.object "Room"), none⟩]⟩),
    ("Room", ⟨"Room", "Room", [⟨"Number", .nonNull (.scalar .int), none⟩]⟩)]⟩
  resolver := .identity
  config := { Config.default with supportListGraphType := true }

def roomOne : RequestArguments := ⟨[("roomsnumber", .number (.ofInt64 1))]⟩

def roomOneFilter : Filter where
  expr := .any ⟨["Rooms"]⟩ false (.compare ⟨⟨["Number"]⟩, .eq, 0, false⟩)
  params := [.integer 1]

def building (rooms : List Json) : Json := .object [("Rooms", .array rooms)]

def room (number : Int64) : Json := .object [("Number", .number (.ofInt64 number))]

theorem buildings_plain : buildings.registry.PlainNames :=
  Registry.plainNames_of_entries (by decide)

theorem building_conforms {rooms : List Json}
    (h : ∀ item ∈ rooms, buildings.registry.Conforms (.object "Room") item) :
    buildings.registry.Conforms (.object "Building") (building rooms) := by
  have hbuilding : buildings.registry.resolve? "Building" =
      some ⟨"Building", "Building", [⟨"Rooms", .list (.object "Room"), none⟩]⟩ := rfl
  refine .object hbuilding ?_
  intro field hfield
  obtain rfl := List.mem_singleton.mp hfield
  exact .list h

theorem room_conforms (number : Int64) :
    buildings.registry.Conforms (.object "Room") (room number) := by
  have hroom : buildings.registry.resolve? "Room" =
      some ⟨"Room", "Room", [⟨"Number", .nonNull (.scalar .int), none⟩]⟩ := rfl
  refine .object hroom ?_
  intro field hfield
  obtain rfl := List.mem_singleton.mp hfield
  exact .nonNull rfl .scalar

theorem plan_roomOne :
    plan (buildings.ofType "Building") roomOne = .ok ⟨some roomOneFilter, [], none⟩ := by
  cbv

/-- The null is never come to if a room with the number stands in front of it. -/
theorem room_found_before_null :
    buildings.registry.Conforms (.object "Building") (building [room 1, .null]) ∧
      (∃ b, roomOneFilter.eval (building [room 1, .null]) = .ok b) ∧
      ¬ Stumbles (suppliedFilters roomOne (buildings.ofType "Building").filters)
        (building [room 1, .null]) := by
  have hrow : buildings.registry.Conforms (.object "Building") (building [room 1, .null]) :=
    building_conforms (by simpa using ⟨room_conforms 1, .null rfl⟩)
  have hfound : ∃ b, roomOneFilter.eval (building [room 1, .null]) = .ok b := ⟨true, rfl⟩
  have hfails := filter_fails_iff_stumbles rfl buildings_plain (List.Subset.refl _) plan_roomOne
    rfl hrow
  exact ⟨hrow, hfound, hfails.2.mp hfound⟩

/-- A null among the rooms is as declared, and still the number is read through it. -/
theorem null_room_fails :
    buildings.resolver = .identity ∧ buildings.registry.PlainNames ∧
      plan (buildings.ofType "Building") roomOne = .ok ⟨some roomOneFilter, [], none⟩ ∧
      (building [.null]).isNull = false ∧
      buildings.registry.Conforms (.object "Building") (building [.null]) ∧
      roomOneFilter.eval (building [.null]) = .error (.nullReference "Number") :=
  ⟨rfl, buildings_plain, plan_roomOne, rfl, building_conforms (by simpa using .null rfl), rfl⟩

end Compose

end FieldQuery
