import Mathlib
import FieldQuery.Proofs.Query.Placeholders
import FieldQuery.Proofs.Query.Rebuilt
import FieldQuery.Proofs.Query.Run

/-!
# Filters joined into one

Two filters in a row keep the rows that one filter keeps, which asks for both. The parameters of the
second filter come behind those of the first, and its comparisons count them from there.
-/

namespace FieldQuery

/-- The parameter is looked for behind `n` others. -/
def Comparison.raise (n : Nat) (c : Comparison) : Comparison := { c with param := c.param + n }

namespace Expr

mutual

def mapComparisons (f : Comparison → Comparison) : Expr → Expr
  | .compare c => .compare (f c)
  | .any collection nullPropagating predicate =>
    .any collection nullPropagating (mapComparisons f predicate)
  | .and parts => .and (mapComparisonsOf f parts)

def mapComparisonsOf (f : Comparison → Comparison) : List Expr → List Expr
  | [] => []
  | part :: rest => mapComparisons f part :: mapComparisonsOf f rest

end

/-- All parameters are looked for behind `n` others. -/
def raise (n : Nat) (e : Expr) : Expr := e.mapComparisons (.raise n)

/-- Every parameter that is compared with is there. -/
def BoundIn (params : List Parameter) (e : Expr) : Prop :=
  ∀ c ∈ e.comparisons, c.param < params.length

mutual

theorem mapComparisons_id (e : Expr) : e.mapComparisons id = e := by
  match e with
  | .compare c => rfl
  | .any collection np predicate => rw [mapComparisons, mapComparisons_id predicate]
  | .and parts => rw [mapComparisons, mapComparisonsOf_id parts]

theorem mapComparisonsOf_id (parts : List Expr) : mapComparisonsOf id parts = parts := by
  match parts with
  | [] => rfl
  | part :: rest => rw [mapComparisonsOf, mapComparisons_id part, mapComparisonsOf_id rest]

end

variable {R : Comparison → Comparison → Prop} {f g : Comparison → Comparison}

mutual

theorem rebuilt_map {e : Expr} (h : ∀ c ∈ e.comparisons, R (f c) (g c)) :
    Rebuilt R (e.mapComparisons f) (e.mapComparisons g) := by
  match e with
  | .compare c => exact .compare (h c (by simp [comparisons]))
  | .any collection np predicate =>
    rw [comparisons] at h
    exact .any id (rebuilt_map h)
  | .and parts =>
    rw [comparisons] at h
    exact .and (rebuiltAll_map h)

theorem rebuiltAll_map {parts : List Expr} (h : ∀ c ∈ comparisonsOf parts, R (f c) (g c)) :
    RebuiltAll R (mapComparisonsOf f parts) (mapComparisonsOf g parts) := by
  match parts with
  | [] => exact .nil
  | part :: rest =>
    rw [comparisonsOf, List.forall_mem_append] at h
    exact .cons (rebuilt_map h.1) (rebuiltAll_map h.2)

end

/-! ## Evaluation among other parameters -/

variable {params params' before more : List Parameter} {scope : Json} {b : Bool}

/-- An expression has the outcomes it had if each of its comparisons does. -/
theorem eval_map_ok_iff {e : Expr}
    (h : ∀ c ∈ e.comparisons, ∀ scope b,
      (f c).eval params' scope = .ok b ↔ c.eval params scope = .ok b) :
    (e.mapComparisons f).eval params' scope = .ok b ↔ e.eval params scope = .ok b := by
  have hback : Rebuilt (Comparison.Keeps params' params)
      (e.mapComparisons f) (e.mapComparisons id) :=
    rebuilt_map fun c hc scope b => (h c hc scope b).mp
  have hforth : Rebuilt (Comparison.Keeps params params')
      (e.mapComparisons id) (e.mapComparisons f) :=
    rebuilt_map fun c hc scope b => (h c hc scope b).mpr
  rw [mapComparisons_id] at hback hforth
  exact ⟨hback.eval_ok fun _ _ hkeeps => hkeeps, hforth.eval_ok fun _ _ hkeeps => hkeeps⟩

theorem eval_append_ok_iff {e : Expr} (h : e.BoundIn params) :
    e.eval (params ++ more) scope = .ok b ↔ e.eval params scope = .ok b := by
  have hsame : ∀ c ∈ e.comparisons, ∀ scope b,
      (id c).eval (params ++ more) scope = .ok b ↔ c.eval params scope = .ok b := by
    intro c hc scope b
    rw [id, Comparison.eval, Comparison.eval, List.getElem?_append_left (h c hc)]
  rw [← eval_map_ok_iff hsame, mapComparisons_id]

/-- The failure for a parameter that is not there names another number, so only successes are
kept. -/
theorem eval_raise_ok_iff (e : Expr) :
    (e.raise before.length).eval (before ++ params) scope = .ok b ↔
      e.eval params scope = .ok b := by
  apply eval_map_ok_iff
  intro c _ scope b
  have hparam : (before ++ params)[(c.raise before.length).param]? = params[c.param]? := by
    rw [Comparison.raise, List.getElem?_append_right (Nat.le_add_left ..), Nat.add_sub_cancel]
  rw [Comparison.eval, Comparison.eval, hparam]
  cases params[c.param]? with
  | none => exact ⟨nofun, nofun⟩
  | some param => rfl

end Expr

/-! ## The joined filter -/

namespace Filter

/-- Asks for both, with the parameters of the second filter behind those of the first. -/
def join (f g : Filter) : Filter :=
  ⟨.conjunction [f.expr, g.expr.raise f.params.length], f.params ++ g.params⟩

/-- The second filter is asked only where the first one holds. -/
theorem eval_join_ok_iff {f g : Filter} (hbound : f.expr.BoundIn f.params) {scope : Json}
    {b : Bool} :
    (f.join g).eval scope = .ok b ↔
      ∃ first, f.eval scope = .ok first ∧ (if first then g.eval scope else .ok false) = .ok b := by
  have hfirst (first : Bool) : f.expr.eval (f.params ++ g.params) scope = .ok first ↔
      f.expr.eval f.params scope = .ok first := Expr.eval_append_ok_iff hbound
  have hsecond : (g.expr.raise f.params.length).eval (f.params ++ g.params) scope = .ok b ↔
      g.expr.eval g.params scope = .ok b := Expr.eval_raise_ok_iff g.expr
  rw [eval, join, Expr.eval_conjunction, Expr.evalAll_cons, bind_eq_ok]
  simp only [hfirst]
  apply exists_congr
  intro first
  cases first with
  | false => rfl
  | true =>
    rw [if_pos rfl, if_pos rfl, ← Expr.eval_conjunction, Expr.conjunction, hsecond]
    rfl

end Filter

/-! ## Filters in a row -/

namespace MemoryQuery

variable {α : Type}

/-- The one run asks the first filter about all rows before the second one is asked about any, the
other goes from row to row. -/
theorem filterRows_join {f g : Filter} (hbound : f.expr.BoundIn f.params)
    {all kept : List (Row α)} :
    filterRows f all >>= filterRows g = .ok kept ↔ filterRows (f.join g) all = .ok kept := by
  induction all generalizing kept with
  | nil => rfl
  | cons row rest ih =>
    rw [bind_eq_ok, filterRows_cons_eq_ok]
    constructor
    · rintro ⟨between, hfirst, hsecond⟩
      obtain ⟨holds, others, hrow, hrest, rfl⟩ := filterRows_cons_eq_ok.mp hfirst
      cases holds with
      | false =>
        refine ⟨false, kept, ?_, ih.mp (bind_eq_ok.mpr ⟨others, hrest, hsecond⟩), rfl⟩
        exact (Filter.eval_join_ok_iff hbound).mpr ⟨false, hrow, rfl⟩
      | true =>
        obtain ⟨keep, last, hkeep, hlast, rfl⟩ := filterRows_cons_eq_ok.mp hsecond
        refine ⟨keep, last, ?_, ih.mp (bind_eq_ok.mpr ⟨others, hrest, hlast⟩), rfl⟩
        exact (Filter.eval_join_ok_iff hbound).mpr ⟨true, hrow, hkeep⟩
    · rintro ⟨keep, last, hkeep, hlast, rfl⟩
      obtain ⟨others, hrest, hlast⟩ := bind_eq_ok.mp (ih.mpr hlast)
      obtain ⟨holds, hrow, hkeep⟩ := (Filter.eval_join_ok_iff hbound).mp hkeep
      refine ⟨_, filterRows_cons_eq_ok.mpr ⟨holds, others, hrow, hrest, rfl⟩, ?_⟩
      cases holds with
      | false =>
        cases hkeep
        exact hlast
      | true => exact filterRows_cons_eq_ok.mpr ⟨keep, last, hkeep, hlast, rfl⟩

theorem rows_filter (q : MemoryQuery α) (f : Filter) :
    (Queryable.filter q f).rows = q.rows >>= filterRows f := by
  have hstep : runSteps [.filter f] = filterRows (α := α) f := by
    funext all
    rw [runSteps_cons]
    cases hrun : runStep (.filter f) all with
    | error e => exact hrun.symm
    | ok kept => exact hrun.symm
  rw [← hstep]
  exact rows_append q [.filter f]

/-- Two filters in a row leave the items that the joined filter leaves, in their order, and one run
succeeds where the other does. -/
theorem filters_in_a_row_join (q : MemoryQuery α) {f g : Filter}
    (hbound : f.expr.BoundIn f.params) (items : List α) :
    (Queryable.filter (Queryable.filter q f) g).toList = .ok items ↔
      (Queryable.filter q (f.join g)).toList = .ok items := by
  have hrows (kept : List (Row α)) : (Queryable.filter (Queryable.filter q f) g).rows = .ok kept ↔
      (Queryable.filter q (f.join g)).rows = .ok kept := by
    rw [rows_filter, rows_filter, rows_filter, bind_assoc, bind_eq_ok, bind_eq_ok]
    exact exists_congr fun all => and_congr_right fun _ => filterRows_join hbound
  simp only [toList_eq, map_eq_ok, hrows]

/-! ### Ann's rooms with two beds -/

def twoBedRooms : Filter := ⟨.compare ⟨⟨["Beds"]⟩, .ge, 0, false⟩, [.integer 2]⟩

def annAtHers : Filter :=
  ⟨.and [.compare ⟨⟨["Owner", "Name"]⟩, .eq, 0, false⟩,
    .any ⟨["Guests"]⟩ false (.compare ⟨⟨["Name"]⟩, .eq, 1, false⟩)], [.string "Ann", .string "Bob"]⟩

def annsRoom : Json :=
  .object [("Beds", .number (.ofInt64 2)), ("Owner", .object [("Name", .string "Ann")]),
    ("Guests", .array [.object [("Name", .string "Eve")], .object [("Name", .string "Bob")]])]

/-- It has no owner, so the second filter fails on it. -/
def boxRoom : Json := .object [("Beds", .number (.ofInt64 1))]

theorem boxRoom_passed_over :
    (twoBedRooms.join annAtHers).expr =
        .and [.compare ⟨⟨["Beds"]⟩, .ge, 0, false⟩,
          .and [.compare ⟨⟨["Owner", "Name"]⟩, .eq, 1, false⟩,
            .any ⟨["Guests"]⟩ false (.compare ⟨⟨["Name"]⟩, .eq, 2, false⟩)]] ∧
      annAtHers.eval boxRoom = .error (.nullReference "Owner.Name") ∧
      twoBedRooms.expr.BoundIn twoBedRooms.params ∧
      (Queryable.filter (Queryable.filter (ofList [boxRoom, annsRoom] .ok) twoBedRooms)
        annAtHers).toList = .ok [annsRoom] ∧
      (Queryable.filter (ofList [boxRoom, annsRoom] .ok) (twoBedRooms.join annAtHers)).toList =
        .ok [annsRoom] := by
  have hbound : twoBedRooms.expr.BoundIn twoBedRooms.params := by
    simp [twoBedRooms, Expr.BoundIn, Expr.comparisons]
  have hrow : (Queryable.filter (Queryable.filter (ofList [boxRoom, annsRoom] .ok) twoBedRooms)
      annAtHers).toList = .ok [annsRoom] := by rfl
  exact ⟨rfl, rfl, hbound, hrow, (filters_in_a_row_join _ hbound _).mp hrow⟩

end MemoryQuery

end FieldQuery
