import Mathlib
import FieldQuery.Proofs.Compose.Independence

/-!
# The searches of a fragment

A path is cut behind each of its lists. Each row of segments between two cuts is one search of the
fragment, and what is left is its test. The same searches can be built from the inside out, with
the rest of the path cut at its last list each time, and no cut is past an end.
-/

namespace FieldQuery

/-! ## Paths cut at their lists -/

/-- The row ends with a list, and holds no other. -/
def EndsInList (row : List Segment) : Prop :=
  ∃ lead s, Single lead ∧ s.isList = true ∧ row = lead ++ [s]

/-- The rows of segments up to each list in turn, and the segments behind the last one. -/
structure CutAtLists (segments : List Segment) (rows : List (List Segment))
    (rest : List Segment) : Prop where
  whole : rows.flatten ++ rest = segments
  row : ∀ row ∈ rows, EndsInList row
  rest : Single rest

variable {segments rest : List Segment} {rows : List (List Segment)}

theorem exists_cutAtLists (segments : List Segment) :
    ∃ rows rest, CutAtLists segments rows rest := by
  induction segments using scopes_induction with
  | single lead hlead => exact ⟨[], lead, rfl, List.forall_mem_nil _, hlead⟩
  | list lead s rest hlead hs ih =>
    obtain ⟨rows, last, hwhole, hrows, hlast⟩ := ih
    refine ⟨(lead ++ [s]) :: rows, last, ?_, ?_, hlast⟩
    · rw [List.flatten_cons, List.append_assoc, hwhole, List.append_assoc, List.singleton_append]
    · exact List.forall_mem_cons.mpr ⟨⟨lead, s, hlead, hs, rfl⟩, hrows⟩

theorem Single.countP_eq_zero (h : Single rest) : rest.countP (·.isList) = 0 := by
  rw [List.countP_eq_zero]
  intro s hs
  rw [h s hs]
  exact Bool.false_ne_true

theorem EndsInList.countP_eq_one {row : List Segment} (h : EndsInList row) :
    row.countP (·.isList) = 1 := by
  obtain ⟨lead, s, hlead, hs, rfl⟩ := h
  rw [List.countP_append, hlead.countP_eq_zero, List.countP_singleton, if_pos hs]

theorem countP_flatten_eq_length (h : ∀ row ∈ rows, EndsInList row) :
    rows.flatten.countP (·.isList) = rows.length := by
  induction rows with
  | nil => rfl
  | cons row rows ih =>
    obtain ⟨hrow, hrows⟩ := List.forall_mem_cons.mp h
    rw [List.flatten_cons, List.countP_append, hrow.countP_eq_one, ih hrows, List.length_cons,
      Nat.add_comm]

theorem flatten_eq_nil (h : ∀ row ∈ rows, EndsInList row) (hnil : rows.flatten = []) :
    rows = [] := by
  rw [← List.length_eq_zero_iff, ← countP_flatten_eq_length h, hnil, List.countP_nil]

theorem CutAtLists.length_rows (h : CutAtLists segments rows rest) :
    rows.length = segments.countP (·.isList) := by
  rw [← h.whole, List.countP_append, countP_flatten_eq_length h.row, h.rest.countP_eq_zero,
    Nat.add_zero]

/-! ## Searches around a test -/

structure Search where
  collection : MemberPath
  nullPropagating : Bool

/-- The search for the list that a row ends with. Any other segment of the row may be null. -/
def Search.over (row : List Segment) : Search :=
  ⟨.ofSegments row, row.dropLast.any (·.isNullable)⟩

/-- The test inside the searches, the first of them outermost. -/
def Expr.inside (searches : List Search) (test : Expr) : Expr :=
  searches.foldr (fun s inner => .any s.collection s.nullPropagating inner) test

/-- The comparisons of a member that a leaf stands for. -/
def Leaf.testOf (leaf : Leaf) (member : MemberPath) (nullPropagating : Bool) : Expr :=
  match leaf with
  | .equal param => .compare ⟨member, .eq, param, nullPropagating⟩
  | .between start stop =>
    .and [.compare ⟨member, .ge, start, nullPropagating⟩,
      .compare ⟨member, .lt, stop, nullPropagating⟩]

theorem Leaf.toExpr_eq (leaf : Leaf) (segments : List Segment) (isRequired : Bool) :
    leaf.toExpr segments isRequired =
      leaf.testOf (.ofSegments segments) (propagates isRequired segments) := by
  cases leaf <;> rfl

theorem Leaf.along_eq_inside (leaf : Leaf) (isRequired : Bool)
    (h : CutAtLists segments rows rest) :
    leaf.along isRequired [] segments =
      .inside (rows.map Search.over) (leaf.toExpr rest isRequired) := by
  obtain ⟨rfl, hrows, hrest⟩ := h
  induction rows with
  | nil => exact along_single leaf isRequired hrest
  | cons row rows ih =>
    obtain ⟨⟨lead, s, hlead, hs, rfl⟩, hbelow⟩ := List.forall_mem_cons.mp hrows
    rw [List.flatten_cons, List.append_assoc, List.append_assoc, List.singleton_append,
      along_list leaf isRequired hlead hs, ih hbelow, List.map_cons, Search.over,
      List.dropLast_concat]
    rfl

theorem flatMap_members_over (rows : List (List Segment)) :
    (rows.map Search.over).flatMap (·.collection.members) =
      rows.flatten.flatMap Segment.members := by
  induction rows with
  | nil => rfl
  | cons row rows ih =>
    rw [List.map_cons, List.flatMap_cons, ih, List.flatten_cons, List.flatMap_append]
    rfl

/-- The members on the way through all searches to the test are those of the whole path. -/
theorem CutAtLists.members (h : CutAtLists segments rows rest) :
    (rows.map Search.over).flatMap (·.collection.members) ++ (MemberPath.ofSegments rest).members =
      (MemberPath.ofSegments segments).members := by
  rw [flatMap_members_over, MemberPath.ofSegments, MemberPath.ofSegments, ← List.flatMap_append,
    h.whole]

/-! ## From the inside out -/

/-- The segments before an index and from it on, unless it is past the end. -/
def splitAt? (segments : List Segment) (i : Nat) : Option (List Segment × List Segment) :=
  if i ≤ segments.length then some (segments.take i, segments.drop i) else none

/-- The segments before the last one, by its index, which there is none of in an empty row. -/
def beforeLast? (segments : List Segment) : Option (List Segment) :=
  match segments.length with
  | 0 => none
  | last + 1 => (splitAt? segments last).map Prod.fst

/-- How many segments lead up to the nearest list, with the list. -/
def Container.reach : Container → Nat
  | .direct => 0
  | .collection i => i + 1

theorem splitAt?_append (lead rest : List Segment) :
    splitAt? (lead ++ rest) lead.length = some (lead, rest) := by
  have hle : lead.length ≤ (lead ++ rest).length := by
    rw [List.length_append]
    exact Nat.le_add_right _ _
  rw [splitAt?, if_pos hle, List.take_left, List.drop_left]

theorem splitAt?_some {i : Nat} {lead : List Segment} (h : splitAt? segments i = some (lead, rest)) :
    lead.length = i := by
  unfold splitAt? at h
  split at h
  case isTrue hle =>
    cases h
    exact List.length_take_of_le hle
  case isFalse => cases h

theorem beforeLast?_concat (lead : List Segment) (s : Segment) :
    beforeLast? (lead ++ [s]) = some lead := by
  simp only [beforeLast?, List.length_append, List.length_singleton, splitAt?_append,
    Option.map_some]

theorem Container.reach_le (segments : List Segment) :
    (Container.ofSegments segments).reach ≤ segments.length := by
  induction segments with
  | nil => exact Nat.le_refl 0
  | cons s segments ih =>
    rw [Container.ofSegments, List.length_cons]
    split
    case h_1 i hi =>
      rw [hi] at ih
      exact Nat.succ_le_succ ih
    case h_2 =>
      cases s.isList with
      | true => exact Nat.succ_le_succ (Nat.zero_le _)
      | false => exact Nat.zero_le _

theorem Container.ofSegments_single (h : Single rest) : Container.ofSegments rest = .direct := by
  induction rest with
  | nil => rfl
  | cons s rest ih =>
    obtain ⟨hs, hrest⟩ := single_cons.mp h
    rw [Container.ofSegments, ih hrest, hs]
    rfl

/-- The nearest list to the end is the last one of the segments that end with it. -/
theorem Container.ofSegments_list {s : Segment} (lead : List Segment) (hs : s.isList = true)
    (h : Single rest) :
    Container.ofSegments (lead ++ s :: rest) = .collection lead.length := by
  induction lead with
  | nil =>
    rw [List.nil_append, Container.ofSegments, ofSegments_single h, hs]
    rfl
  | cons first lead ih => rw [List.cons_append, Container.ofSegments, ih, List.length_cons]

theorem Container.reach_flatten_append (hrows : ∀ row ∈ rows, EndsInList row)
    (h : Single rest) : (Container.ofSegments (rows.flatten ++ rest)).reach = rows.flatten.length := by
  cases rows using List.reverseRecOn with
  | nil =>
    rw [List.flatten_nil, List.nil_append, ofSegments_single h]
    rfl
  | append_singleton rows row =>
    obtain ⟨lead, s, -, hs, rfl⟩ := hrows row (List.mem_append_right _ List.mem_cons_self)
    rw [List.flatten_concat, List.append_assoc, List.append_assoc, List.singleton_append,
      ← List.append_assoc, ofSegments_list _ hs h]
    simp [Container.reach, Nat.add_assoc]

theorem scope_shorter {outer scope collection : List Segment} (hne : outer ≠ [])
    (h : splitAt? outer (Container.ofSegments outer.dropLast).reach = some (scope, collection)) :
    scope.length < outer.length := by
  have hreach := Container.reach_le outer.dropLast
  rw [List.length_dropLast] at hreach
  have hpos := List.length_pos_iff.mpr hne
  have hscope := splitAt?_some h
  omega

/-- The predicate inside a search for the list that `outer` ends with, and inside one for every
list before it. Fails if a cut is past an end. -/
def Expr.existential? (outer : List Segment) (predicate : Expr) : Option Expr :=
  if hne : outer = [] then some predicate
  else
    match hsplit : splitAt? outer (Container.ofSegments outer.dropLast).reach with
    | none => none
    | some (scope, collection) =>
      have := scope_shorter hne hsplit
      (beforeLast? collection).bind fun lead =>
        let search := .any (.ofSegments collection) (lead.any (·.isNullable)) predicate
        if scope = [] then some search else existential? scope search
termination_by outer.length

theorem Expr.existential?_nil (predicate : Expr) :
    existential? [] predicate = some predicate := by
  rw [existential?, dif_pos rfl]

/-- One step puts the predicate into the search of the last row. -/
theorem Expr.existential?_concat {row : List Segment} (hrows : ∀ r ∈ rows, EndsInList r)
    (hrow : EndsInList row) (predicate : Expr) :
    existential? (rows.flatten ++ row) predicate =
      existential? rows.flatten (.inside [.over row] predicate) := by
  obtain ⟨lead, s, hlead, hs, rfl⟩ := hrow
  have hdrop : (rows.flatten ++ (lead ++ [s])).dropLast = rows.flatten ++ lead := by
    rw [← List.append_assoc, List.dropLast_concat]
  have hsplit : splitAt? (rows.flatten ++ (lead ++ [s]))
      (Container.ofSegments (rows.flatten ++ (lead ++ [s])).dropLast).reach =
        some (rows.flatten, lead ++ [s]) := by
    rw [hdrop, Container.reach_flatten_append hrows hlead, splitAt?_append]
  rw [existential?, dif_neg (by simp)]
  split
  case h_1 hnone => rw [hsplit] at hnone; cases hnone
  case h_2 scope collection hsome =>
    obtain ⟨rfl, rfl⟩ := Prod.mk.inj (Option.some.inj (hsplit.symm.trans hsome))
    rw [beforeLast?_concat, Option.bind_some]
    have hover : Expr.any (.ofSegments (lead ++ [s])) (lead.any (·.isNullable)) predicate =
        .inside [.over (lead ++ [s])] predicate := by
      rw [Search.over, List.dropLast_concat]
      rfl
    simp only [hover]
    split
    case isTrue hnil => rw [hnil, existential?_nil]
    case isFalse => rfl

theorem Expr.existential?_flatten (hrows : ∀ row ∈ rows, EndsInList row) (predicate : Expr) :
    existential? rows.flatten predicate = some (.inside (rows.map Search.over) predicate) := by
  induction rows using List.reverseRecOn generalizing predicate with
  | nil => exact existential?_nil predicate
  | append_singleton rows row ih =>
    rw [List.forall_mem_append, List.forall_mem_singleton] at hrows
    rw [List.flatten_concat, existential?_concat hrows.1 hrows.2, ih hrows.1, List.map_append,
      List.map_singleton, inside, inside, inside, List.foldr_append]

/-- The test at the end of the segments, with the last of them cut off for what may be null. -/
def Leaf.compare? (leaf : Leaf) (segments : List Segment) (isRequired : Bool) : Option Expr :=
  (splitAt? segments (segments.length - 1)).map fun (lead, _) =>
    leaf.testOf (.ofSegments segments) (!isRequired || lead.any (·.isNullable))

/-- The test for a path, cut at its last list, inside the searches for the segments before. -/
def Leaf.insideOut? (leaf : Leaf) (isRequired : Bool) (segments : List Segment) : Option Expr :=
  match Container.ofSegments segments with
  | .direct => leaf.compare? segments isRequired
  | .collection i => do
    let (outer, inner) ← splitAt? segments (i + 1)
    let test ← leaf.compare? inner isRequired
    Expr.existential? outer test

theorem Leaf.compare?_eq (leaf : Leaf) (segments : List Segment) (isRequired : Bool) :
    leaf.compare? segments isRequired = some (leaf.toExpr segments isRequired) := by
  rw [compare?, splitAt?, if_pos (Nat.sub_le _ _), toExpr_eq, propagates, List.dropLast_eq_take]
  rfl

/-- Both ways to build the test of a path come to the same. -/
theorem Leaf.insideOut?_eq (leaf : Leaf) (isRequired : Bool) (segments : List Segment) :
    leaf.insideOut? isRequired segments = some (leaf.along isRequired [] segments) := by
  obtain ⟨rows, rest, hcut⟩ := exists_cutAtLists segments
  rw [along_eq_inside leaf isRequired hcut]
  obtain ⟨rfl, hrows, hrest⟩ := hcut
  have hreach := Container.reach_flatten_append hrows hrest
  unfold insideOut?
  cases hcontainer : Container.ofSegments (rows.flatten ++ rest) with
  | direct =>
    -- A row would bring its list with it.
    rw [hcontainer, Container.reach] at hreach
    obtain rfl := flatten_eq_nil hrows (List.length_eq_zero_iff.mp hreach.symm)
    exact compare?_eq leaf rest isRequired
  | collection i =>
    rw [hcontainer, Container.reach] at hreach
    simp only [hreach, splitAt?_append, compare?_eq, Option.bind_eq_bind, Option.bind_some]
    exact Expr.existential?_flatten hrows _

/-! ## Fragments -/

namespace FilterArgument

variable {a : FilterArgument} {value : Literal} {first : Nat} {expr : Expr}
  {params : List Parameter}

theorem fragment_ok (h : a.fragment value first = .ok (expr, params)) :
    ∃ leaf, a.leaf value first = .ok (leaf, params) ∧
      expr = leaf.along a.isRequired [] a.path.segments := by
  rw [fragment, bind_eq_ok] at h
  obtain ⟨⟨leaf, _⟩, hleaf, h⟩ := h
  cases h
  exact ⟨leaf, hleaf, rfl⟩

/-- A fragment has one search for each list on the path, around a test of what is behind the last
one. Together they name the members of the path in order, and each allows for nulls on its own part
of it. No cut of the path was past an end. -/
theorem fragment_searches_each_list (h : a.fragment value first = .ok (expr, params)) :
    ∃ (leaf : Leaf) (rows : List (List Segment)) (rest : List Segment),
      leaf = (if (a.dayStart? value).isSome then .between first (first + 1) else .equal first) ∧
      leaf.insideOut? a.isRequired a.path.segments = some expr ∧
      CutAtLists a.path.segments rows rest ∧
      rows.length = a.path.segments.countP (·.isList) ∧
      expr = .inside (rows.map Search.over)
        (leaf.testOf (.ofSegments rest) (!a.isRequired || rest.dropLast.any (·.isNullable))) ∧
      (rows.map Search.over).flatMap (·.collection.members) ++
        (MemberPath.ofSegments rest).members = (MemberPath.ofEntityPath a.path).members := by
  obtain ⟨leaf, hleaf, rfl⟩ := fragment_ok h
  obtain ⟨rows, rest, hcut⟩ := exists_cutAtLists a.path.segments
  have hform : leaf =
      if (a.dayStart? value).isSome then .between first (first + 1) else .equal first := by
    rcases leaf_ok hleaf with ⟨hday, rfl, -⟩ | ⟨hday, rfl, -⟩
    · rw [hday, if_neg Bool.false_ne_true]
    · rw [hday, if_pos rfl]
  have hexpr : leaf.along a.isRequired [] a.path.segments = .inside (rows.map Search.over)
      (leaf.testOf (.ofSegments rest) (Leaf.propagates a.isRequired rest)) := by
    rw [leaf.along_eq_inside a.isRequired hcut, leaf.toExpr_eq]
  exact ⟨leaf, rows, rest, hform, leaf.insideOut?_eq a.isRequired a.path.segments, hcut,
    hcut.length_rows, hexpr, hcut.members⟩

/-! ### The washing days of a bed's linen -/

/-- Two lists in a row, and the leaf is a list of days. -/
def washDay : FilterArgument where
  graphPath := "WashDay"
  path := ⟨[⟨"Rooms", true, false⟩, ⟨"Beds", true, true⟩, ⟨"Linen", false, true⟩,
    ⟨"Wash.Days", true, false⟩]⟩
  path_ne := by simp
  type := .scalar .date
  isRequired := true

theorem washDay_fragment :
    ∃ expr params, washDay.fragment (.string "2019-02-03") 2 = .ok (expr, params) ∧
      expr = .any ⟨["Rooms"]⟩ false (.any ⟨["Beds"]⟩ false (.any ⟨["Linen", "Wash", "Days"]⟩ true
        (.and [.compare ⟨⟨[]⟩, .ge, 2, false⟩, .compare ⟨⟨[]⟩, .lt, 3, false⟩]))) ∧
      ∃ rows rest, CutAtLists washDay.path.segments rows rest ∧ rows.length = 3 := by
  have hf : washDay.fragment (.string "2019-02-03") 2 = .ok
      (.any ⟨["Rooms"]⟩ false (.any ⟨["Beds"]⟩ false (.any ⟨["Linen", "Wash", "Days"]⟩ true
        (.and [.compare ⟨⟨[]⟩, .ge, 2, false⟩, .compare ⟨⟨[]⟩, .lt, 3, false⟩]))),
        [.dateTime ⟨⟨2019, 2, 3, by decide, by decide, by decide⟩, .midnight⟩,
          .dateTime ⟨⟨2019, 2, 4, by decide, by decide, by decide⟩, .midnight⟩]) := by cbv
  obtain ⟨_, rows, rest, -, -, hcut, hlength, -, -⟩ := fragment_searches_each_list hf
  exact ⟨_, _, hf, rfl, rows, rest, hcut, hlength⟩

end FilterArgument

end FieldQuery
