import Mathlib
import FieldQuery.Proofs.Argument.History
import FieldQuery.Proofs.Compose.Independence
import FieldQuery.Proofs.Discovery.Limits
import FieldQuery.Proofs.Request.Lookup

/-!
# What a plan reflects

Every argument that a request supplies shows in its plan, but for a paging argument whose partner
the list has lost.
-/

namespace FieldQuery.Compose

variable {arguments : ArgumentList} {request : RequestArguments}

/-- The filter is the conjunction of one test for each of the supplied arguments. -/
def MadeOf (f : Filter) (supplied : List (FilterArgument × Literal)) : Prop :=
  ∃ exprs, f.expr = .conjunction exprs ∧ List.Forall₂ (Tests f.params) supplied exprs

/-- The plan shows that the request supplies the argument. -/
def Reflects (p : QueryPlan) (arguments : ArgumentList) (request : RequestArguments)
    (d : Descriptor) (value : Literal) : Prop :=
  match d.role with
  | .filter a =>
    ∃ f, p.filter = some f ∧ MadeOf f (suppliedFilters request arguments.filters) ∧
      (a, value) ∈ suppliedFilters request arguments.filters
  | .orderBy _ => p.orderBy ≠ []
  | .page _ | .pageSize _ => p.paging.isSome = true

/-! ## Filter -/

theorem suppliedFilters_of_filter?_none (h : filter? arguments request = .ok none) :
    suppliedFilters request arguments.filters = [] := by
  rw [filter?, bind_eq_ok] at h
  obtain ⟨⟨exprs, params⟩, hfragments, h⟩ := h
  have hspec : List.Forall₂ (Tests ([] ++ (params ++ []))) _ exprs := fragments_spec hfragments []
  cases exprs with
  | nil => exact List.forall₂_nil_right_iff.mp hspec
  | cons expr others => cases h

theorem reflects_filter {f : Option Filter} (h : filter? arguments request = .ok f)
    {a : FilterArgument} (ha : a ∈ arguments.filters) {value : Literal}
    (hvalue : request.supplied? a.graphPath = some value) :
    ∃ g, f = some g ∧ MadeOf g (suppliedFilters request arguments.filters) ∧
      (a, value) ∈ suppliedFilters request arguments.filters := by
  have hmem := mem_suppliedFilters.mpr ⟨ha, hvalue⟩
  cases f with
  | none =>
    rw [suppliedFilters_of_filter?_none h] at hmem
    cases hmem
  | some g => exact ⟨g, rfl, filter?_spec h, hmem⟩

/-! ## Order -/

theorem sortKeys_ne_nil {argument word : String} {rest : List String} {keys : List SortKey}
    (h : sortKeys arguments argument (word :: rest) = .ok keys) : keys ≠ [] := by
  rw [sortKeys] at h
  split at h
  · cases h
  · obtain ⟨member, -, h⟩ := bind_eq_ok.mp h
    cases rest with
    | nil =>
      cases h
      simp
    | cons next others =>
      simp only at h
      split at h
      all_goals
        obtain ⟨more, -, h⟩ := bind_eq_ok.mp h
        cases h
        simp

theorem orderBy_ne_nil {d : Descriptor} (hd : arguments.firstOf? .orderBy = some d)
    {value : Literal} (hvalue : request.get? d.name = some value) {keys : List SortKey}
    (h : orderBy arguments request = .ok keys) : keys ≠ [] := by
  simp only [orderBy, hd, hvalue] at h
  obtain ⟨text, -, h⟩ := bind_eq_ok.mp h
  split at h
  · cases h
  · cases hwords : words text with
    | nil => simp_all
    | cons word rest =>
      rw [hwords] at h
      exact sortKeys_ne_nil h

/-! ## Page -/

theorem hasPaging_eq (l : ArgumentList) :
    l.hasPaging = ((l.firstOf? .page).isSome && (l.firstOf? .pageSize).isSome) := by
  rw [ArgumentList.hasPaging, ArgumentList.firstOf?_isSome, ArgumentList.firstOf?_isSome]

/-- A list with both paging arguments answers to either with a page, or refuses the request. -/
theorem paging?_isSome {page pageSize : Descriptor} (hpage : arguments.firstOf? .page = some page)
    (hsize : arguments.firstOf? .pageSize = some pageSize)
    (hsupplied : request.supplied? page.name ≠ none ∨ request.supplied? pageSize.name ≠ none)
    {paging : Option Paging} (h : paging? arguments request = .ok paging) :
    paging.isSome = true := by
  simp only [paging?, hpage, hsize] at h
  cases hindex : request.supplied? page.name with
  | none =>
    cases hcount : request.supplied? pageSize.name with
    | none => simp [hindex, hcount] at hsupplied
    | some size =>
      rw [hindex, hcount] at h
      cases h
  | some index =>
    cases hcount : request.supplied? pageSize.name with
    | none =>
      rw [hindex, hcount] at h
      cases h
    | some size =>
      simp only [hindex, hcount, bind_eq_ok] at h
      obtain ⟨i, -, n, -, h⟩ := h
      split at h
      · cases h
        rfl
      · cases h

theorem isSome_paging? {d : Descriptor} (hd : arguments.firstOf? d.kind = some d)
    (hpaging : d.isPaging = true) {value : Literal}
    (hvalue : request.supplied? d.name = some value) {paging : Option Paging}
    (h : paging? arguments request = .ok paging) : paging.isSome = arguments.hasPaging := by
  rw [hasPaging_eq]
  cases hpage : arguments.firstOf? .page with
  | none =>
    rw [paging?, hpage] at h
    cases h
    rfl
  | some page =>
    cases hsize : arguments.firstOf? .pageSize with
    | none =>
      rw [paging?, hpage, hsize] at h
      cases h
      rfl
    | some pageSize =>
      refine paging?_isSome hpage hsize ?_ h
      rcases Descriptor.isPaging_iff.mp hpaging with hkind | hkind
      · rw [hkind, hpage, Option.some.injEq] at hd
        exact Or.inl (by simp [hd, hvalue])
      · rw [hkind, hsize, Option.some.injEq] at hd
        exact Or.inr (by simp [hd, hvalue])

/-! ## All supplied arguments -/

/-- On a list that was discovered and then shaped in any way, a plan reflects what the request
supplies, except a paging argument without the other one. -/
theorem reflects_iff_has_partner {start : ArgumentList} (hstart : Discovered start)
    (calls : List ListCall) {request : RequestArguments} {p : QueryPlan}
    (hp : plan (ListCall.run calls start) request = .ok p) {d : Descriptor}
    (hd : d ∈ (ListCall.run calls start).descriptors) {value : Literal}
    (hvalue : request.supplied? d.name = some value) :
    Reflects p (ListCall.run calls start) request d value ↔
      (d.isPaging = true → (ListCall.run calls start).hasPaging = true) := by
  have honce := hstart.pseudoOnce.run calls
  generalize ListCall.run calls start = l at *
  obtain ⟨hfilter, horder, hpaging⟩ := plan_ok hp
  obtain ⟨role, description⟩ := d
  cases role with
  | filter a =>
    have ha : a ∈ l.filters := List.mem_filterMap.mpr ⟨_, hd, rfl⟩
    exact iff_of_true (reflects_filter hfilter ha hvalue)
      (by simp [Descriptor.isPaging, Descriptor.kind])
  | orderBy name =>
    have hfirst := ArgumentList.firstOf?_of_mem honce hd (by simp [Descriptor.kind])
    exact iff_of_true (orderBy_ne_nil hfirst (RequestArguments.get?_of_supplied? hvalue) horder)
      (by simp [Descriptor.isPaging, Descriptor.kind])
  | page name | pageSize name =>
    have hfirst := ArgumentList.firstOf?_of_mem honce hd (by simp [Descriptor.kind])
    have hsome := isSome_paging? hfirst rfl hvalue hpaging
    rw [Reflects, hsome]
    simp [Descriptor.isPaging, Descriptor.kind]

/-! ### Nodes on a page -/

def nodeId : FilterArgument := ⟨"Id", ⟨[.ofPath "Id"]⟩, by simp, .scalar .int, true⟩

def parentId : FilterArgument :=
  ⟨"ParentId", ⟨[⟨"Parent", false, true⟩, .ofPath "Id"]⟩, by simp, .scalar .int, true⟩

def nodesWith (pseudo : List Descriptor) : ArgumentList :=
  ⟨[⟨.filter nodeId, none⟩, ⟨.filter parentId, none⟩] ++ pseudo, .default⟩

def sortedAndPaged : List ListCall :=
  [.supportOrderByAs "Sort", .supportPaging, .excludeMatching ["ParentParent*"]]

def pageSizeDropped : List ListCall :=
  [.supportPaging, .excludeMatching ["ParentParent*", "PageSize"]]

theorem run_sortedAndPaged :
    ListCall.run sortedAndPaged (Discovery.nodes.ofType "Node") =
      nodesWith [.orderBy "Sort", .page "Page", .pageSize "PageSize"] := by
  decide +kernel

theorem run_pageSizeDropped :
    ListCall.run pageSizeDropped (Discovery.nodes.ofType "Node") = nodesWith [.page "Page"] := by
  decide +kernel

def secondPage : RequestArguments :=
  ⟨[("id", .number (.ofInt64 1)), ("page", .number (.ofInt64 1)), ("pagesize", .string "2"),
    ("sort", .string "parentid desc, id")]⟩

def secondPagePlan : QueryPlan where
  filter := some ⟨.compare ⟨⟨["Id"]⟩, .eq, 0, false⟩, [.integer 1]⟩
  orderBy := [⟨⟨["Parent", "Id"]⟩, .descending⟩, ⟨⟨["Id"]⟩, .ascending⟩]
  paging := some ⟨2, 2⟩

theorem second_page_reflected :
    let l := ListCall.run sortedAndPaged (Discovery.nodes.ofType "Node")
    plan l secondPage = .ok secondPagePlan ∧
      l.descriptors.map (·.name) = ["Id", "ParentId", "Sort", "Page", "PageSize"] ∧
      ∀ d ∈ l.descriptors, ∀ value, secondPage.supplied? d.name = some value →
        Reflects secondPagePlan l secondPage d value := by
  intro l
  have hl : l = nodesWith [.orderBy "Sort", .page "Page", .pageSize "PageSize"] :=
    run_sortedAndPaged
  have hplan : plan l secondPage = .ok secondPagePlan := by
    rw [hl]
    exact plan_of_parts (by rfl) (by decide +kernel) (by rfl)
  refine ⟨hplan, by rw [hl]; rfl, ?_⟩
  intro d hd value hvalue
  exact (reflects_iff_has_partner (.type Discovery.nodes "Node") sortedAndPaged hplan hd hvalue).mpr
    fun _ => by rw [run_sortedAndPaged]; rfl

/-- Without the page size the list still has the page, and a request for one is answered as if it
had not been made. -/
theorem lone_page_not_reflected :
    let l := ListCall.run pageSizeDropped (Discovery.nodes.ofType "Node")
    let request : RequestArguments := ⟨[("page", .number (.ofInt64 1))]⟩
    (l.descriptors.map fun d => Text.toLower d.name).Nodup ∧
      Descriptor.page "Page" ∈ l.descriptors ∧
      request.supplied? "Page" = some (.number (.ofInt64 1)) ∧
      plan l request = .ok ⟨none, [], none⟩ ∧
      ¬ Reflects ⟨none, [], none⟩ l request (.page "Page") (.number (.ofInt64 1)) := by
  rw [run_pageSizeDropped]
  refine ⟨by decide +kernel, by decide, by rfl, plan_of_parts (by rfl) (by rfl) (by rfl), ?_⟩
  simp [Reflects, Descriptor.page]

end FieldQuery.Compose
