import Mathlib
import FieldQuery.Proofs.Argument.History

/-!
# Pseudo-arguments over a history

Calls only ever drop filters. One that asks for order or paging leaves exactly one argument of each
kind that it is about and all others as they are, so a second such call changes nothing.
-/

namespace FieldQuery

namespace ArgumentList

variable {l l' : ArgumentList}

/-- The descriptors of filters, in order. -/
def filterDescriptors (l : ArgumentList) : List Descriptor := (l.filterByKind .filter).descriptors

/-- The descriptors of other kinds than this one. -/
def without (l : ArgumentList) (kind : ArgumentKind) : List Descriptor :=
  l.descriptors.filter (·.kind ≠ kind)

/-- The descriptors that are not about paging. -/
def withoutPaging (l : ArgumentList) : List Descriptor := l.descriptors.filter (!·.isPaging)

/-! ## Filters -/

theorem filterDescriptors_sublist (h : Shaped l l') :
    l'.filterDescriptors.Sublist l.filterDescriptors := by
  unfold filterDescriptors filterByKind retain
  cases h with
  | kept keep hkept =>
    rw [hkept]
    exact List.filter_sublist.filter _
  | ordered name hnone hmore => simp [hmore, Descriptor.orderBy, Descriptor.kind]
  | paged page pageSize hnone hmore =>
    have hpair : [Descriptor.page page, Descriptor.pageSize pageSize].filter
        (fun d => decide (d.kind = .filter)) = [] := rfl
    simp only [hmore, List.filter_append, hpair, List.append_nil]
    exact List.filter_sublist.filter _

theorem filterDescriptors_run (calls : List ListCall) (l : ArgumentList) :
    (ListCall.run calls l).filterDescriptors.Sublist l.filterDescriptors := by
  induction calls generalizing l with
  | nil => exact List.Sublist.refl _
  | cons call rest ih =>
    have hcall := filterDescriptors_sublist (shaped_apply l call)
    exact (ih (call.apply l)).trans hcall

/-! ## Order -/

theorem supportOrderByAs_of_hasOrderBy (h : l.hasOrderBy = true) (name : String) :
    l.supportOrderByAs name = l := by
  rw [supportOrderByAs, if_pos h]

theorem hasOrderBy_supportOrderByAs (l : ArgumentList) (name : String) :
    (l.supportOrderByAs name).hasOrderBy = true := by
  unfold supportOrderByAs
  split
  case isTrue h => exact h
  case isFalse => simp [hasOrderBy, hasKind, Descriptor.orderBy, Descriptor.kind]

theorem without_supportOrderByAs (l : ArgumentList) (name : String) :
    (l.supportOrderByAs name).without .orderBy = l.without .orderBy := by
  unfold supportOrderByAs
  split
  · rfl
  · simp [without, Descriptor.orderBy, Descriptor.kind]

/-! ## Paging -/

theorem supportPagingAs_of_hasPaging (h : l.hasPaging = true) (page pageSize : String) :
    l.supportPagingAs page pageSize = l := by
  rw [supportPagingAs, if_pos h]

theorem hasPaging_supportPagingAs (l : ArgumentList) (page pageSize : String) :
    (l.supportPagingAs page pageSize).hasPaging = true := by
  unfold supportPagingAs
  split
  case isTrue h => exact h
  case isFalse =>
    simp [hasPaging, hasKind, Descriptor.page, Descriptor.pageSize, Descriptor.kind]

theorem descriptors_supportPagingAs (h : l.hasPaging = false) (page pageSize : String) :
    (l.supportPagingAs page pageSize).descriptors =
      l.withoutPaging ++ [.page page, .pageSize pageSize] := by
  rw [supportPagingAs, if_neg (by simp [h])]
  simp [withoutPaging, Descriptor.isPaging]

theorem withoutPaging_supportPagingAs (l : ArgumentList) (page pageSize : String) :
    (l.supportPagingAs page pageSize).withoutPaging = l.withoutPaging := by
  cases h : l.hasPaging with
  | true => rw [supportPagingAs_of_hasPaging h]
  | false =>
    have hpair : [Descriptor.page page, Descriptor.pageSize pageSize].filter (!·.isPaging) = [] :=
      rfl
    rw [withoutPaging, descriptors_supportPagingAs h, List.filter_append, hpair, List.append_nil,
      withoutPaging, List.filter_filter]
    simp only [Bool.and_self]

/-! ## Exactly one -/

theorem countOf_eq_one (h : l.PseudoOnce) {kind : ArgumentKind} (hkind : kind ≠ .filter)
    (hhas : l.hasKind kind = true) : l.countOf kind = 1 := by
  obtain ⟨d, hd, rfl⟩ := hasKind_iff.mp hhas
  have hpos : 0 < l.countOf d.kind := List.countP_pos_iff.mpr ⟨d, hd, by simp⟩
  exact Nat.le_antisymm (h d.kind hkind) hpos

theorem PseudoOnce.apply (h : l.PseudoOnce) (call : ListCall) : (call.apply l).PseudoOnce :=
  h.shaped (shaped_apply l call)

end ArgumentList

namespace ListCall

/-- The call asks for an order-by argument. -/
def AsksOrder (call : ListCall) : Prop :=
  call = .supportOrderBy ∨ ∃ name, call = .supportOrderByAs name

/-- The call asks for the paging arguments. -/
def AsksPaging (call : ListCall) : Prop :=
  call = .supportPaging ∨ ∃ page pageSize, call = .supportPagingAs page pageSize

theorem AsksOrder.apply_eq {call : ListCall} (h : call.AsksOrder) (l : ArgumentList) :
    ∃ name, call.apply l = l.supportOrderByAs name := by
  rcases h with rfl | ⟨name, rfl⟩
  · exact ⟨l.names.orderBy, rfl⟩
  · exact ⟨name, rfl⟩

theorem AsksPaging.apply_eq {call : ListCall} (h : call.AsksPaging) (l : ArgumentList) :
    ∃ page pageSize, call.apply l = l.supportPagingAs page pageSize := by
  rcases h with rfl | ⟨page, pageSize, rfl⟩
  · exact ⟨l.names.page, l.names.pageSize, rfl⟩
  · exact ⟨page, pageSize, rfl⟩

variable {l : ArgumentList}

/-- The list has the order-by argument, once, and nothing else has changed. -/
theorem asksOrder_spec (h : l.PseudoOnce) {call : ListCall} (hcall : call.AsksOrder) :
    (call.apply l).countOf .orderBy = 1 ∧
      (call.apply l).without .orderBy = l.without .orderBy ∧
      ∀ again : ListCall, again.AsksOrder → again.apply (call.apply l) = call.apply l := by
  have honce := h.apply call
  obtain ⟨name, happly⟩ := hcall.apply_eq l
  rw [happly] at honce ⊢
  have hhas := l.hasOrderBy_supportOrderByAs name
  refine ⟨ArgumentList.countOf_eq_one honce (by decide) hhas, l.without_supportOrderByAs name, ?_⟩
  intro again hagain
  obtain ⟨other, hother⟩ := hagain.apply_eq (l.supportOrderByAs name)
  rw [hother, ArgumentList.supportOrderByAs_of_hasOrderBy hhas]

/-- The list has both paging arguments, once, and nothing else has changed. -/
theorem asksPaging_spec (h : l.PseudoOnce) {call : ListCall} (hcall : call.AsksPaging) :
    (call.apply l).countOf .page = 1 ∧ (call.apply l).countOf .pageSize = 1 ∧
      (call.apply l).withoutPaging = l.withoutPaging ∧
      ∀ again : ListCall, again.AsksPaging → again.apply (call.apply l) = call.apply l := by
  have honce := h.apply call
  obtain ⟨page, pageSize, happly⟩ := hcall.apply_eq l
  rw [happly] at honce ⊢
  have hhas := l.hasPaging_supportPagingAs page pageSize
  obtain ⟨hpage, hsize⟩ := (Bool.and_eq_true _ _).mp hhas
  refine ⟨ArgumentList.countOf_eq_one honce (by decide) hpage,
    ArgumentList.countOf_eq_one honce (by decide) hsize,
    l.withoutPaging_supportPagingAs page pageSize, ?_⟩
  intro again hagain
  obtain ⟨other, otherSize, hother⟩ := hagain.apply_eq (l.supportPagingAs page pageSize)
  rw [hother, ArgumentList.supportPagingAs_of_hasPaging hhas]

/-- Whatever is called on a list with at most one pseudo-argument of a kind, it stays such a list and
its filters are some of those at the start, in order. A call that asks for order or paging makes it
exactly one, touches no other argument, and has no effect a second time, whatever the names. -/
theorem history_keeps_one_of_a_kind {start : ArgumentList} (h : start.PseudoOnce)
    (calls : List ListCall) :
    let l := run calls start
    l.PseudoOnce ∧ l.filterDescriptors.Sublist start.filterDescriptors ∧
      (∀ call : ListCall, call.AsksOrder →
        (call.apply l).countOf .orderBy = 1 ∧
          (call.apply l).without .orderBy = l.without .orderBy ∧
          ∀ again : ListCall, again.AsksOrder → again.apply (call.apply l) = call.apply l) ∧
      (∀ call : ListCall, call.AsksPaging →
        (call.apply l).countOf .page = 1 ∧ (call.apply l).countOf .pageSize = 1 ∧
          (call.apply l).withoutPaging = l.withoutPaging ∧
          ∀ again : ListCall, again.AsksPaging → again.apply (call.apply l) = call.apply l) := by
  intro l
  have honce : l.PseudoOnce := h.run calls
  exact ⟨honce, ArgumentList.filterDescriptors_run calls start, fun _ => asksOrder_spec honce,
    fun _ => asksPaging_spec honce⟩

/-! ### Rooms that lose their page size -/

def rooms : ArgumentList where
  descriptors :=
    [⟨.filter ⟨"Number", ⟨[.ofPath "Number"]⟩, by simp, .scalar .int, true⟩, none⟩,
      .page "At",
      ⟨.filter ⟨"Beds", ⟨[.ofPath "Detail", .ofPath "Beds"]⟩, by simp, .scalar .int, true⟩,
        some "In all"⟩]
  names := .default

theorem rooms_pseudoOnce : rooms.PseudoOnce := by
  intro kind hkind
  cases kind with
  | filter => exact absurd rfl hkind
  | orderBy | page | pageSize => decide

/-- The page that has lost its partner makes way for the new pair, and the order stays. -/
theorem lone_page_replaced :
    let l :=
      run [.supportPaging, .supportOrderByAs "Sort", .excludeMatching ["PageS*", "Beds"]] rooms
    let paged := (supportPagingAs "P" "N").apply l
    rooms.PseudoOnce ∧ l.descriptors.map (·.name) = ["Number", "Page", "Sort"] ∧
      paged.descriptors.map (·.name) = ["Number", "Sort", "P", "N"] ∧
      paged.countOf .page = 1 ∧ paged.countOf .pageSize = 1 ∧
      supportPaging.apply paged = paged := by
  intro l paged
  obtain ⟨-, -, -, hpaging⟩ := history_keeps_one_of_a_kind rooms_pseudoOnce
    [.supportPaging, .supportOrderByAs "Sort", .excludeMatching ["PageS*", "Beds"]]
  obtain ⟨hpage, hsize, -, hagain⟩ := hpaging (supportPagingAs "P" "N") (.inr ⟨"P", "N", rfl⟩)
  exact ⟨rooms_pseudoOnce, by decide +kernel, by decide +kernel, hpage, hsize,
    hagain supportPaging (.inl rfl)⟩

end ListCall

end FieldQuery
