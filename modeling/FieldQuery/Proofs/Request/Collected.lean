import Mathlib
import FieldQuery.Proofs.Request.Lookup

/-!
# Requests collected from pairs

The entries of a collected request are in the order of their names, each with the value of the last
pair that carries the name in some case. So the request is settled by these last values.
-/

namespace FieldQuery.RequestArguments

variable {name : String} {value : Literal} {entries others : List (String × Literal)}

/-! ## Entries in order -/

/-- The entries are in the order of their names, which all differ. -/
def Ordered (entries : List (String × Literal)) : Prop := entries.Pairwise fun a b => a.1 < b.1

theorem Ordered.nodup_names (h : Ordered entries) : (entries.map (·.1)).Nodup :=
  List.pairwise_map.mpr (h.imp ne_of_lt)

theorem mem_insertEntry {entry : String × Literal} (h : entry ∈ insertEntry name value entries) :
    entry = (name, value) ∨ entry ∈ entries := by
  induction entries with
  | nil => simpa [insertEntry] using h
  | cons first rest ih =>
    obtain ⟨next, old⟩ := first
    unfold insertEntry at h
    split at h
    · exact List.mem_cons.mp h
    · split at h
      · exact (List.mem_cons.mp h).imp_right (List.mem_cons_of_mem _)
      · rcases List.mem_cons.mp h with rfl | h
        · exact Or.inr List.mem_cons_self
        · exact (ih h).imp_right (List.mem_cons_of_mem _)

theorem Ordered.insertEntry (h : Ordered entries) (name : String) (value : Literal) :
    Ordered (insertEntry name value entries) := by
  induction entries with
  | nil => exact List.pairwise_singleton _ _
  | cons first rest ih =>
    obtain ⟨next, old⟩ := first
    obtain ⟨hfirst, hrest⟩ := List.pairwise_cons.mp h
    unfold RequestArguments.insertEntry
    split
    · rename_i hlt
      refine List.pairwise_cons.mpr ⟨?_, h⟩
      intro entry hentry
      rcases List.mem_cons.mp hentry with rfl | hentry
      · exact hlt
      · exact hlt.trans (hfirst entry hentry)
    · rename_i hnot
      split
      · rename_i heq
        exact List.pairwise_cons.mpr ⟨heq ▸ hfirst, hrest⟩
      · rename_i hne
        refine List.pairwise_cons.mpr ⟨?_, ih hrest⟩
        intro entry hentry
        rcases mem_insertEntry hentry with rfl | hentry
        · exact lt_of_le_of_ne (not_lt.mp hnot) (Ne.symm hne)
        · exact hfirst entry hentry

theorem ofList_concat (pairs : List (String × Literal)) (pair : String × Literal) :
    ofList (pairs ++ [pair]) = (ofList pairs).insert pair.1 pair.2 := by
  simp [ofList]

theorem ordered_ofList (pairs : List (String × Literal)) : Ordered (ofList pairs).entries := by
  induction pairs using List.reverseRecOn with
  | nil => exact List.Pairwise.nil
  | append_singleton pairs pair ih =>
    rw [ofList_concat]
    exact ih.insertEntry _ _

/-! ## What is found -/

theorem lookup_eq_some_iff_mem (h : (entries.map (·.1)).Nodup) :
    entries.lookup name = some value ↔ (name, value) ∈ entries := by
  induction entries with
  | nil => simp
  | cons first rest ih =>
    obtain ⟨next, old⟩ := first
    rw [List.map_cons, List.nodup_cons] at h
    rw [lookup_cons_ite, List.mem_cons, Prod.mk.injEq]
    by_cases hname : name = next
    · have hrest : (name, value) ∉ rest := fun hmem => h.1 (List.mem_map.mpr ⟨_, hmem, hname⟩)
      simp [hname ▸ hrest, hname, eq_comm]
    · rw [if_neg hname, ih h.2]
      simp [hname]

/-- No matter in which order the entries are held, the same is found under every name. -/
theorem lookup_eq_of_perm (h : entries.Perm others) (hnames : (others.map (·.1)).Nodup)
    (name : String) : entries.lookup name = others.lookup name := by
  have hnames' : (entries.map (·.1)).Nodup := (h.map _).nodup_iff.mpr hnames
  ext value
  rw [lookup_eq_some_iff_mem hnames', lookup_eq_some_iff_mem hnames, h.mem_iff]

theorem Ordered.ext (h : Ordered entries) (hother : Ordered others)
    (hfound : ∀ name, entries.lookup name = others.lookup name) : entries = others := by
  have hmem : ∀ entry, entry ∈ entries ↔ entry ∈ others := by
    rintro ⟨name, value⟩
    rw [← lookup_eq_some_iff_mem h.nodup_names, ← lookup_eq_some_iff_mem hother.nodup_names,
      hfound]
  have hperm : entries.Perm others :=
    (List.perm_ext_iff_of_nodup h.nodup_names.of_map hother.nodup_names.of_map).mpr hmem
  exact hperm.eq_of_pairwise (fun _ _ _ _ hab hba => absurd hab (lt_asymm hba)) h hother

/-! ## Last values -/

/-- The value of the last pair whose name has this lower-case form. -/
def lastUnder? (name : String) (pairs : List (String × Literal)) : Option Literal :=
  (pairs.filter fun pair => Text.toLower pair.1 = name).getLast?.map (·.2)

theorem lastUnder?_concat (name : String) (pairs : List (String × Literal))
    (pair : String × Literal) :
    lastUnder? name (pairs ++ [pair]) =
      if name = Text.toLower pair.1 then some pair.2 else lastUnder? name pairs := by
  unfold lastUnder?
  rw [List.filter_append]
  by_cases h : Text.toLower pair.1 = name
  · simp [h]
  · simp [h, Ne.symm h]

theorem lookup_ofList (pairs : List (String × Literal)) (name : String) :
    (ofList pairs).entries.lookup name = lastUnder? name pairs := by
  induction pairs using List.reverseRecOn with
  | nil => rfl
  | append_singleton pairs pair ih =>
    rw [ofList_concat, lastUnder?_concat, ← ih]
    exact lookup_insertEntry _ _ _ _

theorem get?_ofList (pairs : List (String × Literal)) (name : String) :
    (ofList pairs).get? name = lastUnder? (Text.toLower name) pairs :=
  lookup_ofList pairs _

/-- Two collected requests are the same exactly when they have the same last values. -/
theorem ofList_eq_iff {pairs others : List (String × Literal)} :
    ofList pairs = ofList others ↔ ∀ name, lastUnder? name pairs = lastUnder? name others := by
  constructor
  · intro h name
    rw [← lookup_ofList, ← lookup_ofList, h]
  · intro h
    have hentries : (ofList pairs).entries = (ofList others).entries :=
      (ordered_ofList pairs).ext (ordered_ofList others) fun name => by
        rw [lookup_ofList, lookup_ofList, h]
    exact congrArg RequestArguments.mk hentries

end FieldQuery.RequestArguments
