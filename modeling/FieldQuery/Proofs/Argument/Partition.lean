import Mathlib
import FieldQuery.Argument.List
import FieldQuery.Proofs.Wildcard.Glob

/-!
# Arguments included and excluded

What patterns cover of a list and what they leave of it are two parts that make up the whole,
position by position. One selection after another keeps what both of them keep.
-/

namespace FieldQuery

/-! ## Covered arguments -/

namespace Descriptor

/-- Some pattern covers the match key. -/
def isCovered (d : Descriptor) (patterns : List String) : Bool :=
  patterns.any fun pattern => Wildcard.covers pattern d.matchKey

theorem isCovered_iff {d : Descriptor} {patterns : List String} :
    d.isCovered patterns = true ↔
      ∃ pattern ∈ patterns, Wildcard.Glob pattern.toList d.matchKey.toList := by
  simp only [isCovered, List.any_eq_true, Wildcard.covers_iff_glob]

theorem isCovered_append (d : Descriptor) (ps qs : List String) :
    d.isCovered (ps ++ qs) = (d.isCovered ps || d.isCovered qs) := by
  unfold isCovered
  exact List.any_append

end Descriptor

namespace ArgumentList

variable {l : ArgumentList}

theorem includeMatching_eq (l : ArgumentList) (patterns : List String) :
    l.includeMatching patterns = l.retain (·.isCovered patterns) := rfl

theorem excludeMatching_eq (l : ArgumentList) (patterns : List String) :
    l.excludeMatching patterns = l.retain (!·.isCovered patterns) := rfl

theorem retain_retain (l : ArgumentList) (first second : Descriptor → Bool) :
    (l.retain first).retain second = l.retain fun d => second d && first d := by
  simp only [retain, List.filter_filter]

theorem retain_comm (l : ArgumentList) (first second : Descriptor → Bool) :
    (l.retain first).retain second = (l.retain second).retain first := by
  simp only [retain_retain, Bool.and_comm]

/-! ## Positions -/

/-- The list holds what stands at some positions of another one, in the same order and under the
same names. -/
structure Keeps (l : ArgumentList) (positions : List (Fin l.descriptors.length))
    (part : ArgumentList) : Prop where
  ascending : positions.Pairwise (· < ·)
  descriptors : part.descriptors = positions.map l.descriptors.get
  names : part.names = l.names

/-- The positions whose descriptors pass. -/
def positionsOf (l : ArgumentList) (keep : Descriptor → Bool) : List (Fin l.descriptors.length) :=
  (List.finRange l.descriptors.length).filter fun i => keep (l.descriptors.get i)

theorem mem_positionsOf {keep : Descriptor → Bool} {i : Fin l.descriptors.length} :
    i ∈ l.positionsOf keep ↔ keep (l.descriptors.get i) = true := by
  simp [positionsOf]

theorem keeps_retain (l : ArgumentList) (keep : Descriptor → Bool) :
    l.Keeps (l.positionsOf keep) (l.retain keep) where
  ascending := (List.pairwise_lt_finRange _).filter _
  descriptors := by
    have hall := List.map_get_finRange l.descriptors
    calc l.descriptors.filter keep
      _ = ((List.finRange l.descriptors.length).map l.descriptors.get).filter keep := by rw [hall]
      _ = (l.positionsOf keep).map l.descriptors.get := List.filter_map
  names := rfl

/-- The positions that an inclusion keeps. -/
def included (l : ArgumentList) (patterns : List String) : List (Fin l.descriptors.length) :=
  l.positionsOf (·.isCovered patterns)

/-- The positions that an exclusion keeps. -/
def excluded (l : ArgumentList) (patterns : List String) : List (Fin l.descriptors.length) :=
  l.positionsOf (!·.isCovered patterns)

variable {i : Fin l.descriptors.length} {ps qs : List String}

theorem mem_included :
    i ∈ l.included ps ↔
      ∃ pattern ∈ ps, Wildcard.Glob pattern.toList (l.descriptors.get i).matchKey.toList := by
  rw [included, mem_positionsOf, Descriptor.isCovered_iff]

theorem mem_excluded : i ∈ l.excluded ps ↔ i ∉ l.included ps := by
  unfold included excluded
  simp only [mem_positionsOf, Bool.not_eq_true', Bool.not_eq_true]

theorem mem_included_append :
    i ∈ l.included (ps ++ qs) ↔ i ∈ l.included ps ∨ i ∈ l.included qs := by
  unfold included
  simp only [mem_positionsOf, Descriptor.isCovered_append, Bool.or_eq_true]

/-! ## One selection after another -/

theorem excludeMatching_includeMatching (l : ArgumentList) (ps : List String) :
    ((l.includeMatching ps).excludeMatching ps).descriptors = [] := by
  rw [includeMatching_eq, excludeMatching_eq, retain_retain]
  simp [retain]

theorem excludeMatching_append (l : ArgumentList) (ps qs : List String) :
    (l.excludeMatching ps).excludeMatching qs = l.excludeMatching (ps ++ qs) := by
  simp only [excludeMatching_eq, retain_retain, Descriptor.isCovered_append, Bool.not_or,
    Bool.and_comm]

theorem excludeMatching_self (l : ArgumentList) (ps : List String) :
    (l.excludeMatching ps).excludeMatching ps = l.excludeMatching ps := by
  simp only [excludeMatching_eq, retain_retain, Bool.and_self]

/-- An inclusion and an exclusion by the same patterns share out the positions of a list. A position
is included by one or the other of two rows of patterns if it is included by both together, and
exclusions in a row exclude by all their patterns. The order of selections does not matter. -/
theorem patterns_partition_list (l : ArgumentList) (ps qs : List String) :
    (l.Keeps (l.included ps) (l.includeMatching ps) ∧
      l.Keeps (l.excluded ps) (l.excludeMatching ps) ∧
      (∀ i, i ∈ l.excluded ps ↔ i ∉ l.included ps) ∧
      (∀ i, i ∈ l.included ps ↔
        ∃ pattern ∈ ps, Wildcard.Glob pattern.toList (l.descriptors.get i).matchKey.toList) ∧
      ∀ i, i ∈ l.included (ps ++ qs) ↔ i ∈ l.included ps ∨ i ∈ l.included qs) ∧
    (((l.includeMatching ps).excludeMatching ps).descriptors = [] ∧
      (l.excludeMatching ps).excludeMatching ps = l.excludeMatching ps ∧
      (l.excludeMatching ps).excludeMatching qs = l.excludeMatching (ps ++ qs)) ∧
    (l.includeMatching ps).includeMatching qs = (l.includeMatching qs).includeMatching ps ∧
      (l.includeMatching ps).excludeMatching qs = (l.excludeMatching qs).includeMatching ps ∧
      (l.excludeMatching ps).excludeMatching qs = (l.excludeMatching qs).excludeMatching ps := by
  refine ⟨⟨l.keeps_retain _, l.keeps_retain _, fun _ => mem_excluded, fun _ => mem_included,
    fun _ => mem_included_append⟩, ?_, ?_⟩
  · exact ⟨l.excludeMatching_includeMatching ps, l.excludeMatching_self ps,
      l.excludeMatching_append ps qs⟩
  · exact ⟨l.retain_comm _ _, l.retain_comm _ _, l.retain_comm _ _⟩

/-- Two arguments with one key are two positions. -/
example :
    let l : ArgumentList := ⟨[.page "At", .orderBy "Sort", .page "at"], .default⟩
    (l.included ["a?"]).map Fin.val = [0, 2] ∧ (l.excluded ["a?"]).map Fin.val = [1] := by
  decide +kernel

end ArgumentList

end FieldQuery
