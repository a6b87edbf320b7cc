import Mathlib
import FieldQuery.Mapping

/-!
# Mappings in both directions

An item of a profile maps a field there and back. All items do, exactly if no field is mapped to two
different paths, be it by an item or by a reversal.
-/

namespace FieldQuery.MappingProfile

variable {p : MappingProfile} {sourceType field : String} {destination? : Option String}

/-! ## The first answer -/

theorem answers_iff {m : MappingItem} :
    m.answers sourceType field destination? = true ↔
      m.sourceType = sourceType ∧ m.sourcePath = field ∧
        ∀ d ∈ destination?, m.destinationType = d := by
  unfold MappingItem.answers
  cases destination? <;> simp [and_assoc]

theorem resolver_cases (p : MappingProfile) (sourceType field : String)
    (destination? : Option String) :
    (∃ first ∈ p.bothWays, first.answers sourceType field destination? = true ∧
      p.resolver sourceType field destination? = first.destinationPath) ∨
    (∀ m ∈ p.bothWays, ¬ m.answers sourceType field destination? = true) ∧
      p.resolver sourceType field destination? = field := by
  unfold resolver
  cases hfind : p.bothWays.find? fun m => m.answers sourceType field destination? with
  | none => exact .inr ⟨List.find?_eq_none.mp hfind, rfl⟩
  | some first =>
    have hanswers := List.find?_some hfind
    exact .inl ⟨first, List.mem_of_find?_eq_some hfind, hanswers, rfl⟩

theorem resolver_of_answers {m : MappingItem} (hm : m ∈ p.bothWays)
    (h : m.answers sourceType field destination? = true) :
    ∃ first ∈ p.bothWays, first.answers sourceType field destination? = true ∧
      p.resolver sourceType field destination? = first.destinationPath := by
  rcases resolver_cases p sourceType field destination? with hfirst | ⟨hnone, -⟩
  · exact hfirst
  · exact absurd h (hnone m hm)

theorem resolver_unmapped
    (h : ∀ m ∈ p.bothWays, ¬ (m.sourceType = sourceType ∧ m.sourcePath = field))
    (destination? : Option String) : p.resolver sourceType field destination? = field := by
  rcases resolver_cases p sourceType field destination? with ⟨first, hfirst, hanswers, -⟩ | ⟨-, heq⟩
  · obtain ⟨htype, hpath, -⟩ := answers_iff.mp hanswers
    exact absurd ⟨htype, hpath⟩ (h first hfirst)
  · exact heq

/-! ## Items and reversals -/

theorem forall_bothWays {P : MappingItem → Prop} :
    (∀ m ∈ p.bothWays, P m) ↔ ∀ m ∈ p.mappings, P m ∧ P m.reversed := by
  unfold bothWays
  simp only [List.forall_mem_append, List.forall_mem_map, forall_and]

/-- What the resolver is told of the type that is wanted. -/
def told (typed : Bool) (destinationType : String) : Option String :=
  if typed then some destinationType else none

theorem answers_told {m n : MappingItem} {typed : Bool} :
    n.answers m.sourceType m.sourcePath (told typed m.destinationType) = true ↔
      n.sourceType = m.sourceType ∧ n.sourcePath = m.sourcePath ∧
        (typed = true → n.destinationType = m.destinationType) := by
  rw [answers_iff]
  cases typed <;> simp [told]

/-- No field is mapped to two different paths, or with types, not for the same destination type. -/
def Consistent (p : MappingProfile) (typed : Bool) : Prop :=
  ∀ m ∈ p.bothWays, ∀ n ∈ p.bothWays, m.sourceType = n.sourceType → m.sourcePath = n.sourcePath →
    (typed = true → m.destinationType = n.destinationType) → m.destinationPath = n.destinationPath

theorem consistent_iff {typed : Bool} :
    p.Consistent typed ↔ ∀ m ∈ p.bothWays,
      p.resolver m.sourceType m.sourcePath (told typed m.destinationType) = m.destinationPath := by
  constructor
  · intro h m hm
    obtain ⟨first, hfirst, hanswers, heq⟩ :=
      resolver_of_answers hm (answers_told.mpr ⟨rfl, rfl, fun _ => rfl⟩)
    obtain ⟨htype, hpath, hdestination⟩ := answers_told.mp hanswers
    rw [heq]
    exact h first hfirst m hm htype hpath hdestination
  · intro h m hm n hn htype hpath hdestination
    have htold : told typed m.destinationType = told typed n.destinationType := by
      cases typed with
      | false => rfl
      | true => rw [hdestination rfl]
    rw [← h m hm, ← h n hn, htype, hpath, htold]

/-- The resolver finds the way there and the way back, and so the way there and back again. -/
def WorksBothWays (p : MappingProfile) (typed : Bool) (m : MappingItem) : Prop :=
  let there := p.resolver m.sourceType m.sourcePath (told typed m.destinationType)
  let back (path : String) := p.resolver m.destinationType path (told typed m.sourceType)
  there = m.destinationPath ∧ back m.destinationPath = m.sourcePath ∧ back there = m.sourcePath

theorem forall_worksBothWays {typed : Bool} :
    (∀ m ∈ p.mappings, p.WorksBothWays typed m) ↔ ∀ m ∈ p.bothWays,
      p.resolver m.sourceType m.sourcePath (told typed m.destinationType) = m.destinationPath := by
  rw [forall_bothWays]
  refine forall₂_congr fun m _ => ?_
  constructor
  · rintro ⟨hthere, hback, -⟩
    exact ⟨hthere, hback⟩
  · rintro ⟨hthere, hback⟩
    refine ⟨hthere, hback, ?_⟩
    rw [hthere]
    exact hback

/-- All items of a profile work both ways exactly if no field is mapped to two different paths, or
if types are told, not to two for the same type. A field that is not mapped is left alone. -/
theorem mappings_work_both_ways (p : MappingProfile) :
    (∀ typed, p.Consistent typed ↔ ∀ m ∈ p.mappings, p.WorksBothWays typed m) ∧
    ∀ sourceType field,
      (∀ m ∈ p.bothWays, ¬ (m.sourceType = sourceType ∧ m.sourcePath = field)) →
        ∀ destination?, p.resolver sourceType field destination? = field := by
  refine ⟨fun typed => ?_, fun _ _ => resolver_unmapped⟩
  rw [forall_worksBothWays, consistent_iff]

/-! ### Rooms and their models -/

/-- The detail of a room has another name in each model, and one of them is mapped back as well. -/
def roomProfile : MappingProfile :=
  ⟨[⟨"Room", "RoomDetail", "RoomModel", "Detail"⟩,
    ⟨"Room", "RoomDetail", "FlatRoomModel", "Flat"⟩,
    ⟨"RoomModel", "Detail", "Room", "RoomDetail"⟩]⟩

/-- The second item works both ways as long as the type of the model is told. -/
theorem room_profile_works :
    roomProfile.Consistent true ∧ (∀ m ∈ roomProfile.mappings, roomProfile.WorksBothWays true m) ∧
      roomProfile.resolver "Room" "RoomDetail" (some "FlatRoomModel") = "Flat" ∧
      ¬ roomProfile.Consistent false ∧
      roomProfile.resolver "Room" "RoomDetail" none = "Detail" ∧
      (∀ m ∈ roomProfile.bothWays, ¬ (m.sourceType = "Room" ∧ m.sourcePath = "Number")) ∧
      roomProfile.resolver "Room" "Number" (some "RoomModel") = "Number" := by
  obtain ⟨hworks, hunmapped⟩ := mappings_work_both_ways roomProfile
  have hconsistent : roomProfile.Consistent true := by
    unfold Consistent
    decide
  have hambiguous : ¬ roomProfile.Consistent false := by
    unfold Consistent
    decide
  have hnumber :
      ∀ m ∈ roomProfile.bothWays, ¬ (m.sourceType = "Room" ∧ m.sourcePath = "Number") := by
    decide
  exact ⟨hconsistent, (hworks true).mp hconsistent, rfl, hambiguous, rfl, hnumber,
    hunmapped "Room" "Number" hnumber _⟩

end FieldQuery.MappingProfile
