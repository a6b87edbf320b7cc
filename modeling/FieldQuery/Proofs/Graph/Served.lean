import Mathlib
import FieldQuery.Graph.Output

/-!
# Fields served from a document

What a field serves reads back as the value that is stored, as far as that fits the type. In a list
each item is served by itself, in its own place.
-/

namespace FieldQuery

/-! ## Types and their values -/

namespace GraphType

/-- The type has no objects in it, and nothing is made non-null twice over. -/
inductive IsData : GraphType → Prop
  | scalar {kind : ScalarKind} : IsData (.scalar kind)
  | enumeration {name : String} : IsData (.enumeration name)
  | list {element : GraphType} (items : IsData element) : IsData (.list element)
  | nonNull {inner : GraphType} (once : inner.isNonNull = false) (inside : IsData inner) :
      IsData (.nonNull inner)

/-- The value has the kind that the type asks for, and is null only where the type allows it. -/
inductive Holds : GraphType → Json → Prop
  | null {t : GraphType} (nullable : t.isNonNull = false) : Holds t .null
  | scalar {kind : ScalarKind} {value : Json} : Holds (.scalar kind) value
  | enumeration {name item : String} : Holds (.enumeration name) (.string item)
  | list {element : GraphType} {items : List Json} (each : ∀ item ∈ items, Holds element item) :
      Holds (.list element) (.array items)
  | nonNull {inner : GraphType} {value : Json} (present : value.isNull = false)
      (inside : Holds inner value) : Holds (.nonNull inner) value

/-- The value has the kind that the type asks for, or is null. -/
inductive Fits : GraphType → Json → Prop
  | null {t : GraphType} : Fits t .null
  | scalar {kind : ScalarKind} {value : Json} : Fits (.scalar kind) value
  | enumeration {name item : String} : Fits (.enumeration name) (.string item)
  | list {element : GraphType} {items : List Json} (each : ∀ item ∈ items, Fits element item) :
      Fits (.list element) (.array items)
  | nonNull {inner : GraphType} {value : Json} (inside : Fits inner value) :
      Fits (.nonNull inner) value

theorem Holds.fits {t : GraphType} {value : Json} (h : t.Holds value) : t.Fits value := by
  induction h with
  | null => exact .null
  | scalar => exact .scalar
  | enumeration => exact .enumeration
  | list _ ih => exact .list ih
  | nonNull _ _ ih => exact .nonNull ih

end GraphType

/-! ## Literals -/

mutual

theorem Literal.toJson_ofJson (value : Json) : (Literal.ofJson value).toJson = value := by
  match value with
  | .null | .boolean _ | .number _ | .string _ => rfl
  | .array items => rw [ofJson, toJson, toJsons_ofJsons items]
  | .object members => rw [ofJson, toJson, toMembers_ofMembers members]

theorem Literal.toJsons_ofJsons (items : List Json) :
    Literal.toJsons (Literal.ofJsons items) = items := by
  match items with
  | [] => rfl
  | item :: rest => rw [ofJsons, toJsons, toJson_ofJson item, toJsons_ofJsons rest]

theorem Literal.toMembers_ofMembers (members : List (String × Json)) :
    Literal.toMembers (Literal.ofMembers members) = members := by
  match members with
  | [] => rfl
  | (name, value) :: rest =>
    rw [ofMembers, toMembers, toJson_ofJson value, toMembers_ofMembers rest]

end

namespace Output

/-! ## Reading back -/

/-- What is served, as JSON; null where nothing is. -/
def readBack : Option Output → Json
  | some output => output.toJson
  | none => .null

theorem toJson_getD (output? : Option Output) : (output?.getD null).toJson = readBack output? := by
  cases output? <;> rfl

theorem toJsons_eq_map (items : List Output) : toJsons items = items.map toJson := by
  induction items with
  | nil => rfl
  | cons item rest ih => rw [toJsons, ih, List.map_cons]

variable {t element inner : GraphType} {value : Json}

theorem ofJson?_nonNull (once : inner.isNonNull = false) (value : Json) :
    ofJson? (.nonNull inner) value = ofJson? inner value := by
  cases inner with
  | nonNull => cases once
  | scalar | enumeration | object | list => cases value <;> rfl

theorem readBack_scalar (kind : ScalarKind) (value : Json) :
    readBack (ofJson? (.scalar kind) value) = value := by
  cases value with
  | null => rfl
  | boolean | number | string | array | object => exact Literal.toJson_ofJson _

theorem readBack_array (element : GraphType) (items : List Json) :
    readBack (ofJson? (.list element) (.array items)) =
      .array (items.map fun item => readBack (ofJson? element item)) := by
  simp only [ofJson?, readBack, toJson, toJsons_eq_map, List.map_map, Function.comp_def,
    toJson_getD]

theorem readBack_eq_iff (h : t.IsData) : readBack (ofJson? t value) = value ↔ t.Fits value := by
  induction h generalizing value with
  | scalar => exact ⟨fun _ => .scalar, fun _ => readBack_scalar _ value⟩
  | enumeration =>
    cases value with
    | null => exact ⟨fun _ => .null, fun _ => rfl⟩
    | string => exact ⟨fun _ => .enumeration, fun _ => rfl⟩
    | boolean | number | array | object => exact ⟨nofun, nofun⟩
  | @list element _ ih =>
    cases value with
    | null => exact ⟨fun _ => .null, fun _ => rfl⟩
    | array items =>
      have hitems : items.map (fun item => readBack (ofJson? element item)) = items ↔
          ∀ item ∈ items, element.Fits item := by
        have hmap := List.map_inj_left (l := items) (g := id)
          (f := fun item => readBack (ofJson? element item))
        rw [List.map_id] at hmap
        rw [hmap]
        exact forall₂_congr fun item _ => ih
      rw [readBack_array, Json.array.injEq, hitems]
      exact ⟨.list, fun | .list each => each⟩
    | boolean | number | string | object => exact ⟨nofun, nofun⟩
  | nonNull once _ ih =>
    rw [ofJson?_nonNull once, ih]
    exact ⟨.nonNull, fun | .null => .null | .nonNull inside => inside⟩

/-! ## Lists -/

theorem ofJson?_array (h : t.element? = some element) (items : List Json) :
    ofJson? t (.array items) =
      some (.list (items.map fun item => (ofJson? element item).getD null)) := by
  have hlist : t.nullable = .list element := by
    unfold GraphType.element? at h
    split at h
    · next hnullable => rw [hnullable, Option.some.inj h]
    · cases h
  cases t with
  | list => cases hlist; rfl
  | nonNull inner => cases hlist; rfl
  | scalar | enumeration | object => cases hlist

/-- A value that conforms to a type without objects reads back as it was. So does one with nulls
where none belong, but nothing else. An array at a list is served item by item, whatever is in it:
each item keeps its place, and another item there changes nothing else. -/
theorem fields_served_in_place (h : t.IsData) :
    (∀ value, t.Holds value → readBack (ofJson? t value) = value) ∧
    (∀ value, readBack (ofJson? t value) = value ↔ t.Fits value) ∧
    ∀ element, t.element? = some element → ∀ items, ∃ outputs,
      ofJson? t (.array items) = some (.list outputs) ∧ outputs.length = items.length ∧
      (∀ (i : Nat) item, items[i]? = some item →
        outputs[i]? = some ((ofJson? element item).getD null)) ∧
      ∀ i item, ofJson? t (.array (items.set i item)) =
        some (.list (outputs.set i ((ofJson? element item).getD null))) := by
  refine ⟨fun value hvalue => (readBack_eq_iff h).mpr hvalue.fits, fun _ => readBack_eq_iff h, ?_⟩
  intro element helement items
  refine ⟨_, ofJson?_array helement items, List.length_map .., ?_, ?_⟩
  · intro i item hitem
    rw [List.getElem?_map, hitem, Option.map_some]
  · intro i item
    rw [ofJson?_array helement, List.map_set]

/-! ### The states of rooms, floor by floor -/

def floorStates : GraphType := .nonNull (.list (.list (.nonNull (.enumeration "RoomStatus"))))

def threeFloors : List Json :=
  [.array [.string "Available", .string "Cleaning"], .null, .array []]

/-- A floor that is no list leaves its place to null. -/
theorem floors_served :
    floorStates.IsData ∧ floorStates.Holds (.array threeFloors) ∧
      floorStates.element? = some (.list (.nonNull (.enumeration "RoomStatus"))) ∧
      readBack (ofJson? floorStates (.array threeFloors)) = .array threeFloors ∧
      ∃ outputs, ofJson? floorStates (.array threeFloors) = some (.list outputs) ∧
        outputs.length = 3 ∧ outputs[1]? = some null ∧
        ofJson? floorStates (.array (threeFloors.set 0 (.string "Available"))) =
          some (.list (outputs.set 0 null)) := by
  have hdata : floorStates.IsData := .nonNull rfl (.list (.list (.nonNull rfl .enumeration)))
  have hholds : floorStates.Holds (.array threeFloors) := by
    refine .nonNull rfl (.list ?_)
    simp only [threeFloors, List.forall_mem_cons]
    refine ⟨.list ?_, .null rfl, .list nofun, nofun⟩
    simp only [List.forall_mem_cons]
    exact ⟨.nonNull rfl .enumeration, .nonNull rfl .enumeration, nofun⟩
  obtain ⟨hback, -, hlist⟩ := fields_served_in_place hdata
  obtain ⟨outputs, hserved, hlength, hat, hset⟩ := hlist _ rfl threeFloors
  exact ⟨hdata, hholds, rfl, hback _ hholds, outputs, hserved, hlength, hat 1 _ rfl,
    hset 0 (.string "Available")⟩

end Output

end FieldQuery
