import Mathlib
import FieldQuery.Proofs.Discovery.Chains

/-!
# Limits of discovery

Discovery under narrower limits finds what discovery under wider ones finds along the paths that the
narrower limits allow.
-/

namespace FieldQuery

namespace Config

/-- The other configuration goes as deep and walks lists if this one does; names are the same. -/
structure Within (c c' : Config) : Prop where
  levels : c.maxRecursionLevel ≤ c'.maxRecursionLevel
  lists : c.supportListGraphType = true → c'.supportListGraphType = true
  names : c.names = c'.names

/-- The path has at most this many segments, and goes through lists only where they are walked. -/
def covers (c : Config) (segments : Nat) (path : EntityPath) : Bool :=
  path.length ≤ segments && (c.supportListGraphType || !path.hasList)

/-- The limits allow for the path. -/
def allows (c : Config) (path : EntityPath) : Bool := c.covers (c.maxRecursionLevel + 1) path

theorem covers_eq_true {c : Config} {segments : Nat} {path : EntityPath} :
    c.covers segments path = true ↔
      path.length ≤ segments ∧ (c.supportListGraphType = true ∨ path.hasList = false) := by
  simp [covers]

end Config

namespace EntityPath

theorem hasList_of_prefix {p q : EntityPath} (h : p.segments <+: q.segments)
    (hp : p.hasList = true) : q.hasList = true := by
  unfold hasList at *
  rw [List.any_eq_true] at *
  obtain ⟨s, hs, hlist⟩ := hp
  exact ⟨s, h.subset hs, hlist⟩

end EntityPath

namespace Discovery

variable {d : Discovery} {t : Trail} {model : String} {field : Field}

/-- The same types and members, discovered under other limits. -/
def withConfig (d : Discovery) (c : Config) : Discovery := { d with config := c }

/-! ## Trails -/

theorem segments_through (d : Discovery) (t : Trail) (model : String) (field : Field) :
    (d.through t model field).path.segments =
      t.path.segments ++ [d.segment model field (d.isObjectList field.type)] := rfl

theorem length_through : (d.through t model field).path.length = t.path.length + 1 := by
  rw [EntityPath.length, segments_through, List.length_append, List.length_singleton]
  rfl

theorem hasList_through :
    (d.through t model field).path.hasList = (t.path.hasList || d.isObjectList field.type) := by
  rw [EntityPath.hasList, segments_through, List.any_append, List.any_cons, List.any_nil,
    Bool.or_false]
  rfl

theorem path_of_mem_leaf {a : Descriptor} (h : a ∈ leaf t field) : a.path = t.path := by
  unfold leaf Descriptor.filter at h
  split at h
  case h_1 found hfound =>
    split at hfound
    · obtain rfl := Except.ok.inj hfound
      rw [List.mem_singleton.mp h]
      rfl
    · cases hfound
  case h_2 => cases h

/-! ## What is found in a field -/

theorem ofField_leaf (h : d.shape field.type.nullable = .leaf) (levels : Nat) :
    d.ofField levels t model field = leaf (d.through t model field) field := by
  rw [ofField_eq, if_pos h]

theorem ofField_zero (h : d.shape field.type.nullable ≠ .leaf) :
    d.ofField 0 t model field = [] := by
  rw [ofField_eq, if_neg h]

theorem ofField_of_entered?_none (h : d.shape field.type.nullable ≠ .leaf)
    (hname : d.entered? field.type = none) (levels : Nat) :
    d.ofField levels t model field = [] := by
  rw [ofField_eq, if_neg h, hname]
  cases levels <;> rfl

theorem ofField_of_entered? {name : String} (h : d.shape field.type.nullable ≠ .leaf)
    (hname : d.entered? field.type = some name) (levels : Nat) :
    d.ofField (levels + 1) t model field = (d.declared name).flatMap fun (nextModel, next) =>
      d.ofField levels (d.through t model field) nextModel next := by
  rw [ofField_eq, if_neg h, hname]

/-- What is found in a field has a path through the field. -/
theorem prefix_of_mem_ofField {levels : Nat} {a : Descriptor}
    (h : a ∈ d.ofField levels t model field) :
    (d.through t model field).path.segments <+: a.path.segments := by
  induction levels generalizing t model field with
  | zero =>
    by_cases hleaf : d.shape field.type.nullable = .leaf
    · rw [ofField_leaf hleaf] at h
      rw [path_of_mem_leaf h]
    · rw [ofField_zero hleaf] at h
      cases h
  | succ levels ih =>
    by_cases hleaf : d.shape field.type.nullable = .leaf
    · rw [ofField_leaf hleaf] at h
      rw [path_of_mem_leaf h]
    · cases hname : d.entered? field.type with
      | none =>
        rw [ofField_of_entered?_none hleaf hname] at h
        cases h
      | some name =>
        rw [ofField_of_entered? hleaf hname] at h
        obtain ⟨⟨nextModel, next⟩, -, hmem⟩ := List.mem_flatMap.mp h
        exact (List.prefix_append _ _).trans (ih hmem)

/-- Behind a field that is no leaf, paths have a segment more. -/
theorem length_of_mem_ofField (hleaf : d.shape field.type.nullable ≠ .leaf) {levels : Nat}
    {a : Descriptor} (h : a ∈ d.ofField levels t model field) :
    t.path.length + 2 ≤ a.path.length := by
  cases levels with
  | zero =>
    rw [ofField_zero hleaf] at h
    cases h
  | succ levels =>
    cases hname : d.entered? field.type with
    | none =>
      rw [ofField_of_entered?_none hleaf hname] at h
      cases h
    | some name =>
      rw [ofField_of_entered? hleaf hname] at h
      obtain ⟨⟨nextModel, next⟩, -, hmem⟩ := List.mem_flatMap.mp h
      have hlength := (prefix_of_mem_ofField hmem).length_le
      rwa [← EntityPath.length, ← EntityPath.length, length_through, length_through] at hlength

/-! ## Narrower limits -/

variable {c c' : Config}

theorem entered?_within (h : c.Within c') {type : GraphType} {name : String}
    (hname : (d.withConfig c).entered? type = some name) :
    (d.withConfig c').entered? type = some name := by
  rw [entered?_eq_some] at hname ⊢
  rcases hname with hobject | ⟨hlists, hlist⟩
  · exact Or.inl hobject
  · exact Or.inr ⟨h.lists hlists, hlist⟩

/-- What only the wider limits enter is a list. -/
theorem isObjectList_of_entered? {type : GraphType} {name : String}
    (hnone : (d.withConfig c).entered? type = none)
    (hsome : (d.withConfig c').entered? type = some name) :
    c.supportListGraphType = false ∧ d.isObjectList type = true := by
  have hnot : ¬ (d.withConfig c).Enters type name := by
    rw [← entered?_eq_some, hnone]
    simp
  rcases entered?_eq_some.mp hsome with hobject | ⟨-, hlist⟩
  · exact absurd (Or.inl hobject) hnot
  · refine ⟨?_, isObjectList_iff.mpr ⟨name, hlist⟩⟩
    rw [Bool.eq_false_iff]
    exact fun hlists => hnot (Or.inr ⟨hlists, hlist⟩)

theorem isObjectList_of_shape {type : GraphType} (h : ∀ name, ¬ d.registry.IsObjectList type name) :
    d.isObjectList type = false := by
  rw [Bool.eq_false_iff, ne_eq, isObjectList_iff]
  rintro ⟨name, hlist⟩
  exact h name hlist

/-- The limits allow a trail to go on through a leaf, and through what they enter. -/
theorem covered_through (model : String)
    (ht : c.supportListGraphType = true ∨ t.path.hasList = false)
    (h : c.supportListGraphType = true ∨ d.isObjectList field.type = false) :
    c.supportListGraphType = true ∨ (d.through t model field).path.hasList = false := by
  rw [hasList_through]
  rcases ht with hlists | ht
  · exact Or.inl hlists
  · rw [ht, Bool.false_or]
    exact h

theorem isObjectList_of_leaf (h : d.shape field.type.nullable = .leaf) :
    d.isObjectList field.type = false := by
  rw [shape_leaf_iff] at h
  exact isObjectList_of_shape fun name => (h name).2

theorem covered_of_entered? {type : GraphType} {name : String}
    (h : (d.withConfig c).entered? type = some name) :
    c.supportListGraphType = true ∨ d.isObjectList type = false := by
  rcases entered?_eq_some.mp h with hobject | ⟨hlists, -⟩
  · refine Or.inr (isObjectList_of_shape fun other hlist => ?_)
    rw [← shape_listOfObject_iff] at hlist
    have hshape : d.shape type.nullable = .object name := shape_object_iff.mpr hobject
    rw [hshape] at hlist
    cases hlist
  · exact Or.inl hlists

theorem ofField_withConfig_leaf (hleaf : d.shape field.type.nullable = .leaf)
    (ht : c.supportListGraphType = true ∨ t.path.hasList = false) (levels levels' : Nat) :
    (d.withConfig c).ofField levels t model field =
      ((d.withConfig c').ofField levels' t model field).filter fun a =>
        c.covers (t.path.length + levels + 1) a.path := by
  rw [ofField_leaf (d := d.withConfig c) hleaf, ofField_leaf (d := d.withConfig c') hleaf]
  refine (List.filter_eq_self.mpr ?_).symm
  intro a ha
  rw [path_of_mem_leaf ha, Config.covers_eq_true, length_through]
  exact ⟨by omega, covered_through model ht (Or.inr (isObjectList_of_leaf hleaf))⟩

/-- What lies behind a field that the narrower limits do not enter lies behind a list. -/
theorem not_covered_of_not_entered (hleaf : d.shape field.type.nullable ≠ .leaf)
    (hnone : (d.withConfig c).entered? field.type = none) {levels : Nat} {a : Descriptor}
    (ha : a ∈ (d.withConfig c').ofField levels t model field) (segments : Nat) :
    ¬ c.covers segments a.path = true := by
  rw [Config.covers_eq_true]
  rintro ⟨-, hcovered⟩
  cases hname : (d.withConfig c').entered? field.type with
  | none =>
    rw [ofField_of_entered?_none (d := d.withConfig c') hleaf hname] at ha
    cases ha
  | some name =>
    obtain ⟨hlists, hlist⟩ := isObjectList_of_entered? hnone hname
    have hthrough : ((d.withConfig c').through t model field).path.hasList = true := by
      rw [hasList_through, Bool.or_eq_true]
      exact Or.inr hlist
    have hlist := EntityPath.hasList_of_prefix (prefix_of_mem_ofField ha) hthrough
    simp [hlists, hlist] at hcovered

/-- The narrower limits allow the trail, so they cut off only what lies too far beyond it or behind
a list. -/
theorem ofField_withConfig (h : c.Within c') {levels levels' : Nat} (hle : levels ≤ levels')
    {t : Trail} (ht : c.supportListGraphType = true ∨ t.path.hasList = false) (model : String)
    (field : Field) :
    (d.withConfig c).ofField levels t model field =
      ((d.withConfig c').ofField levels' t model field).filter fun a =>
        c.covers (t.path.length + levels + 1) a.path := by
  induction levels generalizing levels' t model field with
  | zero =>
    by_cases hleaf : d.shape field.type.nullable = .leaf
    · exact ofField_withConfig_leaf hleaf ht 0 levels'
    · rw [ofField_zero (d := d.withConfig c) hleaf]
      refine (List.filter_eq_nil_iff.mpr ?_).symm
      intro a ha hcovers
      have hlong := length_of_mem_ofField (d := d.withConfig c') hleaf ha
      have hshort := (Config.covers_eq_true.mp hcovers).1
      omega
  | succ levels ih =>
    by_cases hleaf : d.shape field.type.nullable = .leaf
    · exact ofField_withConfig_leaf hleaf ht (levels + 1) levels'
    cases hname : (d.withConfig c).entered? field.type with
    | none =>
      rw [ofField_of_entered?_none (d := d.withConfig c) hleaf hname]
      refine (List.filter_eq_nil_iff.mpr ?_).symm
      exact fun a ha => not_covered_of_not_entered hleaf hname ha _
    | some name =>
      obtain ⟨more, rfl⟩ : ∃ more, levels' = more + 1 := ⟨levels' - 1, by omega⟩
      have hbelow := covered_through model ht (covered_of_entered? hname)
      rw [ofField_of_entered? (d := d.withConfig c) hleaf hname,
        ofField_of_entered? (d := d.withConfig c') hleaf (entered?_within h hname),
        List.filter_flatMap]
      refine List.flatMap_congr fun ⟨nextModel, next⟩ _ => ?_
      have hnext := ih (Nat.le_of_succ_le_succ hle) hbelow nextModel next
      rwa [length_through, Nat.add_right_comm t.path.length] at hnext

/-! ## From the root -/

theorem ofField_root (h : c.Within c') (d : Discovery) (model : String) (field : Field) :
    (d.withConfig c).ofField c.maxRecursionLevel .root model field =
      ((d.withConfig c').ofField c'.maxRecursionLevel .root model field).filter fun a =>
        c.allows a.path := by
  have hroot : Trail.root.path.hasList = false := rfl
  have hfield := ofField_withConfig (d := d) h h.levels (Or.inr hroot) model field
  rwa [show Trail.root.path.length = 0 from rfl, Nat.zero_add] at hfield

theorem ofSingleField_withConfig (h : c.Within c') (d : Discovery) (model : String)
    (field : Field) :
    (d.withConfig c).ofSingleField model field =
      ((d.withConfig c').ofSingleField model field).retain fun a => c.allows a.path := by
  unfold ofSingleField ArgumentList.retain
  rw [show (d.withConfig c).config.names = (d.withConfig c').config.names from h.names]
  exact congrArg (ArgumentList.mk · _) (ofField_root h d model field)

theorem ofType_withConfig (h : c.Within c') (d : Discovery) (typeName : String) :
    (d.withConfig c).ofType typeName =
      ((d.withConfig c').ofType typeName).retain fun a => c.allows a.path := by
  unfold ofType ArgumentList.retain
  rw [show (d.withConfig c).config.names = (d.withConfig c').config.names from h.names,
    List.filter_flatMap]
  refine congrArg (ArgumentList.mk · _) (List.flatMap_congr fun ⟨model, field⟩ _ => ?_)
  exact ofField_root h d model field

theorem retain_sublist (l : ArgumentList) (keep : Descriptor → Bool) :
    (l.retain keep).descriptors.Sublist l.descriptors := List.filter_sublist

/-- Under narrower limits discovery finds those arguments, in the same order, whose paths the limits
allow; so wider limits take nothing away and move nothing. -/
theorem narrower_limits_keep_allowed_paths (d : Discovery) (h : c.Within c') :
    (∀ typeName,
      (d.withConfig c).ofType typeName =
          ((d.withConfig c').ofType typeName).retain (fun a => c.allows a.path) ∧
        ((d.withConfig c).ofType typeName).descriptors.Sublist
          ((d.withConfig c').ofType typeName).descriptors) ∧
      ∀ model field,
        (d.withConfig c).ofSingleField model field =
            ((d.withConfig c').ofSingleField model field).retain (fun a => c.allows a.path) ∧
          ((d.withConfig c).ofSingleField model field).descriptors.Sublist
            ((d.withConfig c').ofSingleField model field).descriptors := by
  constructor
  · intro typeName
    have hlist := ofType_withConfig h d typeName
    exact ⟨hlist, hlist ▸ retain_sublist _ _⟩
  · intro model field
    have hlist := ofSingleField_withConfig h d model field
    exact ⟨hlist, hlist ▸ retain_sublist _ _⟩

/-! ### A type that refers to itself -/

def nodeType : ObjectType where
  name := "Node"
  model := "Node"
  fields :=
    [⟨"Id", .nonNull (.scalar .int), none⟩, ⟨"Parent", .object "Node", none⟩,
      ⟨"Children", .list (.nonNull (.object "Node")), none⟩]

def nodes : Discovery := ⟨⟨[("Node", nodeType)]⟩, .identity, .default⟩

def oneLevel : Config := { Config.default with maxRecursionLevel := 1 }

def twoLevelsAndLists : Config := { Config.default with supportListGraphType := true }

theorem one_level_of_nodes :
    oneLevel.Within twoLevelsAndLists ∧
      ((nodes.withConfig twoLevelsAndLists).ofType "Node").descriptors.map (·.name) =
        ["Id", "ParentId", "ParentParentId", "ParentChildrenId", "ChildrenId", "ChildrenParentId",
          "ChildrenChildrenId"] ∧
      ((nodes.withConfig oneLevel).ofType "Node").descriptors.map (·.name) = ["Id", "ParentId"] ∧
      (nodes.withConfig oneLevel).ofType "Node" =
        ((nodes.withConfig twoLevelsAndLists).ofType "Node").retain
          (fun a => oneLevel.allows a.path) := by
  have hwithin : oneLevel.Within twoLevelsAndLists := ⟨by decide, by decide, rfl⟩
  have hlist := ((narrower_limits_keep_allowed_paths nodes hwithin).1 "Node").1
  exact ⟨hwithin, by decide +kernel, by decide +kernel, hlist⟩

end Discovery

end FieldQuery
