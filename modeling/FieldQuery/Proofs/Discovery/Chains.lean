import Mathlib
import FieldQuery.Discovery

/-!
# Chains of fields

Discovery enumerates the chains of fields that lead from a type to a leaf. Types may refer to
themselves, so only the number of levels bounds the length of a chain.
-/

namespace FieldQuery

/-! ## Types of fields -/

namespace Registry

/-- The type refers to a registered object. -/
def IsObject (r : Registry) (t : GraphType) (name : String) : Prop :=
  t.nullable = .object name ∧ r.contains name = true

/-- The type is a list whose elements refer to a registered object. -/
def IsObjectList (r : Registry) (t : GraphType) (name : String) : Prop :=
  ∃ element, t.nullable = .list element ∧ element.nullable = .object name ∧
    r.contains name = true

end Registry

namespace Discovery

variable {d : Discovery} {t : GraphType} {name : String}

theorem shape_object_iff : d.shape t.nullable = .object name ↔ d.registry.IsObject t name := by
  unfold Registry.IsObject
  cases t.nullable with
  | object other =>
    dsimp only [shape]
    by_cases hother : other = name
    · simp [hother]
    · split <;> simp [hother]
  | list element =>
    dsimp only [shape]
    split
    · split <;> simp
    · simp
  | scalar | enumeration | nonNull => simp [shape]

theorem shape_listOfObject_iff :
    d.shape t.nullable = .listOfObject name ↔ d.registry.IsObjectList t name := by
  unfold Registry.IsObjectList
  cases t.nullable with
  | object other =>
    dsimp only [shape]
    split <;> simp
  | list element =>
    dsimp only [shape]
    simp only [GraphType.list.injEq, exists_eq_left']
    cases element.nullable with
    | object other =>
      dsimp only
      by_cases hother : other = name
      · simp [hother]
      · split <;> simp [hother]
    | scalar | enumeration | list | nonNull => simp
  | scalar | enumeration | nonNull => simp [shape]

/-- Nothing is found below the type, whether or not lists are walked. -/
def IsLeaf (d : Discovery) (t : GraphType) : Prop :=
  ∀ name, ¬ d.registry.IsObject t name ∧ ¬ d.registry.IsObjectList t name

theorem shape_leaf_iff : d.shape t.nullable = .leaf ↔ d.IsLeaf t := by
  unfold IsLeaf
  simp only [← shape_object_iff, ← shape_listOfObject_iff]
  cases d.shape t.nullable <;> simp

/-- The fields of the object are walked. -/
def Enters (d : Discovery) (t : GraphType) (name : String) : Prop :=
  d.registry.IsObject t name ∨
    d.config.supportListGraphType = true ∧ d.registry.IsObjectList t name

def entered? (d : Discovery) (t : GraphType) : Option String :=
  match d.shape t.nullable with
  | .object name => some name
  | .listOfObject name => if d.config.supportListGraphType then some name else none
  | .leaf => none

theorem entered?_eq_some : d.entered? t = some name ↔ d.Enters t name := by
  unfold entered? Enters
  rw [← shape_object_iff, ← shape_listOfObject_iff]
  cases d.shape t.nullable <;> simp

def isObjectList (d : Discovery) (t : GraphType) : Bool :=
  match d.shape t.nullable with
  | .listOfObject _ => true
  | _ => false

theorem isObjectList_iff :
    d.isObjectList t = true ↔ ∃ name, d.registry.IsObjectList t name := by
  unfold isObjectList
  simp only [← shape_listOfObject_iff]
  cases d.shape t.nullable <;> simp

end Discovery

/-! ## Chains -/

/-- A field as the one at a position among those of an object. -/
structure Link where
  owner : ObjectType
  position : Nat
  field : Field
  deriving DecidableEq, Repr

namespace Discovery

/-- The type is registered and declares the field at its position. -/
structure Declares (d : Discovery) (typeName : String) (link : Link) : Prop where
  owner : d.registry.resolve? typeName = some link.owner
  field : link.owner.fields[link.position]? = some link.field

/-- A row of fields from one declared by a type to a leaf, each declared by the object that the
field before it refers to. -/
inductive IsChain (d : Discovery) : (typeName : String) → List Link → Prop
  | leaf {typeName : String} {link : Link} (declared : d.Declares typeName link)
      (leaf : d.IsLeaf link.field.type) : IsChain d typeName [link]
  | enter {typeName name : String} {link : Link} {rest : List Link}
      (declared : d.Declares typeName link) (enters : d.Enters link.field.type name)
      (below : IsChain d name rest) : IsChain d typeName (link :: rest)

theorem IsChain.ne_nil {d : Discovery} {typeName : String} {chain : List Link}
    (h : d.IsChain typeName chain) : chain ≠ [] := by
  cases h <;> simp

/-! ## Enumeration -/

def links (d : Discovery) (typeName : String) : List Link :=
  match d.registry.resolve? typeName with
  | some object => object.fields.zipIdx.map fun (field, position) => ⟨object, position, field⟩
  | none => []

/-- The chains that start with a field, with this many object levels allowed below it. -/
def chainsFrom (d : Discovery) (levels : Nat) (link : Link) : List (List Link) :=
  if d.shape link.field.type.nullable = .leaf then [[link]]
  else
    match levels, d.entered? link.field.type with
    | levels + 1, some name => ((d.links name).flatMap (d.chainsFrom levels)).map (link :: ·)
    | _, _ => []

def chains (d : Discovery) (levels : Nat) (typeName : String) : List (List Link) :=
  (d.links typeName).flatMap (d.chainsFrom levels)

variable {d : Discovery} {typeName : String}

theorem mem_links {link : Link} : link ∈ d.links typeName ↔ d.Declares typeName link := by
  unfold links
  constructor
  · intro h
    split at h
    case h_1 object hobject =>
      obtain ⟨⟨field, position⟩, hmem, rfl⟩ := List.mem_map.mp h
      exact ⟨hobject, List.mem_zipIdx_iff_getElem?.mp hmem⟩
    case h_2 => cases h
  · rintro ⟨howner, hfield⟩
    rw [howner]
    have hmem : (link.field, link.position) ∈ link.owner.fields.zipIdx :=
      List.mem_zipIdx_iff_getElem?.mpr hfield
    exact List.mem_map.mpr ⟨(link.field, link.position), hmem, rfl⟩

theorem links_pairwise (d : Discovery) (typeName : String) :
    (d.links typeName).Pairwise fun a b => a.position < b.position := by
  unfold links
  split
  · rw [List.pairwise_map, ← List.pairwise_map (f := Prod.snd) (R := (· < ·)), List.zipIdx_map_snd]
    exact List.pairwise_lt_range'
  · exact List.Pairwise.nil

theorem chainsFrom_of_leaf {levels : Nat} {link : Link} (h : d.IsLeaf link.field.type) :
    d.chainsFrom levels link = [[link]] := by
  unfold chainsFrom
  rw [if_pos (shape_leaf_iff.mpr h)]

theorem not_isLeaf {t : GraphType} {name : String} (h : d.Enters t name) : ¬ d.IsLeaf t := by
  intro hleaf
  rcases h with hobject | ⟨-, hlist⟩
  · exact (hleaf name).1 hobject
  · exact (hleaf name).2 hlist

theorem chainsFrom_of_enters {levels : Nat} {link : Link} {name : String}
    (h : d.Enters link.field.type name) :
    d.chainsFrom (levels + 1) link = (d.chains levels name).map (link :: ·) := by
  conv_lhs => unfold chainsFrom
  rw [if_neg (by rw [shape_leaf_iff]; exact not_isLeaf h), entered?_eq_some.mpr h]
  rfl

theorem mem_chainsFrom {levels : Nat} {link : Link} {chain : List Link} :
    chain ∈ d.chainsFrom levels link ↔
      (d.IsLeaf link.field.type ∧ chain = [link]) ∨
        ∃ below name rest, levels = below + 1 ∧ d.Enters link.field.type name ∧
          rest ∈ d.chains below name ∧ chain = link :: rest := by
  constructor
  · intro h
    unfold chainsFrom at h
    split at h
    case isTrue hleaf => exact Or.inl ⟨shape_leaf_iff.mp hleaf, List.mem_singleton.mp h⟩
    case isFalse =>
      split at h
      case h_1 levels name hname =>
        obtain ⟨rest, hrest, rfl⟩ := List.mem_map.mp h
        exact Or.inr ⟨levels, name, rest, rfl, entered?_eq_some.mp hname, hrest, rfl⟩
      case h_2 => cases h
  · rintro (⟨hleaf, rfl⟩ | ⟨below, name, rest, rfl, henters, hrest, rfl⟩)
    · rw [chainsFrom_of_leaf hleaf]
      exact List.mem_singleton_self _
    · rw [chainsFrom_of_enters henters]
      exact List.mem_map_of_mem hrest

theorem isChain_of_mem {levels : Nat} {chain : List Link}
    (h : chain ∈ d.chains levels typeName) :
    d.IsChain typeName chain ∧ chain.length ≤ levels + 1 := by
  induction levels generalizing typeName chain with
  | zero =>
    obtain ⟨link, hlink, hchain⟩ := List.mem_flatMap.mp h
    rcases mem_chainsFrom.mp hchain with ⟨hleaf, rfl⟩ | ⟨below, name, rest, hlevels, -⟩
    · exact ⟨.leaf (mem_links.mp hlink) hleaf, le_rfl⟩
    · cases hlevels
  | succ levels ih =>
    obtain ⟨link, hlink, hchain⟩ := List.mem_flatMap.mp h
    rcases mem_chainsFrom.mp hchain with
      ⟨hleaf, rfl⟩ | ⟨below, name, rest, hlevels, henters, hrest, rfl⟩
    · exact ⟨.leaf (mem_links.mp hlink) hleaf, by simp⟩
    · obtain rfl : levels = below := by omega
      obtain ⟨hbelow, hlength⟩ := ih hrest
      exact ⟨.enter (mem_links.mp hlink) henters hbelow, by simpa using hlength⟩

theorem mem_chains_of_isChain {levels : Nat} {chain : List Link} (h : d.IsChain typeName chain)
    (hlength : chain.length ≤ levels + 1) : chain ∈ d.chains levels typeName := by
  induction h generalizing levels with
  | leaf declared leaf =>
    refine List.mem_flatMap.mpr ⟨_, mem_links.mpr declared, ?_⟩
    exact mem_chainsFrom.mpr (Or.inl ⟨leaf, rfl⟩)
  | @enter typeName name link rest declared enters below ih =>
    have hrest := List.length_pos_of_ne_nil below.ne_nil
    rw [List.length_cons] at hlength
    obtain ⟨fewer, rfl⟩ : ∃ fewer, levels = fewer + 1 := ⟨levels - 1, by omega⟩
    refine List.mem_flatMap.mpr ⟨link, mem_links.mpr declared, ?_⟩
    exact mem_chainsFrom.mpr (Or.inr ⟨fewer, name, rest, rfl, enters, ih (by omega), rfl⟩)

/-- Chains are listed in the order of the positions of their fields, the first field first. -/
def Precedes (a b : List Link) : Prop := a.map (·.position) < b.map (·.position)

theorem head_of_mem_chainsFrom {levels : Nat} {link : Link} {chain : List Link}
    (h : chain ∈ d.chainsFrom levels link) : ∃ rest, chain = link :: rest := by
  rcases mem_chainsFrom.mp h with ⟨-, rfl⟩ | ⟨_, _, rest, -, -, -, rfl⟩
  · exact ⟨[], rfl⟩
  · exact ⟨rest, rfl⟩

theorem chains_pairwise_of_links {levels : Nat}
    (h : ∀ link, (d.chainsFrom levels link).Pairwise Precedes) (typeName : String) :
    (d.chains levels typeName).Pairwise Precedes := by
  rw [chains, List.pairwise_flatMap]
  refine ⟨fun link _ => h link, (d.links_pairwise typeName).imp ?_⟩
  intro a b hlt x hx y hy
  obtain ⟨restA, rfl⟩ := head_of_mem_chainsFrom hx
  obtain ⟨restB, rfl⟩ := head_of_mem_chainsFrom hy
  exact List.Lex.rel hlt

theorem chainsFrom_pairwise (levels : Nat) (link : Link) :
    (d.chainsFrom levels link).Pairwise Precedes := by
  induction levels generalizing link with
  | zero =>
    unfold chainsFrom
    split <;> simp
  | succ levels ih =>
    unfold chainsFrom
    split
    · simp
    · cases d.entered? link.field.type with
      | some name =>
        rw [List.pairwise_map]
        exact (chains_pairwise_of_links ih name).imp fun h => List.Lex.cons h
      | none => exact List.Pairwise.nil

theorem chains_pairwise (d : Discovery) (levels : Nat) (typeName : String) :
    (d.chains levels typeName).Pairwise Precedes :=
  chains_pairwise_of_links (chainsFrom_pairwise levels) typeName

/-! ## Descriptors of chains -/

/-- The segment of a field: the answer of the resolver, and how its value is to be read. -/
structure Follows (d : Discovery) (link : Link) (s : Segment) : Prop where
  path : s.path = d.resolver link.owner.model link.field.name none
  isList : s.isList = true ↔ ∃ name, d.registry.IsObjectList link.field.type name
  isNullable : s.isNullable = true ↔ link.field.type.isNonNull = false

def chainName (chain : List Link) : String := String.join (chain.map (·.field.name))

/-- The filter is named after the chain, has one segment for each field, and is about the last. -/
structure Describes (d : Discovery) (chain : List Link) (a : Descriptor) : Prop where
  kind : a.kind = .filter
  name : a.name = chainName chain
  graphPath : a.graphPath? = some (chainName chain)
  path : List.Forall₂ d.Follows chain a.path.segments
  type : chain.getLast?.map (·.field.type.nullable) = some a.type
  isRequired : chain.getLast?.map (·.field.type.isNonNull) = some a.isRequired
  description : chain.getLast?.map (·.field.description) = some a.description

/-- A trail has gone through these fields. -/
structure Along (d : Discovery) (seen : List Link) (t : Trail) : Prop where
  graphPath : t.graphPath = chainName seen
  path : List.Forall₂ d.Follows seen t.path.segments

/-- The step of a trail through a field, which may be a list of objects. -/
def through (d : Discovery) (t : Trail) (model : String) (field : Field) : Trail :=
  t.step field (d.segment model field (d.isObjectList field.type))

theorem chainName_concat (seen : List Link) (link : Link) :
    chainName (seen ++ [link]) = chainName seen ++ link.field.name := by
  simp [chainName, String.join_append]

theorem along_root : d.Along [] .root := ⟨rfl, .nil⟩

theorem Along.through {seen : List Link} {t : Trail} (h : d.Along seen t) (link : Link) :
    d.Along (seen ++ [link]) (d.through t link.owner.model link.field) where
  graphPath := by
    rw [chainName_concat, ← h.graphPath]
    rfl
  path := by
    refine List.rel_append h.path (.cons ⟨rfl, isObjectList_iff, ?_⟩ .nil)
    simp [segment]

/-- Discovery of a field goes where the chains from it go. -/
theorem ofField_eq (levels : Nat) (t : Trail) (model : String) (field : Field) :
    d.ofField levels t model field =
      if d.shape field.type.nullable = .leaf then leaf (d.through t model field) field
      else
        match levels, d.entered? field.type with
        | levels + 1, some name =>
          (d.declared name).flatMap fun (nextModel, next) =>
            d.ofField levels (d.through t model field) nextModel next
        | _, _ => [] := by
  conv_lhs => unfold ofField
  unfold entered? through isObjectList
  cases d.shape field.type.nullable with
  | object name | leaf => cases levels <;> simp
  | listOfObject name => cases levels <;> cases d.config.supportListGraphType <;> simp

theorem declared_eq (d : Discovery) (typeName : String) :
    d.declared typeName = (d.links typeName).map fun link => (link.owner.model, link.field) := by
  unfold declared links
  cases d.registry.resolve? typeName with
  | none => rfl
  | some object =>
    have hfields := List.zipIdx_map_fst 0 object.fields
    calc object.fields.map (object.model, ·)
      _ = (object.fields.zipIdx.map Prod.fst).map (object.model, ·) := by rw [hfields]
      _ = _ := by rw [List.map_map, List.map_map]; rfl

theorem flatMap_declared (d : Discovery) (typeName : String) (levels : Nat) (t : Trail) :
    ((d.declared typeName).flatMap fun (model, field) => d.ofField levels t model field) =
      (d.links typeName).flatMap fun link =>
        d.ofField levels t link.owner.model link.field := by
  rw [declared_eq, List.flatMap_map]

theorem describes_leaf {seen : List Link} {t : Trail} {link : Link}
    (h : d.Along (seen ++ [link]) t) :
    List.Forall₂ d.Describes [seen ++ [link]] (leaf t link.field) := by
  have hne : t.path.segments ≠ [] := by
    intro hnil
    have hpath := h.path
    rw [hnil, List.forall₂_nil_right_iff] at hpath
    simp at hpath
  rw [leaf, Descriptor.filter, dif_pos hne]
  refine .cons ⟨rfl, h.graphPath, congrArg some h.graphPath, h.path, ?_, ?_, ?_⟩ .nil
  all_goals simp [Descriptor.type, Descriptor.isRequired]

/-- The filters found behind a trail describe the chains that go on from it, in their order. -/
theorem describes_ofField {levels : Nat} {seen : List Link} {t : Trail} (h : d.Along seen t)
    (link : Link) :
    List.Forall₂ d.Describes ((d.chainsFrom levels link).map (seen ++ ·))
      (d.ofField levels t link.owner.model link.field) := by
  induction levels generalizing seen t link with
  | zero =>
    rw [ofField_eq]
    unfold chainsFrom
    split
    · exact describes_leaf (h.through link)
    · exact .nil
  | succ levels ih =>
    rw [ofField_eq]
    unfold chainsFrom
    split
    · exact describes_leaf (h.through link)
    · cases d.entered? link.field.type with
      | none => exact .nil
      | some name =>
        simp only [flatMap_declared, List.map_map, List.map_flatMap]
        refine List.rel_flatMap (List.forall₂_same.mpr fun _ _ => rfl) ?_
        rintro next _ rfl
        simpa [Function.comp_def] using ih (h.through link) next

theorem describes_ofType (d : Discovery) (typeName : String) :
    List.Forall₂ d.Describes (d.chains d.config.maxRecursionLevel typeName)
      (d.ofType typeName).descriptors := by
  rw [ofType, flatMap_declared, chains]
  refine List.rel_flatMap (List.forall₂_same.mpr fun _ _ => rfl) ?_
  rintro link _ rfl
  simpa using describes_ofField along_root link

theorem exists_mem_of_forall₂ {α β : Type} {R : α → β → Prop} {as : List α} {bs : List β}
    (h : List.Forall₂ R as bs) {b : β} (hb : b ∈ bs) : ∃ a ∈ as, R a b := by
  induction h with
  | nil => cases hb
  | cons hab _ ih =>
    rcases List.mem_cons.mp hb with rfl | hb
    · exact ⟨_, List.mem_cons_self, hab⟩
    · obtain ⟨a, ha, hR⟩ := ih hb
      exact ⟨a, List.mem_cons_of_mem _ ha, hR⟩

theorem exists_describes {a : Descriptor} (h : a ∈ (d.ofType typeName).descriptors) :
    ∃ chain, d.IsChain typeName chain ∧ d.Describes chain a := by
  obtain ⟨chain, hchain, hdescribes⟩ := exists_mem_of_forall₂ (d.describes_ofType typeName) h
  exact ⟨chain, (isChain_of_mem hchain).1, hdescribes⟩

/-- Discovery yields one filter for each chain of at most one field more than there are levels, in
the order of the chains, and nothing else. -/
theorem ofType_enumerates_chains (d : Discovery) (typeName : String) :
    ∃ chains : List (List Link),
      (∀ chain, chain ∈ chains ↔
        d.IsChain typeName chain ∧ chain.length ≤ d.config.maxRecursionLevel + 1) ∧
      chains.Pairwise Precedes ∧
      List.Forall₂ d.Describes chains (d.ofType typeName).descriptors := by
  refine ⟨d.chains d.config.maxRecursionLevel typeName, ?_, d.chains_pairwise _ _,
    d.describes_ofType typeName⟩
  intro chain
  constructor
  · exact isChain_of_mem
  · rintro ⟨hchain, hlength⟩
    exact mem_chains_of_isChain hchain hlength

end Discovery

end FieldQuery
