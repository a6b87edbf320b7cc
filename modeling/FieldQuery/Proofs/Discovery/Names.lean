import Mathlib
import FieldQuery.Proofs.Compose.Alone
import FieldQuery.Proofs.Discovery.Limits
import FieldQuery.Proofs.Text.LowerCase

/-!
# Names of leaves

The name of a leaf is that of its chain, its field names run together without a separator. Two
chains get one name only if they part at a field whose name begins the name of another.
-/

namespace FieldQuery.Discovery

open RequestArguments (ofList)

variable {d : Discovery} {typeName : String} {f g : Link} {a b : List Link}

/-! ## Where chains part -/

/-- Two chains part at `f` and `g`, different fields of one type. -/
inductive Fork (d : Discovery) (f g : Link) : List Link → List Link → Prop
  | here {typeName : String} {a b : List Link} (left : d.Declares typeName f)
      (right : d.Declares typeName g) (apart : f.position ≠ g.position)
      (leftOn : a ≠ [] → ∃ name, d.Enters f.field.type name)
      (rightOn : b ≠ [] → ∃ name, d.Enters g.field.type name) : Fork d f g (f :: a) (g :: b)
  | later {a b : List Link} (link : Link) (rest : Fork d f g a b) :
      Fork d f g (link :: a) (link :: b)

theorem Declares.ext (hf : d.Declares typeName f) (hg : d.Declares typeName g)
    (h : f.position = g.position) : f = g := by
  obtain ⟨owner, position, field⟩ := f
  obtain ⟨other, _, otherField⟩ := g
  obtain rfl : position = _ := h
  obtain rfl : owner = other := Option.some.inj (hf.owner.symm.trans hg.owner)
  obtain rfl : field = otherField := Option.some.inj (hf.field.symm.trans hg.field)
  rfl

theorem Enters.unique {t : GraphType} {name other : String} (h : d.Enters t name)
    (hother : d.Enters t other) : name = other :=
  Option.some.inj ((entered?_eq_some.mpr h).symm.trans (entered?_eq_some.mpr hother))

theorem IsChain.cases_cons (h : d.IsChain typeName a) :
    ∃ link rest, a = link :: rest ∧ d.Declares typeName link ∧
      (rest = [] ∧ d.IsLeaf link.field.type ∨
        ∃ name, d.Enters link.field.type name ∧ d.IsChain name rest) := by
  cases h with
  | leaf declared leaf => exact ⟨_, [], rfl, declared, .inl ⟨rfl, leaf⟩⟩
  | enter declared enters below => exact ⟨_, _, rfl, declared, .inr ⟨_, enters, below⟩⟩

/-- A chain goes on only behind a field that is walked. -/
theorem enters_of_tail {link : Link} (h : a = [] ∧ d.IsLeaf link.field.type ∨
    ∃ name, d.Enters link.field.type name ∧ d.IsChain name a) (hon : a ≠ []) :
    ∃ name, d.Enters link.field.type name := by
  rcases h with ⟨rfl, -⟩ | ⟨name, henters, -⟩
  · exact absurd rfl hon
  · exact ⟨name, henters⟩

theorem exists_fork (ha : d.IsChain typeName a) (hb : d.IsChain typeName b) (hne : a ≠ b) :
    ∃ f g, d.Fork f g a b := by
  -- At one position both chains have the same field, and then they part further on, if at all.
  induction ha generalizing b with
  | @leaf typeName f hf hleaf =>
    obtain ⟨g, rest, rfl, hg, hrest⟩ := hb.cases_cons
    by_cases h : f.position = g.position
    · obtain rfl := hf.ext hg h
      rcases hrest with ⟨rfl, -⟩ | ⟨name, henters, -⟩
      · exact absurd rfl hne
      · exact absurd hleaf (not_isLeaf henters)
    · exact ⟨f, g, .here hf hg h (absurd rfl) (enters_of_tail hrest)⟩
  | @enter typeName name f below hf henters hbelow ih =>
    obtain ⟨g, rest, rfl, hg, hrest⟩ := hb.cases_cons
    by_cases h : f.position = g.position
    · obtain rfl := hf.ext hg h
      rcases hrest with ⟨-, hleaf⟩ | ⟨other, hother, hrest⟩
      · exact absurd hleaf (not_isLeaf henters)
      · obtain rfl := henters.unique hother
        obtain ⟨f', g', hfork⟩ := ih hrest fun heq => hne (by rw [heq])
        exact ⟨f', g', .later f hfork⟩
    · exact ⟨f, g, .here hf hg h (fun _ => ⟨name, henters⟩) (enters_of_tail hrest)⟩

theorem Fork.ne (h : d.Fork f g a b) : a ≠ b := by
  induction h with
  | here _ _ apart => exact fun heq => apart (congrArg Link.position (List.cons.inj heq).1)
  | later link _ ih => exact fun heq => ih (List.cons.inj heq).2

/-! ## Names that run together -/

/-- The fields have different names, and if the first is walked, its name does not begin the other.
Case is left aside, and with it the form of a small sigma. -/
structure KeptApart (d : Discovery) (f g : Link) : Prop where
  distinct : Text.lowerKey f.field.name ≠ Text.lowerKey g.field.name
  unextended : ∀ name, d.Enters f.field.type name →
    ¬ Text.lowerKey f.field.name <+: Text.lowerKey g.field.name

/-- No two fields of a type have one name in lower case. -/
def FieldsDistinct (d : Discovery) : Prop :=
  ∀ typeName f g, d.Declares typeName f → d.Declares typeName g → f.position ≠ g.position →
    Text.toLower f.field.name ≠ Text.toLower g.field.name

def NamesApart (d : Discovery) : Prop :=
  ∀ typeName f g, d.Declares typeName f → d.Declares typeName g → f.position ≠ g.position →
    d.KeptApart f g

theorem forall_declares_iff {P : Link → Link → Prop} :
    (∀ typeName f g, d.Declares typeName f → d.Declares typeName g → P f g) ↔
      ∀ entry ∈ d.registry.entries, ∀ f ∈ d.links entry.1, ∀ g ∈ d.links entry.1, P f g := by
  constructor
  · exact fun h entry _ f hf g hg => h entry.1 f g (mem_links.mp hf) (mem_links.mp hg)
  · intro h typeName f g hf hg
    have hentry : (typeName, f.owner) ∈ d.registry.entries := by
      obtain ⟨before, after, hentries, -⟩ := List.lookup_eq_some_iff.mp hf.owner
      exact hentries ▸ List.mem_append_cons_self
    exact h _ hentry f (mem_links.mpr hf) g (mem_links.mpr hg)

theorem keptApart_iff :
    d.KeptApart f g ↔ Text.lowerKey f.field.name ≠ Text.lowerKey g.field.name ∧
      ((d.entered? f.field.type).isSome = true →
        ¬ Text.lowerKey f.field.name <+: Text.lowerKey g.field.name) := by
  simp only [Option.isSome_iff_exists, entered?_eq_some, forall_exists_index]
  exact ⟨fun h => ⟨h.distinct, h.unextended⟩, fun h => ⟨h.1, h.2⟩⟩

instance (d : Discovery) (f g : Link) : Decidable (d.KeptApart f g) :=
  decidable_of_iff' _ keptApart_iff

instance (d : Discovery) : Decidable d.NamesApart := decidable_of_iff' _ forall_declares_iff

instance (d : Discovery) : Decidable d.FieldsDistinct := decidable_of_iff' _ forall_declares_iff

theorem lowerKey_chainName_nil : Text.lowerKey (chainName []) = [] := rfl

theorem lowerKey_chainName_cons (link : Link) (rest : List Link) :
    Text.lowerKey (chainName (link :: rest)) =
      Text.lowerKey link.field.name ++ Text.lowerKey (chainName rest) := by
  rw [← Text.lowerKey_append]
  congr 1
  simp [chainName, String.join_cons]

/-- Behind a field that is not walked a chain ends, so that its name is the whole of the rest. -/
theorem Fork.begins (h : d.Fork f g a b)
    (hname : Text.lowerKey (chainName a) = Text.lowerKey (chainName b)) :
    Text.lowerKey f.field.name = Text.lowerKey g.field.name ∨
      (∃ name, d.Enters f.field.type name) ∧
        Text.lowerKey f.field.name <+: Text.lowerKey g.field.name ∨
      (∃ name, d.Enters g.field.type name) ∧
        Text.lowerKey g.field.name <+: Text.lowerKey f.field.name := by
  induction h with
  | @here _ a b _ _ _ leftOn rightOn =>
    rw [lowerKey_chainName_cons, lowerKey_chainName_cons] at hname
    rcases List.append_eq_append_iff.mp hname with ⟨more, hmore, hrest⟩ | ⟨more, hmore, hrest⟩
    · by_cases ha : a = []
      · rw [ha, lowerKey_chainName_nil, eq_comm, List.append_eq_nil_iff] at hrest
        exact .inl (by rw [hmore, hrest.1, List.append_nil])
      · exact .inr (.inl ⟨leftOn ha, hmore ▸ List.prefix_append _ _⟩)
    · by_cases hb : b = []
      · rw [hb, lowerKey_chainName_nil, eq_comm, List.append_eq_nil_iff] at hrest
        exact .inl (by rw [hmore, hrest.1, List.append_nil])
      · exact .inr (.inr ⟨rightOn hb, hmore ▸ List.prefix_append _ _⟩)
  | later link _ ih =>
    rw [lowerKey_chainName_cons, lowerKey_chainName_cons] at hname
    exact ih (List.append_cancel_left hname)

theorem Fork.fields (h : d.Fork f g a b) : ∃ typeName, d.Declares typeName f ∧
    d.Declares typeName g ∧ f.position ≠ g.position := by
  induction h with
  | here left right apart => exact ⟨_, left, right, apart⟩
  | later _ _ ih => exact ih

theorem NamesApart.name_ne (h : d.NamesApart) (hfork : d.Fork f g a b) :
    Text.toLower (chainName a) ≠ Text.toLower (chainName b) := by
  intro hname
  obtain ⟨typeName, hf, hg, hapart⟩ := hfork.fields
  have hkey : Text.lowerKey (chainName a) = Text.lowerKey (chainName b) := by
    rw [Text.lowerKey, hname, Text.lowerKey]
  rcases hfork.begins hkey with hsame | ⟨⟨name, henters⟩, hbegins⟩ | ⟨⟨name, henters⟩, hbegins⟩
  · exact (h _ f g hf hg hapart).distinct hsame
  · exact (h _ f g hf hg hapart).unextended name henters hbegins
  · exact (h _ g f hg hf hapart.symm).unextended name henters hbegins

/-! ## Names of descriptors -/

/-- A chain that discovery finds. -/
structure InReach (d : Discovery) (typeName : String) (chain : List Link) : Prop where
  isChain : d.IsChain typeName chain
  length_le : chain.length ≤ d.config.maxRecursionLevel + 1

theorem inReach_iff : d.InReach typeName a ↔ a ∈ d.chains d.config.maxRecursionLevel typeName := by
  constructor
  · exact fun h => mem_chains_of_isChain h.isChain h.length_le
  · intro h
    obtain ⟨hchain, hlength⟩ := isChain_of_mem h
    exact ⟨hchain, hlength⟩

theorem names_eq (d : Discovery) (typeName : String) :
    (d.ofType typeName).descriptors.map (·.name) =
      (d.chains d.config.maxRecursionLevel typeName).map chainName := by
  have h := d.describes_ofType typeName
  generalize d.chains d.config.maxRecursionLevel typeName = chains,
    (d.ofType typeName).descriptors = descriptors at h
  induction h with
  | nil => rfl
  | cons hab _ ih => rw [List.map_cons, List.map_cons, hab.name, ih]

theorem chains_nodup (d : Discovery) (levels : Nat) (typeName : String) :
    (d.chains levels typeName).Nodup := by
  refine (d.chains_pairwise levels typeName).imp ?_
  rintro a _ hlt rfl
  exact lt_irrefl _ hlt

theorem nodup_names_iff :
    (d.ofType typeName).lowerNames.Nodup ↔
      ∀ a b, d.InReach typeName a → d.InReach typeName b → ∀ f g, d.Fork f g a b →
        Text.toLower (chainName a) ≠ Text.toLower (chainName b) := by
  have hnames : (d.ofType typeName).lowerNames =
      (d.chains d.config.maxRecursionLevel typeName).map (Text.toLower ∘ chainName) := by
    rw [← List.map_map, ← names_eq, List.map_map]
    rfl
  rw [hnames, List.nodup_map_iff_inj_on (d.chains_nodup _ _)]
  simp only [← inReach_iff]
  constructor
  · intro h a b ha hb f g hfork hname
    exact hfork.ne (h a ha b hb hname)
  · intro h a ha b hb hname
    by_contra hne
    obtain ⟨f, g, hfork⟩ := exists_fork ha.isChain hb.isChain hne
    exact h a b ha hb f g hfork hname

/-- The lower-cased names of leaves are distinct exactly if no two chains in reach that part at two
fields of one type spell the same, and so they are wherever the names of fields are kept apart. Then
each leaf is looked up, and is filtered on, by itself. -/
theorem names_distinct (d : Discovery) :
    (d.NamesApart → ∀ typeName, (d.ofType typeName).lowerNames.Nodup) ∧
    ∀ typeName, let l := d.ofType typeName
      (l.lowerNames.Nodup ↔
        ∀ a b, d.InReach typeName a → d.InReach typeName b → ∀ f g, d.Fork f g a b →
          Text.toLower (chainName a) ≠ Text.toLower (chainName b)) ∧
      (l.lowerNames.Nodup → ∀ a ∈ l.descriptors,
        (∀ word, Text.eqAsciiCase a.name word = true → l.findByGraphPath? word = some a) ∧
        ∀ word value, Text.toLower word = Text.toLower a.name →
          Compose.filter? l (ofList [(word, value)]) =
            Compose.filter? (.ofDescriptors [a]) (ofList [(word, value)])) := by
  refine ⟨fun h typeName => ?_, fun typeName => ⟨nodup_names_iff, fun hnodup a ha => ⟨?_, ?_⟩⟩⟩
  · exact nodup_names_iff.mpr fun a b _ _ f g hfork => h.name_ne hfork
  · obtain ⟨chain, -, hdescribes⟩ := exists_describes ha
    have hpath : a.graphPath? = some a.name := by rw [hdescribes.graphPath, hdescribes.name]
    exact fun word => Compose.findByGraphPath?_own hnodup ha hpath
  · exact fun word value => Compose.filter?_alone hnodup ha

/-! ### Nodes and hotels -/

theorem nodes_by_name :
    let d := nodes.withConfig twoLevelsAndLists
    let l := d.ofType "Node"
    d.NamesApart ∧ l.lowerNames.Nodup ∧
      ∃ a ∈ l.descriptors, l.findByGraphPath? "childrenparentID" = some a ∧
        Compose.filter? l (ofList [("CHILDRENPARENTID", .string "7")]) =
          Compose.filter? (.ofDescriptors [a]) (ofList [("CHILDRENPARENTID", .string "7")]) := by
  intro d l
  have happart : d.NamesApart := by decide +kernel
  have hnodup := (names_distinct d).1 happart "Node"
  obtain ⟨a, ha, hname⟩ : ∃ a ∈ l.descriptors, a.name = "ChildrenParentId" := by decide +kernel
  obtain ⟨hfind, hfilter⟩ := ((names_distinct d).2 "Node").2 hnodup a ha
  refine ⟨happart, hnodup, a, ha, hfind _ ?_, hfilter _ _ ?_⟩
  · rw [hname]
    decide +kernel
  · rw [hname]
    decide +kernel

/-- The number of a hotel's room and a hotel's room number run together alike. -/
def hotels : Discovery where
  registry :=
    ⟨[("Hotel", ⟨"Hotel", "Hotel", [⟨"Room", .object "Room", none⟩,
        ⟨"RoomNumber", .scalar .int, none⟩]⟩),
      ("Room", ⟨"Room", "Room", [⟨"Number", .scalar .int, none⟩]⟩)]⟩
  resolver := .identity
  config := .default

/-- A capital sigma is lowered to the final form behind another letter only. -/
def sigmas : Discovery where
  registry :=
    ⟨[("Word", ⟨"Word", "Word", [⟨"Α", .object "Ending", none⟩]⟩),
      ("Ending", ⟨"Ending", "Ending", [⟨"Σ", .scalar .string, none⟩,
        ⟨"ς", .scalar .string, none⟩]⟩)]⟩
  resolver := .identity
  config := .default

theorem room_numbers_clash :
    hotels.FieldsDistinct ∧ (hotels.ofType "Hotel").lowerNames = ["roomnumber", "roomnumber"] ∧
      ¬ (hotels.ofType "Hotel").lowerNames.Nodup ∧
      Compose.filter? (hotels.ofType "Hotel") (ofList [("RoomNumber", .number (.ofInt64 2))]) =
        .ok (some ⟨.and [.compare ⟨⟨["Room", "Number"]⟩, .eq, 0, true⟩,
            .compare ⟨⟨["RoomNumber"]⟩, .eq, 1, true⟩], [.integer 2, .integer 2]⟩) ∧
      sigmas.FieldsDistinct ∧ (sigmas.ofType "Word").lowerNames = ["ας", "ας"] := by
  have hnames : (hotels.ofType "Hotel").lowerNames = ["roomnumber", "roomnumber"] := by
    decide +kernel
  refine ⟨by decide +kernel, hnames, ?_, by cbv, by decide +kernel, by decide +kernel⟩
  rw [hnames]
  decide

end FieldQuery.Discovery
