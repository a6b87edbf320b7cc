import Mathlib
import FieldQuery.Proofs.Compose.Faults
import FieldQuery.Proofs.Compose.Words
import FieldQuery.Proofs.Text.LowerCase

/-!
# The grammar of an order

An order-by text names fields, each with a direction behind it or none. The texts that keep to this
are read, key by key, and for any other the leftmost word that breaks a rule is reported.
-/

namespace FieldQuery

/-! ## Named descriptors -/

/-- A filter whose graph path is the word, up to ASCII case. -/
def Descriptor.IsNamed (d : Descriptor) (word : String) : Prop :=
  ∃ graphPath, d.graphPath? = some graphPath ∧ Text.eqAsciiCase graphPath word = true

/-- The first filter of the list that the word names. -/
def ArgumentList.FirstNamed (l : ArgumentList) (word : String) (d : Descriptor) : Prop :=
  ∃ before after, l.descriptors = before ++ d :: after ∧ d.IsNamed word ∧
    ∀ other ∈ before, ¬ other.IsNamed word

namespace ArgumentList

variable {l : ArgumentList} {word : String} {d : Descriptor}

theorem isNamed_iff :
    d.IsNamed word ↔
      (d.graphPath?.any fun graphPath => Text.eqAsciiCase graphPath word) = true := by
  unfold Descriptor.IsNamed
  cases d.graphPath? <;> simp

theorem findByGraphPath?_eq (l : ArgumentList) (word : String) :
    l.findByGraphPath? word = l.descriptors.find? fun d =>
      d.graphPath?.any fun graphPath => Text.eqAsciiCase graphPath word := by
  unfold findByGraphPath?
  congr 1
  funext d
  cases d.graphPath? <;> rfl

theorem findByGraphPath?_eq_some : l.findByGraphPath? word = some d ↔ l.FirstNamed word d := by
  unfold FirstNamed
  rw [findByGraphPath?_eq, List.find?_eq_some_iff_append]
  simp only [isNamed_iff, Bool.not_eq_true, Bool.not_eq_true']
  constructor
  · rintro ⟨hd, before, after, hlist, hbefore⟩
    exact ⟨before, after, hlist, hd, hbefore⟩
  · rintro ⟨before, after, hlist, hd, hbefore⟩
    exact ⟨hd, before, after, hlist, hbefore⟩

theorem findByGraphPath?_eq_none :
    l.findByGraphPath? word = none ↔ ∀ d ∈ l.descriptors, ¬ d.IsNamed word := by
  rw [findByGraphPath?_eq]
  simp only [List.find?_eq_none, isNamed_iff]

end ArgumentList

namespace Compose

/-! ## Rules -/

/-- The word is `asc` or `desc` in any ASCII case. -/
def IsDirection (word : String) : Prop :=
  Text.eqAsciiCase word "asc" = true ∨ Text.eqAsciiCase word "desc" = true

/-- Some word stands right in front of this place, and it is a field. -/
def BehindField (ws : List String) (place : Nat) : Prop :=
  ∃ before field, place = before + 1 ∧ ws[before]? = some field ∧ ¬ IsDirection field

/-- The text names a field at least, a direction stands right behind a field only, and fields name
filters that reach a single value. -/
structure Grammatical (arguments : ArgumentList) (ws : List String) : Prop where
  ne_nil : ws ≠ []
  direction : ∀ place word, ws[place]? = some word → IsDirection word → BehindField ws place
  field : ∀ word ∈ ws, ¬ IsDirection word →
    ∃ d, arguments.FirstNamed word d ∧ d.path.hasList = false

/-- What is wrong with the word at a place. -/
inductive Offends (arguments : ArgumentList) (argument : String) (ws : List String) (place : Nat) :
    QueryError → Prop
  | dangling {word : String} (here : ws[place]? = some word) (direction : IsDirection word)
      (alone : ¬ BehindField ws place) :
      Offends arguments argument ws place (.danglingDirection argument word)
  | unknown {word : String} (here : ws[place]? = some word) (field : ¬ IsDirection word)
      (unnamed : ∀ d ∈ arguments.descriptors, ¬ d.IsNamed word) :
      Offends arguments argument ws place (.unknownOrderByField argument word)
  | collection {word : String} {d : Descriptor} (here : ws[place]? = some word)
      (field : ¬ IsDirection word) (named : arguments.FirstNamed word d)
      (list : d.path.hasList = true) :
      Offends arguments argument ws place (.collectionOrderByField argument word)

def LeftmostOffence (arguments : ArgumentList) (argument : String) (ws : List String)
    (e : QueryError) : Prop :=
  ∃ place, Offends arguments argument ws place e ∧
    ∀ earlier < place, ∀ other, ¬ Offends arguments argument ws earlier other

/-- The text that a value stands for; null stands for the empty one. -/
inductive IsOrderText : Literal → String → Prop
  | string (text : String) : IsOrderText (.string text) text
  | enumeration (name : String) : IsOrderText (.enumeration name) name
  | null : IsOrderText .null ""

/-- Each field with the word behind it. -/
def fieldsOf : List String → List (String × Option String)
  | [] => []
  | word :: rest => if isDirection word then fieldsOf rest else (word, rest.head?) :: fieldsOf rest

/-- The key of a field: the member behind it, descending if `desc` follows. -/
structure IsKey (arguments : ArgumentList) (field : String × Option String) (key : SortKey) :
    Prop where
  member : ∃ d, arguments.FirstNamed field.1 d ∧ key.member = .ofEntityPath d.path
  direction : key.direction = .descending ↔
    ∃ next, field.2 = some next ∧ Text.eqAsciiCase next "desc" = true

variable {arguments : ArgumentList} {argument word : String} {ws : List String}

theorem isDirection_iff : isDirection word = true ↔ IsDirection word := by
  unfold isDirection SortDirection.parse? IsDirection
  split
  · simp_all
  · split <;> simp_all

/-! ## Offences -/

/-- The word in front of a place; the first word has the given one in front of it, or none. -/
def wordBefore? (before : Option String) (ws : List String) : (place : Nat) → Option String
  | 0 => before
  | place + 1 => ws[place]?

/-- The fault of the word at a place. -/
def faultAt? (arguments : ArgumentList) (argument : String) (before : Option String)
    (ws : List String) (place : Nat) : Option QueryError :=
  ws[place]?.bind (wordFault? arguments argument (wordBefore? before ws place))

theorem faultAt?_succ (before : Option String) (word : String) (rest : List String) (place : Nat) :
    faultAt? arguments argument before (word :: rest) (place + 1) =
      faultAt? arguments argument (some word) rest place := by
  cases place <;> rfl

theorem head?_wordFaults (before : Option String) {e : QueryError} :
    (wordFaults arguments argument before ws).head? = some e ↔
      ∃ place, faultAt? arguments argument before ws place = some e ∧
        ∀ earlier < place, faultAt? arguments argument before ws earlier = none := by
  induction ws generalizing before with
  | nil =>
    have hnone (place : Nat) : faultAt? arguments argument before [] place = none := rfl
    simp [wordFaults, hnone]
  | cons word rest ih =>
    have hfirst : faultAt? arguments argument before (word :: rest) 0 =
        wordFault? arguments argument before word := rfl
    rw [wordFaults]
    -- A fault of the first word is the first of all; without one all places move up by one.
    cases hfault : wordFault? arguments argument before word with
    | some first =>
      rw [Option.toList_some, List.singleton_append, List.head?_cons]
      constructor
      · intro h
        exact ⟨0, by rw [hfirst, hfault, h], fun earlier h => absurd h (Nat.not_lt_zero _)⟩
      · rintro ⟨place, hplace, hearlier⟩
        cases place with
        | zero => rwa [hfirst, hfault] at hplace
        | succ place =>
          have hnone := hearlier 0 (Nat.succ_pos place)
          rw [hfirst, hfault] at hnone
          cases hnone
    | none =>
      rw [Option.toList_none, List.nil_append, ih]
      constructor
      · rintro ⟨place, hplace, hearlier⟩
        refine ⟨place + 1, by rwa [faultAt?_succ], ?_⟩
        intro earlier hlt
        cases earlier with
        | zero => rw [hfirst, hfault]
        | succ earlier =>
          rw [faultAt?_succ]
          exact hearlier earlier (Nat.lt_of_succ_lt_succ hlt)
      · rintro ⟨place, hplace, hearlier⟩
        cases place with
        | zero =>
          rw [hfirst, hfault] at hplace
          cases hplace
        | succ place =>
          rw [faultAt?_succ] at hplace
          refine ⟨place, hplace, fun earlier hlt => ?_⟩
          rw [← faultAt?_succ before]
          exact hearlier (earlier + 1) (Nat.succ_lt_succ hlt)

theorem behindField_iff {place : Nat} :
    BehindField ws place ↔ (wordBefore? none ws place).any (!isDirection ·) = true := by
  unfold BehindField
  cases place with
  | zero => simp [wordBefore?]
  | succ place =>
    rw [wordBefore?]
    cases hfield : ws[place]? <;> simp [← isDirection_iff, hfield]

theorem offends_iff {place : Nat} {e : QueryError} :
    Offends arguments argument ws place e ↔
      faultAt? arguments argument none ws place = some e := by
  rw [faultAt?, Option.bind_eq_some_iff]
  constructor
  · intro h
    cases h with
    | dangling here direction alone =>
      refine ⟨_, here, ?_⟩
      rw [wordFault?, if_pos (isDirection_iff.mpr direction), if_neg (behindField_iff.not.mp alone)]
    | unknown here field unnamed =>
      refine ⟨_, here, ?_⟩
      rw [wordFault?, if_neg (isDirection_iff.not.mpr field),
        ArgumentList.findByGraphPath?_eq_none.mpr unnamed]
    | collection here field named list =>
      refine ⟨_, here, ?_⟩
      rw [wordFault?, if_neg (isDirection_iff.not.mpr field),
        ArgumentList.findByGraphPath?_eq_some.mpr named]
      exact if_pos list
  · rintro ⟨word, here, hfault⟩
    unfold wordFault? at hfault
    split at hfault
    case isTrue hdirection =>
      split at hfault
      case isTrue => cases hfault
      case isFalse halone =>
        obtain rfl := Option.some.inj hfault
        exact .dangling here (isDirection_iff.mp hdirection) (behindField_iff.not.mpr halone)
    case isFalse hdirection =>
      have hfield := isDirection_iff.not.mp hdirection
      split at hfault
      case h_1 hnone =>
        obtain rfl := Option.some.inj hfault
        exact .unknown here hfield (ArgumentList.findByGraphPath?_eq_none.mp hnone)
      case h_2 d hd =>
        split at hfault
        case isTrue hlist =>
          obtain rfl := Option.some.inj hfault
          exact .collection here hfield (ArgumentList.findByGraphPath?_eq_some.mp hd) hlist
        case isFalse => cases hfault

theorem wordFaults_eq_nil (before : Option String) :
    wordFaults arguments argument before ws = [] ↔
      ∀ place, faultAt? arguments argument before ws place = none := by
  induction ws generalizing before with
  | nil => simp [wordFaults, faultAt?]
  | cons word rest ih =>
    rw [wordFaults, List.append_eq_nil_iff, Option.toList_eq_nil_iff, ih]
    constructor
    · rintro ⟨hfirst, hrest⟩ place
      cases place with
      | zero => exact hfirst
      | succ place => rw [faultAt?_succ, hrest]
    · intro h
      refine ⟨h 0, fun place => ?_⟩
      rw [← faultAt?_succ before, h]

theorem grammatical_iff (argument : String) :
    Grammatical arguments ws ↔
      ws ≠ [] ∧ ∀ place e, ¬ Offends arguments argument ws place e := by
  constructor
  · intro h
    refine ⟨h.ne_nil, fun place e hoffends => ?_⟩
    cases hoffends with
    | dangling here direction alone => exact alone (h.direction _ _ here direction)
    | unknown here field unnamed =>
      obtain ⟨d, ⟨before, after, hlist, hnamed, -⟩, -⟩ :=
        h.field _ (List.mem_of_getElem? here) field
      exact unnamed d (hlist ▸ List.mem_append_cons_self) hnamed
    | collection here field named list =>
      obtain ⟨d, hd, hsingle⟩ := h.field _ (List.mem_of_getElem? here) field
      have hsame := ArgumentList.findByGraphPath?_eq_some.mpr hd
      rw [ArgumentList.findByGraphPath?_eq_some.mpr named] at hsame
      rw [Option.some.inj hsame, hsingle] at list
      cases list
  · rintro ⟨hne, hoffends⟩
    refine ⟨hne, ?_, ?_⟩
    · intro place word here hdirection
      by_contra halone
      exact hoffends place _ (.dangling here hdirection halone)
    · intro word hword hfield
      obtain ⟨place, here⟩ := List.getElem?_of_mem hword
      cases hd : arguments.findByGraphPath? word with
      | none =>
        have hunnamed := ArgumentList.findByGraphPath?_eq_none.mp hd
        exact absurd (.unknown here hfield hunnamed) (hoffends place _)
      | some d =>
        have hnamed := ArgumentList.findByGraphPath?_eq_some.mp hd
        refine ⟨d, hnamed, ?_⟩
        rw [Bool.eq_false_iff]
        exact fun hlist => hoffends place _ (.collection here hfield hnamed hlist)

/-! ## Keys -/

theorem sortMember_ok {member : MemberPath}
    (h : sortMember arguments argument word = .ok member) :
    ∃ d, arguments.FirstNamed word d ∧ member = .ofEntityPath d.path := by
  unfold sortMember at h
  split at h
  case h_1 => cases h
  case h_2 d hd =>
    split at h
    · cases h
    · exact ⟨d, ArgumentList.findByGraphPath?_eq_some.mp hd, (Except.ok.inj h).symm⟩

theorem not_desc_of_asc (h : Text.eqAsciiCase word "asc" = true) :
    Text.eqAsciiCase word "desc" = false := by
  rw [Text.eqAsciiCase_congr_left h]
  decide

theorem parse?_descending {direction : SortDirection}
    (h : SortDirection.parse? word = some direction) :
    direction = .descending ↔ Text.eqAsciiCase word "desc" = true := by
  unfold SortDirection.parse? at h
  split at h
  case isTrue hasc =>
    obtain rfl := Option.some.inj h
    simp [not_desc_of_asc hasc]
  case isFalse =>
    split at h
    case isTrue hdesc =>
      obtain rfl := Option.some.inj h
      simp [hdesc]
    case isFalse => cases h

theorem parse?_none (h : SortDirection.parse? word = none) :
    Text.eqAsciiCase word "desc" = false := by
  unfold SortDirection.parse? at h
  split at h
  · cases h
  · split at h
    · cases h
    · simp_all

/-- A direction is read with the field in front of it, so no key gets the direction of another. -/
theorem isKey_of_sortKeys {keys : List SortKey} (h : sortKeys arguments argument ws = .ok keys) :
    List.Forall₂ (IsKey arguments) (fieldsOf ws) keys := by
  induction ws using sortKeys.induct generalizing keys with
  | case1 =>
    obtain rfl := Except.ok.inj h
    exact .nil
  | case2 word rest hword =>
    rw [sortKeys, if_pos hword] at h
    cases h
  | case3 word rest hword ih =>
    have hfield : isDirection word = false := by simpa [isDirection] using hword
    rw [sortKeys, if_neg hword] at h
    obtain ⟨member, hmember, h⟩ := bind_eq_ok.mp h
    obtain ⟨d, hd, rfl⟩ := sortMember_ok hmember
    rw [fieldsOf, if_neg (by simp [hfield])]
    cases rest with
    | nil =>
      obtain rfl := Except.ok.inj h
      exact .cons ⟨⟨d, hd, rfl⟩, by simp⟩ .nil
    | cons next others =>
      cases hnext : SortDirection.parse? next with
      | some direction =>
        have hdirection : isDirection next = true := by rw [isDirection, hnext, Option.isSome_some]
        simp only [hnext] at h
        obtain ⟨keys, hkeys, h⟩ := bind_eq_ok.mp h
        obtain rfl := Except.ok.inj h
        rw [fieldsOf, if_pos hdirection]
        refine .cons ⟨⟨d, hd, rfl⟩, ?_⟩ (ih.1 hkeys)
        simpa using parse?_descending hnext
      | none =>
        simp only [hnext] at h
        obtain ⟨keys, hkeys, h⟩ := bind_eq_ok.mp h
        obtain rfl := Except.ok.inj h
        refine .cons ⟨⟨d, hd, rfl⟩, ?_⟩ (ih.2 hkeys)
        simp [parse?_none hnext]

/-! ## Whole requests -/

variable {request : RequestArguments} {d : Descriptor} {value : Literal} {text : String}

theorem orderText_ok (h : IsOrderText value text) : orderText argument value = .ok text := by
  cases h <;> rfl

theorem orderText_error (h : ∀ text, ¬ IsOrderText value text) :
    orderText argument value = .error (.invalidOrderBy argument) := by
  cases value with
  | string text => exact absurd (.string text) (h text)
  | enumeration name => exact absurd (.enumeration name) (h name)
  | null => exact absurd .null (h "")
  | boolean | number | binary | list | object => rfl

theorem textFaults_eq_nil :
    textFaults arguments argument text = [] ↔ Grammatical arguments (words text) := by
  rw [textFaults, grammatical_iff argument]
  split
  case isTrue hnil => simp [hnil]
  case isFalse hwords =>
    simp only [wordFaults_eq_nil, offends_iff, Option.eq_none_iff_forall_ne_some]
    simp [hwords]

theorem head?_textFaults {e : QueryError} :
    (textFaults arguments argument text).head? = some e ↔
      words text = [] ∧ e = .emptyOrderBy argument ∨
        LeftmostOffence arguments argument (words text) e := by
  unfold textFaults LeftmostOffence
  simp only [offends_iff]
  split
  case isTrue hnil =>
    rw [hnil]
    simp [faultAt?, eq_comm]
  case isFalse hwords =>
    rw [head?_wordFaults]
    simp [hwords, Option.eq_none_iff_forall_ne_some]

/-- The order of a text: its words are read as keys, or the first that may not stand where it does
is reported. -/
theorem orderBy_of_text (hd : arguments.firstOf? .orderBy = some d)
    (hvalue : request.get? d.name = some value) (htext : IsOrderText value text) :
    FailsFirst (orderBy arguments request) (textFaults arguments d.name text) ∧
      ∀ keys, orderBy arguments request = .ok keys →
        List.Forall₂ (IsKey arguments) (fieldsOf (words text)) keys := by
  constructor
  · have hfaults : orderFaults arguments request = textFaults arguments d.name text := by
      simp only [orderFaults, hd, hvalue]
      cases htext <;> rfl
    rw [← hfaults]
    exact orderBy_failsFirst arguments request
  · intro keys hkeys
    simp only [orderBy, hd, hvalue, orderText_ok htext, bind, Except.bind] at hkeys
    split at hkeys
    case h_1 => cases hkeys
    case h_2 => exact isKey_of_sortKeys hkeys

/-- A text in the grammar gives a key for each of its fields, and of any other text the leftmost
word out of place is reported. Nothing else can be asked for, and nothing need be. -/
theorem orderBy_reads_grammar (arguments : ArgumentList) (request : RequestArguments) :
    (∀ text : String, ∃! ws, IsWords text.toList ws) ∧
    (arguments.firstOf? .orderBy = none → orderBy arguments request = .ok []) ∧
    ∀ d, arguments.firstOf? .orderBy = some d →
      (request.get? d.name = none → orderBy arguments request = .ok []) ∧
      ∀ value, request.get? d.name = some value →
        ((∀ text, ¬ IsOrderText value text) →
          orderBy arguments request = .error (.invalidOrderBy d.name)) ∧
        ∀ text ws, IsOrderText value text → IsWords text.toList ws →
          ((∃ keys, orderBy arguments request = .ok keys) ↔ Grammatical arguments ws) ∧
          (∀ keys, orderBy arguments request = .ok keys →
            List.Forall₂ (IsKey arguments) (fieldsOf ws) keys) ∧
          ∀ e, orderBy arguments request = .error e ↔
            ws = [] ∧ e = .emptyOrderBy d.name ∨ LeftmostOffence arguments d.name ws e := by
  refine ⟨?_, ?_, ?_⟩
  · intro text
    exact ⟨words text, isWords_iff.mpr rfl, fun ws h => (isWords_iff.mp h).symm⟩
  · intro hd
    rw [orderBy, hd]
  · intro d hd
    constructor
    · intro habsent
      simp only [orderBy, hd, habsent]
    · intro value hvalue
      constructor
      · intro hother
        simp only [orderBy, hd, hvalue, orderText_error hother]
        rfl
      · intro text ws htext hws
        obtain rfl := isWords_iff.mp hws
        obtain ⟨hfirst, hkeys⟩ := orderBy_of_text hd hvalue htext
        refine ⟨?_, hkeys, fun e => (hfirst e).trans head?_textFaults⟩
        rw [hfirst.exists_ok_iff, textFaults_eq_nil]

/-! ### Two orders of stays -/

def latestFirst : RequestArguments := ⟨[("orderby", .string "Day DESC, day")]⟩

def guestsFirst : RequestArguments := ⟨[("orderby", .enumeration "day asc, guest desc")]⟩

theorem stays_in_order_unless_by_guest :
    orderBy pagedStays latestFirst =
        .ok [⟨⟨["Checkin", "Date"]⟩, .descending⟩, ⟨⟨["Checkin", "Date"]⟩, .ascending⟩] ∧
      Grammatical pagedStays ["Day", "DESC", "day"] ∧
      List.Forall₂ (IsKey pagedStays) [("Day", some "DESC"), ("day", none)]
        [⟨⟨["Checkin", "Date"]⟩, .descending⟩, ⟨⟨["Checkin", "Date"]⟩, .ascending⟩] ∧
      orderBy pagedStays guestsFirst = .error (.collectionOrderByField "OrderBy" "guest") ∧
      LeftmostOffence pagedStays "OrderBy" ["day", "asc", "guest", "desc"]
        (.collectionOrderByField "OrderBy" "guest") := by
  have hlatest : orderBy pagedStays latestFirst =
      .ok [⟨⟨["Checkin", "Date"]⟩, .descending⟩, ⟨⟨["Checkin", "Date"]⟩, .ascending⟩] := by
    decide +kernel
  have hguests : orderBy pagedStays guestsFirst =
      .error (.collectionOrderByField "OrderBy" "guest") := by
    decide +kernel
  have hlatestWords : IsWords "Day DESC, day".toList ["Day", "DESC", "day"] :=
    isWords_iff.mpr (by decide +kernel)
  have hguestsWords : IsWords "day asc, guest desc".toList ["day", "asc", "guest", "desc"] :=
    isWords_iff.mpr (by decide +kernel)
  have hd : pagedStays.firstOf? .orderBy = some (.orderBy "OrderBy") := by decide +kernel
  obtain ⟨hgrammar, hkeys, -⟩ := ((orderBy_reads_grammar pagedStays latestFirst).2.2 _ hd).2 _ rfl
    |>.2 _ _ (.string _) hlatestWords
  obtain ⟨-, -, hoffence⟩ := ((orderBy_reads_grammar pagedStays guestsFirst).2.2 _ hd).2 _ rfl
    |>.2 _ _ (.enumeration _) hguestsWords
  refine ⟨hlatest, hgrammar.mp ⟨_, hlatest⟩, hkeys _ hlatest, hguests, ?_⟩
  rcases (hoffence _).mp hguests with ⟨hempty, -⟩ | hleftmost
  · cases hempty
  · exact hleftmost

end Compose

end FieldQuery
