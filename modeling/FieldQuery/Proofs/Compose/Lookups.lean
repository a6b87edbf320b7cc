import Mathlib
import FieldQuery.Proofs.Compose.Independence
import FieldQuery.Proofs.Request.Collected

/-!
# A plan reads a request by lookup

Requests under whose names the same is found are planned alike. So neither the case of the supplied
names, nor the order of the pairs, nor the order in which their entries are held shows in a plan.
-/

namespace FieldQuery.Compose

open RequestArguments (ofList lastUnder?)

variable {arguments : ArgumentList} {r s : RequestArguments}

theorem fragments_eq_of_supplied {filters : List FilterArgument}
    (h : ∀ a ∈ filters, r.supplied? a.graphPath = s.supplied? a.graphPath) (first : Nat) :
    fragments r first filters = fragments s first filters := by
  induction filters generalizing first with
  | nil => rfl
  | cons a rest ih =>
    rw [List.forall_mem_cons] at h
    rw [fragments, fragments, h.1]
    simp only [ih h.2]

theorem filter?_eq_of_supplied
    (h : ∀ a ∈ arguments.filters, r.supplied? a.graphPath = s.supplied? a.graphPath) :
    filter? arguments r = filter? arguments s := by
  rw [filter?, filter?, fragments_eq_of_supplied h]

theorem paging?_eq_of_supplied (h : ∀ name, r.supplied? name = s.supplied? name) :
    paging? arguments r = paging? arguments s := by
  unfold paging?
  simp only [h]

theorem plan_eq_of_get? (h : ∀ name, r.get? name = s.get? name) :
    plan arguments r = plan arguments s := by
  have hsupplied : ∀ name, r.supplied? name = s.supplied? name :=
    fun name => RequestArguments.supplied?_congr (h name)
  rw [plan, plan, filter?_eq_of_supplied fun a _ => hsupplied a.graphPath,
    orderBy_eq_of_get? fun d _ => h d.name, paging?_eq_of_supplied hsupplied]

theorem plan_of_perm {held : List (String × Literal)} {pairs : List (String × Literal)}
    (h : held.Perm (ofList pairs).entries) :
    plan arguments ⟨held⟩ = plan arguments (ofList pairs) :=
  plan_eq_of_get? fun name => RequestArguments.lookup_eq_of_perm h
    (RequestArguments.ordered_ofList pairs).nodup_names (Text.toLower name)

/-- Pairs that end with the same value under every lower-cased name make the same request: under a
name in any case the last value is found in both, and both have one plan or fail alike, in whatever
order their entries are held. -/
theorem plan_of_last_values {pairs others : List (String × Literal)}
    (h : ∀ name, lastUnder? name pairs = lastUnder? name others) :
    ofList pairs = ofList others ∧
      (∀ name casing, Text.toLower name = Text.toLower casing →
        (ofList pairs).get? name = lastUnder? (Text.toLower name) pairs ∧
          (ofList pairs).get? name = (ofList others).get? casing ∧
          (ofList pairs).contains name = (ofList others).contains casing) ∧
      (ofList pairs).size = (ofList others).size ∧
      ∀ arguments held, held.Perm (ofList pairs).entries →
        plan arguments ⟨held⟩ = plan arguments (ofList others) := by
  have hsame : ofList pairs = ofList others := RequestArguments.ofList_eq_iff.mpr h
  refine ⟨hsame, ?_, by rw [hsame], ?_⟩
  · intro name casing hcasing
    have hget : (ofList pairs).get? name = (ofList others).get? casing := by
      rw [RequestArguments.get?_ofList, RequestArguments.get?_ofList, hcasing, h]
    refine ⟨RequestArguments.get?_ofList pairs name, hget, ?_⟩
    rw [RequestArguments.contains, RequestArguments.contains, hget]
  · intro arguments held hheld
    rw [← hsame]
    exact plan_of_perm hheld

/-! ### One request, written twice -/

/-- The guest's name comes twice, and a capital sigma ends a word that no argument is named. -/
def shoutedPairs : List (String × Literal) :=
  [("GUEST", .string "Bo"), ("ΟΔΟΣ", .null), ("ORDERBY", .string "day desc"),
    ("Guest", .string "Ann")]

def plainPairs : List (String × Literal) :=
  [("orderBy", .string "day desc"), ("guest", .string "Ann"), ("οδος", .null)]

theorem toLower_shouted :
    Text.toLower "GUEST" = "guest" ∧ Text.toLower "ΟΔΟΣ" = "οδος" ∧
      Text.toLower "ORDERBY" = "orderby" ∧ Text.toLower "Guest" = "guest" := by
  decide +kernel

theorem toLower_plain :
    Text.toLower "orderBy" = "orderby" ∧ Text.toLower "guest" = "guest" ∧
      Text.toLower "οδος" = "οδος" := by
  decide +kernel

theorem lastUnder?_shouted (name : String) :
    lastUnder? name shoutedPairs = lastUnder? name plainPairs := by
  simp only [lastUnder?, shoutedPairs, plainPairs, List.filter_cons, List.filter_nil,
    toLower_shouted, toLower_plain, decide_eq_true_eq]
  by_cases hguest : "guest" = name
  · simp [← hguest]
  · by_cases horder : "orderby" = name
    · simp [← horder]
    · simp only [hguest, horder, if_false]
      split <;> rfl

theorem ofList_plain :
    ofList plainPairs =
      ⟨[("guest", .string "Ann"), ("orderby", .string "day desc"), ("οδος", .null)]⟩ := by
  simp +decide [ofList, plainPairs, RequestArguments.insert, RequestArguments.empty,
    RequestArguments.insertEntry, toLower_plain]

/-- What both ask for: Ann's stays, the latest first. -/
def latestOfAnn : QueryPlan where
  filter := some
    ⟨.any ⟨["Rooms"]⟩ false (.any ⟨["Guests"]⟩ false (.compare ⟨⟨["Name"]⟩, .eq, 0, false⟩)),
      [.string "Ann"]⟩
  orderBy := [⟨⟨["Checkin", "Date"]⟩, .descending⟩]
  paging := none

theorem shouted_planned_alike :
    (∀ name, lastUnder? name shoutedPairs = lastUnder? name plainPairs) ∧
      (ofList shoutedPairs).get? "gUeSt" = some (.string "Ann") ∧
      (ofList shoutedPairs).size = 3 ∧
      plan pagedStays (ofList plainPairs) = .ok latestOfAnn ∧
      plan pagedStays ⟨(ofList shoutedPairs).entries.reverse⟩ = .ok latestOfAnn := by
  obtain ⟨-, hget, hsize, hplan⟩ := plan_of_last_values lastUnder?_shouted
  have hplain : plan pagedStays (ofList plainPairs) = .ok latestOfAnn := by
    rw [ofList_plain]
    exact plan_of_parts (by rfl) (by decide +kernel) (by rfl)
  refine ⟨lastUnder?_shouted, ?_, ?_, hplain, ?_⟩
  · rw [(hget "gUeSt" "guest" (by decide +kernel)).2.1, ofList_plain, RequestArguments.get?,
      toLower_plain.2.1]
    rfl
  · rw [hsize, ofList_plain]
    rfl
  · rw [hplan pagedStays _ (List.reverse_perm _), hplain]

end FieldQuery.Compose
