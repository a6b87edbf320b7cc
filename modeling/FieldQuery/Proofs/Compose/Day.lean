import Mathlib
import FieldQuery.Proofs.Calendar.IsoForm
import FieldQuery.Proofs.Compose.Alone
import FieldQuery.Proofs.Compose.Filter

/-!
# Asking for a day

A date asks for the times of its day. Every time but those of the last day is on one date's day, and
a request for the last day is refused.
-/

namespace FieldQuery

/-- The value is a text for a time on the day, in any form and offset. -/
def Json.FallsOn (d : Date) (v : Json) : Prop :=
  ∃ text t, v = .string text ∧ DateTime.read? text = some t ∧ t.date = d

/-! ## The test of a leaf on its own -/

namespace Leaf

theorem eval_toExpr_nil {params : List Parameter} {leaf : Leaf} (h : leaf.Bound params)
    (isRequired : Bool) (v : Json) :
    (leaf.toExpr [] isRequired).eval params v = .ok (leaf.test params v) := by
  rw [eval_toExpr h]
  rfl

theorem toExpr_inj {leaf other : Leaf} {segments : List Segment} {isRequired : Bool}
    (h : leaf.toExpr segments isRequired = other.toExpr segments isRequired) : leaf = other := by
  cases leaf <;> cases other <;> simp_all [toExpr]

/-- The path of a test says nothing about which test it is. -/
theorem along_inj {leaf other : Leaf} {isRequired : Bool} {seen segments : List Segment}
    (h : leaf.along isRequired seen segments = other.along isRequired seen segments) :
    leaf = other := by
  induction segments generalizing seen with
  | nil => exact toExpr_inj h
  | cons s rest ih =>
    rw [along, along] at h
    split at h
    · exact ih (Expr.any.inj h).2.2
    · exact ih h

end Leaf

/-! ## The test for a day -/

def Date.text (d : Date) : String := String.ofList d.iso

theorem Date.read?_text (d : Date) : DateTime.read? d.text = some ⟨d, .midnight⟩ := by
  apply DateTime.read?_of_isoDate
  rw [text, String.toList_ofList]
  exact Calendar.isoDate_iso d

namespace FilterArgument

variable {a : FilterArgument} {d e : Date}

theorem leaf_date (hdate : a.type.isDate = true) (d : Date) (first : Nat) :
    a.leaf (.string d.text) first =
      match d.next? with
      | some e =>
        .ok (.between first (first + 1), [.dateTime ⟨d, .midnight⟩, .dateTime ⟨e, .midnight⟩])
      | none => .error (.unsupportedValue a.graphPath "date out of range") := by
  simp only [leaf, day?, hdate, if_true, Date.read?_text, DateTime.nextDay?_midnight]
  cases d.next? <;> rfl

theorem passes_date (hdate : a.type.isDate = true) (hnext : d.next? = some e) (v : Json) :
    a.Passes (.string d.text) v ↔ v.FallsOn d := by
  have hstart : a.dayStart? (.string d.text) = some ⟨d, .midnight⟩ := by
    rw [dayStart?, if_pos hdate, Date.read?_text]
  have hstop : (⟨d, .midnight⟩ : DateTime).nextDay? = some ⟨e, .midnight⟩ := by
    rw [DateTime.nextDay?_midnight, hnext, Option.map_some]
  simp only [Passes, hstart, Json.FallsOn, DateTime.date_eq_iff_between hnext, hstop,
    Option.some.injEq]
  constructor
  · rintro ⟨text, t, _, rfl, hread, rfl, hbetween⟩
    exact ⟨text, t, rfl, hread, hbetween⟩
  · rintro ⟨text, t, rfl, hread, hbetween⟩
    exact ⟨text, t, _, rfl, hread, rfl, hbetween⟩

theorem test_date (hdate : a.type.isDate = true) (hnext : d.next? = some e) :
    TestFor [.dateTime ⟨d, .midnight⟩, .dateTime ⟨e, .midnight⟩] a (.string d.text)
      (.between 0 1) := by
  have hleaf := leaf_date hdate d ([] : List Parameter).length
  rw [hnext] at hleaf
  exact leaf_spec rfl hleaf []

end FilterArgument

/-! ## Requests for a day -/

namespace Compose

variable {l : ArgumentList} {a : FilterArgument} {description : Option String} {word : String}
  {d e : Date}

def askFor (word : String) (d : Date) : RequestArguments := .ofList [(word, .string d.text)]

/-- All that is planned is a filter, and its test for the argument holds of the value. -/
def Selects (l : ArgumentList) (r : RequestArguments) (a : FilterArgument) (v : Json) : Prop :=
  ∃ (f : Filter) (leaf : Leaf), plan l r = .ok ⟨some f, [], none⟩ ∧
    f.expr = leaf.along a.isRequired [] a.path.segments ∧
    (leaf.toExpr [] a.isRequired).eval f.params v = .ok true

/-- The filter for the times from one midnight to another. -/
def dayFilter (a : FilterArgument) (d e : Date) : Filter where
  expr := (Leaf.between 0 1).along a.isRequired [] a.path.segments
  params := [.dateTime ⟨d, .midnight⟩, .dateTime ⟨e, .midnight⟩]

theorem filter?_single {r : RequestArguments} {value : Literal}
    (h : r.supplied? a.graphPath = some value) :
    filter? (.ofDescriptors [⟨.filter a, description⟩]) r =
      (a.leaf value 0).map fun (leaf, params) =>
        some ⟨leaf.along a.isRequired [] a.path.segments, params⟩ := by
  have hfilters : (ArgumentList.ofDescriptors [⟨.filter a, description⟩]).filters = [a] := rfl
  rw [filter?, hfilters, fragments, h]
  simp only [FilterArgument.fragment, fragments]
  cases a.leaf value 0 with
  | error => rfl
  | ok result => simp [bind, Except.bind, pure, Except.pure, Except.map, Expr.conjunction]

theorem plan_askFor (h : l.NamesOnly word ⟨.filter a, description⟩) (hdate : a.type.isDate = true)
    (d : Date) :
    plan l (askFor word d) =
      match d.next? with
      | some e => .ok ⟨some (dayFilter a d e), [], none⟩
      | none => .error (.unsupportedValue a.graphPath "date out of range") := by
  have hsupplied : (askFor word d).supplied? a.graphPath = some (.string d.text) := by
    have hget : (askFor word d).get? a.graphPath = some (.string d.text) := by
      rw [askFor, get?_single]
      exact if_pos h.1.symm
    exact RequestArguments.supplied?_of_get? hget rfl
  rw [askFor, plan_of_namesOnly h rfl, ← askFor, filter?_single hsupplied,
    FilterArgument.leaf_date hdate]
  cases d.next? <;> rfl

theorem selects_iff (h : l.NamesOnly word ⟨.filter a, description⟩) (hdate : a.type.isDate = true)
    (hnext : d.next? = some e) (v : Json) : Selects l (askFor word d) a v ↔ v.FallsOn d := by
  have hplan := plan_askFor h hdate d
  have htest := FilterArgument.test_date hdate hnext
  rw [hnext] at hplan
  rw [← FilterArgument.passes_date hdate hnext, ← htest.passes, Selects]
  constructor
  · rintro ⟨f, leaf, hf, hexpr, hpass⟩
    cases hplan.symm.trans hf
    obtain rfl := Leaf.along_inj hexpr
    have heval := Leaf.eval_toExpr_nil htest.bound a.isRequired v
    exact Except.ok.inj (heval.symm.trans hpass)
  · intro hpass
    refine ⟨dayFilter a d e, .between 0 1, hplan, rfl, ?_⟩
    rw [← hpass]
    exact Leaf.eval_toExpr_nil htest.bound a.isRequired v

theorem not_selects_last (h : l.NamesOnly word ⟨.filter a, description⟩)
    (hdate : a.type.isDate = true) (v : Json) : ¬ Selects l (askFor word .last) a v := by
  rintro ⟨f, leaf, hplan, -⟩
  cases (plan_askFor h hdate .last).symm.trans hplan

theorem dayFilter_eval (hdate : a.type.isDate = true) (hnext : d.next? = some e) {row : Json}
    {b : Bool} (h : (dayFilter a d e).eval row = .ok b) :
    b = true ↔ ∃ v, Reaches a.path.segments row v ∧ v.FallsOn d := by
  have htest := FilterArgument.test_date hdate hnext
  have hnull : (Leaf.between 0 1).test (dayFilter a d e).params .null = false := by
    rw [Bool.eq_false_iff, ne_eq, dayFilter, htest.passes]
    exact FilterArgument.not_passes_null _ _
  rw [Leaf.eval_along_ok htest.bound hnull a.isRequired h]
  simp only [htest.passes, FilterArgument.passes_date hdate hnext]

/-- A date that is the only value asked for is planned as a filter on its day: the test at the leaf
holds of the texts for the times of that day, a leap second included, and the filter of the rows
with such a leaf. The last day has no day after it, and is refused. Every other time is selected by
one date and no more. -/
theorem date_selects_one_day (h : l.NamesOnly word ⟨.filter a, description⟩)
    (hdate : a.type.isDate = true) :
    (∀ d, d ≠ .last → ∃ f, plan l (askFor word d) = .ok ⟨some f, [], none⟩ ∧
      (∀ v, Selects l (askFor word d) a v ↔ v.FallsOn d) ∧
      ∀ row b, f.eval row = .ok b →
        (b = true ↔ ∃ v, Reaches a.path.segments row v ∧ v.FallsOn d)) ∧
    plan l (askFor word .last) = .error (.unsupportedValue a.graphPath "date out of range") ∧
    ∀ text t, DateTime.read? text = some t → t.date ≠ .last →
      ∃! d, Selects l (askFor word d) a (.string text) := by
  have hnext : ∀ d : Date, d ≠ .last → ∃ e, d.next? = some e := by
    intro d hd
    rw [← Option.ne_none_iff_exists']
    exact fun hnone => hd (Date.next?_eq_none_iff.mp hnone)
  refine ⟨?_, plan_askFor h hdate .last, ?_⟩
  · intro d hd
    obtain ⟨e, he⟩ := hnext d hd
    have hplan := plan_askFor h hdate d
    rw [he] at hplan
    exact ⟨dayFilter a d e, hplan, selects_iff h hdate he, fun row b => dayFilter_eval hdate he⟩
  · intro text t hread hlast
    obtain ⟨e, he⟩ := hnext t.date hlast
    refine ⟨t.date, (selects_iff h hdate he _).mpr ⟨text, t, rfl, hread, rfl⟩, ?_⟩
    intro d hselects
    have hd : d ≠ .last := by
      rintro rfl
      exact not_selects_last h hdate _ hselects
    obtain ⟨e, he⟩ := hnext d hd
    obtain ⟨_, u, htext, hu, rfl⟩ := (selects_iff h hdate he _).mp hselects
    cases htext
    rw [Option.some.inj (hread.symm.trans hu)]

/-! ### The last day of a February -/

def leapDay : Date := (Date.of? 2020 2 29).get (by decide)

/-- Half an hour before the day ends. -/
def lateEvening : TimeOfDay := (TimeOfDay.of? 23 30 0 0).get (by decide)

def leapSecond : TimeOfDay := (TimeOfDay.of? 23 59 60 500000000).get (by decide)

theorem leapDay_selected :
    stayArguments.NamesOnly "DAY" ⟨.filter checkinDay, none⟩ ∧ checkinDay.type.isDate = true ∧
      leapDay ≠ .last ∧
      DateTime.read? "2020-03-01T00:30:00+01:00" = some ⟨leapDay, lateEvening⟩ ∧
      Selects stayArguments (askFor "DAY" leapDay) checkinDay
        (.string "2020-03-01T00:30:00+01:00") ∧
      DateTime.read? "2020-02-29 23:59:60.5" = some ⟨leapDay, leapSecond⟩ ∧
      ∃! d, Selects stayArguments (askFor "DAY" d) checkinDay
        (.string "2020-02-29 23:59:60.5") := by
  have hnames : stayArguments.NamesOnly "DAY" ⟨.filter checkinDay, none⟩ :=
    ⟨by cbv, [⟨.filter guestName, none⟩], [], rfl, by decide +kernel⟩
  have hday : leapDay ≠ .last := by decide
  have habroad : DateTime.read? "2020-03-01T00:30:00+01:00" = some ⟨leapDay, lateEvening⟩ := by
    cbv
  have hsecond : DateTime.read? "2020-02-29 23:59:60.5" = some ⟨leapDay, leapSecond⟩ := by cbv
  obtain ⟨hplanned, -, hunique⟩ := date_selects_one_day hnames rfl
  obtain ⟨f, -, hselects, -⟩ := hplanned leapDay hday
  have hevening := (hselects _).mpr ⟨_, _, rfl, habroad, rfl⟩
  exact ⟨hnames, rfl, hday, habroad, hevening, hsecond, hunique _ _ hsecond hday⟩

end Compose

end FieldQuery
