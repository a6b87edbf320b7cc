import Mathlib
import FieldQuery.Path.Member

/-!
# Dotted text of a path

What members a path leads through is settled by its dotted text: they are the parts between the
dots that are not empty, however the text is cut into segments.
-/

namespace FieldQuery

/-! ## Parts of a text -/

theorem splitOn_eq (separator : Char) (cs : List Char) :
    splitOn separator cs = cs.splitOn separator := by
  induction cs with
  | nil => rfl
  | cons c rest ih =>
    obtain ⟨part, parts, hparts⟩ := List.exists_cons_of_ne_nil (List.splitOn_ne_nil separator rest)
    simp only [splitOn, List.splitOn_cons_eq_if_modifyHead, ih, hparts, beq_iff_eq,
      List.modifyHead_cons]

theorem length_splitOn (separator : Char) (cs : List Char) :
    (splitOn separator cs).length = cs.count separator + 1 := by
  rw [splitOn_eq]
  induction cs with
  | nil => rfl
  | cons c rest ih =>
    rw [List.splitOn_cons_eq_if_modifyHead, List.count_cons]
    split
    · rw [List.length_cons, ih]
    · rw [List.length_modifyHead, ih, Nat.add_zero]

/-! ## Segments and their text -/

namespace Segment

/-- A dot between two texts keeps their members apart. -/
theorem members_append_dot (front back : String) :
    (ofPath (front ++ "." ++ back)).members =
      (ofPath front).members ++ (ofPath back).members := by
  have htext : (front ++ "." ++ back).toList = front.toList ++ '.' :: back.toList := by simp
  simp only [members, ofPath, htext, splitOn_eq, List.splitOn_append_cons_self,
    List.filter_append, List.map_append]

end Segment

namespace EntityPath

theorem map_path_parse (text : String) :
    (parse text).segments.map (·.path) = (splitOn '.' text.toList).map String.ofList := by
  simp [parse, Segment.ofPath]

theorem toString_parse (text : String) : (parse text).toString = text := by
  have hparts : ((splitOn '.' text.toList).map String.ofList).map String.toList =
      splitOn '.' text.toList := by
    simp [Function.comp_def]
  rw [toString, map_path_parse, ← String.toList_inj, String.toList_intercalate, hparts, splitOn_eq]
  exact List.intercalate_splitOn '.'

theorem length_parse (text : String) : (parse text).length = text.toList.count '.' + 1 := by
  rw [length, parse, List.length_map, length_splitOn]

end EntityPath

/-! ## Members by their text -/

namespace MemberPath

/-- A path leads through the members of a single segment that holds all of its text. -/
theorem members_ofEntityPath (p : EntityPath) :
    (ofEntityPath p).members = (Segment.ofPath p.toString).members := by
  obtain ⟨segments⟩ := p
  simp only [ofEntityPath, EntityPath.toString]
  -- The text of two segments or more has a dot behind the first of them.
  induction segments with
  | nil => rfl
  | cons s rest ih =>
    cases rest with
    | nil =>
      rw [ofSegments, List.flatMap_singleton, List.map_singleton, String.intercalate_singleton]
      rfl
    | cons next rest =>
      rw [List.map_cons, List.map_cons, String.intercalate_cons_cons, Segment.members_append_dot,
        ← List.map_cons, ← ih]
      rfl

theorem ofEntityPath_parse (p : EntityPath) :
    ofEntityPath (.parse p.toString) = ofEntityPath p := by
  have hmembers : (ofEntityPath (.parse p.toString)).members = (ofEntityPath p).members := by
    rw [members_ofEntityPath, members_ofEntityPath, EntityPath.toString_parse]
  exact congrArg mk hmembers

theorem members_eq_filter_parse (p : EntityPath) :
    (ofEntityPath p).members =
      ((EntityPath.parse p.toString).segments.map (·.path)).filter (· ≠ "") := by
  rw [members_ofEntityPath, EntityPath.map_path_parse, Segment.members, List.filter_map]
  simp [Segment.ofPath, Function.comp_def]

theorem members_append (lead rest : List Segment) :
    (ofSegments (lead ++ rest)).members =
      (ofSegments lead).members ++ (ofSegments rest).members :=
  List.flatMap_append

theorem members_take_drop (segments : List Segment) (cut : Nat) :
    (ofSegments (segments.take cut)).members ++ (ofSegments (segments.drop cut)).members =
      (ofSegments segments).members := by
  rw [← members_append, List.take_append_drop]

/-- The members of a path are the parts of its dotted text that are not empty, and the path that is
read from the text has the same. Any text is the text of the path read from it, with a segment
behind each dot and one in front. Members stay as they are where paths are joined or cut between
segments. -/
theorem members_settled_by_text :
    (∀ p : EntityPath,
      ofEntityPath p = ofEntityPath (.parse p.toString) ∧
      (ofEntityPath p).members =
        ((EntityPath.parse p.toString).segments.map (·.path)).filter (· ≠ "")) ∧
    (∀ text : String,
      (EntityPath.parse text).toString = text ∧
      (EntityPath.parse text).length = text.toList.count '.' + 1) ∧
    (∀ lead rest : List Segment,
      (ofSegments (lead ++ rest)).members =
        (ofSegments lead).members ++ (ofSegments rest).members) ∧
    ∀ (segments : List Segment) (cut : Nat),
      (ofSegments (segments.take cut)).members ++ (ofSegments (segments.drop cut)).members =
        (ofSegments segments).members := by
  refine ⟨fun p => ⟨(ofEntityPath_parse p).symm, members_eq_filter_parse p⟩, ?_, members_append,
    members_take_drop⟩
  intro text
  exact ⟨EntityPath.toString_parse text, EntityPath.length_parse text⟩

/-- Dots at the ends of names and names without a character add no member. -/
example :
    let p : EntityPath := ⟨[⟨"Rooms.", true, false⟩, .ofPath "", ⟨".Detail..Beds", false, true⟩]⟩
    p.toString = "Rooms....Detail..Beds" ∧ (EntityPath.parse p.toString).length = 7 ∧
      (ofEntityPath p).members = ["Rooms", "Detail", "Beds"] := by
  decide +kernel

end MemberPath

end FieldQuery
