import Mathlib.Data.List.Basic
import ScreenBridge.Source.Markup

/-!
# The parts of an element

The markup of a widget is the line that opens its element, what stands inside,
and the line that closes it, or one line if nothing stands inside. What opens
an element is its tag and its attributes, and an attribute comes from the
widget alone (`attributes`). What stands inside is the markup of the children
or, without children, the text (`contents`).
-/

namespace ScreenBridge.Source

open Mapping (Registry Entry)
open Ui (Node)

variable (r : Registry) (depth : Nat) (n : Node)

/-- The attributes of the element of a widget, in order. -/
def attributes : List String :=
  idAttributes n.id ++ kindAttributes n.props ((r.resolve n.type true).map Entry.kind) ++
    styleAttributes n.style ++ [attributeText "className" (.str (cssClass n.type))]

/-- The element of a widget up to its closing bracket, in its line. -/
def opening : String :=
  indentation depth ++ openingTag r n.id n.type n.props n.style

/-- The line that closes the element of a widget. -/
def closing : String :=
  indentation depth ++ "</" ++ r.tagFor n.type ++ ">"

/-- What stands inside the element of a widget, in whole lines. -/
def contents : String :=
  if n.children.getD [] ≠ [] then
    String.join ((n.children.getD []).map fun child => markup r (depth + 1) child ++ "\n")
  else if n.text.getD "" ≠ "" then
    indentation (depth + 1) ++ "\x7b" ++ (Json.str (n.text.getD "")).encode ++ "\x7d\n"
  else ""

theorem toList_openingTag :
    (openingTag r n.id n.type n.props n.style).toList =
      '<' :: ((r.tagFor n.type).toList ++ (attributes r n).flatMap fun a => ' ' :: a.toList) := by
  have hspace (as : List String) : (String.join (as.map (" " ++ ·))).toList =
      as.flatMap fun a => ' ' :: a.toList := by
    rw [String.toList_join, List.flatMap_map]
    refine congrArg (as.flatMap ·) (funext fun a => ?_)
    rw [String.toList_append]
    rfl
  unfold openingTag
  simp only
  rw [String.toList_append, String.toList_append, hspace, List.append_assoc]
  rfl

theorem markupLines_eq (nodes : List Node) :
    markupLines r depth nodes = String.join (nodes.map fun n => markup r depth n ++ "\n") := by
  induction nodes with
  | nil => rw [markupLines, List.map_nil, String.join_nil]
  | cons n rest ih => rw [markupLines, ih, List.map_cons, String.join_cons]

theorem childMarkup_eq (children : Option (List Node)) :
    childMarkup r depth children =
      String.join ((children.getD []).map fun n => markup r depth n ++ "\n") := by
  cases children with
  | none => rw [childMarkup, Option.getD_none, List.map_nil, String.join_nil]
  | some nodes => rw [childMarkup, markupLines_eq, Option.getD_some]

theorem contents_of_children {n : Node} (h : n.children.getD [] ≠ []) :
    contents r depth n = childMarkup r (depth + 1) n.children := by
  rw [contents, if_pos h, childMarkup_eq]

theorem contents_of_text {n : Node} (h : n.children.getD [] = []) (htext : n.text.getD "" ≠ "") :
    contents r depth n =
      indentation (depth + 1) ++ "\x7b" ++ (Json.str (n.text.getD "")).encode ++ "\x7d\n" := by
  rw [contents, if_neg (not_not_intro h), if_pos htext]

theorem contents_of_nothing {n : Node} (h : n.children.getD [] = []) (htext : n.text.getD "" = "") :
    contents r depth n = "" := by
  rw [contents, if_neg (not_not_intro h), if_neg (not_not_intro htext)]

theorem childMarkup_eq_empty_iff (children : Option (List Node)) :
    childMarkup r depth children = "" ↔ children.getD [] = [] := by
  rw [childMarkup_eq]
  constructor
  · intro h
    by_contra hne
    obtain ⟨child, rest, hchildren⟩ := List.exists_cons_of_ne_nil hne
    have hempty := congrArg String.toList h
    rw [hchildren, List.map_cons, String.join_cons] at hempty
    simp at hempty
  · intro h
    rw [h, List.map_nil, String.join_nil]

theorem contents_eq_empty_iff :
    contents r depth n = "" ↔ n.children.getD [] = [] ∧ n.text.getD "" = "" := by
  by_cases hchildren : n.children.getD [] = []
  · by_cases htext : n.text.getD "" = ""
    · exact iff_of_true (contents_of_nothing r depth hchildren htext) ⟨hchildren, htext⟩
    · rw [contents_of_text r depth hchildren htext]
      simp [htext]
  · rw [contents_of_children r depth hchildren, childMarkup_eq_empty_iff]
    simp [hchildren]

/-- A widget with anything inside opens and closes on lines of their own. -/
theorem markup_eq : markup r depth n =
    if contents r depth n = "" then opening r depth n ++ " />"
    else opening r depth n ++ ">\n" ++ contents r depth n ++ closing r depth n := by
  obtain ⟨id, type, props, style, children, textId, text⟩ := n
  rw [markup]
  simp only [Bool.not_eq_true', String.isEmpty_eq_false_iff, contents_eq_empty_iff]
  by_cases hchildren : children.getD [] = []
  · rw [(childMarkup_eq_empty_iff r _ _).mpr hchildren, if_neg (not_not_intro rfl)]
    by_cases htext : text.getD "" = ""
    · rw [if_neg (not_not_intro htext), if_pos ⟨hchildren, htext⟩]
      rfl
    · rw [if_pos htext, if_neg fun h => htext h.2, contents_of_text r depth hchildren htext]
      simp only [opening, closing, String.append_assoc]
  · have hne := (childMarkup_eq_empty_iff r (depth + 1) children).not.mpr hchildren
    rw [if_pos hne, if_neg fun h => hchildren h.1, contents_of_children r depth hchildren]
    rfl

end ScreenBridge.Source
