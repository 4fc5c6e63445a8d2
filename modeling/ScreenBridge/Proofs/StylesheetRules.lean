import ScreenBridge.Proofs.KeyOrder
import ScreenBridge.Source.Stylesheet

/-!
# The rules of a stylesheet

The rules are gathered while a tree is gone through, in keyed lists inside a
keyed list. Widgets of different types can share a class there, as `TextField`
and `text-field` do, and keys of different styles a property. What comes of it
can be said without the gathering: `said` is all that the widgets of a class
say, one widget after the other, and the rule of the class is what stands first
in it under each property.

`RulesOf` says this of the rules for any row of widgets. One widget keeps it,
and the walk through a tree takes the row of its widgets in pre-order
(`walk_eq_foldl`).
-/

namespace ScreenBridge.Source

open Ui (Node)
open Keyed (FirstOf)

/-! ## What is said of a class -/

/-- A style as declarations, a key by a key. -/
def declared (style : Keyed Json) : Declarations :=
  style.map fun kv => (kebabCase kv.1, cssValue kv.2)

/-- All declarations for a class, in the order of the widgets that have it and of their keys. -/
def said (nodes : List Node) (selector : String) : Declarations :=
  (nodes.filter fun n => cssClass n.type = selector).flatMap fun n => declared (n.style.getD [])

theorem said_concat (nodes : List Node) (n : Node) (selector : String) :
    said (nodes ++ [n]) selector =
      if cssClass n.type = selector then said nodes selector ++ declared (n.style.getD [])
      else said nodes selector := by
  rw [said, List.filter_append, List.flatMap_append]
  split
  · next h =>
      rw [List.filter_cons_of_pos (by simpa using h), List.filter_nil, List.flatMap_singleton, said]
  · next h =>
      rw [List.filter_cons_of_neg (by simpa using h), List.filter_nil, List.flatMap_nil,
        List.append_nil, said]

theorem firstOf_addStyle {row declarations : Declarations} (h : FirstOf row declarations)
    (style : Keyed Json) : FirstOf (row ++ declared style) (addStyle declarations style) := by
  have hfold : addStyle declarations style =
      (declared style).foldl (fun ds kv => Keyed.setNew ds kv.1 kv.2) declarations := by
    rw [declared, List.foldl_map, addStyle]
  rw [hfold]
  exact h.append (declared style)

/-! ## The walk through a tree -/

mutual

/-- The walk adds the widgets of a tree in pre-order. -/
theorem walk_eq_foldl (rules : Keyed Declarations) : ∀ n : Node,
    walk rules n = n.preorder.foldl addWidget rules
  | ⟨id, type, props, style, children, textId, text⟩ => by
      rw [walk, Node.preorder, List.foldl_cons, walkChildren_eq_foldl]

theorem walkChildren_eq_foldl (rules : Keyed Declarations) : ∀ children : Option (List Node),
    walkChildren rules children = (Node.preorderOfChildren children).foldl addWidget rules
  | none => rfl
  | some nodes => walkNodes_eq_foldl rules nodes

theorem walkNodes_eq_foldl (rules : Keyed Declarations) : ∀ nodes : List Node,
    walkNodes rules nodes = (Node.preorderOfNodes nodes).foldl addWidget rules
  | [] => rfl
  | n :: rest => by
      rw [walkNodes, Node.preorderOfNodes, List.foldl_append, walk_eq_foldl rules n,
        walkNodes_eq_foldl _ rest]

end

/-! ## Rules and widgets -/

/-- The rules for a row of widgets. -/
structure RulesOf (nodes : List Node) (rules : Keyed Declarations) : Prop where
  /-- There is one rule for each class, where the class comes first. -/
  selectors : rules.keys = (nodes.map fun n => cssClass n.type).eraseDups
  /-- The first word on each property counts. -/
  declarations : ∀ selector, FirstOf (said nodes selector) ((rules.get? selector).getD [])

namespace RulesOf

variable {nodes : List Node} {rules : Keyed Declarations}

theorem nil : RulesOf [] [] :=
  ⟨rfl, fun _ => FirstOf.nil⟩

theorem addWidget (h : RulesOf nodes rules) (n : Node) :
    RulesOf (nodes ++ [n]) (addWidget rules n) where
  selectors := by
    unfold Source.addWidget
    extract_lets selector
    rw [Keyed.keys_set, h.selectors, List.map_append, List.map_singleton, eraseDups_concat]
    simp only [List.mem_eraseDups, selector]
  declarations other := by
    unfold Source.addWidget
    extract_lets selector
    rw [said_concat, Keyed.get?_set]
    by_cases hother : selector = other
    · rw [if_pos hother, if_pos hother, ← hother]
      exact firstOf_addStyle (h.declarations selector) (n.style.getD [])
    · rw [if_neg hother, if_neg hother]
      exact h.declarations other

theorem nodup (h : RulesOf nodes rules) : rules.keys.Nodup := by
  rw [h.selectors]
  exact nodup_eraseDups _

end RulesOf

end ScreenBridge.Source
