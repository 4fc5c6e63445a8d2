import Mathlib.Data.List.Nodup
import ScreenBridge.Component.Translation
import ScreenBridge.Source.Stylesheet

/-!
# A translated tree, place by place

A place in a tree is the list of the indices that lead to it from the root.
The component tree of a document has the same places as its widget tree, and
what stands at a place depends on the widget there and the registry alone: that
is `Renders`, stated through the entries themselves and not through the way
they are looked up. Both facts are one induction on the place, since the
components of some widgets are found by mapping over them.

The list of types without an entry is the other half of a translation. It is
the pre-order of the tree with the covered types left out, so a type is listed
as often as it occurs.
-/

namespace ScreenBridge

open Mapping (Entry Registry)
open Ui (Node Document)

/-! ## Entries and look-up -/

namespace Mapping.Registry

variable {r : Registry} {type : String} {markup : Bool} {e : Entry}

theorem find?_eq_some_iff : r.find? type = some e ↔ e ∈ r.entries ∧ e.sourceType = type := by
  rw [find?]
  constructor
  · intro h
    exact ⟨List.mem_of_find?_eq_some h, by simpa using List.find?_some h⟩
  · rintro ⟨hmem, rfl⟩
    -- Another entry found first would be one more for the same type.
    cases hfound : r.entries.find? fun e' => e'.sourceType = e.sourceType with
    | none => simpa using List.find?_eq_none.mp hfound e hmem
    | some e' =>
        have htype : e'.sourceType = e.sourceType := by simpa using List.find?_some hfound
        exact congrArg some
          (List.inj_on_of_nodup_map r.distinct (List.mem_of_find?_eq_some hfound) hmem htype)

theorem resolve_eq_some_iff : r.resolve type markup = some e ↔
    e ∈ r.entries ∧ e.sourceType = type ∧ (e.runtime || markup) = true := by
  rw [resolve, Option.filter_eq_some_iff, find?_eq_some_iff, and_assoc]

/-- Some entry for a type is for runtime. -/
def Covers (r : Registry) (type : String) : Prop :=
  ∃ e ∈ r.entries, e.sourceType = type ∧ e.runtime = true

instance : Decidable (r.Covers type) :=
  inferInstanceAs (Decidable (∃ e ∈ r.entries, e.sourceType = type ∧ e.runtime = true))

theorem covers_iff_resolve : r.Covers type ↔ (r.resolve type false).isSome := by
  rw [Option.isSome_iff_exists]
  constructor
  · rintro ⟨e, hmem, htype, hruntime⟩
    exact ⟨e, resolve_eq_some_iff.mpr ⟨hmem, htype, by rw [hruntime]; rfl⟩⟩
  · rintro ⟨e, h⟩
    obtain ⟨hmem, htype, hruntime⟩ := resolve_eq_some_iff.mp h
    exact ⟨e, hmem, htype, by simpa using hruntime⟩

theorem resolve_eq_none_iff : r.resolve type false = none ↔ ¬ r.Covers type := by
  simp [covers_iff_resolve]

/-- Some entry for a type is for markup only. -/
def MarkupOnly (r : Registry) (type : String) : Prop :=
  ∃ e ∈ r.entries, e.sourceType = type ∧ e.runtime = false

instance : Decidable (r.MarkupOnly type) :=
  inferInstanceAs (Decidable (∃ e ∈ r.entries, e.sourceType = type ∧ e.runtime = false))

theorem resolve_of_not_markupOnly (h : ¬ r.MarkupOnly type) :
    r.resolve type false = r.resolve type true := by
  ext e
  rw [resolve_eq_some_iff, resolve_eq_some_iff, Bool.or_true, Bool.or_false]
  constructor
  · rintro ⟨he, htype, -⟩
    exact ⟨he, htype, rfl⟩
  · rintro ⟨he, htype, -⟩
    refine ⟨he, htype, ?_⟩
    by_contra hruntime
    exact h ⟨e, he, htype, Bool.not_eq_true _ ▸ hruntime⟩

end Mapping.Registry

/-! ## Places -/

/-- The widget at a place. -/
def Ui.Node.at? (n : Node) : List Nat → Option Node
  | [] => some n
  | i :: path => (n.children.getD [])[i]?.bind fun child => child.at? path

/-- The component at a place. -/
def Component.at? (c : Component) : List Nat → Option Component
  | [] => some c
  | i :: path => (c.children.getD [])[i]?.bind fun child => child.at? path

namespace Ui.Node

theorem preorder_eq (n : Node) :
    n.preorder = n :: (n.children.getD []).flatMap Node.preorder := by
  have hnodes (nodes : List Node) : Node.preorderOfNodes nodes = nodes.flatMap Node.preorder := by
    induction nodes with
    | nil => rw [Node.preorderOfNodes, List.flatMap_nil]
    | cons n rest ih => rw [Node.preorderOfNodes, ih, List.flatMap_cons]
  obtain ⟨id, type, props, style, children, textId, text⟩ := n
  cases children with
  | none => simp only [Node.preorder, Node.preorderOfChildren, Option.getD_none, List.flatMap_nil]
  | some nodes => simp only [Node.preorder, Node.preorderOfChildren, hnodes, Option.getD_some]

theorem mem_preorder_of_at? {n m : Node} {path : List Nat} (h : n.at? path = some m) :
    m ∈ n.preorder := by
  induction path generalizing n with
  | nil =>
      cases h
      rw [preorder_eq]
      exact List.mem_cons_self
  | cons i path ih =>
      obtain ⟨child, hchild, hat⟩ := Option.bind_eq_some_iff.mp h
      rw [preorder_eq]
      exact List.mem_cons_of_mem _
        (List.mem_flatMap.mpr ⟨child, List.mem_of_getElem? hchild, ih hat⟩)

end Ui.Node

/-! ## What stands at a place -/

/-- Props that are others with a value of their own under one key, whatever
was there. -/
structure Overrides (props : Keyed Json) (key : String) (v : Json) (result : Keyed Json) :
    Prop where
  here : result.get? key = some v
  elsewhere : ∀ other ≠ key, result.get? other = props.get? other
  keys : result.keys = if key ∈ props.keys then props.keys else props.keys ++ [key]

/-- The props of a widget with an entry: the translated ones, and on top of them
the text of a text and the opposite of the switch of a button. -/
structure RendersProps (e : Entry) (n : Node) (props : Keyed Json) : Prop where
  text : e.kind = .text → ∀ t, n.text = some t →
    Overrides (e.translateProps n.props) "children" (.str t) props
  button : e.kind = .button → ∀ enabled, n.props.get? "enabled" = some (.bool enabled) →
    Overrides (e.translateProps n.props) "disabled" (.bool !enabled) props
  others : (e.kind = .text → n.text = none) →
    (e.kind = .button → ∀ enabled, n.props.get? "enabled" ≠ some (.bool enabled)) →
    props = e.translateProps n.props

/-- What a widget becomes, apart from the widgets inside it. -/
structure Renders (r : Registry) (n : Node) (c : Component) : Prop where
  fallback : ¬ r.Covers n.type → c.type = "div" ∧
    c.props = [("className", .str ("unknown-" ++ Text.lower n.type))] ∧ c.style = none
  mapped : ∀ e ∈ r.entries, e.sourceType = n.type → e.runtime = true →
    c.type = e.targetTag ∧ c.style = e.translateStyle n.style ∧ RendersProps e n c.props
  children : c.children.map List.length = n.children.map List.length

theorem overrides_set (props : Keyed Json) (key : String) (v : Json) :
    Overrides props key v (props.set key v) where
  here := by rw [Keyed.get?_set, if_pos rfl]
  elsewhere other hne := by rw [Keyed.get?_set, if_neg (Ne.symm hne)]
  keys := Keyed.keys_set props key v

namespace Component

theorem rendersProps (e : Entry) (n : Node) :
    RendersProps e n (adjustProps e.kind n.props n.text (e.translateProps n.props)) where
  text hkind t htext := by
    rw [hkind, htext]
    exact overrides_set ..
  button hkind enabled henabled := by
    simp only [hkind, adjustProps, henabled]
    exact overrides_set ..
  others htext hbutton := by
    unfold adjustProps
    split
    · next hkind => rw [htext hkind]
    · next hkind =>
        split
        · next enabled henabled => exact absurd henabled (hbutton hkind enabled)
        · rfl
    · rfl

variable (r : Registry)

theorem ofNodes_eq_map (nodes : List Node) : ofNodes r nodes = nodes.map (ofNode r) := by
  induction nodes with
  | nil => rw [ofNodes, List.map_nil]
  | cons n rest ih => rw [ofNodes, ih, List.map_cons]

theorem ofChildren_eq_map (children : Option (List Node)) :
    ofChildren r children = children.map (List.map (ofNode r)) := by
  cases children with
  | none => rw [ofChildren, Option.map_none]
  | some nodes => rw [ofChildren, ofNodes_eq_map, Option.map_some]

/-- A widget becomes a component around the components of its children. -/
theorem ofNode_eq (n : Node) : ofNode r n =
    match r.resolve n.type false with
    | some e => ofEntry e n.props n.style n.text (n.children.map (List.map (ofNode r)))
    | none => placeholder n.type (n.children.map (List.map (ofNode r))) := by
  obtain ⟨id, type, props, style, children, textId, text⟩ := n
  cases hresolve : r.resolve type false with
  | none => simp only [ofNode, ofChildren_eq_map, hresolve]
  | some e => simp only [ofNode, ofChildren_eq_map, hresolve]

theorem children_ofNode (n : Node) :
    (ofNode r n).children = n.children.map (List.map (ofNode r)) := by
  rw [ofNode_eq]
  split <;> rfl

theorem renders_ofNode (n : Node) : Renders r n (ofNode r n) where
  fallback hnone := by
    rw [ofNode_eq, Registry.resolve_eq_none_iff.mpr hnone]
    exact ⟨rfl, rfl, rfl⟩
  mapped e hmem htype hruntime := by
    have hresolve : r.resolve n.type false = some e :=
      Registry.resolve_eq_some_iff.mpr ⟨hmem, htype, by rw [hruntime]; rfl⟩
    rw [ofNode_eq, hresolve]
    exact ⟨rfl, rfl, rendersProps e n⟩
  children := by
    rw [children_ofNode, Option.map_map]
    exact congrArg (Option.map · n.children) (funext fun _ => List.length_map _)

theorem at?_ofNode (n : Node) (path : List Nat) :
    (ofNode r n).at? path = (n.at? path).map (ofNode r) := by
  induction path generalizing n with
  | nil => rfl
  | cons i path ih =>
      rw [at?, Node.at?, children_ofNode]
      cases hchildren : n.children with
      | none => rfl
      | some nodes =>
          simp only [Option.map_some, Option.getD_some, List.getElem?_map]
          cases nodes[i]? with
          | none => rfl
          | some child => exact ih child

end Component

/-! ## The types without an entry -/

section
variable (r : Registry)

/-- The widgets among some that no entry covers. -/
def uncovered (nodes : List Node) : List String :=
  (nodes.filter fun n => ¬ r.Covers n.type).map Node.type

theorem uncovered_append (nodes nodes' : List Node) :
    uncovered r (nodes ++ nodes') = uncovered r nodes ++ uncovered r nodes' := by
  rw [uncovered, List.filter_append, List.map_append]
  rfl

mutual

theorem unmappedTypes_eq : ∀ n : Node, unmappedTypes r n = uncovered r n.preorder
  | ⟨id, type, props, style, children, textId, text⟩ => by
    have hhere : (if (r.resolve type false).isNone then [type] else []) =
        uncovered r [⟨id, type, props, style, children, textId, text⟩] := by
      have hiff : (r.resolve type false).isNone ↔ ¬ r.Covers type := by
        rw [Option.isNone_iff_eq_none, Registry.resolve_eq_none_iff]
      by_cases hcovers : r.Covers type <;> simp [uncovered, hiff, hcovers]
    rw [unmappedTypes, Node.preorder, hhere, unmappedInChildren_eq children, ← uncovered_append]
    rfl

theorem unmappedInChildren_eq : ∀ children : Option (List Node),
    unmappedInChildren r children = uncovered r (Node.preorderOfChildren children)
  | none => rfl
  | some nodes => by
    rw [unmappedInChildren, Node.preorderOfChildren, unmappedInNodes_eq nodes]

theorem unmappedInNodes_eq : ∀ nodes : List Node,
    unmappedInNodes r nodes = uncovered r (Node.preorderOfNodes nodes)
  | [] => rfl
  | n :: rest => by
    rw [unmappedInNodes, Node.preorderOfNodes, uncovered_append, unmappedTypes_eq n,
      unmappedInNodes_eq rest]

end

end

/-- A translation has the places of its document and at each of them what the
widget there becomes, and it lists the types that no entry covers in pre-order. -/
theorem Translation.renders_document (r : Registry) (d : Document) :
    (∀ path, Option.Rel (Renders r) (d.tree.at? path)
      ((Translation.ofDocument r d).component.at? path)) ∧
    (Translation.ofDocument r d).unmapped =
      (d.tree.preorder.filter fun n => ¬ r.Covers n.type).map Node.type := by
  refine ⟨fun path => ?_, unmappedTypes_eq r d.tree⟩
  have hat := Component.at?_ofNode r d.tree path
  rw [Translation.ofDocument, hat]
  cases d.tree.at? path with
  | none => exact .none
  | some n => exact .some (Component.renders_ofNode r n)

end ScreenBridge
