import ScreenBridge.Component.Basic
import ScreenBridge.Mapping.Registry
import ScreenBridge.Text.Case
import ScreenBridge.Ui.Document

/-!
# Widgets as components

Each widget of a tree becomes one component in the same place. A widget without an entry becomes
a plain container whose class tells its type, and is listed as unmapped. Texts show the text of
their node, and the switch `enabled` of a button turns into its opposite, `disabled`.
-/

namespace ScreenBridge

open Mapping (Registry Entry)
open Ui (Node Document)

/-- A component tree, and the types of the widgets without an entry in the order met. -/
structure Translation where
  component : Component
  unmapped : List String
  deriving Repr, Inhabited

namespace Component

/-- The props that a kind of widget sets on top of the translated ones. -/
def adjustProps (kind : Mapping.WidgetKind) (props : Keyed Json) (text : Option String)
    (translated : Keyed Json) : Keyed Json :=
  match kind with
  | .text =>
    match text with
    | some t => translated.set "children" (.str t)
    | none => translated
  | .button =>
    match props.get? "enabled" with
    | some (.bool enabled) => translated.set "disabled" (.bool !enabled)
    | _ => translated
  | _ => translated

/-- The component of a widget with an entry, around the components of its children. -/
def ofEntry (e : Entry) (props : Keyed Json) (style : Option (Keyed Json))
    (text : Option String) (children : Option (List Component)) : Component where
  type := e.targetTag
  props := adjustProps e.kind props text (e.translateProps props)
  style := e.translateStyle style
  children := children

/-- The component of a widget without an entry. -/
def placeholder (type : String) (children : Option (List Component)) : Component where
  type := Mapping.fallbackTag
  props := [("className", .str ("unknown-" ++ Text.lower type))]
  style := none
  children := children

mutual

def ofNode (r : Registry) : Node → Component
  | ⟨_, type, props, style, children, _, text⟩ =>
    match r.resolve type false with
    | some e => ofEntry e props style text (ofChildren r children)
    | none => placeholder type (ofChildren r children)

/-- The components of the children, if there are any. -/
def ofChildren (r : Registry) : Option (List Node) → Option (List Component)
  | none => none
  | some nodes => some (ofNodes r nodes)

def ofNodes (r : Registry) : List Node → List Component
  | [] => []
  | n :: rest => ofNode r n :: ofNodes r rest

end

end Component

mutual

/-- The types without an entry in a tree, the widget itself before its children. -/
def unmappedTypes (r : Registry) : Node → List String
  | ⟨_, type, _, _, children, _, _⟩ =>
    (if (r.resolve type false).isNone then [type] else []) ++ unmappedInChildren r children

/-- The types without an entry among the children. -/
def unmappedInChildren (r : Registry) : Option (List Node) → List String
  | none => []
  | some nodes => unmappedInNodes r nodes

/-- The types without an entry among some widgets. -/
def unmappedInNodes (r : Registry) : List Node → List String
  | [] => []
  | n :: rest => unmappedTypes r n ++ unmappedInNodes r rest

end

/-- The component tree of a document, and what it has no entries for. -/
def Translation.ofDocument (r : Registry) (d : Document) : Translation :=
  ⟨Component.ofNode r d.tree, unmappedTypes r d.tree⟩

end ScreenBridge
