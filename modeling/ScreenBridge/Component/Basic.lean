import ScreenBridge.Schema.Field

/-!
# Components

A component is an element that a viewer can show: a tag, its props, its style and the components
inside it. On the wire the style and the children are there only if the component has them.
-/

namespace ScreenBridge

open Schema Schema.Checked

/-- An element and the elements inside it. -/
structure Component where
  type : String
  props : Keyed Json
  style : Option (Keyed Json)
  children : Option (List Component)
  deriving Repr, Inhabited

namespace Component

mutual

def toJson : Component → Json
  | ⟨type, props, style, children⟩ =>
    .obj ([("type", .str type), ("props", .obj props)] ++ member? "style" (style.map .obj) ++
      childrenToJson children)

def childrenToJson : Option (List Component) → Keyed Json
  | none => []
  | some cs => [("children", .arr (listToJson cs))]

def listToJson : List Component → List Json
  | [] => []
  | c :: rest => c.toJson :: listToJson rest

end

mutual

def ofJson : Json → Checked Component
  | .obj members =>
    Component.mk <$> required members ["type"] string
      <*> optional members ["props"] [] object
      <*> optional members ["style"] none (nullable object)
      <*> childrenOf members
  | _ => fail (.notRecord "ComponentSpec")

/-- The children among the members of a component. -/
def childrenOf : List (String × Json) → Checked (Option (List Component))
  | [] => valid none
  | (key, v) :: rest =>
    if key = "children" then
      match v with
      | .null => valid none
      | .arr items => ((listFrom 0 items).map some).under (.key "children")
      | _ => (fail .notList).under (.key "children")
    else childrenOf rest

/-- The components of a list from an index on. -/
def listFrom (i : Nat) : List Json → Checked (List Component)
  | [] => valid []
  | x :: rest => List.cons <$> (ofJson x).under (.index i) <*> listFrom (i + 1) rest

end

end Component

end ScreenBridge
