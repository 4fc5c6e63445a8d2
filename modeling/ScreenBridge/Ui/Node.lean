import ScreenBridge.Schema.Field

/-!
# Widget trees

A node describes one widget of a screen: its type, what it was given, how it looks, the widgets
inside it and its text. Nodes without children and nodes with an empty list of them are told
apart. Reading lists the issues of a node field by field and of its children in order; writing
leaves out what is not there.
-/

namespace ScreenBridge.Ui

open Schema Schema.Checked

/-- One widget of a screen and the widgets inside it. -/
structure Node where
  id : Option String
  type : String
  props : Keyed Json
  style : Option (Keyed Json)
  children : Option (List Node)
  textId : Option String
  text : Option String
  deriving Repr, Inhabited

namespace Node

/-! ## Reading -/

mutual

def ofJson : Json → Checked Node
  | .obj members =>
    Node.mk <$> optional members ["id"] none (nullable string)
      <*> required members ["type"] nonEmptyString
      <*> optional members ["props"] [] object
      <*> optional members ["style"] none (nullable object)
      <*> childrenOf members
      <*> optional members ["textId", "text_id"] none (nullable string)
      <*> optional members ["text"] none (nullable string)
  | _ => fail (.notRecord "UIASTNode")

/-- The children among the members of a node. -/
def childrenOf : List (String × Json) → Checked (Option (List Node))
  | [] => valid none
  | (key, v) :: rest =>
    if key = "children" then
      match v with
      | .null => valid none
      | .arr items => ((nodesFrom 0 items).map some).under (.key "children")
      | _ => (fail .notList).under (.key "children")
    else childrenOf rest

/-- The nodes of a list from an index on. -/
def nodesFrom (i : Nat) : List Json → Checked (List Node)
  | [] => valid []
  | x :: rest => List.cons <$> (ofJson x).under (.index i) <*> nodesFrom (i + 1) rest

end

/-! ## Writing -/

mutual

def toJson : Node → Json
  | ⟨id, type, props, style, children, textId, text⟩ =>
    .obj (member? "id" (id.map .str) ++ [("type", .str type), ("props", .obj props)] ++
      member? "style" (style.map .obj) ++ childrenToJson children ++
      member? "textId" (textId.map .str) ++ member? "text" (text.map .str))

def childrenToJson : Option (List Node) → Keyed Json
  | none => []
  | some nodes => [("children", .arr (nodesToJson nodes))]

def nodesToJson : List Node → List Json
  | [] => []
  | n :: rest => n.toJson :: nodesToJson rest

end

end Node

end ScreenBridge.Ui
