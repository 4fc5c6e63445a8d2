import ScreenBridge.Ui.Node

/-!
# Screens

A document describes one screen: its identifier and route, its widget tree, its state and the
events and assets that belong to it. A document without a time stamp takes the current time.
-/

namespace ScreenBridge.Ui

open Schema Schema.Checked

/-- An event of a widget and the action that it sets off. -/
structure EventBinding where
  componentId : String
  event : String
  action : String
  parameters : Option (Keyed Json)
  deriving Repr, DecidableEq, Inhabited

/-- An asset that a screen uses. -/
structure AssetReference where
  id : String
  type : String
  url : String
  metadata : Option (Keyed Json)
  deriving Repr, DecidableEq, Inhabited

/-- One screen. -/
structure Document where
  screenId : String
  route : String
  timestamp : String
  language : String
  tree : Node
  state : Keyed Json
  events : List EventBinding
  assets : List AssetReference
  deriving Repr, Inhabited

def EventBinding.ofJson : Json → Checked EventBinding :=
  record "EventBinding" fun members =>
    EventBinding.mk <$> required members ["componentId", "component_id"] string
      <*> required members ["event"] string
      <*> required members ["action"] string
      <*> optional members ["parameters"] none (nullable object)

def EventBinding.toJson (b : EventBinding) : Json :=
  .obj ([("componentId", .str b.componentId), ("event", .str b.event), ("action", .str b.action)] ++
    member? "parameters" (b.parameters.map .obj))

def AssetReference.ofJson : Json → Checked AssetReference :=
  record "AssetReference" fun members =>
    AssetReference.mk <$> required members ["id"] string
      <*> required members ["type"] string
      <*> required members ["url"] string
      <*> optional members ["metadata"] none (nullable object)

def AssetReference.toJson (a : AssetReference) : Json :=
  .obj ([("id", .str a.id), ("type", .str a.type), ("url", .str a.url)] ++
    member? "metadata" (a.metadata.map .obj))

/-- A document out of a value; `now` is its time stamp if it brings none. -/
def Document.ofJson (now : String) : Json → Checked Document :=
  record "UIASTDocument" fun members =>
    Document.mk <$> required members ["screenId", "screen_id"] nonEmptyString
      <*> required members ["route"] string
      <*> optional members ["timestamp"] now string
      <*> optional members ["language"] "en" string
      <*> required members ["tree"] Node.ofJson
      <*> optional members ["state"] [] object
      <*> optional members ["events"] [] (list EventBinding.ofJson)
      <*> optional members ["assets"] [] (list AssetReference.ofJson)

def Document.toJson (d : Document) : Json :=
  .obj [("screenId", .str d.screenId), ("route", .str d.route), ("timestamp", .str d.timestamp),
    ("language", .str d.language), ("tree", d.tree.toJson), ("state", .obj d.state),
    ("events", .arr (d.events.map EventBinding.toJson)),
    ("assets", .arr (d.assets.map AssetReference.toJson))]

end ScreenBridge.Ui
