import ScreenBridge.AppConfig
import ScreenBridge.Ui.Document
import ScreenBridge.Wire.Failure

/-!
# Messages to viewers

What the bridge sends: a type, a time stamp, the session that it belongs to if there is one, and
data if there are any.
-/

namespace ScreenBridge.Wire

/-- The types of messages. -/
inductive MessageType where
  | uiUpdate
  | stateDelta
  | event
  | appConfig
  | componentSpec
  | connectionAck
  | error
  | ping
  | pong
  deriving DecidableEq, Repr, Inhabited

namespace MessageType

def all : List MessageType :=
  [uiUpdate, stateDelta, event, appConfig, componentSpec, connectionAck, error, ping, pong]

def word : MessageType → String
  | uiUpdate => "UI_UPDATE"
  | stateDelta => "STATE_DELTA"
  | event => "EVENT"
  | appConfig => "APP_CONFIG"
  | componentSpec => "COMPONENT_SPEC"
  | connectionAck => "CONNECTION_ACK"
  | error => "ERROR"
  | ping => "PING"
  | pong => "PONG"

/-- The type that a word names. -/
def ofWord? (w : String) : Option MessageType :=
  all.find? fun t => t.word = w

end MessageType

/-- A message to a viewer. -/
structure Message where
  type : MessageType
  timestamp : String
  sessionId : Option String := none
  data : Option (Keyed Json) := none
  deriving DecidableEq, Repr, Inhabited

namespace Message

/-- The session as a member; an empty name is none. -/
def sessionMember : Option String → Keyed Json
  | some id => if id.isEmpty then [] else [("sessionId", .str id)]
  | none => []

def dataMember : Option (Keyed Json) → Keyed Json
  | some data => [("data", .obj data)]
  | none => []

def toJson (m : Message) : Json :=
  .obj ([("type", .str m.type.word), ("timestamp", .str m.timestamp)] ++
    sessionMember m.sessionId ++ dataMember m.data)

def text (m : Message) : String :=
  m.toJson.encode

/-- The greeting of a new session, with its name and what the bridge supports. -/
def connectionAck (now sessionId : String) (features : List String) : Message where
  type := .connectionAck
  timestamp := now
  data := some [("sessionId", .str sessionId), ("supportedFeatures", .arr (features.map .str))]

def pong (now : String) : Message where
  type := .pong
  timestamp := now

/-- An error, with details if there are any. -/
def error (now code message : String) (details : Option (Keyed Json)) : Message where
  type := .error
  timestamp := now
  data :=
    let details := details.getD []
    some ([("code", .str code), ("message", .str message)] ++
      if details.isEmpty then [] else [("details", .obj details)])

/-- The error that tells of a failure. -/
def ofFailure (now : String) (f : Failure) : Message :=
  error now f.code.word f.message f.details

/-- The members of an object value. -/
def membersOf (v : Json) : Keyed Json :=
  v.members?.getD []

/-- The configuration of the app, sent on behalf of a session. -/
def appConfig (now : String) (config : AppConfig) (sessionId : Option String) : Message where
  type := .appConfig
  timestamp := now
  sessionId := sessionId
  data := some (membersOf config.toJson)

/-- The components of a screen with the current configuration, sent on behalf of a session. -/
def componentSpec (now : String) (d : Ui.Document) (components : Json)
    (config : Option AppConfig) (sessionId : Option String) : Message where
  type := .componentSpec
  timestamp := now
  sessionId := sessionId
  data := some
    [("screenId", .str d.screenId), ("route", .str d.route), ("language", .str d.language),
      ("components", components), ("timestamp", .str now),
      ("appConfig", (config.map AppConfig.toJson).getD .null)]

end Message

end ScreenBridge.Wire
