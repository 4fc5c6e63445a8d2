import ScreenBridge.Json.Limits
import ScreenBridge.Schema.Field
import ScreenBridge.Wire.Failure

/-!
# Envelopes

Every message that comes in is an object with a type, and maybe a time stamp, a session and data.
The type is any text, so that messages of unknown types can be told from faulty ones. A frame is
checked in four steps: its size, its syntax, its nesting and its fields.
-/

namespace ScreenBridge.Wire

open Schema Schema.Checked

/-- A message that came in. -/
structure Envelope where
  type : String
  timestamp : Option String
  sessionId : Option String
  data : Option (Keyed Json)
  deriving DecidableEq, Repr, Inhabited

def Envelope.ofJson : Json → Checked Envelope :=
  record "Envelope" fun members =>
    Envelope.mk <$> required members ["type"] nonEmptyString
      <*> optional members ["timestamp"] none (nullable string)
      <*> optional members ["sessionId", "session_id"] none (nullable string)
      <*> optional members ["data"] none (nullable object)

/-- The data of a message, an empty object if it brings none. -/
def Envelope.payload (e : Envelope) : Json :=
  .obj (e.data.getD [])

/-- Why a frame gives no envelope: it is refused with a failure, or reading broke off. -/
inductive FrameError where
  | refused (failure : Failure)
  | brokeOff (cause : Json.Breakdown)
  deriving DecidableEq, Repr

/-- The envelope that a frame holds. -/
def parseEnvelope (maxSize maxDepth : Int) (frame : List UInt8) : Except FrameError Envelope :=
  match Json.checkSize "Message" maxSize frame.length with
  | .error limit => .error (.refused (.overLimit limit))
  | .ok _ =>
    match Json.readObject frame with
    | .error (.refused cause) => .error (.refused (.notJson cause))
    | .error (.brokeOff cause) => .error (.brokeOff cause)
    | .ok members =>
      match Json.checkDepth maxDepth 0 (.obj members) with
      | .error limit => .error (.refused (.overLimit limit))
      | .ok _ =>
        match Envelope.ofJson (.obj members) with
        | .valid e => .ok e
        | .invalid issues => .error (.refused (.badEnvelope issues))

end ScreenBridge.Wire
