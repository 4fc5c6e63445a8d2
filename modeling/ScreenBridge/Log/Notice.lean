import ScreenBridge.Json.Basic

/-!
# What is logged

Every event that the bridge reports is a notice. Its record has a level, a name and keys; keys
that are bound for the message in hand are added, and a notice's own key wins over a bound one.
-/

namespace ScreenBridge.Log

/-- How much an event matters. -/
inductive Level where
  | debug
  | info
  | warning
  | error
  | critical
  deriving DecidableEq, Repr, Inhabited

namespace Level

def word : Level → String
  | debug => "debug"
  | info => "info"
  | warning => "warning"
  | error => "error"
  | critical => "critical"

/-- The number of a level; a larger one matters more. -/
def number : Level → Int
  | debug => 10
  | info => 20
  | warning => 30
  | error => 40
  | critical => 50

/-- The level that a word names. -/
def ofWord? (w : String) : Option Level :=
  [debug, info, warning, error, critical].find? fun l => l.word = w

end Level

/-- Keys and values that come with events. -/
abbrev Keys := Keyed Json

/-- An event of the bridge. -/
inductive Notice where
  | bridgeReady (port : Int) (outputDir : String) (codegen : Bool)
  | bridgeShuttingDown (sessions : Nat)
  | sessionCloseFailed (session error : String)
  | sessionOpened (session : String) (sessions : Nat)
  | sessionClosed (session : String) (sessions : Nat)
  | sendFailed (session error : String)
  | transportCloseFailed (session error : String)
  | messageForClosedSession (session : String)
  | parseFailed (session error : String)
  | messageReceived
  | unhandledMessageType
  | handlerFailed (code error : String)
  | handlerCrashed (error : String)
  | appConfigUpdated (title : String) (delivered : Nat)
  | translationCrashed (screenId error : String)
  | unmappedWidget (type : String)
  | uiTranslated (screenId route : String) (delivered : Nat) (unmapped : List String)
  | generateStart (screenId component : String)
  | screenWritten (path : String)
  | stylesheetWritten (path : String)
  | manifestSeeded (path : String)
  | routingUpdated (route component : String)
  | generateComplete (screenId output : String)
  | generationFailed (screenId error : String)
  | sessionDropped (session : String)
  | websocketDisconnected (session : String)
  | websocketError (session error : String)
  deriving DecidableEq, Repr

/-- An event as it is logged. -/
structure Record where
  level : Level
  event : String
  keys : Keys
  deriving DecidableEq, Repr

def textKey (key value : String) : String × Json :=
  (key, .str value)

def countKey (key : String) (n : Nat) : String × Json :=
  (key, .int n)

/-- The record of a notice by itself. -/
def Notice.record : Notice → Record
  | bridgeReady port outputDir codegen =>
    ⟨.info, "bridge_ready",
      [("port", .int port), textKey "output_dir" outputDir, ("codegen", .bool codegen)]⟩
  | bridgeShuttingDown sessions =>
    ⟨.info, "bridge_shutting_down", [countKey "sessions" sessions]⟩
  | sessionCloseFailed session error =>
    ⟨.warning, "session_close_failed", [textKey "session_id" session, textKey "error" error]⟩
  | sessionOpened session sessions =>
    ⟨.info, "session_opened", [textKey "session_id" session, countKey "sessions" sessions]⟩
  | sessionClosed session sessions =>
    ⟨.info, "session_closed", [textKey "session_id" session, countKey "sessions" sessions]⟩
  | sendFailed session error =>
    ⟨.warning, "send_failed", [textKey "session_id" session, textKey "error" error]⟩
  | transportCloseFailed session error =>
    ⟨.debug, "transport_close_failed", [textKey "session_id" session, textKey "error" error]⟩
  | messageForClosedSession session =>
    ⟨.debug, "message_for_closed_session", [textKey "session_id" session]⟩
  | parseFailed session error =>
    ⟨.warning, "parse_failed", [textKey "session_id" session, textKey "error" error]⟩
  | messageReceived => ⟨.debug, "message_received", []⟩
  | unhandledMessageType => ⟨.debug, "unhandled_message_type", []⟩
  | handlerFailed code error =>
    ⟨.warning, "handler_failed", [textKey "code" code, textKey "error" error]⟩
  | handlerCrashed error => ⟨.error, "handler_crashed", [textKey "error" error]⟩
  | appConfigUpdated title delivered =>
    ⟨.info, "app_config_updated", [textKey "title" title, countKey "delivered" delivered]⟩
  | translationCrashed screenId error =>
    ⟨.error, "translation_crashed", [textKey "screen_id" screenId, textKey "error" error]⟩
  | unmappedWidget type => ⟨.warning, "unmapped_widget", [textKey "widget_type" type]⟩
  | uiTranslated screenId route delivered unmapped =>
    ⟨.info, "ui_translated",
      [textKey "screen_id" screenId, textKey "route" route, countKey "delivered" delivered,
        ("unmapped", .arr (unmapped.map .str))]⟩
  | generateStart screenId component =>
    ⟨.info, "generate_start", [textKey "screen_id" screenId, textKey "component" component]⟩
  | screenWritten path => ⟨.debug, "screen_written", [textKey "path" path]⟩
  | stylesheetWritten path => ⟨.debug, "stylesheet_written", [textKey "path" path]⟩
  | manifestSeeded path => ⟨.info, "manifest_seeded", [textKey "path" path]⟩
  | routingUpdated route component =>
    ⟨.info, "routing_updated", [textKey "route" route, textKey "component" component]⟩
  | generateComplete screenId output =>
    ⟨.info, "generate_complete", [textKey "screen_id" screenId, textKey "output" output]⟩
  | generationFailed screenId error =>
    ⟨.error, "generation_failed", [textKey "screen_id" screenId, textKey "error" error]⟩
  | sessionDropped session => ⟨.info, "session_dropped", [textKey "session_id" session]⟩
  | websocketDisconnected session =>
    ⟨.info, "websocket_disconnected", [textKey "session_id" session]⟩
  | websocketError session error =>
    ⟨.error, "websocket_error", [textKey "session_id" session, textKey "error" error]⟩

/-- The record of a notice with the bound keys. -/
def Notice.recordWith (bound : Keys) (n : Notice) : Record :=
  let r := n.record
  { r with keys := bound.update r.keys }

end ScreenBridge.Log
