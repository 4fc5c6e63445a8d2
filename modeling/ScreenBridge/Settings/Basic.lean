import ScreenBridge.Schema.Whole

/-!
# Settings

What can be set for a bridge: where it listens, what it tells its viewers, whether and where it
writes sources, how it logs, and what it accepts. Every setting has a default.
-/

namespace ScreenBridge

open Schema Schema.Checked

/-- The settings of a bridge. -/
structure Settings where
  host : String := "0.0.0.0"
  port : Int := 3001
  supportedFeatures : List String := ["ui-translation", "real-time-updates", "multi-language"]
  enableCodegen : Bool := true
  outputDir : String := "./generated_react_app"
  screenExtension : String := "tsx"
  liveUpdateUrl : String := "ws://localhost:3001"
  logLevel : String := "INFO"
  jsonLogs : Bool := false
  serviceName : String := "flutterexpo-bridge"
  maxMessageSize : Int := 1024 * 1024
  maxJsonDepth : Int := 200
  deriving DecidableEq, Repr, Inhabited

namespace Settings

/-- The settings when nothing is set. -/
def standard : Settings := {}

def portNumber (v : Json) : Checked Int :=
  (int v).andThen fun i => (greaterThan 0 i).andThen (lessThan 65536)

/-- Settings out of the values that are given. -/
def ofMembers (given : Keyed Json) : Checked Settings :=
  Settings.mk <$> optional given ["host"] standard.host string
    <*> optional given ["port"] standard.port portNumber
    <*> optional given ["supported_features"] standard.supportedFeatures (list string)
    <*> optional given ["enable_codegen"] standard.enableCodegen bool
    <*> optional given ["output_dir"] standard.outputDir string
    <*> optional given ["screen_extension"] standard.screenExtension string
    <*> optional given ["live_update_url"] standard.liveUpdateUrl string
    <*> optional given ["log_level"] standard.logLevel string
    <*> optional given ["json_logs"] standard.jsonLogs bool
    <*> optional given ["service_name"] standard.serviceName string
    <*> optional given ["max_message_size"] standard.maxMessageSize positiveInt
    <*> optional given ["max_json_depth"] standard.maxJsonDepth positiveInt

def names : List String :=
  ["host", "port", "supported_features", "enable_codegen", "output_dir", "screen_extension",
    "live_update_url", "log_level", "json_logs", "service_name", "max_message_size",
    "max_json_depth"]

def toJson (s : Settings) : Json :=
  .obj [("host", .str s.host), ("port", .int s.port),
    ("supported_features", .arr (s.supportedFeatures.map .str)),
    ("enable_codegen", .bool s.enableCodegen), ("output_dir", .str s.outputDir),
    ("screen_extension", .str s.screenExtension), ("live_update_url", .str s.liveUpdateUrl),
    ("log_level", .str s.logLevel), ("json_logs", .bool s.jsonLogs),
    ("service_name", .str s.serviceName), ("max_message_size", .int s.maxMessageSize),
    ("max_json_depth", .int s.maxJsonDepth)]

end Settings

end ScreenBridge
