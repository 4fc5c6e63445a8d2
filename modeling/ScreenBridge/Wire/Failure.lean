import ScreenBridge.Component.Check
import ScreenBridge.Files.Tree
import ScreenBridge.Json.Reader
import ScreenBridge.Schema.Checked

/-!
# Failures that a viewer is told of

A message that cannot be handled is answered with an error: a code for the kind of failure, a
text, and details where there are any. Each failure is a cause; its code, text and details follow
from it.
-/

namespace ScreenBridge.Wire

open Schema (Issue)

/-- The kinds of failure. -/
inductive ErrorCode where
  | parse
  | appConfig
  | translation
  | generation
  | internal
  deriving DecidableEq, Repr

def ErrorCode.word : ErrorCode → String
  | .parse => "PARSE_ERROR"
  | .appConfig => "APP_CONFIG_ERROR"
  | .translation => "TRANSLATION_ERROR"
  | .generation => "GENERATION_ERROR"
  | .internal => "INTERNAL_ERROR"

/-- Why a message was not handled. -/
inductive Failure where
  | overLimit (cause : Json.LimitError)
  | notJson (cause : Json.SyntaxError)
  | badEnvelope (issues : List Issue)
  | badConfig (issues : List Issue)
  | badDocument (issues : List Issue)
  | translatorFailed (reason : String)
  | badTranslation (cause : Component.CheckError)
  | outsideProject (screenId directory path : String)
  | notWritten (screenId : String) (errno : Files.Errno) (path : String)
  | crashed
  deriving DecidableEq, Repr

namespace Failure

def code : Failure → ErrorCode
  | overLimit _ | notJson _ | badEnvelope _ => .parse
  | badConfig _ => .appConfig
  | badDocument _ | translatorFailed _ | badTranslation _ => .translation
  | outsideProject .. | notWritten .. => .generation
  | crashed => .internal

def message : Failure → String
  | overLimit _ | notJson _ => "Invalid JSON message"
  | badEnvelope _ => "Invalid message envelope"
  | badConfig _ => "Failed to process app configuration"
  | badDocument _ | translatorFailed _ => "Failed to translate UI AST"
  | badTranslation _ => "Translated component tree is invalid"
  | outsideProject screenId directory _ =>
    "Screen id " ++ Json.literal screenId ++ " does not name a file inside " ++ directory
  | notWritten screenId errno path =>
    "Failed to write sources for screen " ++ screenId ++ ": " ++ Files.osMessage errno path
  | crashed => "Internal error"

def reasonDetails (reason : String) : Keyed Json :=
  [("reason", .str reason)]

def issueDetails (issues : List Issue) : Keyed Json :=
  [("errors", .arr (issues.map fun i => .str i.message))]

/-- A screen and a path as details. -/
def fileDetails (screenId path : String) : Keyed Json :=
  [("screenId", .str screenId), ("path", .str path)]

def details : Failure → Option (Keyed Json)
  | overLimit cause => some (reasonDetails cause.message)
  | notJson cause => some (reasonDetails cause.message)
  | badEnvelope issues | badConfig issues | badDocument issues => some (issueDetails issues)
  | translatorFailed reason => some (reasonDetails reason)
  | badTranslation cause => some (reasonDetails cause.message)
  | outsideProject screenId _ path | notWritten screenId _ path => some (fileDetails screenId path)
  | crashed => none

end Failure

/-- What a part of the bridge is not prepared for. -/
inductive Crash where
  | nullByte
  | notUtf8 (fault : Text.Utf8.Fault)
  deriving DecidableEq, Repr

def Crash.message : Crash → String
  | .nullByte => "embedded null byte"
  | .notUtf8 fault => fault.message

end ScreenBridge.Wire
