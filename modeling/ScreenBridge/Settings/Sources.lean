import ScreenBridge.Settings.Assignment
import ScreenBridge.Settings.Basic
import ScreenBridge.Settings.Notation
import ScreenBridge.Text.Case

/-!
# Where settings come from

A setting is taken from what is given directly, or else from the environment, or else from a file
of assignments, or else it has its default. In the environment and in the file the name of a
setting stands behind a common beginning, in any case of letters, and the list of features is
written as JSON.
-/

namespace ScreenBridge.Settings

open Schema (Issue Checked)

/-- A place from which settings are read as texts. -/
inductive Source where
  | environment
  | file
  deriving DecidableEq, Repr

def Source.name : Source → String
  | .environment => "EnvSettingsSource"
  | .file => "DotEnvSettingsSource"

/-- Why there are no settings: a text is no JSON, reading it broke off, or the values do not
fit. -/
inductive LoadError where
  | unreadable (field : String) (source : Source)
  | brokeOff (cause : Json.Breakdown)
  | invalid (issues : List Issue)
  deriving DecidableEq, Repr

/-- The text for a value that is no JSON. -/
def unreadableMessage (field : String) (source : Source) : String :=
  "error parsing value for field \"" ++ field ++ "\" from source \"" ++ source.name ++ "\""

/-- What the names of settings start with. -/
def commonStart : String := "bridge_"

/-- The setting that is written as JSON. -/
def structuredName : String := "supported_features"

/-- Values under the small forms of their names; the last one for a name counts. -/
def foldNames {α : Type} (values : Keyed α) : Keyed α :=
  Keyed.ofPairs (values.map fun kv => (Text.lower kv.1, kv.2))

/-- The value of a setting out of its text; none for a JSON null. -/
def valueOfText (source : Source) (name text : String) : Except LoadError (Option Json) :=
  if name = structuredName then
    match readNotation text with
    | .ok (some .null) => .ok none
    | .ok (some v) => .ok (some v)
    | .ok none => .error (.unreadable name source)
    | .error cause => .error (.brokeOff cause)
  else .ok (some (.str text))

def givenBy (source : Source) (texts : Keyed (Option String)) :
    List String → Except LoadError (Keyed Json)
  | [] => .ok []
  | name :: rest =>
    match texts.get? (commonStart ++ name) with
    | some (some text) => do
      let value ← valueOfText source name text
      let others ← givenBy source texts rest
      .ok (match value with
        | some v => (name, v) :: others
        | none => others)
    | _ => givenBy source texts rest

/-- Settings from what is given directly, the environment and the content of a file. -/
def load (direct : Keyed Json) (environment : Keyed String) (file : Option String) :
    Except LoadError Settings := do
  let texts := environment.map fun kv => (kv.1, some kv.2)
  let inEnvironment ← givenBy .environment (foldNames texts) names
  let inFile ← givenBy .file (foldNames (assignments environment (file.getD ""))) names
  match ofMembers ((inFile.update inEnvironment).update direct) with
  | .valid s => .ok s
  | .invalid issues => .error (.invalid issues)

end ScreenBridge.Settings
