import ScreenBridge.Source.Markup
import ScreenBridge.Source.Stylesheet
import ScreenBridge.Ui.Document

/-!
# The source of a screen

The component of a screen is a module that imports its stylesheet, holds the state of the screen,
has stubs for its events, follows live updates and shows the markup of its widget tree.
-/

namespace ScreenBridge.Source

open Mapping (Registry)
open Ui (Document EventBinding)

/-- Lines of text, each ended by a line break. -/
def unlines (lines : List String) : String :=
  String.join (lines.map (· ++ "\n"))

/-- The call that sets a part of the state. -/
def setterName (key : String) : String :=
  "set" ++ Text.capitalizeFirst key

/-- A declaration for each part of the state. -/
def stateHooks (state : Keyed Json) : String :=
  "\n  ".intercalate (state.map fun kv =>
    "const [" ++ kv.1 ++ ", " ++ setterName kv.1 ++ "] = useState(" ++ scriptLiteral kv.2 ++ ");")

/-- What takes over each part of the state from a live update. -/
def stateUpdaters (state : Keyed Json) : String :=
  "\n        ".intercalate (state.map fun kv =>
    "if (message.state." ++ kv.1 ++ " !== undefined) " ++ setterName kv.1 ++ "(message.state." ++
      kv.1 ++ ");")

def clickHandler : String :=
  "\n".intercalate
    ["const handleButtonClick = (event: React.MouseEvent) => \x7b",
     "    // Send event to Flutter app",
     "    console.log('Button clicked:', event.currentTarget.id);",
     "  \x7d;"]

/-- The stub for changes of text. -/
def changeHandler : String :=
  "\n".intercalate
    ["const handleTextChange = (event: React.ChangeEvent<HTMLInputElement>) => \x7b",
     "    // Send text change to Flutter app",
     "    console.log('Text changed:', event.target.value);",
     "  \x7d;"]

def bindingComments (events : List EventBinding) : String :=
  "\n  ".intercalate (events.map fun b =>
    "// " ++ b.componentId ++ "." ++ b.event ++ " -> " ++ b.action)

/-- The stubs, and the declared events if there are any. -/
def eventHandlers (events : List EventBinding) : String :=
  "\n\n  ".intercalate
    ([clickHandler, changeHandler] ++ (if events.isEmpty then [] else [bindingComments events]))

/-- The module of a component around the markup of its tree. -/
def screenModule (component screenId rootClass liveUpdateUrl : String) (state : Keyed Json)
    (events : List EventBinding) (body : String) : String :=
  unlines
    ["import React, \x7b useState, useEffect \x7d from 'react';",
     "import \x7b useNavigate \x7d from 'react-router-dom';",
     "import '../styles/" ++ component ++ ".css';",
     "",
     "export const " ++ component ++ ": React.FC = () => \x7b",
     "  const navigate = useNavigate();",
     "",
     "  // State management (generated from Flutter state)",
     "  " ++ stateHooks state,
     "",
     "  // Event handlers (generated from Flutter events)",
     "  " ++ eventHandlers events,
     "",
     "  // Live updates from the running Flutter app",
     "  useEffect(() => \x7b",
     "    const ws = new WebSocket('" ++ liveUpdateUrl ++ "');",
     "",
     "    ws.onmessage = (event) => \x7b",
     "      const message = JSON.parse(event.data);",
     "      if (message.type === 'STATE_UPDATE' && message.screenId === '" ++ screenId ++ "') \x7b",
     "        " ++ stateUpdaters state,
     "      \x7d",
     "    \x7d;",
     "",
     "    return () => ws.close();",
     "  \x7d, []);",
     "",
     "  return (",
     "    <div className=\"" ++ rootClass ++ "\">",
     body,
     "    </div>",
     "  );",
     "\x7d;",
     "",
     "export default " ++ component ++ ";"]

/-- The module of the component for a document. -/
def screenSource (r : Registry) (liveUpdateUrl : String) (d : Document) : String :=
  let component := componentName d.screenId
  screenModule component d.screenId (cssClass component) liveUpdateUrl d.state d.events
    (markup r 0 d.tree)

def screenStyles (d : Document) : String :=
  let component := componentName d.screenId
  stylesheet d.tree component (cssClass component)

end ScreenBridge.Source
