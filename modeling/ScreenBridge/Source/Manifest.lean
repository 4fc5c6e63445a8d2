import ScreenBridge.Text.Blank
import ScreenBridge.Text.Search

/-!
# The routing manifest

The manifest imports every screen and routes to it. It is edited as text: an import goes behind
the first block of imports, a route in front of the end of the routes, and neither is added if it
is there already. Nothing that stands in the manifest is removed.
-/

namespace ScreenBridge.Source

open Text

/-- The line that imports a component. -/
def importLine (component : String) : String :=
  "import \x7b " ++ component ++ " \x7d from './screens/" ++ component ++ "';"

/-- The line that routes to a component. -/
def routeLine (route component : String) : String :=
  "            <Route path=\"" ++ route ++ "\" element=\x7b<" ++ component ++ " />\x7d />"

/-- The word that an import starts with. -/
def importWord : List Char := ['i', 'm', 'p', 'o', 'r', 't']

/-- The word between what is imported and its source. -/
def fromWord : List Char := ['f', 'r', 'o', 'm']

def routesEnd : List Char := "</Routes>".toList

/-- Whether what follows `import` on a line names a source and ends the statement. -/
def endsImport (rest : List Char) : Bool :=
  rest.getLast? == some ';' && occursIn fromWord rest.dropLast

/-- A line that holds an import, maybe behind other text. -/
def holdsImport (line : List Char) : Bool :=
  match cutAt? importWord line with
  | some (_, rest) => endsImport (rest.drop importWord.length)
  | none => false

/-- A line that is an import from its start. -/
def isImport (line : List Char) : Bool :=
  importWord.isPrefixOf line && endsImport (line.drop importWord.length)

/-- The lines up to the end of the first block of imports, and the lines after it; no lines at all
if there is no import. -/
def cutImports (lines : List (List Char)) : List (List Char) × List (List Char) :=
  let before := lines.takeWhile fun line => !holdsImport line
  match lines.dropWhile fun line => !holdsImport line with
  | [] => ([], lines)
  | line :: rest => (before ++ line :: rest.takeWhile isImport, rest.dropWhile isImport)

/-- The text with a line behind its first block of imports, or at its start if it has none; the
text as it is if the line occurs in it. -/
def insertImportChars (content line : List Char) : List Char :=
  if occursIn line content then content
  else
    let (lines, last) := cutLines content
    let (before, after) := cutImports lines
    joinLines before ++ (line ++ '\n' :: (joinLines after ++ last))

/-- The text with a line in front of the end of its routes: on a line of its own if that end has
one, else right before it; the text as it is if the line occurs in it, blanks at its ends left
aside, or if there is no end of routes. -/
def insertRouteChars (content line : List Char) : List Char :=
  let element := stripChars line
  if occursIn element content then content
  else match cutAt? routesEnd content with
    | none => content
    | some (before, rest) =>
      let (lines, head) := cutLastLine before
      if stripChars head = [] then lines ++ (line ++ '\n' :: (head ++ rest))
      else before ++ (element ++ rest)

/-- A manifest with a line among its imports. -/
def insertImport (content line : String) : String :=
  String.ofList (insertImportChars content.toList line.toList)

/-- A manifest with a line among its routes. -/
def insertRoute (content line : String) : String :=
  String.ofList (insertRouteChars content.toList line.toList)

/-- A manifest in which a component is registered under a route. -/
def updateManifest (content component route : String) : String :=
  insertRoute (insertImport content (importLine component)) (routeLine route component)

/-- The manifest that a project starts with. -/
def baseManifest : String :=
  String.join (List.map (· ++ "\n")
    ["import React from 'react';",
     "import \x7b BrowserRouter as Router, Routes, Route \x7d from 'react-router-dom';",
     "import './App.css';",
     "",
     "function App() \x7b",
     "  return (",
     "    <Router>",
     "      <div className=\"flutter-expo-app\">",
     "        <Routes>",
     "          \x7b/* Routes will be auto-generated here */\x7d",
     "        </Routes>",
     "      </div>",
     "    </Router>",
     "  );",
     "\x7d",
     "",
     "export default App;"])

/-- The stylesheet that a project starts with. -/
def baseStylesheet : String :=
  String.join (List.map (· ++ "\n")
    [".flutter-expo-app \x7b",
     "  min-height: 100vh;",
     "\x7d"])

end ScreenBridge.Source
