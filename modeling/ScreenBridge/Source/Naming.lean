import ScreenBridge.Json.Plain
import ScreenBridge.Text.Case

/-!
# Names and values in generated sources

Component names are made from screen identifiers, style names go between `camelCase` and
`kebab-case`, and values are written as literals of the script, as style values or as quoted
attributes.
-/

namespace ScreenBridge.Source

open Text

/-! ## Names -/

def isCapital (c : Char) : Bool :=
  'A' ≤ c && c ≤ 'Z'

def isSmall (c : Char) : Bool :=
  'a' ≤ c && c ≤ 'z'

/-- The parts between underscores joined, each with its first character as a capital; `fresh`
says that a part begins here. -/
def joinParts (fresh : Bool) : List Char → List Char
  | [] => []
  | c :: rest =>
    if c = '_' then joinParts true rest
    else (if fresh then capital c else [c]) ++ joinParts false rest

/-- The component name for a screen: its parts as one word, and `Screen`. -/
def componentName (screenId : String) : String :=
  String.ofList (joinParts true screenId.toList) ++ "Screen"

/-- A dash in front of each Latin capital. -/
def dashCapitals (cs : List Char) : List Char :=
  cs.flatMap fun c => if isCapital c then ['-', c] else [c]

/-- A list of characters without a dash at its front. -/
def dropDash : List Char → List Char
  | '-' :: rest => rest
  | cs => cs

/-- Words in small letters with dashes between them; the list form of `kebabCase`. -/
def kebabChars (cs : List Char) : List Char :=
  dropDash (lowerAfter false (dashCapitals cs))

/-- A name in small letters, with a dash where a capital began a word. -/
def kebabCase (s : String) : String :=
  String.ofList (kebabChars s.toList)

/-- Each dash in front of a small Latin letter dropped, and the letter made a capital; `dash` says
that a dash stands before the text and is not written yet. -/
def camelAfter (dash : Bool) : List Char → List Char
  | [] => if dash then ['-'] else []
  | c :: rest =>
    if dash && isSmall c then c.toUpper :: camelAfter false rest
    else (if dash then ['-'] else []) ++
      (if c = '-' then camelAfter true rest else c :: camelAfter false rest)

/-- A name with a capital where a dash began a word. -/
def camelCase (s : String) : String :=
  String.ofList (camelAfter false s.toList)

/-- The style class of a widget type or a component. -/
def cssClass (name : String) : String :=
  "flutter-" ++ kebabCase name

/-! ## Values

The values have to be writable: no text is made of a whole number with too many digits. -/

/-- A character inside a single-quoted literal of the script. -/
def scriptChar (c : Char) : List Char :=
  if c = '\\' then ['\\', '\\']
  else if c = '\'' then ['\\', '\'']
  else if c = '\n' then ['\\', 'n']
  else [c]

/-- A string as a single-quoted literal of the script. -/
def scriptString (s : String) : String :=
  String.ofList ('\'' :: (s.toList.flatMap scriptChar ++ ['\'']))

/-- A value as a literal of the script. -/
def scriptLiteral : Json → String
  | .bool true => "true"
  | .bool false => "false"
  | .null => "null"
  | .str s => scriptString s
  | .int i => (Json.int i).outline
  | .real x => (Json.real x).outline
  | .arr items => (Json.arr items).encode
  | .obj members => (Json.obj members).encode

/-- A value as the value of a style declaration. -/
def cssValue : Json → String
  | .bool true => "true"
  | .bool false => "false"
  | v => v.plain

/-- A character inside a double-quoted attribute. -/
def attributeChar (c : Char) : List Char :=
  if c = '"' then ['&', 'q', 'u', 'o', 't', ';'] else [c]

def attributeText (name : String) (value : Json) : String :=
  name ++ "=\"" ++ String.ofList (value.plain.toList.flatMap attributeChar) ++ "\""

/-- A style as an object literal, if it has any entries. -/
def inlineStyle? : Option (Keyed Json) → Option String
  | some (kv :: rest) =>
    let entries := (kv :: rest).map fun kv => camelCase kv.1 ++ ": " ++ scriptLiteral kv.2
    some ("\x7b" ++ ", ".intercalate entries ++ "\x7d")
  | _ => none

end ScreenBridge.Source
