import ScreenBridge.Keyed
import ScreenBridge.Text.Blank
import ScreenBridge.Text.Search

/-!
# Files of assignments

A file of settings has assignments `NAME=value`, maybe behind the word `export`, with comments
behind number signs. A value in single or double quotes may go over several lines and hold
escapes; one without quotes ends with its line. A name that stands alone is there without a
value. What cannot be read is skipped up to the end of its line. A value may refer to others as
`${NAME}` or `${NAME:-default}`.
-/

namespace ScreenBridge.Settings

open Text (isBlank)

/-- A name, and its value if it was given one. -/
abbrev Assignment := String × Option String

/-! ## Quoted values -/

/-- The characters up to a closing quote, and those after it. A backslash takes the character
behind it along, which may not be a line feed. -/
def cutQuoted? (quote : Char) (escaped : Bool) : List Char → Option (List Char × List Char)
  | [] => none
  | c :: rest =>
    if escaped then
      if c = '\n' then none
      else (cutQuoted? quote false rest).map fun (inside, after) => (c :: inside, after)
    else if c = quote then some ([], rest)
    else (cutQuoted? quote (c = '\\') rest).map fun (inside, after) => (c :: inside, after)

/-- The character that an escape in single quotes stands for. -/
def singleEscape? (c : Char) : Option Char :=
  if c = '\\' ∨ c = '\'' then some c else none

/-- The character that an escape in double quotes stands for. -/
def doubleEscape? (c : Char) : Option Char :=
  [('\\', '\\'), ('\'', '\''), ('"', '"'), ('a', '\x07'), ('b', '\x08'), ('f', '\x0c'),
    ('n', '\n'), ('r', '\r'), ('t', '\t'), ('v', '\x0b')].lookup c

/-- Characters with their escapes read; `escaped` tells whether a backslash waits for its
character. -/
def readEscapes (meaning? : Char → Option Char) (escaped : Bool) : List Char → List Char
  | [] => if escaped then ['\\'] else []
  | c :: rest =>
    if escaped then
      match meaning? c with
      | some d => d :: readEscapes meaning? false rest
      | none =>
        if c = '\\' then '\\' :: readEscapes meaning? true rest
        else '\\' :: c :: readEscapes meaning? false rest
    else if c = '\\' then readEscapes meaning? true rest
    else c :: readEscapes meaning? false rest

/-! ## Assignments -/

/-- White space that does not end a line. -/
def isInlineBlank (c : Char) : Bool :=
  isBlank c && c ≠ '\n'

/-- The word that may stand in front of an assignment. -/
def exportWord : List Char := ['e', 'x', 'p', 'o', 'r', 't']

/-- The characters after the word `export` and white space, if they stand there. -/
def skipExport (cs : List Char) : List Char :=
  let after := cs.drop exportWord.length
  if exportWord.isPrefixOf cs && (after.head?.map isInlineBlank).getD false then
    after.dropWhile isInlineBlank
  else cs

/-- A character of a name that is not quoted. -/
def isNameChar (c : Char) : Bool :=
  c ≠ '=' && c ≠ '#' && !isBlank c

/-- The name at the front, if it can be read, and the characters after it. A comment has none. -/
def readName? (cs : List Char) : Option (Option (List Char) × List Char) :=
  match cs with
  | '#' :: _ => some (none, cs)
  | '\'' :: rest =>
    match rest.takeWhile (· ≠ '\''), rest.dropWhile (· ≠ '\'') with
    | c :: name, _ :: after => some (some (c :: name), after)
    | _, _ => none
  | _ =>
    match cs.takeWhile isNameChar with
    | [] => none
    | name => some (some name, cs.dropWhile isNameChar)

/-- The characters of a line in front of a comment; a number sign starts one behind white
space. -/
def dropComment : List Char → List Char
  | [] => []
  | c :: rest =>
    if isBlank c && (rest.dropWhile isBlank).head? == some '#' then []
    else c :: dropComment rest

/-- The value behind an equals sign, if it can be read, and the characters after it. Blanks in
front of it are left out, but they make a number sign behind them start a comment. -/
def readAssigned? (cs : List Char) : Option (List Char × List Char) :=
  match cs.dropWhile isInlineBlank with
  | '\'' :: rest =>
    (cutQuoted? '\'' false rest).map fun (inside, after) =>
      (readEscapes singleEscape? false inside, after)
  | '"' :: rest =>
    (cutQuoted? '"' false rest).map fun (inside, after) =>
      (readEscapes doubleEscape? false inside, after)
  | _ =>
    some (Text.stripChars (dropComment (cs.takeWhile (· ≠ '\n'))), cs.dropWhile (· ≠ '\n'))

/-- The characters after the end of a line, if only white space and a comment stand before it. -/
def endLine? (cs : List Char) : Option (List Char) :=
  let visible := cs.dropWhile isInlineBlank
  let after := if visible.head? = some '#' then visible.dropWhile (· ≠ '\n') else visible
  match after with
  | [] => some []
  | '\n' :: rest => some rest
  | _ => none

def skipLine (cs : List Char) : List Char :=
  (cs.dropWhile (· ≠ '\n')).drop 1

/-- One assignment or comment, and the characters after it; what cannot be read gives nothing. -/
def readAssignment (cs : List Char) : Option Assignment × List Char :=
  let start := skipExport cs
  match readName? start with
  | none => (none, skipLine start)
  | some (name, after) =>
    let behind := after.dropWhile isInlineBlank
    match behind with
    | '=' :: rest =>
      match readAssigned? rest with
      | none => (none, skipLine rest)
      | some (value, after) =>
        match endLine? after with
        | some rest => (name.map fun n => (String.ofList n, some (String.ofList value)), rest)
        | none => (none, skipLine after)
    | _ =>
      match endLine? behind with
      | some rest => (name.map fun n => (String.ofList n, none), rest)
      | none => (none, skipLine behind)

/-- The assignments in some characters; every one takes at least one character. -/
def readAssignments : (fuel : Nat) → List Char → List Assignment
  | 0, _ => []
  | fuel + 1, cs =>
    match cs.dropWhile isBlank with
    | [] => []
    | cs =>
      match readAssignment cs with
      | (some a, rest) => a :: readAssignments fuel rest
      | (none, rest) => readAssignments fuel rest

/-! ## References -/

/-- A reference behind its opening brace: the name, the default if there is one, and how many
characters it takes. -/
def reference? (cs : List Char) : Option (List Char × List Char × Nat) :=
  let isNamePart (c : Char) : Bool := c ≠ '\x7d' && c ≠ ':'
  let name := cs.takeWhile isNamePart
  match cs.dropWhile isNamePart with
  | '\x7d' :: _ => some (name, [], name.length + 1)
  | ':' :: '-' :: rest =>
    match rest.dropWhile (· ≠ '\x7d') with
    | _ :: _ =>
      let default := rest.takeWhile (· ≠ '\x7d')
      some (name, default, name.length + default.length + 3)
    | [] => none
  | _ => none

/-- Characters with the references among them replaced by what they refer to; the first `taken`
characters belong to a reference that is replaced already. -/
def expand (valueOf : String → String → String) : (taken : Nat) → List Char → List Char
  | _, [] => []
  | taken + 1, _ :: rest => expand valueOf taken rest
  | 0, c :: rest =>
    match c, rest with
    | '$', '\x7b' :: inside =>
      match reference? inside with
      | some (name, default, taken) =>
        (valueOf (String.ofList name) (String.ofList default)).toList ++
          expand valueOf (taken + 1) rest
      | none => c :: expand valueOf 0 rest
    | _, _ => c :: expand valueOf 0 rest

/-- What a name refers to: an earlier assignment, or else a variable, or else the default. -/
def valueOf (environment : Keyed String) (earlier : Keyed (Option String)) (name default : String) :
    String :=
  match earlier.get? name with
  | some value => value.getD ""
  | none => (environment.get? name).getD default

/-- Assignments with their references replaced, a later one for a name taking the place of an
earlier one. -/
def resolveReferences (environment : Keyed String) (assignments : List Assignment) :
    Keyed (Option String) :=
  assignments.foldl
    (fun earlier (name, value) =>
      earlier.set name
        (value.map fun v => String.ofList (expand (valueOf environment earlier) 0 v.toList))) []

/-- Characters without a byte order mark in front. -/
def dropByteOrderMark : List Char → List Char
  | '\ufeff' :: rest => rest
  | cs => cs

/-- What a file assigns, in an environment. -/
def assignments (environment : Keyed String) (content : String) : Keyed (Option String) :=
  let cs := dropByteOrderMark (Text.unifyLineBreaks content.toList)
  resolveReferences environment (readAssignments cs.length cs)

end ScreenBridge.Settings
