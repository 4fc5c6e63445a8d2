/-!
# Paths

A path is a sequence of names below an anchor. Empty names and single points say nothing and are
left out when a path is read; double points stay, since what they lead to depends on the files.
-/

namespace ScreenBridge.Files

/-- Where a path starts: at the working directory or at a root. -/
inductive Anchor where
  | here
  | root
  | doubleRoot
  deriving DecidableEq, Repr, Inhabited

/-- An anchor and the names below it. -/
structure Path where
  anchor : Anchor
  names : List String
  deriving DecidableEq, Repr, Inhabited

/-- A text cut at each slash. -/
def splitSlashes : List Char → List (List Char)
  | [] => [[]]
  | c :: rest =>
    if c = '/' then [] :: splitSlashes rest
    else match splitSlashes rest with
      | [] => [[c]]
      | part :: more => (c :: part) :: more

namespace Path

/-- The names in a text that say something. -/
def namesOf (s : String) : List String :=
  ((splitSlashes s.toList).map String.ofList).filter fun n => n ≠ "" ∧ n ≠ "."

/-- The anchor of a text: exactly two slashes in front are a root of their own. -/
def anchorOf (s : String) : Anchor :=
  match s.toList with
  | '/' :: '/' :: '/' :: _ => .root
  | '/' :: '/' :: _ => .doubleRoot
  | '/' :: _ => .root
  | _ => .here

def ofString (s : String) : Path :=
  ⟨anchorOf s, namesOf s⟩

def anchorText : Anchor → String
  | .here => ""
  | .root => "/"
  | .doubleRoot => "//"

/-- A path as text; the working directory itself is a point. -/
def text (p : Path) : String :=
  if p.anchor = .here ∧ p.names = [] then "."
  else anchorText p.anchor ++ "/".intercalate p.names

/-- A path below another one; one with a root stands for itself. -/
def append (p : Path) (s : String) : Path :=
  let q := ofString s
  if q.anchor = .here then ⟨p.anchor, p.names ++ q.names⟩ else q

/-- Names with each double point taking away the name in front of it. -/
def collapse (base : List String) : List String → List String
  | [] => base
  | n :: rest => if n = ".." then collapse base.dropLast rest else collapse (base ++ [n]) rest

/-- The names from the root to where a path leads, read from a working directory without looking
at the files. -/
def resolve (home : List String) (p : Path) : List String :=
  if p.anchor = .here then collapse home p.names else collapse [] p.names

/-- Whether a path names something that no file can be named. -/
def hasNull (p : Path) : Bool :=
  p.names.any fun n => n.toList.contains '\x00'

end Path

end ScreenBridge.Files
