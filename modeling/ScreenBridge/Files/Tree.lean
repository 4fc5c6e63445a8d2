import ScreenBridge.Files.Path
import ScreenBridge.Json.Plain

/-!
# Trees of files

A tree of files is the directories and files below a root, each under the names that lead to it,
and a working directory, which is there. A path is followed name by name: every name on the way
has to be a directory, a double point leads back, and a name that is too long leads nowhere. Each
operation is refused with the cause that a file system would give.

A refusal comes before a file is opened. What is left out is a write that breaks off after that,
as on a full disk: the program empties a file before it writes to it, and here the file is either
written as a whole or left as it was.
-/

namespace ScreenBridge.Files

/-- What stands under a name. -/
inductive Entry where
  | directory
  | file (content : List UInt8)
  deriving DecidableEq, Repr, Inhabited

/-- The names that lead from the root to an entry. -/
abbrev Location := List String

/-- What stands at a location among some entries; the root is a directory. -/
def standsAt? (entries : List (Location × Entry)) (l : Location) : Option Entry :=
  if l = [] then some .directory else entries.lookup l

/-- Directories and files, and a working directory. -/
structure Tree where
  home : Location
  entries : List (Location × Entry)
  isDirectory_home : standsAt? entries home = some .directory
  deriving DecidableEq, Repr

/-- Why a file system refuses. -/
inductive Errno where
  | noEntry
  | exists
  | notDirectory
  | isDirectory
  | nameTooLong
  deriving DecidableEq, Repr

def Errno.number : Errno → Nat
  | .noEntry => 2
  | .exists => 17
  | .notDirectory => 20
  | .isDirectory => 21
  | .nameTooLong => 36

def Errno.words : Errno → String
  | .noEntry => "No such file or directory"
  | .exists => "File exists"
  | .notDirectory => "Not a directory"
  | .isDirectory => "Is a directory"
  | .nameTooLong => "File name too long"

/-- Why an operation on a path was refused: the system said why, or the path cannot be handed to
it. -/
inductive FileError where
  | os (errno : Errno) (path : String)
  | nullByte
  deriving DecidableEq, Repr

/-- The text of a cause with the path that it is about. -/
def osMessage (errno : Errno) (path : String) : String :=
  "[Errno " ++ toString errno.number ++ "] " ++ errno.words ++ ": " ++ Json.literal path

/-- The most bytes in one name. -/
def maxNameSize : Nat := 255

/-- The least number of bytes that is too many for a whole path. -/
def pathSizeBound : Nat := 4096

namespace Tree

/-- A tree with nothing in it but its working directory. -/
def empty : Tree := ⟨["work"], [(["work"], .directory)], rfl⟩

instance : Inhabited Tree := ⟨empty⟩

/-- What stands at a location. -/
def entry? (t : Tree) (l : Location) : Option Entry :=
  standsAt? t.entries l

/-- Whether there is a directory at a location. -/
def isDirectoryAt (t : Tree) (l : Location) : Bool :=
  t.entry? l = some .directory

/-- Entries with one put at a location, in its old place or at the end. -/
def putEntry : List (Location × Entry) → Location → Entry → List (Location × Entry)
  | [], l, e => [(l, e)]
  | (m, f) :: rest, l, e => if m = l then (m, e) :: rest else (m, f) :: putEntry rest l e

theorem lookup_cons_eq (k : Location) (e : Entry) (entries : List (Location × Entry))
    (m : Location) :
    ((k, e) :: entries).lookup m = if m = k then some e else entries.lookup m := by
  rw [List.lookup_cons]
  by_cases h : m = k
  · rw [if_pos h, beq_iff_eq.mpr h]
  · rw [if_neg h, beq_false_of_ne h]

theorem lookup_putEntry (entries : List (Location × Entry)) (l : Location) (e : Entry)
    (m : Location) :
    (putEntry entries l e).lookup m = if m = l then some e else entries.lookup m := by
  induction entries with
  | nil => exact lookup_cons_eq l e [] m
  | cons entry entries ih =>
    obtain ⟨k, f⟩ := entry
    rw [putEntry]
    split
    · next hk =>
      subst hk
      rw [lookup_cons_eq, lookup_cons_eq]
      split <;> rfl
    · next hk =>
      rw [lookup_cons_eq, lookup_cons_eq, ih]
      by_cases h : m = k
      · rw [if_pos h, if_pos h, if_neg (h ▸ hk)]
      · rw [if_neg h, if_neg h]

theorem standsAt?_putEntry {entries : List (Location × Entry)} {l : Location}
    (h : standsAt? entries l ≠ some .directory) (e : Entry) (m : Location) :
    standsAt? (putEntry entries l e) m = if m = l then some e else standsAt? entries m := by
  have hroot : l ≠ [] := by
    rintro rfl
    exact h rfl
  unfold standsAt?
  rw [lookup_putEntry]
  by_cases hm : m = []
  · rw [if_pos hm, if_pos hm, if_neg (hm ▸ hroot.symm)]
  · rw [if_neg hm, if_neg hm]

/-- The tree with an entry put at a location; a directory is not replaced. -/
def put (t : Tree) (l : Location) (e : Entry) : Tree :=
  if h : t.entry? l = some .directory then t
  else
    { t with
      entries := putEntry t.entries l e
      isDirectory_home := by
        have hne : t.home ≠ l := fun heq => h (heq ▸ t.isDirectory_home)
        rw [standsAt?_putEntry h, if_neg hne, t.isDirectory_home] }

/-- Where names lead from a location. -/
def follow (t : Tree) (start : Location) : List String → Except Errno Location
  | [] => .ok start
  | n :: rest =>
    match t.entry? start with
    | none => .error .noEntry
    | some (.file _) => .error .notDirectory
    | some .directory =>
      if n = ".." then t.follow start.dropLast rest
      else if maxNameSize < n.utf8ByteSize then .error .nameTooLong
      else t.follow (start ++ [n]) rest

/-- Where a path leads; what stands there need not exist. -/
def locate (t : Tree) (p : Path) : Except Errno Location :=
  if pathSizeBound ≤ p.text.utf8ByteSize then .error .nameTooLong
  else t.follow (if p.anchor = .here then t.home else []) p.names

/-- An operation on a path that can be handed to the system, its cause tied to the path. -/
def onPath {α : Type} (p : Path) (operation : Except Errno α) : Except FileError α :=
  if p.hasNull then .error .nullByte
  else match operation with
    | .ok a => .ok a
    | .error errno => .error (.os errno p.text)

def lookUp (t : Tree) (p : Path) : Except Errno Entry :=
  match t.locate p with
  | .error errno => .error errno
  | .ok l =>
    match t.entry? l with
    | some e => .ok e
    | none => .error .noEntry

/-- Whether something stands at a path; only a name that is too long is refused. -/
def exists? (t : Tree) (p : Path) : Except FileError Bool :=
  if p.hasNull then .ok false
  else match t.lookUp p with
    | .ok _ => .ok true
    | .error .nameTooLong => .error (.os .nameTooLong p.text)
    | .error _ => .ok false

/-- Whether a path leads to a directory. -/
def isDirectory (t : Tree) (p : Path) : Bool :=
  match t.lookUp p with
  | .ok .directory => true
  | _ => false

def read (t : Tree) (p : Path) : Except FileError (List UInt8) :=
  onPath p <|
    match t.lookUp p with
    | .ok (.file content) => .ok content
    | .ok .directory => .error .isDirectory
    | .error errno => .error errno

/-- Where a file may be written: at a file, or at a free name in a directory. -/
def target (t : Tree) (p : Path) : Except Errno Location :=
  match t.locate p with
  | .error errno => .error errno
  | .ok l =>
    match t.entry? l with
    | some .directory => .error .isDirectory
    | some (.file _) => .ok l
    | none => if t.isDirectoryAt l.dropLast then .ok l else .error .noEntry

/-- A file written, in place of the one that was there. -/
def write (t : Tree) (p : Path) (content : List UInt8) : Except FileError Tree :=
  onPath p ((t.target p).map fun l => t.put l (.file content))

def makeDirectory (t : Tree) (p : Path) : Except FileError Tree :=
  onPath p <|
    match t.locate p with
    | .error errno => .error errno
    | .ok l =>
      match t.entry? l with
      | some _ => .error .exists
      | none => if t.isDirectoryAt l.dropLast then .ok (t.put l .directory) else .error .noEntry

/-- One directory, new or there already. -/
def ensureDirectory (t : Tree) (p : Path) : Except FileError Tree :=
  match t.makeDirectory p with
  | .ok t => .ok t
  | .error .nullByte => .error .nullByte
  | .error (.os .noEntry path) => .error (.os .noEntry path)
  | .error e => if t.isDirectory p then .ok t else .error e

/-- A directory and those above it that are missing, its names given from the last to the first;
what was made before a refusal stays. -/
def ensureFrom (anchor : Anchor) : List String → Tree → Tree × Except FileError Unit
  | [], t =>
    match t.ensureDirectory ⟨anchor, []⟩ with
    | .ok t => (t, .ok ())
    | .error e => (t, .error e)
  | n :: above, t =>
    let p : Path := ⟨anchor, (n :: above).reverse⟩
    match t.ensureDirectory p with
    | .ok t => (t, .ok ())
    | .error (.os .noEntry _) =>
      match ensureFrom anchor above t with
      | (t, .error e) => (t, .error e)
      | (t, .ok _) =>
        match t.ensureDirectory p with
        | .ok t => (t, .ok ())
        | .error e => (t, .error e)
    | .error e => (t, .error e)

/-- A directory and those above it that are missing. -/
def ensureDirectories (t : Tree) (p : Path) : Tree × Except FileError Unit :=
  ensureFrom p.anchor p.names.reverse t

end Tree

end ScreenBridge.Files
