import ScreenBridge.Log.Notice
import ScreenBridge.Source.Manifest
import ScreenBridge.Source.Screen
import ScreenBridge.Wire.Failure

/-!
# Projects of generated sources

A project has a source file and a stylesheet for each screen, and a manifest that imports the
screens and routes to them. Screens and stylesheets are written anew each time; the manifest is
made when it is missing and only added to after that. A screen whose name would put a file
anywhere but directly into its directory is refused before anything is written.
-/

namespace ScreenBridge.Source

open Files (Path FileError)
open Log (Notice)
open Mapping (Registry)
open Ui (Document)
open Wire (Failure Crash)

/-- Where and how a project is written. -/
structure Generator where
  registry : Registry
  outputDir : Path
  extension : String
  liveUpdateUrl : String

/-- The files, and the notices given so far. -/
structure Workspace where
  files : Files.Tree
  notices : List Notice

/-- Why generation stopped: the screen could not be written, or a step met something that it was
not prepared for. -/
inductive Stop where
  | failed (failure : Failure)
  | crashed (crash : Crash)
  deriving DecidableEq, Repr

/-- A step of generation: it changes the files and gives notices, and what it has done stays when
it stops. -/
abbrev Generation := ExceptT Stop (StateM Workspace)

namespace Generation

def note (n : Notice) : Generation Unit :=
  modify fun w => { w with notices := w.notices ++ [n] }

/-- The end of work on the files for a screen: a refusal by the system is noted and becomes a
failure. -/
def refuse {α : Type} (screenId : String) : FileError → Generation α
  | .os errno path => do
    note (.generationFailed screenId (Files.osMessage errno path))
    throw (.failed (.notWritten screenId errno path))
  | .nullByte => throw (.crashed .nullByte)

/-- A look at the files for a screen. -/
def inspect {α : Type} (screenId : String) (look : Files.Tree → Except FileError α) :
    Generation α := do
  match look (← get).files with
  | .ok a => pure a
  | .error e => refuse screenId e

/-- A file written with a text. -/
def writeText (screenId : String) (p : Path) (content : String) : Generation Unit := do
  let files ← inspect screenId fun t => t.write p (Text.Utf8.encode content)
  modify fun w => { w with files }

/-- A directory made with those above it. -/
def makeDirectories (screenId : String) (p : Path) : Generation Unit := do
  let (files, outcome) := (← get).files.ensureDirectories p
  modify fun w => { w with files }
  match outcome with
  | .ok _ => pure ()
  | .error e => refuse screenId e

/-- The text of a file, with line feeds as its only line breaks. -/
def readText (screenId : String) (p : Path) : Generation String := do
  match Text.Utf8.decodeChars (← inspect screenId fun t => t.read p) with
  | .ok cs => pure (String.ofList (Text.unifyLineBreaks cs))
  | .error fault => throw (.crashed (.notUtf8 fault))

end Generation

namespace Generator

open Generation

def srcDir (g : Generator) : Path := g.outputDir.append "src"

def screensDir (g : Generator) : Path := g.srcDir.append "screens"

def stylesDir (g : Generator) : Path := g.srcDir.append "styles"

def manifestPath (g : Generator) : Path := g.srcDir.append ("App." ++ g.extension)

def manifestStylesPath (g : Generator) : Path := g.srcDir.append "App.css"

/-- The path of a file for a screen, which has to lie directly in a directory. -/
def target (directory : Path) (name screenId : String) : Generation Path := do
  let path := directory.append name
  let home := (← get).files.home
  if path.hasNull || directory.hasNull then throw (.crashed .nullByte)
  else if (path.resolve home).dropLast = directory.resolve home then pure path
  else throw (.failed (.outsideProject screenId directory.text path.text))

/-- The text of the manifest; a missing one is made with its stylesheet. -/
def manifest (g : Generator) (screenId : String) : Generation String := do
  if ← inspect screenId fun t => t.exists? g.manifestPath then readText screenId g.manifestPath
  else
    makeDirectories screenId g.srcDir
    if ← inspect screenId fun t => t.exists? g.manifestStylesPath then pure ()
    else writeText screenId g.manifestStylesPath baseStylesheet
    note (.manifestSeeded g.manifestPath.text)
    pure baseManifest

/-- A screen registered in the manifest. -/
def updateRouting (g : Generator) (screenId route : String) : Generation Unit := do
  let component := componentName screenId
  let content ← g.manifest screenId
  writeText screenId g.manifestPath (updateManifest content component route)
  note (.routingUpdated route component)

/-- The files of a screen written, and the screen registered. -/
def generate (g : Generator) (d : Document) : Generation Unit := do
  let component := componentName d.screenId
  note (.generateStart d.screenId component)
  let screenPath ← target g.screensDir (component ++ "." ++ g.extension) d.screenId
  let stylePath ← target g.stylesDir (component ++ ".css") d.screenId
  makeDirectories d.screenId g.screensDir
  makeDirectories d.screenId g.stylesDir
  writeText d.screenId screenPath (screenSource g.registry g.liveUpdateUrl d)
  note (.screenWritten screenPath.text)
  writeText d.screenId stylePath (screenStyles d)
  note (.stylesheetWritten stylePath.text)
  g.updateRouting d.screenId d.route
  note (.generateComplete d.screenId g.outputDir.text)

/-- The outcome of a step on some files: the notices, the files after it, and why it stopped. -/
def run (step : Generation Unit) (files : Files.Tree) :
    Except Stop Unit × List Notice × Files.Tree :=
  let (outcome, w) := StateT.run (ExceptT.run step) ⟨files, []⟩
  (outcome, w.notices, w.files)

end Generator

end ScreenBridge.Source
