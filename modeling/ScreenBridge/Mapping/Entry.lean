import ScreenBridge.Schema.Field

/-!
# Mapping entries

An entry says how one type of widget becomes an element: its tag, the kind of widget it is, the
names that its props and styles take, and the props it always has. An entry that is not for
runtime is known to the source generator only.
-/

namespace ScreenBridge.Mapping

open Schema Schema.Checked

/-- Families of widgets with rules of their own. -/
inductive WidgetKind where
  | scaffold
  | appBar
  | container
  | row
  | column
  | text
  | button
  | textInput
  | image
  | icon
  deriving DecidableEq, Repr, Inhabited

namespace WidgetKind

/-- All kinds, in the order in which they are listed. -/
def all : List WidgetKind :=
  [scaffold, appBar, container, row, column, text, button, textInput, image, icon]

def word : WidgetKind → String
  | scaffold => "scaffold"
  | appBar => "app_bar"
  | container => "container"
  | row => "row"
  | column => "column"
  | text => "text"
  | button => "button"
  | textInput => "text_input"
  | image => "image"
  | icon => "icon"

/-- The kind that a word names. -/
def ofWord? (w : String) : Option WidgetKind :=
  all.find? fun k => k.word = w

def ofJson (v : Json) : Checked WidgetKind :=
  let found := match v with
    | .str w => ofWord? w
    | _ => none
  match found with
  | some k => valid k
  | none => fail (.notOneOf (all.map word))

end WidgetKind

/-- How one type of widget becomes an element. -/
structure Entry where
  sourceType : String
  targetTag : String
  kind : WidgetKind
  propRenames : Option (Keyed String) := none
  styleRenames : Option (Keyed String) := none
  defaultProps : Keyed Json := []
  runtime : Bool := true
  deriving DecidableEq, Repr, Inhabited

def Entry.ofJson : Json → Checked Entry :=
  record "MappingEntry" fun members =>
    Entry.mk <$> required members ["source_type"] nonEmptyString
      <*> required members ["target_tag"] nonEmptyString
      <*> required members ["kind"] WidgetKind.ofJson
      <*> optional members ["prop_renames"] none (nullable (dictionary string))
      <*> optional members ["style_renames"] none (nullable (dictionary string))
      <*> optional members ["default_props"] [] object
      <*> optional members ["runtime"] true bool

/-- Renames as a value, null if there are none. -/
def renamesToJson : Option (Keyed String) → Json
  | some renames => .obj (renames.map fun kv => (kv.1, .str kv.2))
  | none => .null

/-- An entry as a value, with all of its fields. -/
def Entry.toJson (e : Entry) : Json :=
  .obj [("source_type", .str e.sourceType), ("target_tag", .str e.targetTag),
    ("kind", .str e.kind.word), ("prop_renames", renamesToJson e.propRenames),
    ("style_renames", renamesToJson e.styleRenames), ("default_props", .obj e.defaultProps),
    ("runtime", .bool e.runtime)]

/-! ## Props and styles -/

/-- A source written over some defaults: first what has no rename, under its own key, then the
renamed values in the order of the renames. -/
def translateOver (defaults : Keyed Json) (renames : Keyed String) (source : Keyed Json) :
    Keyed Json :=
  let verbatim := source.filter fun kv => !renames.has kv.1
  let renamed := renames.filterMap fun r => (source.get? r.1).map fun v => (r.2, v)
  (defaults.update verbatim).update renamed

/-- The props of a widget as the props of its element. -/
def Entry.translateProps (e : Entry) (source : Keyed Json) : Keyed Json :=
  translateOver e.defaultProps (e.propRenames.getD []) source

/-- The style of a widget as the style of its element: none stays none, and without renames it
stays as it is. -/
def Entry.translateStyle (e : Entry) (source : Option (Keyed Json)) : Option (Keyed Json) :=
  source.map fun style =>
    match e.styleRenames with
    | none => style
    | some renames => translateOver [] renames style

end ScreenBridge.Mapping
