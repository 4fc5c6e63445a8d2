import ScreenBridge.Mapping.Registry
import ScreenBridge.Source.Naming
import ScreenBridge.Ui.Node

/-!
# Widgets as markup

Each widget becomes one element in the source of a screen. An element with children opens and
closes on lines of its own with the children between them, an element with text only has the text
on a line between them, and any other element is one line that closes itself. The lines are
indented by two spaces for each level.
-/

namespace ScreenBridge.Source

open Mapping (Registry Entry WidgetKind)
open Ui (Node)

/-- The level of the root of a tree. -/
def baseLevel : Nat := 3

/-- The spaces in front of a line at a depth of the tree. -/
def indentation (depth : Nat) : String :=
  String.ofList (List.replicate (2 * (depth + baseLevel)) ' ')

/-- The identifier as an attribute, if there is one. -/
def idAttributes : Option String → List String
  | some id => if id.isEmpty then [] else [attributeText "id" (.str id)]
  | none => []

/-- An attribute whose value is an expression of the script. -/
def expression (name code : String) : String :=
  name ++ "=\x7b" ++ code ++ "\x7d"

/-- Whether a button is disabled: as its props say, or as the opposite of `enabled`. -/
def disabledAttributes (props : Keyed Json) : List String :=
  match props.get? "disabled", props.get? "enabled" with
  | some v, _ => [expression "disabled" (scriptLiteral v)]
  | none, some (.bool enabled) => [expression "disabled" (scriptLiteral (.bool !enabled))]
  | none, _ => []

/-- A prop as an attribute, if it says anything. -/
def propAttributes (props : Keyed Json) (name : String) : List String :=
  match props.get? name with
  | some v => if v.isTruthy then [attributeText name v] else []
  | none => []

/-- The attributes that a kind of widget adds. -/
def kindAttributes (props : Keyed Json) : Option WidgetKind → List String
  | some .button => disabledAttributes props ++ [expression "onClick" "handleButtonClick"]
  | some .textInput =>
    expression "onChange" "handleTextChange" :: propAttributes props "placeholder"
  | some .image => propAttributes props "src" ++ propAttributes props "alt"
  | _ => []

/-- The style as an attribute, if there is one. -/
def styleAttributes (style : Option (Keyed Json)) : List String :=
  match inlineStyle? style with
  | some literal => [expression "style" literal]
  | none => []

/-- The element that a widget opens, up to its closing bracket. -/
def openingTag (r : Registry) (id : Option String) (type : String) (props : Keyed Json)
    (style : Option (Keyed Json)) : String :=
  let attributes := idAttributes id ++
    kindAttributes props ((r.resolve type true).map Entry.kind) ++ styleAttributes style ++
    [attributeText "className" (.str (cssClass type))]
  "<" ++ r.tagFor type ++ String.join (attributes.map (" " ++ ·))

mutual

/-- The markup of a widget at a depth of its tree, without a line break at its end. -/
def markup (r : Registry) (depth : Nat) : Node → String
  | ⟨id, type, props, style, children, _, text⟩ =>
    let opening := indentation depth ++ openingTag r id type props style
    let closing := indentation depth ++ "</" ++ r.tagFor type ++ ">"
    let inside := childMarkup r (depth + 1) children
    let shown := text.getD ""
    if !inside.isEmpty then opening ++ ">\n" ++ inside ++ closing
    else if !shown.isEmpty then
      opening ++ ">\n" ++ indentation (depth + 1) ++ "\x7b" ++ (Json.str shown).encode ++
        "\x7d\n" ++ closing
    else opening ++ " />"

/-- The markup of the children, if there are any. -/
def childMarkup (r : Registry) (depth : Nat) : Option (List Node) → String
  | none => ""
  | some nodes => markupLines r depth nodes

/-- The markup of some widgets, each ended by a line break. -/
def markupLines (r : Registry) (depth : Nat) : List Node → String
  | [] => ""
  | n :: rest => markup r depth n ++ "\n" ++ markupLines r depth rest

end

end ScreenBridge.Source
