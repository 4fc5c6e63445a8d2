import ScreenBridge.Mapping.Registry

/-!
# The mappings that come with the bridge

The entries that are there from the start. The last six are for generated sources only.
-/

namespace ScreenBridge.Mapping

/-- Style keys that keep their names. -/
def unchanged (keys : List String) : Option (Keyed String) :=
  some (keys.map fun k => (k, k))

def classNamed (name : String) : Keyed Json :=
  [("className", .str name)]

/-- An entry for generated sources only. -/
def markupOnly (sourceType targetTag : String) (kind : WidgetKind) : Entry :=
  { sourceType, targetTag, kind, runtime := false }

/-- The entries that are there from the start. -/
def builtinEntries : List Entry :=
  [{ sourceType := "Scaffold", targetTag := "div", kind := .scaffold,
     styleRenames := unchanged ["display", "flexDirection", "minHeight", "backgroundColor"],
     defaultProps := classNamed "flutter-scaffold" },
   { sourceType := "AppBar", targetTag := "header", kind := .appBar,
     styleRenames := unchanged
       ["backgroundColor", "color", "padding", "display", "alignItems", "minHeight"],
     defaultProps := classNamed "flutter-appbar" },
   { sourceType := "FloatingActionButton", targetTag := "button", kind := .button,
     propRenames := some [("enabled", "disabled")],
     styleRenames := unchanged
       ["position", "bottom", "right", "width", "height", "borderRadius", "backgroundColor",
        "border", "cursor", "display", "alignItems", "justifyContent"],
     defaultProps := classNamed "flutter-fab" },
   { sourceType := "Text", targetTag := "span", kind := .text,
     propRenames := some [("data", "children")],
     styleRenames := unchanged ["fontSize", "color", "fontWeight", "fontStyle"],
     defaultProps := classNamed "flutter-text" },
   { sourceType := "Button", targetTag := "button", kind := .button,
     propRenames := some [("enabled", "disabled")],
     styleRenames := unchanged
       ["backgroundColor", "color", "padding", "borderRadius", "border", "cursor"],
     defaultProps := ("type", .str "button") :: classNamed "flutter-button" },
   { sourceType := "Container", targetTag := "div", kind := .container,
     styleRenames := unchanged
       ["backgroundColor", "padding", "margin", "width", "height", "borderRadius"],
     defaultProps := classNamed "flutter-container" },
   { sourceType := "Row", targetTag := "div", kind := .row,
     styleRenames := unchanged ["display", "flexDirection", "justifyContent", "alignItems"],
     defaultProps := classNamed "flutter-row" },
   { sourceType := "Column", targetTag := "div", kind := .column,
     styleRenames := unchanged ["display", "flexDirection", "justifyContent", "alignItems"],
     defaultProps := classNamed "flutter-column" },
   markupOnly "ElevatedButton" "button" .button,
   markupOnly "TextButton" "button" .button,
   markupOnly "OutlinedButton" "button" .button,
   markupOnly "Image" "img" .image,
   markupOnly "TextField" "input" .textInput,
   markupOnly "Icon" "i" .icon]

/-- The registry that is there from the start. -/
def Registry.builtin : Registry :=
  ⟨builtinEntries, by decide⟩

end ScreenBridge.Mapping
