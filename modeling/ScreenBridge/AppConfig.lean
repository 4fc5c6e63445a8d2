import ScreenBridge.Schema.Field

/-!
# The configuration of the app

What the mobile app says about itself as a whole: its title, its two themes, its routes and its
locales. A theme keeps what it does not know, behind its own fields and in the order given; the
other records drop it. Writing leaves out what is null in any of the records.
-/

namespace ScreenBridge

open Schema Schema.Checked

/-- The colours of a theme. -/
structure ColorScheme where
  primary : String
  secondary : String
  surface : String
  background : String
  deriving Repr, DecidableEq, Inhabited

/-- The text styles of a theme. -/
structure TextTheme where
  headlineLarge : Option (Keyed Json)
  bodyLarge : Option (Keyed Json)
  bodyMedium : Option (Keyed Json)
  deriving Repr, DecidableEq, Inhabited

/-- A theme, with the members it does not know. -/
structure Theme where
  primaryColor : String
  colorScheme : Option ColorScheme
  textTheme : Option TextTheme
  extras : Keyed Json
  deriving Repr, DecidableEq, Inhabited

/-- The configuration of the app. -/
structure AppConfig where
  title : String
  theme : Option Theme
  darkTheme : Option Theme
  routes : List String
  initialRoute : String
  supportedLocales : List String
  currentLocale : String
  deriving Repr, DecidableEq, Inhabited

/-! ## Colours and text styles -/

def ColorScheme.ofJson : Json → Checked ColorScheme :=
  record "ColorScheme" fun members =>
    ColorScheme.mk <$> required members ["primary"] string
      <*> required members ["secondary"] string
      <*> required members ["surface"] string
      <*> required members ["background"] string

def ColorScheme.toJson (c : ColorScheme) : Json :=
  .obj [("primary", .str c.primary), ("secondary", .str c.secondary),
    ("surface", .str c.surface), ("background", .str c.background)]

def TextTheme.ofJson : Json → Checked TextTheme :=
  record "TextTheme" fun members =>
    TextTheme.mk <$> optional members ["headlineLarge", "headline_large"] none (nullable object)
      <*> optional members ["bodyLarge", "body_large"] none (nullable object)
      <*> optional members ["bodyMedium", "body_medium"] none (nullable object)

def TextTheme.toJson (t : TextTheme) : Json :=
  .obj (member? "headlineLarge" (t.headlineLarge.map .obj) ++
    member? "bodyLarge" (t.bodyLarge.map .obj) ++ member? "bodyMedium" (t.bodyMedium.map .obj))

/-! ## Themes -/

/-- The names of each field of a theme. -/
def Theme.fieldNames : List (List String) :=
  [["primaryColor", "primary_color"], ["colorScheme", "color_scheme"], ["textTheme", "text_theme"]]

/-- The members that no field was read from. -/
def Theme.extrasOf (members : Keyed Json) : Keyed Json :=
  let used := Theme.fieldNames.filterMap fun names => (present? members names).map Prod.fst
  members.filter fun kv => !used.contains kv.1

def Theme.ofJson : Json → Checked Theme :=
  record "Theme" fun members =>
    (fun primary colors texts => Theme.mk primary colors texts (Theme.extrasOf members))
      <$> required members ["primaryColor", "primary_color"] string
      <*> optional members ["colorScheme", "color_scheme"] none (nullable ColorScheme.ofJson)
      <*> optional members ["textTheme", "text_theme"] none (nullable TextTheme.ofJson)

def Theme.toJson (t : Theme) : Json :=
  .obj ([("primaryColor", .str t.primaryColor)] ++
    member? "colorScheme" (t.colorScheme.map ColorScheme.toJson) ++
    member? "textTheme" (t.textTheme.map TextTheme.toJson) ++
    t.extras.filter fun kv => kv.2 ≠ .null)

/-! ## The configuration -/

namespace AppConfig

def ofJson : Json → Checked AppConfig :=
  record "AppConfig" fun members =>
    AppConfig.mk <$> required members ["title"] nonEmptyString
      <*> optional members ["theme"] none (nullable Theme.ofJson)
      <*> optional members ["darkTheme", "dark_theme"] none (nullable Theme.ofJson)
      <*> optional members ["routes"] [] (list string)
      <*> optional members ["initialRoute", "initial_route"] "/" string
      <*> optional members ["supportedLocales", "supported_locales"] ["en"] (list string)
      <*> optional members ["currentLocale", "current_locale"] "en" string

def toJson (c : AppConfig) : Json :=
  .obj ([("title", .str c.title)] ++ member? "theme" (c.theme.map Theme.toJson) ++
    member? "darkTheme" (c.darkTheme.map Theme.toJson) ++
    [("routes", .arr (c.routes.map .str)), ("initialRoute", .str c.initialRoute),
      ("supportedLocales", .arr (c.supportedLocales.map .str)),
      ("currentLocale", .str c.currentLocale)])

end AppConfig

end ScreenBridge
