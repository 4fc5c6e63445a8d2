import ScreenBridge.Source.Naming
import ScreenBridge.Ui.Node

/-!
# The stylesheet of a screen

One rule for each class of the widgets of a tree. Where widgets share a class, or keys share a
property, the first one counts: widgets in pre-order, and the keys of a widget in their order.
-/

namespace ScreenBridge.Ui.Node

mutual

/-- A widget and all widgets inside it, each before its children. -/
def preorder : Node → List Node
  | ⟨id, type, props, style, children, textId, text⟩ =>
    ⟨id, type, props, style, children, textId, text⟩ :: preorderOfChildren children

def preorderOfChildren : Option (List Node) → List Node
  | none => []
  | some nodes => preorderOfNodes nodes

/-- Some widgets and all widgets inside them. -/
def preorderOfNodes : List Node → List Node
  | [] => []
  | n :: rest => n.preorder ++ preorderOfNodes rest

end

end ScreenBridge.Ui.Node

namespace ScreenBridge.Source

open Ui (Node)

abbrev Declarations := Keyed String

/-- The style of a widget added to the declarations of its class. -/
def addStyle (declarations : Declarations) (style : Keyed Json) : Declarations :=
  style.foldl (fun ds kv => Keyed.setNew ds (kebabCase kv.1) (cssValue kv.2)) declarations

/-- A widget added to the rules. -/
def addWidget (rules : Keyed Declarations) (n : Node) : Keyed Declarations :=
  let selector := cssClass n.type
  rules.set selector (addStyle ((rules.get? selector).getD []) (n.style.getD []))

mutual

/-- A widget added to the rules, and then the widgets inside it. -/
def walk (rules : Keyed Declarations) : Node → Keyed Declarations
  | ⟨id, type, props, style, children, textId, text⟩ =>
    walkChildren (addWidget rules ⟨id, type, props, style, children, textId, text⟩) children

def walkChildren (rules : Keyed Declarations) : Option (List Node) → Keyed Declarations
  | none => rules
  | some nodes => walkNodes rules nodes

/-- Some widgets and those inside them added to the rules, one after the other. -/
def walkNodes (rules : Keyed Declarations) : List Node → Keyed Declarations
  | [] => rules
  | n :: rest => walkNodes (walk rules n) rest

end

/-- The rules for the widgets of a tree. -/
def collectRules (tree : Node) : Keyed Declarations :=
  walk [] tree

def ruleText (selector : String) (declarations : Declarations) : String :=
  "." ++ selector ++ " \x7b\n" ++
    String.join (declarations.map fun kv => "  " ++ kv.1 ++ ": " ++ kv.2 ++ ";\n") ++ "\x7d\n\n"

/-- What the element around a screen looks like. -/
def rootDeclarations : Declarations :=
  [("min-height", "100vh"), ("display", "flex"), ("flex-direction", "column")]

def stylesheet (tree : Node) (component rootClass : String) : String :=
  "/* Auto-generated styles for " ++ component ++ " */\n\n" ++
    ruleText rootClass rootDeclarations ++
    String.join ((collectRules tree).map fun rule => ruleText rule.1 rule.2)

end ScreenBridge.Source
