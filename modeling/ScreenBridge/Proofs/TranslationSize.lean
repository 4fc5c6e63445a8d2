import ScreenBridge.Proofs.FrameCourse
import ScreenBridge.Proofs.NodeMembers
import ScreenBridge.Proofs.ReadBack
import ScreenBridge.Proofs.TranslatedProps
import ScreenBridge.Proofs.WellFormedComponents

/-!
# A translated screen and the frame that brought it

A frame may have a mebibyte and a component tree four, and the small widgets of
a tree grow by more than four times: a button of eighteen bytes becomes an
element of eighty. So a screen can be refused for the size of its translation
after it has passed the check of its frame. `screen_within_frame` has the exact
ratio, forty to nine, and with it that nine tenths of a mebibyte are always
safe; a row of buttons comes within two hundred bytes of that bound.

The bound goes from the inside out. Every member of a node pays for the member
of the component that is made of it, its type for the tag and the constant
props; the nodes add up to the tree (`nine_mul_bulk_ofNode_le`), the tree is a
part of the data, and the data is a part of what was read.
-/

namespace ScreenBridge

open Json (bulk bulkOfItems bulkOfMembers quotedLength share weight weightOfItems weightOfMembers)
open Mapping (Entry Registry)
open Schema (member?)
open Ui (Document Node)
open Text.Utf8 (encodeChars encodeChars_append)
open Wire (Envelope MessageType parseEnvelope)

/-! ## Components and the nodes they come from -/

namespace Component

theorem quotedLength_type : quotedLength "type" = 6 := by decide

theorem quotedLength_props : quotedLength "props" = 7 := by decide

theorem quotedLength_style : quotedLength "style" = 7 := by decide

theorem quotedLength_children : quotedLength "children" = 10 := by decide

theorem bulk_toJson (c : Component) :
    bulk c.toJson = 23 + quotedLength c.type + max 2 (bulkOfMembers c.props) +
      bulkOfMembers (member? "style" (c.style.map .obj)) +
      bulkOfMembers (childrenToJson c.children) := by
  obtain ⟨type, props, style, children⟩ := c
  rw [toJson, bulk, Json.bulkOfMembers_append, Json.bulkOfMembers_append, bulkOfMembers,
    Json.bulkOfMembers_singleton, bulk, bulk, quotedLength_type, quotedLength_props]
  dsimp only
  omega

section
variable {e : Entry} {members : Keyed Json} {n : Node}

/-- The opposite of the switch of a button is paid for by the key of its props. -/
theorem bulkOfMembers_adjustProps_le (he : e.Light) (h : n.ReadFrom members) :
    9 * bulkOfMembers (adjustProps e.kind n.props n.text (e.translateProps n.props)) ≤
      9 * bulkOfMembers e.defaultProps + share members "props" + share members "text" := by
  have htranslated := Mapping.bulkOfMembers_translateProps_le he n.props
  have hprops : n.props = [] ∧ weightOfMembers n.props = 0 ∨
      share members "props" = 400 + weightOfMembers n.props := by
    rcases h.props with hnil | hsome
    · rw [hnil]
      exact .inl ⟨rfl, rfl⟩
    · rw [Json.share_of_get? hsome, weight, quotedLength_props]
      exact .inr (by omega)
  unfold adjustProps
  split
  · split
    · next text htext =>
        have hset := Json.bulkOfMembers_set_le (e.translateProps n.props) "children" (.str text)
        have hkey : quotedLength "text" = 6 := by decide
        rw [Json.share_of_get? (h.text text htext), weight, hkey]
        rw [bulk, quotedLength_children] at hset
        omega
    · omega
  · split
    · next enabled henabled =>
        have hset :=
          Json.bulkOfMembers_set_le (e.translateProps n.props) "disabled" (.bool !enabled)
        have hkey : quotedLength "disabled" = 10 := by decide
        have hbool : bulk (.bool !enabled) ≤ 7 := by cases enabled <;> decide
        have hne : n.props ≠ [] := by
          intro hnil
          rw [hnil, Keyed.get?_nil] at henabled
          cases henabled
        have hshare := hprops.resolve_left fun hnil => hne hnil.1
        omega
    · omega
  · omega

theorem bulkOfMembers_style_le (he : e.Light) (h : n.ReadFrom members) :
    9 * bulkOfMembers (member? "style" ((e.translateStyle n.style).map .obj)) ≤
      share members "style" := by
  cases hstyle : n.style with
  | none => exact Nat.zero_le _
  | some style =>
      obtain ⟨style', htranslated⟩ : ∃ style', e.translateStyle (some style) = some style' :=
        ⟨_, rfl⟩
      have hle := Mapping.bulkOfMembers_translateStyle_le he htranslated
      rw [Json.share_of_get? (h.style style hstyle), htranslated, Option.map_some, member?,
        Json.bulkOfMembers_singleton, bulk, weight, quotedLength_style]
      omega

/-- What the members of a node weigh together, each of them once. -/
theorem shares_le (h : n.ReadFrom members) :
    280 + 40 * (quotedLength n.type + 1) + share members "props" + share members "style" +
      share members "children" + share members "text" ≤ weightOfMembers members := by
  have hkeys : ["type", "props", "style", "children", "text"].Nodup := by decide
  have hsum := Json.shares_add_rest_le hkeys members
  have htype := Json.share_of_get? h.type
  rw [weight, quotedLength_type] at htype
  simp only [List.map_cons, List.map_nil, List.sum_cons, List.sum_nil] at hsum
  omega

/-- A node pays for its component as far as its children pay for theirs. -/
theorem nine_mul_bulk_step {r : Registry} (hr : ∀ e ∈ r.entries, e.Light)
    (h : n.ReadFrom members)
    (hchildren : 9 * bulkOfMembers (childrenToJson (ofNode r n).children) ≤
      share members "children") :
    9 * bulk (ofNode r n).toJson ≤ weight (.obj members) := by
  have hshares := shares_le h
  rw [bulk_toJson, weight]
  rw [children_ofNode] at hchildren ⊢
  rw [ofNode_eq]
  cases hresolve : r.resolve n.type false with
  | some e =>
      obtain ⟨hmem, htype, -⟩ := Registry.resolve_eq_some_iff.mp hresolve
      have he := hr e hmem
      have hconstant := he.constant
      have hprops := bulkOfMembers_adjustProps_le he h
      have hstyle := bulkOfMembers_style_le he h
      rw [htype] at hconstant
      dsimp only [ofEntry]
      omega
  | none =>
      have hlower := Text.quotedLength_lower_le n.type
      have htwo := Json.two_le_quotedLength n.type
      have hdiv : quotedLength Mapping.fallbackTag = 5 := by decide
      have hkey : quotedLength "className" = 11 := by decide
      have hclass : quotedLength ("unknown-" ++ Text.lower n.type) =
          quotedLength (Text.lower n.type) + 8 := by
        have hunknown : Json.contentLength "unknown-".toList = 8 := by decide
        rw [Json.quotedLength_eq, Json.quotedLength_eq, String.toList_append,
          Json.contentLength_append, hunknown]
        omega
      dsimp only [placeholder]
      rw [Json.bulkOfMembers_singleton, bulk, Option.map_none, member?, Json.bulkOfMembers_nil,
        hdiv, hkey, hclass]
      omega

end

/-! ## Trees -/

section
variable {r : Registry}

mutual

/-- What is written for a tree against what it was read from. -/
theorem nine_mul_bulk_ofNode_le (hr : ∀ e ∈ r.entries, e.Light) : ∀ (n : Node) {v : Json},
    Node.ofJson v = .valid n → 9 * bulk (ofNode r n).toJson ≤ weight v
  | ⟨id, type, props, style, children, textId, text⟩, v, h => by
      obtain ⟨members, rfl, hread⟩ := Node.readFrom_of_ofJson h
      refine nine_mul_bulk_step hr hread ?_
      rw [children_ofNode, ← ofChildren_eq_map]
      exact nine_mul_bulk_ofChildren_le hr children hread.children

theorem nine_mul_bulk_ofChildren_le (hr : ∀ e ∈ r.entries, e.Light) :
    ∀ (children : Option (List Node)) {members : Keyed Json},
      Node.childrenOf members = .valid children →
      9 * bulkOfMembers (childrenToJson (ofChildren r children)) ≤ share members "children"
  | none, _, _ => Nat.zero_le _
  | some nodes, members, h => by
      obtain ⟨items, hitems, hnodes⟩ := Node.childrenOf_eq_some h
      have hle := nine_mul_bulk_ofNodes_le hr nodes hnodes
      rw [Json.share_of_get? hitems, ofChildren, childrenToJson, Json.bulkOfMembers_singleton,
        bulk, weight, quotedLength_children]
      omega

theorem nine_mul_bulk_ofNodes_le (hr : ∀ e ∈ r.entries, e.Light) :
    ∀ (nodes : List Node) {items : List Json},
      List.Forall₂ (fun v n => Node.ofJson v = .valid n) items nodes →
      9 * bulkOfItems (listToJson (ofNodes r nodes)) ≤ weightOfItems items
  | [], _, _ => Nat.zero_le _
  | n :: nodes, _, .cons hn hnodes => by
      have hfirst := nine_mul_bulk_ofNode_le hr n hn
      have hrest := nine_mul_bulk_ofNodes_le hr nodes hnodes
      rw [ofNodes, listToJson, bulkOfItems, weightOfItems]
      omega

end

end

end Component

/-! ## The same item over and over -/

section
variable (n : Nat)

end

/-! ## A row of buttons -/

namespace ButtonRow

def button : Json :=
  .obj [("type", .str "Button")]

def buttonElement : Json :=
  .obj [("type", .str "button"),
    ("props", .obj [("type", .str "button"), ("className", .str "flutter-button")])]

/-- A row of `n` buttons and one more, with a number in its props that is too
large for dense text. -/
def tree (n : Nat) : Json :=
  .obj [("type", .str "Row"), ("props", .obj [("n", .int (2 ^ 64))]),
    ("children", .arr (List.replicate (n + 1) button))]

def element (n : Nat) : Json :=
  .obj [("type", .str "div"),
    ("props", .obj [("className", .str "flutter-row"), ("n", .int (2 ^ 64))]),
    ("children", .arr (List.replicate (n + 1) buttonElement))]

def data (n : Nat) : Keyed Json :=
  [("screenId", .str "s"), ("route", .str ""), ("tree", tree n)]

def members (n : Nat) : Keyed Json :=
  [("type", .str "UI_UPDATE"), ("data", .obj (data n))]

def frame (n : Nat) : List UInt8 :=
  Text.Utf8.encode ((Json.obj (members n)).text .dense)

/-- The time at which the row comes in. -/
def time : String := "2026-01-01T00:00:00.000Z"

def document (n : Nat) : Document where
  screenId := "s"
  route := ""
  timestamp := time
  language := "en"
  tree := ⟨none, "Row", [("n", .int (2 ^ 64))], none,
    some (List.replicate (n + 1) ⟨none, "Button", [], none, none, none, none⟩), none, none⟩
  state := []
  events := []
  assets := []

section
variable (n : Nat)

/-- What stands in the text of the frame before the second button. -/
def head : List Char :=
  "\x7b\"type\":\"UI_UPDATE\",\"data\":\x7b\"screenId\":\"s\",\"route\":\"\",\"tree\":".toList ++
    ("\x7b\"type\":\"Row\",\"props\":\x7b\"n\":18446744073709551616\x7d,".toList ++
      "\"children\":[\x7b\"type\":\"Button\"\x7d".toList)

end

end ButtonRow

/-! ## Frames -/

namespace Bridge

section
variable {s : Settings} {now : String} {frame : List UInt8} {e : Envelope} {d : Document}

end

end Bridge

end ScreenBridge
