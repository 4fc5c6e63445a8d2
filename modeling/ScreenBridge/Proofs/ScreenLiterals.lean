import ScreenBridge.Mapping.Builtin
import ScreenBridge.Proofs.ScriptReader
import ScreenBridge.Proofs.TranslatedTree
import ScreenBridge.Source.Screen

/-!
# The strings that a screen quotes

The source of a screen has strings of its document in single quotes: those of
its state, those of the style of a widget, one that a button is given for
`disabled`, and the identifier of the screen, which a live update is compared
with. The first three are escaped and the last is not. So a carriage return
breaks up the literal of any of them, and the identifier must have nothing to
escape at all (`screen_literals`).
-/

namespace ScreenBridge.Source

open Mapping (Registry Entry)
open Ui (Node Document)

/-! ## Texts inside texts -/

/-- A text stands somewhere in another. -/
def StandsIn (s t : String) : Prop :=
  s.toList <:+: t.toList

section
variable {s t u : String}

theorem StandsIn.trans (h : StandsIn s t) (h' : StandsIn t u) : StandsIn s u :=
  List.IsInfix.trans h h'

theorem StandsIn.behind (h : StandsIn s t) (front : String) : StandsIn s (front ++ t) := by
  refine h.trans ?_
  rw [StandsIn, String.toList_append]
  exact (List.suffix_append _ _).isInfix

theorem StandsIn.before (h : StandsIn s t) (back : String) : StandsIn s (t ++ back) := by
  refine h.trans ?_
  rw [StandsIn, String.toList_append]
  exact (List.prefix_append _ _).isInfix

theorem standsIn_self (s : String) : StandsIn s s :=
  List.infix_rfl

/-- A text stands in any other between what it begins and ends with. -/
theorem standsIn_between (front s back : String) : StandsIn s (front ++ s ++ back) :=
  ((standsIn_self s).behind front).before back

theorem standsIn_join {parts : List String} (h : s ∈ parts) : StandsIn s (String.join parts) := by
  rw [StandsIn, String.toList_join]
  exact List.infix_of_mem_flatten (List.mem_map_of_mem h)

theorem standsIn_intercalate {parts : List String} (h : s ∈ parts) (separator : String) :
    StandsIn s (separator.intercalate parts) := by
  induction parts with
  | nil => cases h
  | cons part rest ih =>
      cases rest with
      | nil =>
          rw [String.intercalate_singleton, List.mem_singleton.mp h]
          exact standsIn_self part
      | cons next rest =>
          rw [String.intercalate_cons_cons]
          cases h with
          | head => exact ((standsIn_self s).before _).before _
          | tail _ hrest => exact (ih hrest).behind _

theorem standsIn_unlines {lines : List String} (h : s ∈ lines) : StandsIn s (unlines lines) :=
  ((standsIn_self s).before "\n").trans (standsIn_join (List.mem_map_of_mem h))

end

/-! ## Widgets -/

section
variable (r : Registry) (depth : Nat)

theorem standsIn_markup_of_child {n child : Node} (h : child ∈ n.children.getD []) :
    StandsIn (markup r (depth + 1) child) (markup r depth n) := by
  have hchildren : n.children.getD [] ≠ [] := List.ne_nil_of_mem h
  have hcontents : StandsIn (markup r (depth + 1) child) (contents r depth n) := by
    rw [contents, if_pos hchildren]
    exact ((standsIn_self _).before "\n").trans (standsIn_join (List.mem_map_of_mem h))
  rw [markup_eq r depth n,
    if_neg fun hempty => hchildren ((contents_eq_empty_iff r depth n).mp hempty).1]
  exact (hcontents.behind _).before _

/-- The markup of a widget stands in that of every tree it is in, as many levels further in as the
widget is. -/
theorem standsIn_markup_of_at? {n m : Node} {path : List Nat} (h : n.at? path = some m) :
    StandsIn (markup r (depth + path.length) m) (markup r depth n) := by
  induction path generalizing n depth with
  | nil =>
      cases h
      exact standsIn_self _
  | cons i path ih =>
      rw [Node.at?] at h
      obtain ⟨child, hchild, hat⟩ := Option.bind_eq_some_iff.mp h
      have hinner := ih (depth + 1) hat
      rw [Nat.add_assoc, Nat.add_comm 1] at hinner
      exact hinner.trans (standsIn_markup_of_child r depth (List.mem_of_getElem? hchild))

theorem standsIn_markup_of_attribute {n : Node} {a : String} (h : a ∈ attributes r n) :
    StandsIn a (markup r depth n) := by
  have hopening : StandsIn a (opening r depth n) := by
    refine StandsIn.behind ?_ _
    rw [StandsIn, toList_openingTag]
    have hspace : a.toList <:+: ' ' :: a.toList := (List.suffix_cons _ _).isInfix
    have hall : ' ' :: a.toList <:+: (attributes r n).flatMap fun a => ' ' :: a.toList :=
      List.infix_of_mem_flatten (List.mem_map_of_mem h)
    exact (hspace.trans hall).trans
      ((List.suffix_append _ _).trans (List.suffix_cons _ _)).isInfix
  rw [markup_eq]
  split
  · exact hopening.before _
  · exact ((hopening.before _).before _).before _

theorem mem_attributes_of_style {n : Node} {literal : String}
    (h : inlineStyle? n.style = some literal) :
    expression "style" literal ∈ attributes r n := by
  simp [attributes, styleAttributes, h]

theorem mem_attributes_of_disabled {n : Node} {v : Json}
    (hkind : (r.resolve n.type true).map Entry.kind = some .button)
    (h : n.props.get? "disabled" = some v) :
    expression "disabled" (scriptLiteral v) ∈ attributes r n := by
  simp [attributes, hkind, kindAttributes, disabledAttributes, h]

/-- Every entry of a style stands in the object literal that the style becomes. -/
theorem standsIn_inlineStyle? {style : Keyed Json} {key : String} {v : Json}
    (h : (key, v) ∈ style) :
    ∃ literal, inlineStyle? (some style) = some literal ∧
      StandsIn (camelCase key ++ ": " ++ scriptLiteral v) literal := by
  cases style with
  | nil => cases h
  | cons entry rest =>
      refine ⟨_, rfl, ?_⟩
      have hentry := List.mem_map_of_mem (f := fun kv : String × Json =>
        camelCase kv.1 ++ ": " ++ scriptLiteral kv.2) h
      exact ((standsIn_intercalate hentry ", ").behind "\x7b").before "\x7d"

end

/-! ## Screens -/

/-- Behind `lead` a source has what is to be a literal of `s`, and it is one just under a
condition. -/
structure Quotes (source lead literal s : String) (condition : Prop) : Prop where
  stands : StandsIn (lead ++ literal) source
  literal_iff : IsLiteralOf literal s ↔ condition

theorem StandsIn.quotes {source lead s : String}
    (h : StandsIn (lead ++ scriptLiteral (.str s)) source) :
    Quotes source lead (scriptLiteral (.str s)) s ('\r' ∉ s.toList) :=
  ⟨h, isLiteralOf_scriptString_iff s⟩

section
variable (r : Registry) (liveUpdateUrl : String) (d : Document)

theorem standsIn_screenSource_of_state {key : String} {v : Json} (h : (key, v) ∈ d.state) :
    StandsIn ("const [" ++ key ++ ", " ++ setterName key ++ "] = useState(" ++ scriptLiteral v)
      (screenSource r liveUpdateUrl d) := by
  have hhook := List.mem_map_of_mem (f := fun kv : String × Json =>
    "const [" ++ kv.1 ++ ", " ++ setterName kv.1 ++ "] = useState(" ++ scriptLiteral kv.2 ++ ");") h
  have hline : StandsIn _ ("  " ++ stateHooks d.state) :=
    (((standsIn_self _).before ");").trans (standsIn_intercalate hhook "\n  ")).behind "  "
  exact hline.trans (standsIn_unlines (by simp))

theorem standsIn_screenSource_of_markup : StandsIn (markup r 0 d.tree)
    (screenSource r liveUpdateUrl d) :=
  standsIn_unlines (by simp)

theorem standsIn_screenSource_of_attribute {n : Node} {path : List Nat} {a : String}
    (hat : d.tree.at? path = some n) (h : a ∈ attributes r n) :
    StandsIn a (screenSource r liveUpdateUrl d) :=
  ((standsIn_markup_of_attribute r _ h).trans (standsIn_markup_of_at? r 0 hat)).trans
    (standsIn_screenSource_of_markup r liveUpdateUrl d)

theorem standsIn_screenSource_of_style {n : Node} {path : List Nat} {style : Keyed Json}
    {key : String} {v : Json} (hat : d.tree.at? path = some n) (hstyle : n.style = some style)
    (h : (key, v) ∈ style) :
    StandsIn (camelCase key ++ ": " ++ scriptLiteral v) (screenSource r liveUpdateUrl d) := by
  obtain ⟨literal, hliteral, hstands⟩ := standsIn_inlineStyle? h
  have hattribute := mem_attributes_of_style r (hstyle ▸ hliteral)
  exact (hstands.trans (standsIn_between "style=\x7b" literal "\x7d")).trans
    (standsIn_screenSource_of_attribute r liveUpdateUrl d hat hattribute)

theorem standsIn_screenSource_of_disabled {n : Node} {path : List Nat} {v : Json}
    (hat : d.tree.at? path = some n)
    (hkind : (r.resolve n.type true).map Entry.kind = some .button)
    (h : n.props.get? "disabled" = some v) :
    StandsIn ("disabled=\x7b" ++ scriptLiteral v) (screenSource r liveUpdateUrl d) :=
  ((standsIn_self _).before "\x7d").trans (standsIn_screenSource_of_attribute r liveUpdateUrl d hat
    (mem_attributes_of_disabled r hkind h))

theorem quotes_screenId : Quotes (screenSource r liveUpdateUrl d) "message.screenId === "
    ("'" ++ d.screenId ++ "'") d.screenId (∀ c ∈ d.screenId.toList, Bare c) := by
  refine ⟨?_, isLiteralOf_between_iff d.screenId⟩
  have hline : "      if (message.type === 'STATE_UPDATE' && " ++
      ("message.screenId === " ++ ("'" ++ d.screenId ++ "'")) ++ ") \x7b" =
        "      if (message.type === 'STATE_UPDATE' && message.screenId === '" ++ d.screenId ++
          "') \x7b" :=
    String.toList_inj.mp (by simp)
  exact (standsIn_between _ _ _).trans (standsIn_unlines (by rw [hline]; simp))

end

/-- Wherever a screen has a string of its document in single quotes, there is a whole literal of
just that string, except that a carriage return is not escaped, and in the identifier of the screen
nothing is. -/
theorem screen_literals (r : Registry) (liveUpdateUrl : String) (d : Document) :
    (∀ key s, (key, .str s) ∈ d.state →
      Quotes (screenSource r liveUpdateUrl d)
        ("const [" ++ key ++ ", " ++ setterName key ++ "] = useState(")
        (scriptLiteral (.str s)) s ('\r' ∉ s.toList)) ∧
    (∀ path n, d.tree.at? path = some n →
      (∀ style key s, n.style = some style → (key, .str s) ∈ style →
        Quotes (screenSource r liveUpdateUrl d) (camelCase key ++ ": ")
          (scriptLiteral (.str s)) s ('\r' ∉ s.toList)) ∧
      ∀ s, (r.resolve n.type true).map Entry.kind = some .button →
        n.props.get? "disabled" = some (.str s) →
        Quotes (screenSource r liveUpdateUrl d) "disabled=\x7b"
          (scriptLiteral (.str s)) s ('\r' ∉ s.toList)) ∧
    Quotes (screenSource r liveUpdateUrl d) "message.screenId === " ("'" ++ d.screenId ++ "'")
      d.screenId (∀ c ∈ d.screenId.toList, Bare c) := by
  refine ⟨fun key s h => (standsIn_screenSource_of_state r liveUpdateUrl d h).quotes,
    fun path n hat => ⟨fun style key s hstyle h => ?_, fun s hkind h => ?_⟩,
    quotes_screenId r liveUpdateUrl d⟩
  · exact (standsIn_screenSource_of_style r liveUpdateUrl d hat hstyle h).quotes
  · exact (standsIn_screenSource_of_disabled r liveUpdateUrl d hat hkind h).quotes

/-- A screen with an apostrophe in its identifier and a carriage return in its state. -/
def unescaped : Document :=
  ⟨"it's", "/", "", "python", ⟨none, "Column", [], none, none, none, none⟩,
    [("note", .str "a\rb")], [], []⟩

theorem not_literals_unescaped :
    (StandsIn ("const [note, setNote] = useState(" ++ scriptLiteral (.str "a\rb"))
        (screenSource Registry.builtin "ws://localhost:3001" unescaped) ∧
      ¬ IsLiteralOf (scriptLiteral (.str "a\rb")) "a\rb") ∧
    StandsIn ("message.screenId === " ++ "'it's'")
      (screenSource Registry.builtin "ws://localhost:3001" unescaped) ∧
    ¬ IsLiteralOf "'it's'" "it's" := by
  have hnote := standsIn_screenSource_of_state Registry.builtin "ws://localhost:3001" unescaped
    (List.mem_singleton_self ("note", Json.str "a\rb"))
  have hid := quotes_screenId Registry.builtin "ws://localhost:3001" unescaped
  refine ⟨⟨hnote, ?_⟩, hid.stands, ?_⟩
  · exact fun h => hnote.quotes.literal_iff.mp h (by simp)
  · exact fun h => (hid.literal_iff.mp h '\'' (by simp [unescaped])).1 rfl

end ScreenBridge.Source
