import Mathlib.Data.Option.Basic
import ScreenBridge.Mapping.Builtin
import ScreenBridge.Proofs.MarkupShape
import ScreenBridge.Proofs.RenameLaw
import ScreenBridge.Proofs.TranslatedTree

/-!
# Where markup and live component agree

Whether a button is disabled and what a text shows can be told in more than one
way, and the two outputs take them in different orders. In markup `disabled`
comes first and then a boolean `enabled`; in the live component `enabled` comes
first, boolean or not, and `disabled` after it. A text in markup is the text of
the widget and nothing else; in the live component the props `data` and
`children` stand in for it. `outputs_agree_iff` says exactly when that makes no
difference.
-/

namespace ScreenBridge

/-! ## Looking up through a translation -/

namespace Mapping

/-- Under the new name of a key stands what the key has, else what the name itself has, else
its default. -/
theorem get?_translateOver {source : Keyed Json} (hsource : source.keys.Nodup) {old new : String}
    (hne : new ≠ old) (defaults : Keyed Json) :
    (translateOver defaults [(old, new)] source).get? new =
      (source.get? old).or ((source.get? new).or (defaults.get? new)) := by
  have hstays : new ∉ Keyed.keys [(old, new)] := by
    rw [Keyed.keys, List.map_singleton, List.mem_singleton]
    exact hne
  rw [(translates_translateOver hsource defaults _).get?, lastRenamed?_singleton, if_neg hstays]

end Mapping

namespace Source

open Mapping (Registry Entry)
open Ui (Node)

/-! ## What the two outputs say -/

/-- The props of the live component of a widget. -/
def liveProps (n : Node) : Keyed Json :=
  (Component.ofNode Registry.builtin n).props

/-- The line of a text in the markup of a widget. -/
def textLine (depth : Nat) (code : String) : String :=
  indentation (depth + 1) ++ "\x7b" ++ code ++ "\x7d\n"

/-- The opening tag in the markup, which is written from the attributes (`toList_openingTag`), has
the attribute `disabled` if the live component has the prop, and then for its value. -/
def DisabledAgrees (n : Node) : Prop :=
  ∀ code, expression "disabled" code ∈ attributes Registry.builtin n ↔
    ∃ v, (liveProps n).get? "disabled" = some v ∧ code = scriptLiteral v

/-- The element in the markup has a line with a text as its contents (`markup_eq`) if the live
component has a text that is not empty, and then that text. -/
def TextAgrees (depth : Nat) (n : Node) : Prop :=
  ∀ code, contents Registry.builtin depth n = textLine depth code ↔
    ∃ s, (liveProps n).get? "children" = some (.str s) ∧ s ≠ "" ∧ code = (Json.str s).encode

/-! ## Buttons -/

/-- The opposite of a boolean, and any other value as it is. -/
def switched : Json → Json
  | .bool b => .bool !b
  | v => v

/-- What markup takes for `disabled`. -/
def markupDisabled? (props : Keyed Json) : Option Json :=
  match props.get? "disabled", props.get? "enabled" with
  | some v, _ => some v
  | none, some (.bool enabled) => some (.bool !enabled)
  | none, _ => none

section
variable {n : Node} {depth : Nat}

theorem disabledAttributes_eq (props : Keyed Json) : disabledAttributes props =
    (markupDisabled? props).toList.map fun v => expression "disabled" (scriptLiteral v) := by
  unfold disabledAttributes markupDisabled?
  cases props.get? "disabled" with
  | some v => rfl
  | none =>
      cases props.get? "enabled" with
      | none => rfl
      | some v => cases v <;> rfl

theorem expression_inj {name code code' : String} :
    expression name code = expression name code' ↔ code = code' := by
  constructor
  · intro h
    have hlist := congrArg String.toList h
    simp only [expression, String.toList_append] at hlist
    exact String.toList_inj.mp (List.append_cancel_left (List.append_cancel_right hlist))
  · rintro rfl
    rfl

theorem mem_disabledAttributes (props : Keyed Json) (code : String) :
    expression "disabled" code ∈ disabledAttributes props ↔
      ∃ v, markupDisabled? props = some v ∧ code = scriptLiteral v := by
  rw [disabledAttributes_eq, List.mem_map]
  constructor
  · rintro ⟨v, hv, hcode⟩
    exact ⟨v, Option.mem_toList.mp hv, (expression_inj.mp hcode).symm⟩
  · rintro ⟨v, hv, rfl⟩
    exact ⟨v, Option.mem_toList.mpr hv, rfl⟩

theorem head?_expression {name : String} {c : Char} (h : name.toList.head? = some c)
    (code : String) : (expression name code).toList.head? = some c := by
  simp only [expression, String.toList_append, List.head?_append, h, Option.some_or]

theorem head?_attributeText {name : String} {c : Char} (h : name.toList.head? = some c)
    (v : Json) : (attributeText name v).toList.head? = some c := by
  simp only [attributeText, String.toList_append, List.head?_append, h, Option.some_or]

theorem head?_idAttributes (id : Option String) :
    ∀ a ∈ idAttributes id, a.toList.head? = some 'i' := by
  unfold idAttributes
  split
  · split
    · exact List.forall_mem_nil _
    · rw [List.forall_mem_singleton]
      exact head?_attributeText rfl _
  · exact List.forall_mem_nil _

theorem head?_styleAttributes (style : Option (Keyed Json)) :
    ∀ a ∈ styleAttributes style, a.toList.head? = some 's' := by
  unfold styleAttributes
  split
  · rw [List.forall_mem_singleton]
    exact head?_expression rfl _
  · exact List.forall_mem_nil _

/-- No other attribute of a button is taken for `disabled`. -/
theorem mem_attributes_of_button
    (hkind : (Registry.builtin.resolve n.type true).map Entry.kind = some .button)
    (code : String) : expression "disabled" code ∈ attributes Registry.builtin n ↔
      ∃ v, markupDisabled? n.props = some v ∧ code = scriptLiteral v := by
  have hhead : (expression "disabled" code).toList.head? = some 'd' := head?_expression rfl code
  have hother {as : List String} {c : Char} (has : ∀ a ∈ as, a.toList.head? = some c)
      (hc : c ≠ 'd') : expression "disabled" code ∉ as := by
    intro hmem
    have hd := has _ hmem
    rw [hhead] at hd
    exact hc (Option.some.inj hd).symm
  have hid := hother (head?_idAttributes n.id) (by decide)
  have hstyle := hother (head?_styleAttributes n.style) (by decide)
  have hclick : expression "disabled" code ∉ [expression "onClick" "handleButtonClick"] :=
    hother (List.forall_mem_singleton.mpr (head?_expression rfl _)) (by decide : 'o' ≠ 'd')
  have hclass : expression "disabled" code ∉
      [attributeText "className" (.str (cssClass n.type))] :=
    hother (List.forall_mem_singleton.mpr (head?_attributeText rfl _)) (by decide : 'c' ≠ 'd')
  rw [← mem_disabledAttributes, attributes, hkind, kindAttributes]
  simp only [List.mem_append, hid, hstyle, hclick, hclass, false_or, or_false]

/-! ## Texts -/

theorem contents_eq_textLine_iff (hchildren : n.children.getD [] = []) (code : String) :
    contents Registry.builtin depth n = textLine depth code ↔
      ∃ s, n.text = some s ∧ s ≠ "" ∧ code = (Json.str s).encode := by
  have hinj {code code' : String} (h : textLine depth code = textLine depth code') :
      code = code' := by
    have hlist := congrArg String.toList h
    simp only [textLine, String.toList_append] at hlist
    exact String.toList_inj.mp (List.append_cancel_left (List.append_cancel_right hlist))
  by_cases htext : n.text.getD "" = ""
  · rw [contents_of_nothing _ _ hchildren htext]
    constructor
    · intro h
      have hlist := congrArg String.toList h
      simp [textLine] at hlist
    · rintro ⟨s, hs, hne, -⟩
      rw [hs] at htext
      exact absurd htext hne
  · obtain ⟨t, ht⟩ : ∃ t, n.text = some t := by
      cases h : n.text with
      | none => exact absurd (by rw [h]; rfl) htext
      | some t => exact ⟨t, rfl⟩
    rw [contents_of_text _ _ hchildren htext]
    rw [ht, Option.getD_some] at htext ⊢
    constructor
    · exact fun h => ⟨t, rfl, htext, (hinj h).symm⟩
    · rintro ⟨s, hs, -, rfl⟩
      cases hs
      rfl

/-! ## The live props -/

/-- An entry for live components that gives one key a new name, which no default has. -/
structure RenamingEntry (kind : Mapping.WidgetKind) (old new : String) (e : Entry) : Prop where
  kind : e.kind = kind
  renames : e.propRenames = some [(old, new)]
  defaults : e.defaultProps.get? new = none
  runtime : e.runtime = true

instance (kind : Mapping.WidgetKind) (old new : String) (e : Entry) :
    Decidable (RenamingEntry kind old new e) :=
  decidable_of_iff (e.kind = kind ∧ e.propRenames = some [(old, new)] ∧
      e.defaultProps.get? new = none ∧ e.runtime = true)
    ⟨fun h => ⟨h.1, h.2.1, h.2.2.1, h.2.2.2⟩, fun h => ⟨h.kind, h.renames, h.defaults, h.runtime⟩⟩

theorem renamingEntry_button : ∀ type ∈ ["Button", "FloatingActionButton"],
    ∃ e ∈ Registry.builtin.entries, e.sourceType = type ∧
      RenamingEntry .button "enabled" "disabled" e := by
  decide +kernel

theorem renamingEntry_text : ∃ e ∈ Registry.builtin.entries, e.sourceType = "Text" ∧
    RenamingEntry .text "data" "children" e := by
  decide +kernel

section
variable {e : Entry} {kind : Mapping.WidgetKind} {old new : String}

theorem RenamingEntry.get?_translateProps (h : RenamingEntry kind old new e) (hne : new ≠ old)
    {props : Keyed Json} (hkeys : props.keys.Nodup) :
    (e.translateProps props).get? new = (props.get? old).or (props.get? new) := by
  rw [Entry.translateProps, h.renames, Option.getD_some, Mapping.get?_translateOver hkeys hne,
    h.defaults, Option.or_none]

theorem RenamingEntry.liveProps_eq (h : RenamingEntry kind old new e)
    (he : e ∈ Registry.builtin.entries) (htype : e.sourceType = n.type) :
    liveProps n = Component.adjustProps kind n.props n.text (e.translateProps n.props) := by
  have hresolve : Registry.builtin.resolve n.type false = some e :=
    Registry.resolve_eq_some_iff.mpr ⟨he, htype, by rw [h.runtime]; rfl⟩
  rw [liveProps, Component.ofNode_eq, hresolve, ← h.kind]
  rfl

end

/-- In a live button what `enabled` says comes first. -/
theorem get?_disabled_liveProps (h : n.type ∈ ["Button", "FloatingActionButton"])
    (hkeys : n.props.keys.Nodup) : (liveProps n).get? "disabled" =
      ((n.props.get? "enabled").map switched).or (n.props.get? "disabled") := by
  obtain ⟨e, he, htype, hentry⟩ := renamingEntry_button n.type h
  rw [hentry.liveProps_eq he htype, Component.adjustProps]
  split
  · next enabled henabled =>
      rw [Keyed.get?_set, if_pos rfl, henabled]
      rfl
  · next hother =>
      rw [hentry.get?_translateProps (by decide) hkeys]
      cases henabled : n.props.get? "enabled" with
      | none => rfl
      | some v =>
          cases v with
          | bool b => exact absurd henabled (hother b)
          | _ => rfl

/-- In a live text the text of the widget comes first. -/
theorem get?_children_liveProps (h : n.type = "Text") (hkeys : n.props.keys.Nodup) :
    (liveProps n).get? "children" = (n.text.map Json.str).or
      ((n.props.get? "data").or (n.props.get? "children")) := by
  obtain ⟨e, he, htype, hentry⟩ := renamingEntry_text
  rw [hentry.liveProps_eq he (htype.trans h.symm)]
  cases n.text with
  | none => exact hentry.get?_translateProps (by decide) hkeys
  | some t =>
      have hset := Keyed.get?_set (e.translateProps n.props) "children" (.str t) "children"
      rw [if_pos rfl] at hset
      exact hset

/-! ## When they agree -/

theorem disabledAgrees_iff_map (h : n.type ∈ ["Button", "FloatingActionButton"])
    (hkeys : n.props.keys.Nodup) :
    DisabledAgrees n ↔ (markupDisabled? n.props).map scriptLiteral =
      (((n.props.get? "enabled").map switched).or (n.props.get? "disabled")).map
        scriptLiteral := by
  obtain ⟨e, he, htype, hentry⟩ := renamingEntry_button n.type h
  have hkind : (Registry.builtin.resolve n.type true).map Entry.kind = some .button := by
    rw [Registry.resolve_eq_some_iff.mpr ⟨he, htype, Bool.or_true _⟩, Option.map_some, hentry.kind]
  have hmap (o : Option Json) (code : String) :
      (∃ v, o = some v ∧ code = scriptLiteral v) ↔ o.map scriptLiteral = some code := by
    rw [Option.map_eq_some_iff]
    simp only [eq_comm]
  simp only [DisabledAgrees, mem_attributes_of_button hkind, get?_disabled_liveProps h hkeys, hmap]
  exact Option.ext_iff.symm

/-- The outputs of a button agree unless `enabled` is given and markup goes by something else: by a
`disabled` with another literal, or by nothing because `enabled` is no boolean. -/
theorem disabledAgrees_iff (h : n.type ∈ ["Button", "FloatingActionButton"])
    (hkeys : n.props.keys.Nodup) :
    DisabledAgrees n ↔ ∀ enabled, n.props.get? "enabled" = some enabled →
      match n.props.get? "disabled" with
      | none => ∃ b, enabled = .bool b
      | some disabled => scriptLiteral disabled = scriptLiteral (switched enabled) := by
  rw [disabledAgrees_iff_map h hkeys, markupDisabled?]
  cases n.props.get? "enabled" with
  | none => cases n.props.get? "disabled" <;> simp
  | some enabled =>
      cases n.props.get? "disabled" with
      | some disabled => simp
      | none => cases enabled <;> simp [switched]

/-- The outputs of a text agree if its own text is given, or nothing stands in for it that would
show. -/
theorem textAgrees_iff (h : n.type = "Text") (hchildren : n.children.getD [] = [])
    (hkeys : n.props.keys.Nodup) :
    TextAgrees depth n ↔ (n.text = none → ∀ s,
      (n.props.get? "data").or (n.props.get? "children") = some (.str s) → s = "") := by
  simp only [TextAgrees, contents_eq_textLine_iff hchildren, get?_children_liveProps h hkeys]
  cases n.text with
  | some t => simp [eq_comm]
  | none =>
      simp only [Option.map_none, Option.none_or, true_implies]
      constructor
      · intro hagree s hs
        by_contra hne
        obtain ⟨t, ht, -⟩ := (hagree _).mpr ⟨s, hs, hne, rfl⟩
        cases ht
      · intro hempty code
        constructor
        · rintro ⟨t, ht, -⟩
          cases ht
        · rintro ⟨s, hs, hne, -⟩
          exact absurd (hempty s hs) hne

end

/-- A button with both switches, and a text that something stands in for. -/
theorem outputs_disagree :
    ¬ DisabledAgrees ⟨none, "Button", [("disabled", .bool true), ("enabled", .bool true)], none,
      none, none, none⟩ ∧
    ¬ TextAgrees 0 ⟨none, "Text", [("data", .str "from props")], none, none, none, none⟩ := by
  constructor
  · intro h
    have heq : scriptLiteral (.bool true) = scriptLiteral (.bool false) :=
      (disabledAgrees_iff (by decide) (by decide)).mp h (.bool true) rfl
    exact absurd heq (by decide)
  · intro h
    have hempty := (textAgrees_iff rfl rfl (by decide)).mp h rfl "from props" rfl
    exact absurd hempty (by decide)

/-- For a widget without children, and with props under distinct keys as in every object, the two
outputs say the same in just these cases: of a button, if `enabled` is not given, or is a boolean
and `disabled` is not given, or both say the same; of a text, if its own text is given, or neither
`data` nor `children` shows anything in its place. -/
theorem outputs_agree_iff (n : Node) (depth : Nat) (hchildren : n.children.getD [] = [])
    (hkeys : n.props.keys.Nodup) :
    (n.type ∈ ["Button", "FloatingActionButton"] →
      (DisabledAgrees n ↔ ∀ enabled, n.props.get? "enabled" = some enabled →
        match n.props.get? "disabled" with
        | none => ∃ b, enabled = .bool b
        | some disabled => scriptLiteral disabled = scriptLiteral (switched enabled))) ∧
    (n.type = "Text" →
      (TextAgrees depth n ↔ (n.text = none → ∀ s,
        (n.props.get? "data").or (n.props.get? "children") = some (.str s) → s = ""))) :=
  ⟨fun h => disabledAgrees_iff h hkeys, fun h => textAgrees_iff h hchildren hkeys⟩

/-- A button that is switched off, with both switches that say so. -/
def switchedOff : Node :=
  ⟨none, "Button", [("enabled", .bool false), ("disabled", .bool true)], none, some [], none, none⟩

theorem outputs_agree_iff_switchedOff :
    switchedOff.children.getD [] = [] ∧ switchedOff.props.keys.Nodup ∧
      DisabledAgrees switchedOff := by
  have hkeys : switchedOff.props.keys.Nodup := by decide
  refine ⟨rfl, hkeys, ((outputs_agree_iff switchedOff 0 rfl hkeys).1 (by decide)).mpr ?_⟩
  rintro enabled ⟨⟩
  rfl

end Source

end ScreenBridge
