import ScreenBridge.Mapping.Builtin
import ScreenBridge.Proofs.ConfigRereading
import ScreenBridge.Proofs.NestingGuard
import ScreenBridge.Proofs.TranslatedTree
import ScreenBridge.Wire.Message

/-!
# How deep a message goes

What comes in is guarded against nesting; what goes out is not. How deep a
message to the viewers is has to follow from where its parts come from. Each of
them is a part of the frame that was let in, or one of a few constants, and it
sits at most one step further down.

All of this is argued member by member. An object stays within a height if each
of its members stays below it (`heightOfMembers_le_iff`), so for writing over,
renaming and dropping members it is enough to know which member came from where.
The constants matter next to the guard only: the class of a widget makes a leaf
one step deeper than its node (`height_ofNode_le`), and the default locale makes
a configuration two steps deep that may have been one.
-/

namespace ScreenBridge

open Schema

/-! ## Heights -/

namespace Json

theorem heightOfMembers_le_iff {members : List (String × Json)} {h : Nat} :
    heightOfMembers members ≤ h ↔ ∀ member ∈ members, member.2.height < h := by
  induction members with
  | nil => simp [heightOfMembers]
  | cons member rest ih =>
      obtain ⟨key, v⟩ := member
      rw [heightOfMembers, Nat.max_le, ih, List.forall_mem_cons]
      rfl

theorem heightOfItems_le_iff {items : List Json} {h : Nat} :
    heightOfItems items ≤ h ↔ ∀ v ∈ items, v.height < h := by
  induction items with
  | nil => simp [heightOfItems]
  | cons v rest ih =>
      rw [heightOfItems, Nat.max_le, ih, List.forall_mem_cons]
      rfl

theorem height_lt_of_mem {members : List (String × Json)} {key : String} {v : Json}
    (h : (key, v) ∈ members) : v.height < heightOfMembers members :=
  heightOfMembers_le_iff.mp (Nat.le_refl _) (key, v) h

theorem heightOfItems_strings_le (ss : List String) : heightOfItems (ss.map .str) ≤ 1 := by
  rw [heightOfItems_le_iff]
  intro v hv
  obtain ⟨s, -, rfl⟩ := List.mem_map.mp hv
  exact Nat.one_pos

mutual

/-- The innermost list or object of a value may be empty, which its height does
not show. -/
theorem levels_le : ∀ v : Json, v.levels ≤ v.height + 1
  | .arr items => Nat.succ_le_succ (levelsOfItems_le items)
  | .obj members => Nat.succ_le_succ (levelsOfMembers_le members)
  | .null | .bool _ | .int _ | .real _ | .str _ => Nat.zero_le _

theorem levelsOfItems_le : ∀ items : List Json, levelsOfItems items ≤ heightOfItems items
  | [] => Nat.le_refl _
  | v :: rest => by
      have hfirst := levels_le v
      have hrest := levelsOfItems_le rest
      rw [levelsOfItems, heightOfItems]
      omega

theorem levelsOfMembers_le : ∀ members : List (String × Json),
    levelsOfMembers members ≤ heightOfMembers members
  | [] => Nat.le_refl _
  | (_, v) :: rest => by
      have hfirst := levels_le v
      have hrest := levelsOfMembers_le rest
      rw [levelsOfMembers, heightOfMembers]
      omega

end

end Json

open Json (heightOfItems heightOfMembers heightOfItems_le_iff heightOfMembers_le_iff
  height_lt_of_mem)

/-! ## Where members come from -/

namespace Keyed

variable {α : Type} {xs ys : Keyed α} {member : String × α}

theorem mem_of_mem_set {key : String} {value : α} (h : member ∈ xs.set key value) :
    member ∈ xs ∨ member = (key, value) := by
  induction xs with
  | nil => exact .inr (List.mem_singleton.mp h)
  | cons first rest ih =>
      obtain ⟨k, v⟩ := first
      rw [set] at h
      split at h
      · next hk =>
          rcases List.mem_cons.mp h with rfl | hrest
          · exact .inr (by rw [hk])
          · exact .inl (List.mem_cons_of_mem _ hrest)
      · rcases List.mem_cons.mp h with rfl | hrest
        · exact .inl List.mem_cons_self
        · exact (ih hrest).imp_left (List.mem_cons_of_mem _)

theorem mem_of_mem_update (h : member ∈ xs.update ys) : member ∈ xs ∨ member ∈ ys := by
  induction ys generalizing xs with
  | nil => exact .inl h
  | cons first rest ih =>
      rcases ih h with hset | hrest
      · refine (mem_of_mem_set hset).imp_right fun heq => ?_
        rw [heq]
        exact List.mem_cons_self
      · exact .inr (List.mem_cons_of_mem _ hrest)

end Keyed

/-- Translation makes up no values: each is one of the defaults or of the source. -/
theorem Mapping.mem_of_mem_translateOver {defaults source : Keyed Json} {renames : Keyed String}
    {member : String × Json} (h : member ∈ translateOver defaults renames source) :
    member ∈ defaults ∨ ∃ key, (key, member.2) ∈ source := by
  rcases Keyed.mem_of_mem_update h with hverbatim | hrenamed
  · rcases Keyed.mem_of_mem_update hverbatim with hdefault | hsource
    · exact .inl hdefault
    · exact .inr ⟨member.1, (List.mem_filter.mp hsource).1⟩
  · obtain ⟨rename, -, hvalue⟩ := List.mem_filterMap.mp hrenamed
    obtain ⟨v, hv, rfl⟩ := Option.map_eq_some_iff.mp hvalue
    exact .inr ⟨rename.1, Keyed.mem_of_get?_eq_some hv⟩

namespace Schema

variable {α : Type} {members : Keyed Json} {names : List String} {read : Json → Checked α}

/-- A record with a field that has to be there is not empty. -/
theorem height_pos_of_required {a : α} (h : required members names read = .valid a) :
    0 < heightOfMembers members := by
  obtain ⟨name, v, hpresent, -⟩ := required_eq_valid h
  exact Nat.zero_lt_of_lt (height_lt_of_mem (mem_of_present? hpresent).2)

/-- What is written for a nullable field stays below the record that it was read
from, if writing adds no height to what is read. -/
theorem height_lt_of_nullable {write : α → Json} {o : Option α}
    (h : optional members names none (nullable read) = .valid o)
    (hwrite : ∀ v a, read v = .valid a → (write a).height ≤ v.height) {v : Json}
    (hv : o.map write = some v) : v.height < heightOfMembers members := by
  obtain ⟨a, rfl, rfl⟩ := Option.map_eq_some_iff.mp hv
  cases hpresent : present? members names with
  | none =>
      rw [Schema.optional, hpresent] at h
      cases h
  | some member =>
      have hread := nullable_eq_some (optional_eq_valid hpresent h)
      exact Nat.lt_of_le_of_lt (hwrite _ _ hread)
        (height_lt_of_mem (mem_of_present? hpresent).2)

theorem height_obj_le {v : Json} {members : Keyed Json} (h : object v = .valid members) :
    (Json.obj members).height ≤ v.height :=
  Nat.le_of_eq (by rw [object_eq_valid.mp h])

end Schema

/-! ## Configurations -/

theorem ColorScheme.height_toJson_le {v : Json} {c : ColorScheme} (h : ofJson v = .valid c) :
    c.toJson.height ≤ v.height := by
  cases v with
  | obj members =>
      simp only [ofJson, record, Checked.map_eq, Checked.seq_eq, Checked.apply_eq_valid,
        Checked.map_eq_valid] at h
      obtain ⟨_, _, ⟨_, _, ⟨_, _, ⟨primary, hprimary, rfl⟩, -, rfl⟩, -, rfl⟩, -, rfl⟩ := h
      exact height_pos_of_required hprimary
  | null | bool | int | real | str | arr => cases h

theorem TextTheme.height_toJson_le {v : Json} {t : TextTheme} (h : ofJson v = .valid t) :
    t.toJson.height ≤ v.height := by
  cases v with
  | obj members =>
      simp only [ofJson, record, Checked.map_eq, Checked.seq_eq, Checked.apply_eq_valid,
        Checked.map_eq_valid] at h
      obtain ⟨_, medium, ⟨_, large, ⟨headline, hheadline, rfl⟩, hlarge, rfl⟩, hmedium, rfl⟩ := h
      rw [toJson, Json.height, Json.height, heightOfMembers_le_iff]
      rintro ⟨key, v⟩ hmember
      simp only [List.mem_append, mem_member?] at hmember
      rcases hmember with (⟨-, hv⟩ | ⟨-, hv⟩) | ⟨-, hv⟩
      · exact height_lt_of_nullable hheadline (fun _ _ => height_obj_le) hv
      · exact height_lt_of_nullable hlarge (fun _ _ => height_obj_le) hv
      · exact height_lt_of_nullable hmedium (fun _ _ => height_obj_le) hv
  | null | bool | int | real | str | arr => cases h

theorem Theme.height_toJson_le {v : Json} {t : Theme} (h : ofJson v = .valid t) :
    t.toJson.height ≤ v.height := by
  cases v with
  | obj members =>
      have hfrom := readFrom_of_ofJson h
      rw [toJson_eq, Json.height, Json.height, heightOfMembers_le_iff]
      rintro ⟨key, v⟩ hmember
      rcases List.mem_append.mp hmember with hfield | hkept
      · simp only [fields, List.mem_append, List.mem_singleton, mem_member?] at hfield
        rcases hfield with (heq | ⟨-, hv⟩) | ⟨-, hv⟩
        · cases heq
          exact height_pos_of_required hfrom.primaryColor
        · exact height_lt_of_nullable hfrom.colorScheme
            (fun _ _ => ColorScheme.height_toJson_le) hv
        · exact height_lt_of_nullable hfrom.textTheme (fun _ _ => TextTheme.height_toJson_le) hv
      · have hextra := (mem_kept.mp hkept).1
        rw [hfrom.extras] at hextra
        exact height_lt_of_mem (mem_extrasOf.mp hextra).1
  | null | bool | int | real | str | arr => cases h

namespace AppConfig

variable {v : Json} {c : AppConfig}

theorem height_pos (h : ofJson v = .valid c) : 0 < v.height := by
  cases v with
  | obj members => exact height_pos_of_required (readFrom_of_ofJson h).title
  | null | bool | int | real | str | arr => cases h

/-- Next to its themes a configuration has two lists of strings. -/
theorem height_toJson_le (h : ofJson v = .valid c) : c.toJson.height ≤ max v.height 2 := by
  have hstrings (ss : List String) : (Json.arr (ss.map .str)).height < max v.height 2 :=
    Nat.lt_of_lt_of_le (Nat.lt_succ_of_le (Json.heightOfItems_strings_le ss)) (Nat.le_max_right ..)
  have hstring (s : String) : (Json.str s).height < max v.height 2 :=
    Nat.lt_of_lt_of_le Nat.two_pos (Nat.le_max_right ..)
  cases v with
  | obj members =>
      have hfrom := readFrom_of_ofJson h
      rw [toJson_eq, Json.height, heightOfMembers_le_iff]
      rintro ⟨key, v⟩ hmember
      simp only [written, List.mem_append, List.mem_cons, List.not_mem_nil, or_false, mem_member?,
        Prod.mk.injEq] at hmember
      rcases hmember with
        ((⟨-, rfl⟩ | ⟨-, hv⟩) | ⟨-, hv⟩) | ⟨-, rfl⟩ | ⟨-, rfl⟩ | ⟨-, rfl⟩ | ⟨-, rfl⟩
      · exact hstring _
      · exact Nat.lt_of_lt_of_le
          (height_lt_of_nullable hfrom.theme (fun _ _ => Theme.height_toJson_le) hv)
          (Nat.le_max_left ..)
      · exact Nat.lt_of_lt_of_le
          (height_lt_of_nullable hfrom.darkTheme (fun _ _ => Theme.height_toJson_le) hv)
          (Nat.le_max_left ..)
      · exact hstrings _
      · exact hstring _
      · exact hstrings _
      · exact hstring _
  | null | bool | int | real | str | arr => cases h

end AppConfig

/-! ## Components -/

namespace Component

open Mapping (Entry Registry)
open Ui (Node)

/-- An entry whose constant props are no lists or objects with anything in them. -/
def FlatDefaults (e : Entry) : Prop :=
  heightOfMembers e.defaultProps ≤ 1

theorem flatDefaults_builtin : ∀ e ∈ Registry.builtin.entries, FlatDefaults e := by
  unfold FlatDefaults
  decide

section
variable {e : Entry} {n : Node} {members : Keyed Json}

/-- What a kind of widget adds to its props is a text or a truth value. -/
theorem mem_of_mem_adjustProps {kind : Mapping.WidgetKind} {props translated : Keyed Json}
    {text : Option String} {member : String × Json}
    (h : member ∈ adjustProps kind props text translated) :
    member ∈ translated ∨ member.2.height = 0 := by
  unfold adjustProps at h
  split at h
  · split at h
    · exact (Keyed.mem_of_mem_set h).imp_right fun heq => by rw [heq]; rfl
    · exact .inl h
  · split at h
    · exact (Keyed.mem_of_mem_set h).imp_right fun heq => by rw [heq]; rfl
    · exact .inl h
  · exact .inl h

theorem heightOfMembers_pos (h : n.ReadFrom members) : 0 < heightOfMembers members :=
  Nat.zero_lt_of_lt (height_lt_of_mem (Keyed.mem_of_get?_eq_some h.type))

theorem height_lt_of_mem_props (h : n.ReadFrom members) {key : String} {v : Json}
    (hmember : (key, v) ∈ n.props) : v.height < heightOfMembers members := by
  rcases h.props with hnil | hprops
  · rw [hnil] at hmember
    cases hmember
  · exact Nat.lt_trans (height_lt_of_mem hmember)
      (height_lt_of_mem (Keyed.mem_of_get?_eq_some hprops))

theorem heightOfMembers_props_le (he : FlatDefaults e) (h : n.ReadFrom members) :
    heightOfMembers (adjustProps e.kind n.props n.text (e.translateProps n.props)) ≤
      heightOfMembers members := by
  have hpos := heightOfMembers_pos h
  rw [heightOfMembers_le_iff]
  intro member hmember
  rcases mem_of_mem_adjustProps hmember with htranslated | hzero
  · rcases Mapping.mem_of_mem_translateOver htranslated with hdefault | ⟨key, hsource⟩
    · exact Nat.lt_of_lt_of_le (heightOfMembers_le_iff.mp he member hdefault) hpos
    · exact height_lt_of_mem_props h hsource
  · rw [hzero]
    exact hpos

theorem heightOfMembers_style_lt (h : n.ReadFrom members) {style : Keyed Json}
    (hstyle : e.translateStyle n.style = some style) :
    heightOfMembers style < heightOfMembers members := by
  obtain ⟨source, hsource, rfl⟩ := Option.map_eq_some_iff.mp hstyle
  have hlt := height_lt_of_mem (Keyed.mem_of_get?_eq_some (h.style source hsource))
  refine Nat.lt_of_le_of_lt ?_ hlt
  split
  · exact Nat.le_refl _
  · show _ ≤ heightOfMembers source
    rw [heightOfMembers_le_iff]
    intro member hmember
    rcases Mapping.mem_of_mem_translateOver hmember with hdefault | ⟨key, hin⟩
    · cases hdefault
    · exact height_lt_of_mem hin

theorem height_toJson_le {c : Component} {h : Nat} (hprops : heightOfMembers c.props < h)
    (hstyle : ∀ style, c.style = some style → heightOfMembers style < h)
    (hchildren : ∀ member ∈ childrenToJson c.children, member.2.height < h) :
    c.toJson.height ≤ h := by
  obtain ⟨type, props, style, children⟩ := c
  rw [toJson, Json.height, heightOfMembers_le_iff]
  intro member hmember
  rcases List.mem_append.mp hmember with hfront | hin
  · rcases List.mem_append.mp hfront with hfirst | hin
    · rcases List.mem_pair.mp hfirst with rfl | rfl
      · exact Nat.zero_lt_of_lt hprops
      · exact hprops
    · obtain ⟨-, hv⟩ := mem_member?.mp hin
      obtain ⟨s, hs, heq⟩ := Option.map_eq_some_iff.mp hv
      rw [← heq]
      exact hstyle s hs
  · exact hchildren member hin

/-- A component is no deeper than what its node was read from, but for the props
that a node may do without. -/
theorem height_step {r : Registry} (hr : ∀ e ∈ r.entries, FlatDefaults e)
    (h : n.ReadFrom members)
    (hchildren : ∀ member ∈ childrenToJson (ofNode r n).children,
      member.2.height ≤ heightOfMembers members) :
    (ofNode r n).toJson.height ≤ heightOfMembers members + 1 := by
  refine height_toJson_le ?_ ?_ fun member hmember => Nat.lt_succ_of_le (hchildren member hmember)
  · rw [ofNode_eq]
    split
    · next e he =>
        exact Nat.lt_succ_of_le
          (heightOfMembers_props_le (hr e (Registry.resolve_eq_some_iff.mp he).1) h)
    · exact Nat.succ_lt_succ (heightOfMembers_pos h)
  · intro style hstyle
    rw [ofNode_eq] at hstyle
    split at hstyle
    · exact Nat.lt_succ_of_lt (heightOfMembers_style_lt h hstyle)
    · cases hstyle

end

/-! ## Trees -/

section
variable {r : Registry}

mutual

/-- A translated tree is at most one step deeper than the tree it was made from,
however deep that is: only a leaf can gain a step. -/
theorem height_ofNode_le (hr : ∀ e ∈ r.entries, FlatDefaults e) : ∀ (n : Node) {v : Json},
    Node.ofJson v = .valid n → (ofNode r n).toJson.height ≤ v.height + 1
  | ⟨id, type, props, style, children, textId, text⟩, v, h => by
      obtain ⟨members, rfl, hread⟩ := Node.readFrom_of_ofJson h
      refine height_step hr hread ?_
      rw [children_ofNode, ← ofChildren_eq_map]
      exact height_ofChildren_le hr children hread.children

theorem height_ofChildren_le (hr : ∀ e ∈ r.entries, FlatDefaults e) :
    ∀ (children : Option (List Node)) {members : Keyed Json},
      Node.childrenOf members = .valid children →
      ∀ member ∈ childrenToJson (ofChildren r children),
        member.2.height ≤ heightOfMembers members
  | none, _, _, _, hmember => nomatch hmember
  | some nodes, members, h, member, hmember => by
      obtain ⟨items, hitems, hnodes⟩ := Node.childrenOf_eq_some h
      have hle := heightOfItems_ofNodes_le hr nodes hnodes
      have hlt := height_lt_of_mem (Keyed.mem_of_get?_eq_some hitems)
      rw [List.mem_singleton.mp hmember]
      exact Nat.le_trans hle hlt

theorem heightOfItems_ofNodes_le (hr : ∀ e ∈ r.entries, FlatDefaults e) :
    ∀ (nodes : List Node) {items : List Json},
      List.Forall₂ (fun v n => Node.ofJson v = .valid n) items nodes →
      heightOfItems (listToJson (ofNodes r nodes)) ≤ heightOfItems items + 1
  | [], _, _ => Nat.zero_le _
  | n :: nodes, _, .cons hn hnodes => by
      have hfirst := height_ofNode_le hr n hn
      have hrest := heightOfItems_ofNodes_le hr nodes hnodes
      rw [ofNodes, listToJson, heightOfItems, heightOfItems]
      omega

end

end

/-- A leaf without props is one step deep, and its component is two. -/
example : (Node.toJson ⟨none, "Text", [], none, none, none, none⟩).height = 1 ∧
    (ofNode .builtin ⟨none, "Text", [], none, none, none, none⟩).toJson.height = 2 := by
  decide

end Component

/-! ## Messages -/

namespace Wire

theorem Message.height_toJson_le {m : Message} {h : Nat} (hpos : 0 < h)
    (hdata : ∀ data, m.data = some data → heightOfMembers data < h) : m.toJson.height ≤ h := by
  rw [toJson, Json.height, heightOfMembers_le_iff]
  intro member hmember
  rcases List.mem_append.mp hmember with hfront | hin
  · rcases List.mem_append.mp hfront with hfirst | hin
    · rcases List.mem_pair.mp hfirst with rfl | rfl <;> exact hpos
    · unfold sessionMember at hin
      split at hin
      · split at hin
        · cases hin
        · rw [List.mem_singleton.mp hin]
          exact hpos
      · cases hin
  · unfold dataMember at hin
    split at hin
    · next data heq =>
        rw [List.mem_singleton.mp hin]
        exact hdata data heq
    · cases hin

theorem Message.height_appConfig_le (now : String) (c : AppConfig) (id : Option String) :
    (appConfig now c id).toJson.height ≤ c.toJson.height + 1 := by
  refine height_toJson_le (Nat.succ_pos _) fun data hdata => ?_
  cases hdata
  exact Nat.lt_succ_self _

theorem Message.height_componentSpec_le {components : Json} {current : Option AppConfig} {h : Nat}
    (hcomponents : components.height < h)
    (hcurrent : ∀ c, current = some c → c.toJson.height < h) (now : String) (d : Ui.Document)
    (id : Option String) :
    (componentSpec now d components current id).toJson.height ≤ h + 1 := by
  have hpos : 0 < h := Nat.zero_lt_of_lt hcomponents
  refine height_toJson_le (Nat.succ_pos _) fun data hdata => Nat.lt_succ_of_le ?_
  cases hdata
  rw [heightOfMembers_le_iff]
  simp only [List.forall_mem_cons, List.not_mem_nil, false_implies, implies_true, and_true]
  refine ⟨hpos, hpos, hpos, hcomponents, hpos, ?_⟩
  cases current with
  | none => exact hpos
  | some c => exact hcurrent c rfl

section
variable {maxSize limit : Int} {frame : List UInt8} {e : Envelope}

/-- What a frame brings is one step less deep than the frame may be. -/
theorem height_payload_lt (h : parseEnvelope maxSize limit frame = .ok e) :
    (e.payload.height : Int) < limit := by
  obtain ⟨members, -, hdepth, hfrom⟩ := parseEnvelope_ok h
  have hheight := (Json.checkDepth_eq_ok_iff.mp hdepth).2
  rw [Json.height] at hheight
  have hlt : e.payload.height < heightOfMembers members := by
    rw [Envelope.payload]
    cases hdata : e.data with
    | none => exact Nat.zero_lt_of_lt (height_lt_of_mem (Keyed.mem_of_get?_eq_some hfrom.type))
    | some data => exact height_lt_of_mem (Keyed.mem_of_get?_eq_some (hfrom.data data hdata))
  omega

end

end Wire

/-! ## Messages and the frames behind them -/

section
variable {maxSize limit : Int} {frame : List UInt8} {e : Wire.Envelope}
  (hparse : Wire.parseEnvelope maxSize limit frame = .ok e)
include hparse

/-- A configuration that came in under a limit, or is no deeper than one that is
all defaults. -/
theorem AppConfig.height_le_of_parsed {c : AppConfig} (hc : ofJson e.payload = .valid c) :
    (c.toJson.height : Int) ≤ max (limit - 1) 2 := by
  have hlt := Wire.height_payload_lt hparse
  have hle := height_toJson_le hc
  omega

theorem Wire.Message.height_appConfig_le_of_parsed {c : AppConfig}
    (hc : AppConfig.ofJson e.payload = .valid c) (now : String) (id : Option String) :
    ((appConfig now c id).toJson.height : Int) ≤ limit + 1 := by
  have hlt := Wire.height_payload_lt hparse
  have hpos := AppConfig.height_pos hc
  have hconfig := AppConfig.height_toJson_le hc
  have hle := height_appConfig_le now c id
  omega

theorem Wire.Message.height_componentSpec_le_of_parsed {r : Mapping.Registry}
    (hr : ∀ e ∈ r.entries, Component.FlatDefaults e) {now : String} {d : Ui.Document}
    (hd : Ui.Document.ofJson now e.payload = .valid d) {current : Option AppConfig}
    (hcurrent : ∀ c, current = some c → (c.toJson.height : Int) ≤ max (limit - 1) 2)
    (id : Option String) :
    ((componentSpec now d (Component.ofNode r d.tree).toJson current id).toJson.height : Int) ≤
      limit + 1 := by
  have hlt := Wire.height_payload_lt hparse
  obtain ⟨members, tree, heq, htree, hread⟩ := Ui.Document.tree_of_ofJson hd
  obtain ⟨parts, hobj, hfrom⟩ := Ui.Node.readFrom_of_ofJson hread
  have hbelow := height_lt_of_mem (Keyed.mem_of_get?_eq_some htree)
  have hpos := Component.heightOfMembers_pos hfrom
  have hcomponent := Component.height_ofNode_le hr d.tree hread
  rw [heq, Json.height] at hlt
  rw [hobj, Json.height] at hbelow hcomponent
  obtain ⟨h, rfl⟩ : ∃ h : Nat, limit = h := ⟨limit.toNat, by omega⟩
  have hle : (componentSpec now d (Component.ofNode r d.tree).toJson current id).toJson.height ≤
      h + 1 := by
    refine height_componentSpec_le (by omega) (fun c hc => ?_) now d id
    have hconfig := hcurrent c hc
    omega
  omega

end

end ScreenBridge
