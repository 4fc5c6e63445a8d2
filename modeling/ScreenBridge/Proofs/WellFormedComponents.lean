import ScreenBridge.Component.Check
import ScreenBridge.Proofs.NodeMembers
import ScreenBridge.Proofs.TranslatedTree

/-!
# Components that pass their check

`WellFormed` says of a value what the check before sending looks for, node by
node and without paths or an order of faults; the check accepts exactly the
values that are (`checkNode_eq_ok_iff`). What a translation puts on the wire is
always one of them. The writer leaves out what is not there, so the only thing
that could be missing is a tag, and a valid entry has one. Whatever a widget
brings along ends up below `props` and `style`, where the check does not look,
so a translated tree can be refused for its size only.
-/

namespace ScreenBridge

open Mapping (Entry Registry)
open Schema (Checked member?)
open Ui (Node)

/-! ## Valid entries -/

/-- An entry as it can be read: it is for some type and has a tag. -/
structure Mapping.Entry.Valid (e : Entry) : Prop where
  sourceType : e.sourceType ≠ ""
  targetTag : e.targetTag ≠ ""

theorem Mapping.Entry.valid_of_ofJson {v : Json} {e : Entry} (h : Entry.ofJson v = .valid e) :
    e.Valid := by
  cases v with
  | obj members =>
      simp only [Entry.ofJson, Schema.record, Checked.map_eq, Checked.seq_eq,
        Checked.apply_eq_valid, Checked.map_eq_valid] at h
      obtain ⟨_, _, ⟨_, _, ⟨_, _, ⟨_, _, ⟨_, _, ⟨_, tag, ⟨type, htype, rfl⟩, htag, rfl⟩,
        -, rfl⟩, -, rfl⟩, -, rfl⟩, -, rfl⟩, -, rfl⟩ := h
      obtain ⟨_, _, -, htype⟩ := Schema.required_eq_valid htype
      obtain ⟨_, _, -, htag⟩ := Schema.required_eq_valid htag
      exact ⟨Schema.ne_empty_of_nonEmptyString htype, Schema.ne_empty_of_nonEmptyString htag⟩
  | null | bool | int | real | str | arr => cases h

namespace Component

/-! ## What the check looks for -/

/-- The members of a component apart from its children. -/
structure WellFormedMembers (members : Keyed Json) : Prop where
  type : ∃ tag, members.get? "type" = some (.str tag) ∧ tag ≠ ""
  props : ∃ props, members.get? "props" = some (.obj props)
  style : ∀ v, members.get? "style" = some v → ∃ style, v = .obj style

/-- A component: well-formed members, and well-formed components in the list of
its children if it has one. -/
inductive WellFormed : Json → Prop where
  | leaf {members : Keyed Json} (h : WellFormedMembers members)
      (hchildren : members.get? "children" = none ∨ members.get? "children" = some .null) :
      WellFormed (.obj members)
  | parent {members : Keyed Json} {items : List Json} (h : WellFormedMembers members)
      (hchildren : members.get? "children" = some (.arr items))
      (hitems : ∀ x ∈ items, WellFormed x) : WellFormed (.obj members)

theorem memberDefect?_eq_none_iff {members : Keyed Json} :
    memberDefect? members = none ↔ WellFormedMembers members := by
  unfold memberDefect?
  extract_lets typed styled
  have htype : typed = true ↔ ∃ tag, members.get? "type" = some (.str tag) ∧ tag ≠ "" := by
    unfold typed
    cases members.get? "type" with
    | none => simp
    | some v => cases v <;> simp
  have hprops : ((members.get? "props").bind Json.members?).isNone = false ↔
      ∃ props, members.get? "props" = some (.obj props) := by
    cases members.get? "props" with
    | none => simp
    | some v => cases v <;> simp [Json.members?]
  have hstyle : styled = true ↔
      ∀ v, members.get? "style" = some v → ∃ style, v = .obj style := by
    unfold styled
    cases members.get? "style" with
    | none => simp
    | some v => cases v <;> simp
  have hfields : WellFormedMembers members ↔ typed = true ∧
      ((members.get? "props").bind Json.members?).isNone = false ∧ styled = true := by
    rw [htype, hprops, hstyle]
    exact ⟨fun h => ⟨h.type, h.props, h.style⟩, fun h => ⟨h.1, h.2.1, h.2.2⟩⟩
  rw [hfields]
  cases typed <;> cases ((members.get? "props").bind Json.members?).isNone <;>
    cases styled <;> simp

/-! ## The check accepts what is well-formed -/

/-- The check goes on to the children, whatever stands between. -/
theorem checkChildren_eq (path : List Nat) (members : List (String × Json)) :
    checkChildren path members = match Keyed.get? members "children" with
      | none | some .null => .ok ()
      | some (.arr items) => checkNodes path 0 items
      | some _ => .error (.malformed path.reverse .children) := by
  induction members with
  | nil => rw [checkChildren, Keyed.get?_nil]
  | cons member rest ih =>
      obtain ⟨key, v⟩ := member
      rw [checkChildren.eq_def, Keyed.get?_cons]
      dsimp only
      by_cases hkey : key = "children"
      · rw [if_pos hkey, if_pos hkey]
        cases v <;> rfl
      · rw [if_neg hkey, if_neg hkey, ih]

theorem checkNodes_eq_ok_iff {path : List Nat} {i : Nat} {items : List Json} :
    checkNodes path i items = .ok () ↔
      ∀ k x, items[k]? = some x → checkNode ((i + k) :: path) x = .ok () := by
  induction items generalizing i with
  | nil => simp [checkNodes]
  | cons x rest ih =>
      have hrest : checkNodes path (i + 1) rest = .ok () ↔
          ∀ k x', (x :: rest)[k + 1]? = some x' →
            checkNode ((i + (k + 1)) :: path) x' = .ok () := by
        rw [ih]
        simp only [List.getElem?_cons_succ, Nat.add_assoc, Nat.add_comm 1]
      rw [checkNodes]
      cases hx : checkNode (i :: path) x with
      | ok _ =>
          simp only [hrest]
          refine ⟨fun h k => ?_, fun h k => h (k + 1)⟩
          cases k with
          | zero =>
              intro x' heq
              cases heq
              exact hx
          | succ k => exact h k
      | error e =>
          refine ⟨fun h => (nomatch h), fun h => ?_⟩
          exact absurd (h 0 x rfl) (by rw [Nat.add_zero, hx]; nofun)

theorem checkNode_obj_eq_ok_iff {path : List Nat} {members : Keyed Json} :
    checkNode path (.obj members) = .ok () ↔
      WellFormedMembers members ∧ checkChildren path members = .ok () := by
  rw [checkNode, ← memberDefect?_eq_none_iff]
  cases memberDefect? members <;> simp

theorem WellFormed.checkNode {v : Json} (h : WellFormed v) (path : List Nat) :
    checkNode path v = .ok () := by
  induction h generalizing path with
  | leaf h hchildren =>
      rw [checkNode_obj_eq_ok_iff, checkChildren_eq]
      rcases hchildren with hnone | hnull
      · rw [hnone]
        exact ⟨h, rfl⟩
      · rw [hnull]
        exact ⟨h, rfl⟩
  | parent h hchildren _ ih =>
      rw [checkNode_obj_eq_ok_iff, checkChildren_eq, hchildren]
      exact ⟨h, checkNodes_eq_ok_iff.mpr fun k x hx => ih x (List.mem_of_getElem? hx) _⟩

theorem sizeOf_lt_of_get? {members : Keyed Json} {key : String} {v : Json}
    (h : members.get? key = some v) : sizeOf v < sizeOf members := by
  induction members with
  | nil => cases h
  | cons member rest ih =>
      obtain ⟨k, v'⟩ := member
      rw [Keyed.get?_cons] at h
      split at h
      · cases h
        simp
        omega
      · have := ih h
        simp
        omega

theorem wellFormed_of_checkNode {v : Json} {path : List Nat} (h : checkNode path v = .ok ()) :
    WellFormed v := by
  match v with
  | .obj members =>
      obtain ⟨hmembers, hc⟩ := checkNode_obj_eq_ok_iff.mp h
      rw [checkChildren_eq] at hc
      match hchildren : Keyed.get? members "children" with
      | none => exact .leaf hmembers (.inl hchildren)
      | some .null => exact .leaf hmembers (.inr hchildren)
      | some (.arr items) =>
          rw [hchildren] at hc
          refine .parent hmembers hchildren fun x hx => ?_
          obtain ⟨k, hk⟩ := List.getElem?_of_mem hx
          exact wellFormed_of_checkNode (checkNodes_eq_ok_iff.mp hc k x hk)
      | some (.bool _) | some (.int _) | some (.real _) | some (.str _) | some (.obj _) =>
          rw [hchildren] at hc
          cases hc
  | .null | .bool _ | .int _ | .real _ | .str _ | .arr _ => cases h
termination_by sizeOf v
decreasing_by
  have hlt := List.sizeOf_lt_of_mem hx
  have hlt' := sizeOf_lt_of_get? hchildren
  simp at hlt' ⊢
  omega

theorem checkNode_eq_ok_iff {path : List Nat} {v : Json} :
    checkNode path v = .ok () ↔ WellFormed v :=
  ⟨wellFormed_of_checkNode, fun h => h.checkNode path⟩

/-! ## What is written is well-formed -/

theorem listToJson_eq_map (cs : List Component) : listToJson cs = cs.map toJson := by
  induction cs with
  | nil => rfl
  | cons c rest ih => rw [listToJson, ih, List.map_cons]

theorem wellFormed_toJson {c : Component} (htype : c.type ≠ "")
    (hchildren : ∀ cs, c.children = some cs → ∀ child ∈ cs, WellFormed child.toJson) :
    WellFormed c.toJson := by
  obtain ⟨type, props, style, children⟩ := c
  rw [toJson]
  have hmembers : WellFormedMembers ([("type", .str type), ("props", .obj props)] ++
      member? "style" (style.map .obj) ++ childrenToJson children) := by
    refine ⟨⟨type, rfl, htype⟩, ⟨props, rfl⟩, fun v hv => ?_⟩
    cases style <;> cases children <;> simp [member?, childrenToJson, Keyed.get?] at hv
    all_goals exact ⟨_, hv.symm⟩
  cases children with
  | none => exact .leaf hmembers (.inl (by cases style <;> rfl))
  | some cs =>
      refine @WellFormed.parent _ (listToJson cs) hmembers (by cases style <;> rfl) fun x hx => ?_
      rw [listToJson_eq_map] at hx
      obtain ⟨child, hchild, rfl⟩ := List.mem_map.mp hx
      exact hchildren cs rfl child hchild

/-! ## What is translated is well-formed -/

section
variable {r : Registry}

theorem type_ofNode_ne_empty (hr : ∀ e ∈ r.entries, e.targetTag ≠ "") (n : Node) :
    (ofNode r n).type ≠ "" := by
  rw [ofNode_eq]
  cases hresolve : r.resolve n.type false with
  | none => exact (by decide : Mapping.fallbackTag ≠ "")
  | some e => exact hr e (Registry.resolve_eq_some_iff.mp hresolve).1

theorem wellFormed_ofNode (hr : ∀ e ∈ r.entries, e.targetTag ≠ "") (n : Node) :
    WellFormed (ofNode r n).toJson := by
  refine wellFormed_toJson (type_ofNode_ne_empty hr n) fun cs hcs child hchild => ?_
  rw [children_ofNode] at hcs
  match hnodes : n.children with
  | none =>
      rw [hnodes] at hcs
      cases hcs
  | some nodes =>
      rw [hnodes] at hcs
      cases hcs
      obtain ⟨node, hnode, rfl⟩ := List.mem_map.mp hchild
      exact wellFormed_ofNode hr node
termination_by sizeOf n
decreasing_by
  obtain ⟨id, type, props, style, children, textId, text⟩ := n
  cases hnodes
  have hlt := List.sizeOf_lt_of_mem hnode
  simp
  omega

theorem check_ofNode (hr : ∀ e ∈ r.entries, e.targetTag ≠ "") (n : Node) (size : Nat) :
    check (ofNode r n).toJson size =
      if maxSize < size then .error (.tooLarge (.size "Component spec" size maxSize))
      else .ok () := by
  rw [check, Json.checkSize]
  by_cases hsize : maxSize < size
  · rw [if_pos hsize, if_pos hsize]
  · rw [if_neg hsize, if_neg hsize]
    exact (wellFormed_ofNode hr n).checkNode []

end

/-- With valid entries every part of a translated tree passes the check of its
nodes, so the tree is refused for its size only. -/
theorem check_translated {r : Registry} (hr : ∀ e ∈ r.entries, e.Valid) (n : Node) :
    (∀ path c, (ofNode r n).at? path = some c →
      WellFormed c.toJson ∧ ∀ place, checkNode place c.toJson = .ok ()) ∧
    ∀ size, check (ofNode r n).toJson size =
      if maxSize < size then .error (.tooLarge (.size "Component spec" size maxSize))
      else .ok () := by
  have htags : ∀ e ∈ r.entries, e.targetTag ≠ "" := fun e he => (hr e he).targetTag
  constructor
  · intro path c hc
    rw [at?_ofNode, Option.map_eq_some_iff] at hc
    obtain ⟨n', -, rfl⟩ := hc
    have hn := wellFormed_ofNode htags n'
    exact ⟨hn, hn.checkNode⟩
  · exact check_ofNode htags n

/-- An entry that renames props and styles to the names of members. -/
def lookalike : Entry where
  sourceType := "Card"
  targetTag := "section"
  kind := .button
  propRenames := some [("kind", "type"), ("enabled", "children")]
  styleRenames := some [("inner", "style")]

def lookalikes : Registry := ⟨[lookalike], List.nodup_singleton _⟩

/-- A card with props and a style that are called like members of a component,
around a widget of a type without an entry. -/
def confusable : Node where
  id := none
  type := "Card"
  props := [("kind", .null), ("props", .int 0), ("style", .arr []), ("enabled", .bool true)]
  style := some [("inner", .str ""), ("children", .null)]
  children := some [⟨none, "type", [], none, some [], none, none⟩]
  textId := none
  text := none

theorem check_translated_confusable :
    (∀ e ∈ lookalikes.entries, e.Valid) ∧
    (ofNode lookalikes confusable).props = [("props", .int 0), ("style", .arr []),
      ("type", .null), ("children", .bool true), ("disabled", .bool false)] ∧
    WellFormed (ofNode lookalikes confusable).toJson ∧
    check (ofNode lookalikes confusable).toJson 4194304 = .ok () ∧
    check (ofNode lookalikes confusable).toJson 4194305 =
      .error (.tooLarge (.size "Component spec" 4194305 maxSize)) := by
  have hread : Entry.ofJson lookalike.toJson = .valid lookalike := rfl
  have hvalid : ∀ e ∈ lookalikes.entries, e.Valid :=
    List.forall_mem_singleton.mpr (Entry.valid_of_ofJson hread)
  obtain ⟨hparts, hsize⟩ := check_translated hvalid confusable
  refine ⟨hvalid, by decide, (hparts [] _ rfl).1, ?_, ?_⟩
  · rw [hsize]
    rfl
  · rw [hsize]
    rfl

end Component

end ScreenBridge
