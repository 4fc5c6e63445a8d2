import Mathlib.Data.List.Forall2
import ScreenBridge.Ui.Document
import ScreenBridge.Wire.Envelope

/-!
# What a value said if it was read

Reading a record goes field by field, so that all issues are listed; once it
succeeds the order is of no interest any more, only what stood under which key.
The lemmas here turn a successful reading around. A field with one name comes
from the member under that name or from its default, a nullable one from null or
from a value that could be read, and so `Node.ReadFrom` has for each part of a
node the member it came from. The children of a node come one from each item of
a list, in order.
-/

namespace ScreenBridge

open Schema (Checked)

/-! ## Fields -/

namespace Schema

variable {α : Type} {members : Keyed Json} {key : String} {read : Json → Checked α} {v : Json}

theorem under_eq_valid {place : Place} {c : Checked α} {a : α} :
    c.under place = .valid a ↔ c = .valid a := by
  cases c <;> simp [Checked.under]

theorem present?_singleton : present? members [key] = (members.get? key).map fun v => (key, v) := by
  rw [present?]
  cases members.get? key <;> rfl

theorem required_eq_valid {names : List String} {a : α}
    (h : required members names read = .valid a) :
    ∃ name v, present? members names = some (name, v) ∧ read v = .valid a := by
  unfold required at h
  split at h
  · next name v hv => exact ⟨name, v, hv, under_eq_valid.mp h⟩
  · cases h

theorem required_one_eq_valid {a : α} (h : required members [key] read = .valid a) :
    ∃ v, members.get? key = some v ∧ read v = .valid a := by
  obtain ⟨name, v, hpresent, hread⟩ := required_eq_valid h
  rw [present?_singleton, Option.map_eq_some_iff] at hpresent
  obtain ⟨v, hv, heq⟩ := hpresent
  cases heq
  exact ⟨v, hv, hread⟩

theorem optional_one_eq_valid {a default : α} (h : optional members [key] default read = .valid a) :
    (members.get? key = none ∧ a = default) ∨
      ∃ v, members.get? key = some v ∧ read v = .valid a := by
  rw [optional, present?_singleton] at h
  cases hv : members.get? key with
  | none =>
      rw [hv] at h
      cases h
      exact .inl ⟨rfl, rfl⟩
  | some v =>
      rw [hv] at h
      exact .inr ⟨v, rfl, under_eq_valid.mp h⟩

theorem string_eq_valid {s : String} : string v = .valid s ↔ v = .str s := by
  cases v <;> simp [string, Checked.fail]

theorem object_eq_valid {ms : Keyed Json} : object v = .valid ms ↔ v = .obj ms := by
  cases v <;> simp [object, Checked.fail]

theorem eq_str_of_nonEmptyString {s : String} (h : nonEmptyString v = .valid s) : v = .str s := by
  unfold nonEmptyString at h
  split at h
  · split at h <;> cases h
    rfl
  · cases h

theorem ne_empty_of_nonEmptyString {s : String} (h : nonEmptyString v = .valid s) : s ≠ "" := by
  unfold nonEmptyString at h
  split at h
  · split at h
    · cases h
    · next hne =>
        cases h
        simpa using hne
  · cases h

theorem nullable_eq_some {a : α} (h : nullable read v = .valid (some a)) : read v = .valid a := by
  unfold nullable at h
  split at h
  · cases h
  · rw [Checked.map_eq_valid] at h
    obtain ⟨a', ha, heq⟩ := h
    cases heq
    exact ha

/-- A nullable field with a value has it from its member. -/
theorem optional_nullable_eq_some {a : α}
    (h : optional members [key] none (nullable read) = .valid (some a)) :
    ∃ v, members.get? key = some v ∧ read v = .valid a := by
  rcases optional_one_eq_valid h with ⟨-, heq⟩ | ⟨v, hv, hread⟩
  · cases heq
  · exact ⟨v, hv, nullable_eq_some hread⟩

end Schema

open Schema

/-! ## Nodes -/

namespace Ui.Node

/-- The members that the parts of a node were read from. -/
structure ReadFrom (members : Keyed Json) (n : Node) : Prop where
  type : members.get? "type" = some (.str n.type)
  props : n.props = [] ∨ members.get? "props" = some (.obj n.props)
  style : ∀ style, n.style = some style → members.get? "style" = some (.obj style)
  children : childrenOf members = .valid n.children
  text : ∀ text, n.text = some text → members.get? "text" = some (.str text)

theorem readFrom_of_ofJson {v : Json} {n : Node} (h : ofJson v = .valid n) :
    ∃ members, v = .obj members ∧ ReadFrom members n := by
  cases v with
  | obj members =>
      simp only [ofJson, Checked.map_eq, Checked.seq_eq, Checked.apply_eq_valid,
        Checked.map_eq_valid] at h
      obtain ⟨_, text, ⟨_, _, ⟨_, children, ⟨_, style, ⟨_, props, ⟨_, type, ⟨_, -, rfl⟩,
        htype, rfl⟩, hprops, rfl⟩, hstyle, rfl⟩, hchildren, rfl⟩, -, rfl⟩, htext, rfl⟩ := h
      refine ⟨members, rfl, ?_, ?_, ?_, hchildren, ?_⟩
      · obtain ⟨v, hv, hread⟩ := required_one_eq_valid htype
        rw [hv, eq_str_of_nonEmptyString hread]
      · rcases optional_one_eq_valid hprops with ⟨-, heq⟩ | ⟨v, hv, hread⟩
        · exact .inl heq
        · exact .inr (by rw [hv, object_eq_valid.mp hread])
      · rintro style rfl
        obtain ⟨v, hv, hread⟩ := optional_nullable_eq_some hstyle
        rw [hv, object_eq_valid.mp hread]
      · rintro text rfl
        obtain ⟨v, hv, hread⟩ := optional_nullable_eq_some htext
        rw [hv, string_eq_valid.mp hread]
  | null | bool | int | real | str | arr => cases h

theorem nodesFrom_eq_valid {i : Nat} {items : List Json} {nodes : List Node}
    (h : nodesFrom i items = .valid nodes) :
    List.Forall₂ (fun v n => ofJson v = .valid n) items nodes := by
  induction items generalizing i nodes with
  | nil =>
      cases h
      exact .nil
  | cons v items ih =>
      simp only [nodesFrom, Checked.map_eq, Checked.seq_eq, Checked.apply_eq_valid,
        Checked.map_eq_valid] at h
      obtain ⟨_, rest, ⟨n, hn, rfl⟩, hrest, rfl⟩ := h
      exact .cons (under_eq_valid.mp hn) (ih hrest)

theorem childrenOf_eq_some {members : List (String × Json)} {nodes : List Node}
    (h : childrenOf members = .valid (some nodes)) :
    ∃ items, Keyed.get? members "children" = some (.arr items) ∧
      List.Forall₂ (fun v n => ofJson v = .valid n) items nodes := by
  induction members with
  | nil => cases h
  | cons member rest ih =>
      obtain ⟨key, v⟩ := member
      rw [childrenOf.eq_def] at h
      dsimp only at h
      rw [Keyed.get?_cons]
      split at h
      · next hkey =>
          rw [if_pos hkey]
          cases v with
          | arr items =>
              rw [under_eq_valid, Checked.map_eq_valid] at h
              obtain ⟨_, hnodes, heq⟩ := h
              cases heq
              exact ⟨items, rfl, nodesFrom_eq_valid hnodes⟩
          | null | bool | int | real | str | obj => cases h
      · next hkey =>
          rw [if_neg hkey]
          exact ih h

end Ui.Node

/-! ## Documents and envelopes -/

theorem Ui.Document.tree_of_ofJson {now : String} {v : Json} {d : Document}
    (h : ofJson now v = .valid d) :
    ∃ (members : Keyed Json) (tree : Json), v = .obj members ∧
      members.get? "tree" = some tree ∧ Node.ofJson tree = .valid d.tree := by
  cases v with
  | obj members =>
      simp only [ofJson, record, Checked.map_eq, Checked.seq_eq, Checked.apply_eq_valid,
        Checked.map_eq_valid] at h
      obtain ⟨_, _, ⟨_, _, ⟨_, _, ⟨_, tree, ⟨_, _, ⟨_, _, ⟨_, _, ⟨_, -, rfl⟩, -, rfl⟩, -, rfl⟩,
        -, rfl⟩, htree, rfl⟩, -, rfl⟩, -, rfl⟩, -, rfl⟩ := h
      obtain ⟨v, hv, hread⟩ := required_one_eq_valid htree
      exact ⟨members, v, rfl, hv, hread⟩
  | null | bool | int | real | str | arr => cases h

/-- A screen has no state or that of its member. -/
theorem Ui.Document.state_of_ofJson {now : String} {members : Keyed Json} {d : Document}
    (h : ofJson now (.obj members) = .valid d) :
    d.state = [] ∨ members.get? "state" = some (.obj d.state) := by
  simp only [ofJson, record, Checked.map_eq, Checked.seq_eq, Checked.apply_eq_valid,
    Checked.map_eq_valid] at h
  obtain ⟨_, _, ⟨_, _, ⟨_, state, ⟨_, _, ⟨_, _, ⟨_, _, ⟨_, _, ⟨_, -, rfl⟩, -, rfl⟩, -, rfl⟩,
    -, rfl⟩, -, rfl⟩, hstate, rfl⟩, -, rfl⟩, -, rfl⟩ := h
  rcases optional_one_eq_valid hstate with ⟨-, heq⟩ | ⟨v, hv, hread⟩
  · exact .inl heq
  · exact .inr (by rw [hv, object_eq_valid.mp hread])

/-- The members that the parts of an envelope were read from. -/
structure Wire.Envelope.ReadFrom (members : Keyed Json) (e : Envelope) : Prop where
  type : members.get? "type" = some (.str e.type)
  data : ∀ data, e.data = some data → members.get? "data" = some (.obj data)

theorem Wire.Envelope.readFrom_of_ofJson {members : Keyed Json} {e : Envelope}
    (h : ofJson (.obj members) = .valid e) : ReadFrom members e := by
  simp only [ofJson, record, Checked.map_eq, Checked.seq_eq, Checked.apply_eq_valid,
    Checked.map_eq_valid] at h
  obtain ⟨_, data, ⟨_, _, ⟨_, _, ⟨type, htype, rfl⟩, -, rfl⟩, -, rfl⟩, hdata, rfl⟩ := h
  constructor
  · obtain ⟨v, hv, hread⟩ := required_one_eq_valid htype
    rw [hv, eq_str_of_nonEmptyString hread]
  · rintro data rfl
    obtain ⟨v, hv, hread⟩ := optional_nullable_eq_some hdata
    rw [hv, object_eq_valid.mp hread]

/-- A frame that was taken holds an object of limited nesting. -/
theorem Wire.parseEnvelope_ok {maxSize maxDepth : Int} {frame : List UInt8} {e : Envelope}
    (h : parseEnvelope maxSize maxDepth frame = .ok e) :
    ∃ members, Json.readObject frame = .ok members ∧
      Json.checkDepth maxDepth 0 (.obj members) = .ok () ∧ e.ReadFrom members := by
  unfold parseEnvelope at h
  split at h
  · cases h
  split at h
  · cases h
  · cases h
  next members hread =>
  split at h
  · cases h
  next hdepth =>
  split at h
  · next hvalid =>
      cases h
      exact ⟨members, hread, hdepth, Envelope.readFrom_of_ofJson hvalid⟩
  · cases h

end ScreenBridge
