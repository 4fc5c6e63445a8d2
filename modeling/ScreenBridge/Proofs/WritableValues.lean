import ScreenBridge.Proofs.MessageHeight
import ScreenBridge.Proofs.ReadBack
import ScreenBridge.Proofs.ReadLength

/-!
# What comes in a frame can be written

The functions that make text of whole numbers have a result for every number, and stand for the
program where the number has few enough digits. The reader lets no other number in: it refuses
one of more than `maxDigits` characters, and a list or an object holds nothing but what was read.
A screen holds the values of its frame as they came, so all that its sources are written from is
writable.
-/

namespace ScreenBridge

namespace Json

theorem areShort_items {xs : List Json} :
    AreShort (wholesOfItems xs) ↔ ∀ x ∈ xs, AreShort x.wholes := by
  induction xs with
  | nil => exact iff_of_true nofun nofun
  | cons x xs ih => rw [wholesOfItems, areShort_append, ih, List.forall_mem_cons]

theorem areShort_members {ms : List (String × Json)} :
    AreShort (wholesOfMembers ms) ↔ ∀ m ∈ ms, AreShort m.2.wholes := by
  induction ms with
  | nil => exact iff_of_true nofun nofun
  | cons m ms ih => rw [wholesOfMembers, areShort_append, ih, List.forall_mem_cons]

/-! ## The reader -/

section
variable {size fuel depth : Nat} {first : Bool} {bytes rest : Bytes} {v : Json}

theorem areShort_readNumber {b : UInt8} (hb : (isDigitByte b || b == 0x2d) = true)
    (h : readNumber size (b :: bytes) = .ok (v, rest)) : AreShort v.wholes := by
  obtain ⟨negative, digits, hread, hpos, -⟩ := readNumber_ok hb h
  obtain ⟨_, _, _, -, -, ⟨n, rfl, hlength, rfl⟩ | ⟨-, x, rfl, -⟩⟩ := readUnsigned_ok hread
  · have hvalue := digitsValue_lt (isDigitByte_of_mem_takeWhile digits)
    intro i hi
    rw [List.mem_singleton.mp hi]
    exact Nat.le_trans (length_intChars_le negative hpos hvalue) hlength
  · exact nofun

/-- With so much fuel every whole number that is read is short. -/
structure ReadsShort (size fuel : Nat) : Prop where
  value : ∀ {depth bytes v rest}, readValue size fuel depth bytes = .ok (v, rest) →
    AreShort v.wholes
  items : ∀ {depth first acc bytes v rest}, (∀ x ∈ acc, AreShort x.wholes) →
    readItems size fuel depth first acc bytes = .ok (v, rest) → AreShort v.wholes
  item : ∀ {depth acc bytes v rest}, (∀ x ∈ acc, AreShort x.wholes) →
    readItem size fuel depth acc bytes = .ok (v, rest) → AreShort v.wholes
  members : ∀ {depth first acc bytes v rest}, (∀ m ∈ acc, AreShort m.2.wholes) →
    readMembers size fuel depth first acc bytes = .ok (v, rest) → AreShort v.wholes
  member : ∀ {depth acc bytes v rest}, (∀ m ∈ acc, AreShort m.2.wholes) →
    readMember size fuel depth acc bytes = .ok (v, rest) → AreShort v.wholes

namespace ReadsShort

theorem zero : ReadsShort size 0 := by
  refine ⟨?_, ?_, ?_, ?_, ?_⟩
  · intro depth bytes v rest h
    rw [readValue] at h
    cases h
  · intro depth first acc bytes v rest _ h
    rw [readItems] at h
    cases h
  · intro depth acc bytes v rest _ h
    rw [readItem] at h
    cases h
  · intro depth first acc bytes v rest _ h
    rw [readMembers] at h
    cases h
  · intro depth acc bytes v rest _ h
    rw [readMember] at h
    cases h

theorem value_succ (ih : ReadsShort size fuel)
    (h : readValue size (fuel + 1) depth bytes = .ok (v, rest)) : AreShort v.wholes := by
  obtain ⟨b, more, -, hread⟩ := readValue_ok h
  cases hread with
  | string hs => exact nofun
  | object h => exact ih.members (List.forall_mem_nil _) h
  | list h => exact ih.items (List.forall_mem_nil _) h
  | word hv _ => rcases hv with rfl | ⟨t, rfl⟩ <;> exact nofun
  | number hnum hn => exact areShort_readNumber hnum hn

theorem items_succ (ih : ReadsShort size fuel) {acc : List Json}
    (hacc : ∀ x ∈ acc, AreShort x.wholes)
    (h : readItems size (fuel + 1) depth first acc bytes = .ok (v, rest)) :
    AreShort v.wholes := by
  rcases readItems_ok h with ⟨rfl, -⟩ | ⟨here, -, h⟩
  · exact areShort_items.mpr fun x hx => hacc x (List.mem_reverse.mp hx)
  · exact ih.item hacc h

theorem item_succ (ih : ReadsShort size fuel) {acc : List Json}
    (hacc : ∀ x ∈ acc, AreShort x.wholes)
    (h : readItem size (fuel + 1) depth acc bytes = .ok (v, rest)) : AreShort v.wholes := by
  rw [readItem_succ] at h
  cases hx : readValue size fuel depth bytes with
  | error e =>
      rw [hx] at h
      cases h
  | ok r =>
      rw [hx] at h
      exact ih.items (List.forall_mem_cons.mpr ⟨ih.value hx, hacc⟩) h

theorem members_succ (ih : ReadsShort size fuel) {acc : Keyed Json}
    (hacc : ∀ m ∈ acc, AreShort m.2.wholes)
    (h : readMembers size (fuel + 1) depth first acc bytes = .ok (v, rest)) :
    AreShort v.wholes := by
  rcases readMembers_ok h with ⟨rfl, -⟩ | ⟨here, -, h⟩
  · exact areShort_members.mpr hacc
  · exact ih.member hacc h

theorem member_succ (ih : ReadsShort size fuel) {acc : Keyed Json}
    (hacc : ∀ m ∈ acc, AreShort m.2.wholes)
    (h : readMember size (fuel + 1) depth acc bytes = .ok (v, rest)) : AreShort v.wholes := by
  obtain ⟨_, key, _, _, x, _, -, -, -, hx, h⟩ := readMember_ok h
  refine ih.members (fun m hm => ?_) h
  rcases Keyed.mem_of_mem_set hm with hold | rfl
  · exact hacc m hold
  · exact ih.value hx

end ReadsShort

theorem readsShort (size fuel : Nat) : ReadsShort size fuel := by
  induction fuel with
  | zero => exact .zero
  | succ fuel ih =>
      exact ⟨ih.value_succ, ih.items_succ, ih.item_succ, ih.members_succ, ih.member_succ⟩

/-- The whole numbers of an object that is read from some bytes. -/
theorem areShort_readObject {members : Keyed Json} (h : readObject bytes = .ok members) :
    AreShort (wholesOfMembers members) := by
  obtain ⟨_, hread⟩ := readObject_ok h
  have hshort := (readsShort _ _).value hread
  rwa [wholes] at hshort

/-- A member of an object with short numbers only. -/
theorem AreShort.get? {members : Keyed Json} {key : String}
    (h : AreShort (wholesOfMembers members)) (hv : members.get? key = some v) :
    AreShort v.wholes :=
  areShort_members.mp h _ (Keyed.mem_of_get?_eq_some hv)

end

end Json

open Json (AreShort areShort_items areShort_members wholesOfMembers)

/-! ## Screens -/

namespace Ui.Node

/-- All that a node was given has short numbers only. -/
def GivenShort (n : Node) : Prop :=
  ∀ m ∈ n.props ++ n.style.getD [], AreShort m.2.wholes

theorem ReadFrom.givenShort {members : Keyed Json} {n : Node} (h : ReadFrom members n)
    (hshort : AreShort (wholesOfMembers members)) : n.GivenShort := by
  intro m hm
  rcases List.mem_append.mp hm with hprops | hstyle
  · rcases h.props with hnone | hsome
    · rw [hnone] at hprops
      cases hprops
    · exact areShort_members.mp (hshort.get? hsome) m hprops
  · cases hs : n.style with
    | none =>
        rw [hs] at hstyle
        cases hstyle
    | some style =>
        rw [hs] at hstyle
        exact areShort_members.mp (hshort.get? (h.style style hs)) m hstyle

mutual

/-- A tree that was read from a value with short numbers only. -/
theorem givenShort_of_ofJson : ∀ (n : Node) {v : Json}, ofJson v = .valid n → AreShort v.wholes →
    ∀ m ∈ n.preorder, m.GivenShort
  | ⟨id, type, props, style, children, textId, text⟩, v, h, hshort, m, hm => by
      obtain ⟨members, rfl, hread⟩ := readFrom_of_ofJson h
      rw [preorder] at hm
      rcases List.mem_cons.mp hm with rfl | hbelow
      · exact hread.givenShort hshort
      · exact givenShort_of_childrenOf children hread.children hshort m hbelow

theorem givenShort_of_childrenOf : ∀ (children : Option (List Node)) {members : Keyed Json},
    childrenOf members = .valid children → AreShort (wholesOfMembers members) →
    ∀ m ∈ preorderOfChildren children, m.GivenShort
  | none, _, _, _, _, hm => nomatch hm
  | some nodes, members, h, hshort, m, hm => by
      obtain ⟨items, hitems, hnodes⟩ := childrenOf_eq_some h
      exact givenShort_of_nodes nodes hnodes (areShort_items.mp (hshort.get? hitems)) m hm

theorem givenShort_of_nodes : ∀ (nodes : List Node) {items : List Json},
    List.Forall₂ (fun v n => ofJson v = .valid n) items nodes →
    (∀ x ∈ items, AreShort x.wholes) → ∀ m ∈ preorderOfNodes nodes, m.GivenShort
  | [], _, _, _, _, hm => nomatch hm
  | n :: nodes, x :: items, .cons hn hnodes, hshort, m, hm => by
      rw [List.forall_mem_cons] at hshort
      rw [preorderOfNodes] at hm
      rcases List.mem_append.mp hm with hfirst | hrest
      · exact givenShort_of_ofJson n hn hshort.1 m hfirst
      · exact givenShort_of_nodes nodes hnodes hshort.2 m hrest

end

end Ui.Node

/-- The payload of a frame that was taken. -/
theorem Wire.areShort_payload {maxSize limit : Int} {frame : List UInt8} {e : Envelope}
    (h : parseEnvelope maxSize limit frame = .ok e) : AreShort e.payload.wholes := by
  obtain ⟨members, hread, -, hfrom⟩ := parseEnvelope_ok h
  have hshort := Json.areShort_readObject hread
  rw [Envelope.payload]
  cases hdata : e.data with
  | none =>
      intro i hi
      cases hi
  | some data => exact hshort.get? (hfrom.data data hdata)

/-- All that the sources of a screen are written from can be written, if the screen came in a
frame: the props and the style of every widget, and the state. -/
theorem Ui.Document.isWritable_of_parsed {maxSize limit : Int} {frame : List UInt8}
    {e : Wire.Envelope} {now : String} {d : Document}
    (hparse : Wire.parseEnvelope maxSize limit frame = .ok e)
    (hd : ofJson now e.payload = .valid d) :
    (∀ n ∈ d.tree.preorder, ∀ m ∈ n.props ++ n.style.getD [], m.2.isWritable) ∧
    ∀ m ∈ d.state, m.2.isWritable := by
  have hshort := Wire.areShort_payload hparse
  obtain ⟨members, tree, hpayload, htree, hread⟩ := tree_of_ofJson hd
  rw [hpayload] at hshort
  constructor
  · intro n hn m hm
    exact Json.isWritable_of_areShort
      (Node.givenShort_of_ofJson d.tree hread (hshort.get? htree) n hn m hm)
  · intro m hm
    rcases state_of_ofJson (hpayload ▸ hd) with hnone | hsome
    · rw [hnone] at hm
      cases hm
    · exact Json.isWritable_of_areShort (areShort_members.mp (hshort.get? hsome) m hm)

end ScreenBridge
