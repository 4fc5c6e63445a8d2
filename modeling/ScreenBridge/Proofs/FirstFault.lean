import Mathlib.Data.List.Lex
import ScreenBridge.Proofs.WellFormedComponents

/-!
# The first fault of a component tree

The check goes down a tree and stops at the first thing that is wrong. What is
wrong at which place can be said without going anywhere: a value can lack a few
things (`Lacks`), a place is a list of indices, and a fault of a tree is what
the value at a place lacks. Pre-order is then the order of the lists, in which
a place comes before all places below it and before all that stand to the right
of it; the faults of one place are told apart by their rank.

A well-formed tree has no fault at all, which is why everything to the left of
a refused child is out of the question. The rest is a walk along the check.
-/

namespace ScreenBridge.Component

/-! ## Faults and their places -/

/-- A value that is wrong in one way. A value that is no object has nothing else wrong with it. -/
inductive Lacks : Json → Defect → Prop where
  | notObject {v : Json} (h : ∀ members, v ≠ .obj members) : Lacks v .notObject
  | type {members : Keyed Json} (h : ∀ tag, members.get? "type" = some (.str tag) → tag = "") :
      Lacks (.obj members) .type
  | props {members : Keyed Json} (h : ∀ props, members.get? "props" ≠ some (.obj props)) :
      Lacks (.obj members) .props
  | style {members : Keyed Json} {v : Json} (hv : members.get? "style" = some v)
      (h : ∀ style, v ≠ .obj style) : Lacks (.obj members) .style
  | children {members : Keyed Json} {v : Json} (hv : members.get? "children" = some v)
      (hnull : v ≠ .null) (h : ∀ items, v ≠ .arr items) : Lacks (.obj members) .children

/-- The order in which the faults of one value count. -/
def Defect.rank : Defect → Nat
  | .notObject => 0
  | .type => 1
  | .props => 2
  | .style => 3
  | .children => 4

/-- The values that stand where a component has its children. -/
def childItems : Json → List Json
  | .obj members =>
    match Keyed.get? members "children" with
    | some (.arr items) => items
    | _ => []
  | _ => []

/-- The value at a place. -/
def valueAt? (v : Json) : List Nat → Option Json
  | [] => some v
  | i :: path => (childItems v)[i]?.bind fun child => valueAt? child path

/-- Something is wrong at a place of a tree. -/
def FaultAt (v : Json) (path : List Nat) (d : Defect) : Prop :=
  ∃ x, valueAt? v path = some x ∧ Lacks x d

/-- A fault of a tree that all others come behind. -/
structure FirstFault (v : Json) (path : List Nat) (d : Defect) : Prop where
  fault : FaultAt v path d
  least : ∀ path' d', FaultAt v path' d' → path < path' ∨ path = path' ∧ d.rank ≤ d'.rank

variable {v : Json} {members : Keyed Json} {d : Defect}

theorem faultAt_nil_iff : FaultAt v [] d ↔ Lacks v d := by
  constructor
  · rintro ⟨x, hx, h⟩
    cases hx
    exact h
  · exact fun h => ⟨v, rfl, h⟩

theorem faultAt_cons_iff {i : Nat} {path : List Nat} :
    FaultAt v (i :: path) d ↔ ∃ x, (childItems v)[i]? = some x ∧ FaultAt x path d := by
  constructor
  · rintro ⟨y, hy, h⟩
    obtain ⟨x, hx, hat⟩ := Option.bind_eq_some_iff.mp hy
    exact ⟨x, hx, y, hat, h⟩
  · rintro ⟨x, hx, y, hat, h⟩
    exact ⟨y, Option.bind_eq_some_iff.mpr ⟨x, hx, hat⟩, h⟩

/-! ## Without faults -/

theorem WellFormedMembers.lacks (h : WellFormedMembers members) (hd : Lacks (.obj members) d) :
    d = .children := by
  cases hd with
  | notObject hobj => exact absurd rfl (hobj members)
  | type htype =>
      obtain ⟨tag, htag, hne⟩ := h.type
      exact absurd (htype tag htag) hne
  | props hprops =>
      obtain ⟨props, hp⟩ := h.props
      exact absurd hp (hprops props)
  | style hv hstyle =>
      obtain ⟨style, heq⟩ := h.style _ hv
      exact absurd heq (hstyle style)
  | children => rfl

theorem WellFormedMembers.not_lacks (h : WellFormedMembers members)
    (hchildren : ∀ v, members.get? "children" = some v → v = .null ∨ ∃ items, v = .arr items) :
    ¬ Lacks (.obj members) d := by
  intro hd
  obtain rfl := h.lacks hd
  cases hd with
  | children hv hnull hlist =>
      rcases hchildren _ hv with heq | ⟨items, heq⟩
      · exact hnull heq
      · exact hlist items heq

theorem WellFormed.not_lacks (h : WellFormed v) : ¬ Lacks v d := by
  cases h with
  | leaf h hchildren =>
      refine h.not_lacks fun v hv => .inl ?_
      rcases hchildren with hnone | hnull
      · rw [hnone] at hv
        cases hv
      · exact Option.some.inj (hv.symm.trans hnull)
  | parent h hchildren _ =>
      exact h.not_lacks fun v hv => .inr ⟨_, Option.some.inj (hv.symm.trans hchildren)⟩

theorem WellFormed.childItems {x : Json} (h : WellFormed v) (hx : x ∈ childItems v) :
    WellFormed x := by
  cases h with
  | leaf h hchildren =>
      rw [Component.childItems] at hx
      rcases hchildren with hnone | hnull
      · rw [hnone] at hx
        cases hx
      · rw [hnull] at hx
        cases hx
  | parent h hchildren hitems =>
      rw [Component.childItems, hchildren] at hx
      exact hitems x hx

theorem WellFormed.not_faultAt (h : WellFormed v) (path : List Nat) : ¬ FaultAt v path d := by
  induction path generalizing v with
  | nil =>
      rw [faultAt_nil_iff]
      exact h.not_lacks
  | cons i path ih =>
      rw [faultAt_cons_iff]
      rintro ⟨x, hx, hfault⟩
      exact ih (h.childItems (List.mem_of_getElem? hx)) hfault

/-! ## The first fault -/

namespace FirstFault

theorem of_root (h : Lacks v d) (hleast : ∀ d', Lacks v d' → d.rank ≤ d'.rank) :
    FirstFault v [] d where
  fault := faultAt_nil_iff.mpr h
  least path' d' h' := by
    cases path' with
    | nil => exact .inr ⟨rfl, hleast d' (faultAt_nil_iff.mp h')⟩
    | cons i path => exact .inl (List.nil_lt_cons i path)

theorem of_child {k : Nat} {x : Json} {path : List Nat} (h : FirstFault x path d)
    (hx : (childItems v)[k]? = some x) (hroot : ∀ d', ¬ Lacks v d')
    (hleft : ∀ j < k, ∀ y, (childItems v)[j]? = some y → WellFormed y) :
    FirstFault v (k :: path) d where
  fault := faultAt_cons_iff.mpr ⟨x, hx, h.fault⟩
  least path' d' h' := by
    cases path' with
    | nil => exact absurd (faultAt_nil_iff.mp h') (hroot d')
    | cons i rest =>
        obtain ⟨y, hy, hfault⟩ := faultAt_cons_iff.mp h'
        rcases Nat.lt_trichotomy i k with hlt | rfl | hgt
        · exact absurd hfault ((hleft i hlt y hy).not_faultAt rest)
        · obtain rfl : x = y := Option.some.inj (hx.symm.trans hy)
          rcases h.least rest d' hfault with hbefore | ⟨rfl, hrank⟩
          · exact .inl (List.cons_lt_cons_iff.mpr (.inr ⟨rfl, hbefore⟩))
          · exact .inr ⟨rfl, hrank⟩
        · exact .inl (List.cons_lt_cons_iff.mpr (.inl hgt))

end FirstFault

/-! ## Along the check -/

theorem not_lacks_notObject : ¬ Lacks (.obj members) .notObject := by
  intro h
  cases h with
  | notObject h => exact h members rfl

theorem lacks_type_iff : Lacks (.obj members) .type ↔
    ∀ tag, members.get? "type" = some (.str tag) → tag = "" := by
  constructor
  · intro h
    cases h with
    | type h => exact h
  · exact .type

theorem lacks_props_iff : Lacks (.obj members) .props ↔
    ∀ props, members.get? "props" ≠ some (.obj props) := by
  constructor
  · intro h
    cases h with
    | props h => exact h
  · exact .props

theorem lacks_style_iff : Lacks (.obj members) .style ↔
    ∃ v, members.get? "style" = some v ∧ ∀ style, v ≠ .obj style := by
  constructor
  · intro h
    cases h with
    | style hv h => exact ⟨_, hv, h⟩
  · rintro ⟨v, hv, h⟩
    exact .style hv h

/-- The check of the members tries one fault after the other. -/
theorem memberDefect?_cases (members : Keyed Json) :
    (Lacks (.obj members) .type ∧ memberDefect? members = some .type) ∨
    ¬ Lacks (.obj members) .type ∧
      ((Lacks (.obj members) .props ∧ memberDefect? members = some .props) ∨
      ¬ Lacks (.obj members) .props ∧
        ((Lacks (.obj members) .style ∧ memberDefect? members = some .style) ∨
        memberDefect? members = none)) := by
  unfold memberDefect?
  extract_lets typed styled
  have htype : Lacks (.obj members) .type ↔ (!typed) = true := by
    rw [lacks_type_iff]
    unfold typed
    cases members.get? "type" with
    | none => simp
    | some v => cases v <;> simp
  have hprops : Lacks (.obj members) .props ↔
      ((members.get? "props").bind Json.members?).isNone = true := by
    rw [lacks_props_iff]
    cases members.get? "props" with
    | none => simp
    | some v => cases v <;> simp [Json.members?]
  have hstyle : Lacks (.obj members) .style ↔ (!styled) = true := by
    rw [lacks_style_iff]
    unfold styled
    cases members.get? "style" with
    | none => simp
    | some v => cases v <;> simp
  rw [htype, hprops, hstyle]
  split
  · next ht => exact .inl ⟨ht, rfl⟩
  · next ht =>
      refine .inr ⟨ht, ?_⟩
      split
      · next hp => exact .inl ⟨hp, rfl⟩
      · next hp =>
          refine .inr ⟨hp, ?_⟩
          split
          · next hs => exact .inl ⟨hs, rfl⟩
          · exact .inr rfl

/-- The fault that it finds is the one that counts first. -/
theorem lacks_of_memberDefect? (h : memberDefect? members = some d) :
    Lacks (.obj members) d ∧ ∀ d', Lacks (.obj members) d' → d.rank ≤ d'.rank := by
  rcases memberDefect?_cases members with
    ⟨htype, heq⟩ | ⟨hnottype, ⟨hprops, heq⟩ | ⟨hnotprops, ⟨hstyle, heq⟩ | heq⟩⟩
  · cases heq.symm.trans h
    refine ⟨htype, fun d' hd' => ?_⟩
    cases d' with
    | notObject => exact absurd hd' not_lacks_notObject
    | type | props | style | children => decide
  · cases heq.symm.trans h
    refine ⟨hprops, fun d' hd' => ?_⟩
    cases d' with
    | notObject => exact absurd hd' not_lacks_notObject
    | type => exact absurd hd' hnottype
    | props | style | children => decide
  · cases heq.symm.trans h
    refine ⟨hstyle, fun d' hd' => ?_⟩
    cases d' with
    | notObject => exact absurd hd' not_lacks_notObject
    | type => exact absurd hd' hnottype
    | props => exact absurd hd' hnotprops
    | style | children => decide
  · cases heq.symm.trans h

/-- The children in front of the first error are all well-formed. -/
theorem checkNodes_eq_error {path : List Nat} {i : Nat} {items : List Json} {e : CheckError}
    (h : checkNodes path i items = .error e) :
    ∃ k x, items[k]? = some x ∧ checkNode ((i + k) :: path) x = .error e ∧
      ∀ j < k, ∀ y, items[j]? = some y → WellFormed y := by
  induction items generalizing i with
  | nil => cases h
  | cons x rest ih =>
      rw [checkNodes] at h
      cases hx : checkNode (i :: path) x with
      | error e' =>
          rw [hx] at h
          cases h
          exact ⟨0, x, rfl, hx, fun j hj => absurd hj (Nat.not_lt_zero j)⟩
      | ok _ =>
          rw [hx] at h
          obtain ⟨k, y, hy, herror, hleft⟩ := ih h
          refine ⟨k + 1, y, hy, by rwa [Nat.add_right_comm] at herror, fun j hj z hz => ?_⟩
          cases j with
          | zero =>
              cases hz
              exact wellFormed_of_checkNode hx
          | succ j => exact hleft j (Nat.lt_of_succ_lt_succ hj) z hz

theorem sizeOf_lt_of_child {items : List Json} {k : Nat} {x : Json}
    (hchildren : members.get? "children" = some (.arr items)) (hx : items[k]? = some x) :
    sizeOf x < sizeOf (Json.obj members) := by
  have hlt := List.sizeOf_lt_of_mem (List.mem_of_getElem? hx)
  have hlt' := sizeOf_lt_of_get? hchildren
  simp at hlt' ⊢
  omega

/-- The children of a node have to be a list, unless there are none. -/
theorem checkChildren_cases (path : List Nat) (members : Keyed Json) :
    checkChildren path members = .ok () ∨
    (∃ items, members.get? "children" = some (.arr items) ∧
      checkChildren path members = checkNodes path 0 items) ∨
    (Lacks (.obj members) .children ∧
      checkChildren path members = .error (.malformed path.reverse .children)) := by
  rw [checkChildren_eq]
  cases hchildren : members.get? "children" with
  | none => exact .inl rfl
  | some v =>
      cases v with
      | null => exact .inl rfl
      | arr items => exact .inr (.inl ⟨items, rfl, rfl⟩)
      | bool | int | real | str | obj =>
          exact .inr (.inr ⟨.children hchildren (by simp) (by simp), rfl⟩)

theorem firstFault_of_checkNode {v : Json} {above : List Nat} {e : CheckError}
    (h : checkNode above v = .error e) :
    ∃ path d, e = .malformed (above.reverse ++ path) d ∧ FirstFault v path d := by
  induction hsize : sizeOf v using Nat.strongRecOn generalizing v above with
  | ind n ih =>
  subst hsize
  cases v with
  | null | bool | int | real | str | arr =>
      cases h
      refine ⟨[], .notObject, by rw [List.append_nil], .of_root (.notObject (by simp)) ?_⟩
      exact fun _ _ => Nat.zero_le _
  | obj members =>
      rw [checkNode] at h
      cases hdefect : memberDefect? members with
      | some d =>
          rw [hdefect] at h
          cases h
          obtain ⟨hlacks, hleast⟩ := lacks_of_memberDefect? hdefect
          exact ⟨[], d, by rw [List.append_nil], .of_root hlacks hleast⟩
      | none =>
          rw [hdefect] at h
          have hc : checkChildren above members = .error e := h
          have hmembers : WellFormedMembers members := memberDefect?_eq_none_iff.mp hdefect
          rcases checkChildren_cases above members with
            hok | ⟨items, hchildren, heq⟩ | ⟨hlacks, herror⟩
          · cases hok.symm.trans hc
          · obtain ⟨k, x, hx, herror, hleft⟩ := checkNodes_eq_error (heq.symm.trans hc)
            obtain ⟨path, d, rfl, hfirst⟩ := ih _ (sizeOf_lt_of_child hchildren hx) herror rfl
            have hitems : childItems (.obj members) = items := by rw [childItems, hchildren]
            have hroot (d' : Defect) : ¬ Lacks (.obj members) d' :=
              hmembers.not_lacks fun v hv => .inr ⟨items, Option.some.inj (hv.symm.trans hchildren)⟩
            rw [← hitems] at hx hleft
            refine ⟨k :: path, d, ?_, hfirst.of_child hx hroot hleft⟩
            rw [Nat.zero_add, List.reverse_cons, List.append_assoc, List.singleton_append]
          · cases herror.symm.trans hc
            refine ⟨[], .children, by rw [List.append_nil], .of_root hlacks fun d' hd' => ?_⟩
            rw [hmembers.lacks hd']

/-! ## The answer -/

theorem validate_eq_error {size : Nat} {refusal : Refusal} (h : validate v size = .error refusal) :
    ∃ e, check v size = .error e ∧ refusal = { message := e.message, field := some "components" } := by
  rw [validate] at h
  cases hcheck : check v size with
  | ok _ =>
      rw [hcheck] at h
      cases h
  | error e =>
      rw [hcheck] at h
      cases h
      exact ⟨e, rfl, rfl⟩

theorem check_of_fits {size : Nat} (h : size ≤ maxSize) : check v size = checkNode [] v := by
  rw [check, Json.checkSize, if_neg (Int.not_lt.mpr h)]

theorem validate_eq_ok_iff {size : Nat} :
    validate v size = .ok () ↔ size ≤ maxSize ∧ WellFormed v := by
  by_cases hfits : size ≤ maxSize
  · rw [validate, check_of_fits hfits, ← @checkNode_eq_ok_iff [] v]
    cases checkNode [] v <;> simp [Except.mapError, hfits]
  · rw [validate, check, Json.checkSize, if_pos (Int.not_le.mp hfits)]
    refine ⟨fun h => ?_, fun h => absurd h.1 hfits⟩
    cases h

/-- A component tree passes exactly if its text is small enough and the tree is well-formed. A
refusal is about the components, and unless the text is too large it says of the first fault of the
tree what it is and where: the indices of the children on the way there. -/
theorem validate_names_first (spec : Json) (text : String) :
    (validate spec text.utf8ByteSize = .ok () ↔
      text.utf8ByteSize ≤ maxSize ∧ WellFormed spec) ∧
    ∀ refusal, validate spec text.utf8ByteSize = .error refusal →
      refusal.field = some "components" ∧
      (text.utf8ByteSize ≤ maxSize → ∃ path d, FirstFault spec path d ∧
        refusal.message = "components" ++
          String.join (path.map fun i => ".children[" ++ toString i ++ "]") ++ d.words) := by
  refine ⟨validate_eq_ok_iff, fun refusal h => ?_⟩
  obtain ⟨e, hcheck, rfl⟩ := validate_eq_error h
  refine ⟨rfl, fun hfits => ?_⟩
  rw [check_of_fits hfits] at hcheck
  obtain ⟨path, d, rfl, hfirst⟩ := firstFault_of_checkNode hcheck
  exact ⟨path, d, hfirst, rfl⟩

/-- A tree with a grandchild that has no props and null as its style, and behind it a child that is
no object. -/
def twoFaults : Json :=
  .obj [("type", .str "div"), ("props", .obj []), ("children", .arr [
    .obj [("type", .str "span"), ("props", .obj []), ("children", .null)],
    .obj [("children", .arr [.obj [("style", .null), ("type", .str "i")]]), ("props", .obj []),
      ("type", .str "div")],
    .null])]

theorem validate_names_first_twoFaults :
    validate twoFaults twoFaults.encode.utf8ByteSize = .error
      { message := "components.children[1].children[0].props must be an object"
        field := some "components" } ∧
    ∃ path d, FirstFault twoFaults path d ∧
      "components.children[1].children[0].props must be an object" = "components" ++
        String.join (path.map fun i => ".children[" ++ toString i ++ "]") ++ d.words := by
  have hrefused : validate twoFaults twoFaults.encode.utf8ByteSize = .error
      { message := "components.children[1].children[0].props must be an object"
        field := some "components" } := by decide +kernel
  have hfits : twoFaults.encode.utf8ByteSize ≤ maxSize := by decide +kernel
  exact ⟨hrefused, ((validate_names_first twoFaults twoFaults.encode).2 _ hrefused).2 hfits⟩

end ScreenBridge.Component
