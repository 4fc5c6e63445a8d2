import ScreenBridge.Mapping.Builtin
import ScreenBridge.Proofs.LineBreaks
import ScreenBridge.Proofs.MarkupReader
import ScreenBridge.Proofs.TranslatedTree

/-!
# Markup read back

An attribute or a text could mislead a reader of markup if it came to stand on a
line of its own or made a line end like another one. Neither happens: what opens
an element is one line (`break_opening`) that ends in a quote and one of the two
ends that tell whether anything stands inside, and a text is one line that
starts with a brace. From these the reading of a tree is put together by the
recursion of the markup itself (`reads_markup`).

What is read is one element for each widget in the same place (`elementOf`), and
its tag is that of the live component there unless the entry of the widget is
for markup only.
-/

namespace ScreenBridge.Source

open Mapping (Registry Entry)
open Ui (Node)

/-! ## The lines of an element -/

section
variable (r : Registry) (depth : Nat) {n : Node}

theorem isTag_tagFor {r : Registry} (h : ∀ e ∈ r.entries, IsTag e.targetTag) (type : String) :
    IsTag (r.tagFor type) := by
  unfold Registry.tagFor
  split
  · next e he => exact h e (Registry.resolve_eq_some_iff.mp he).1
  · exact (by decide : IsTag "div")

/-- What follows the tag in the line that opens an element. -/
def behindTag (n : Node) : List Char :=
  (attributes r n).flatMap fun a => ' ' :: a.toList

theorem head?_behindTag (n : Node) : (behindTag r n).head? = some ' ' := by
  rw [behindTag]
  cases hattributes : attributes r n with
  | nil => simp [attributes] at hattributes
  | cons a rest => rw [List.flatMap_cons, List.cons_append, List.head?_cons]

theorem getLast?_behindTag (n : Node) : (behindTag r n).getLast? = some '"' := by
  have hquote (name : String) (v : Json) : (attributeText name v).toList.getLast? = some '"' := by
    rw [attributeText, String.toList_append]
    exact List.getLast?_concat
  rw [behindTag, attributes, List.flatMap_append, List.flatMap_singleton, List.getLast?_append,
    List.getLast?_cons, hquote]
  rfl

theorem break_behindTag (h : n.OneLine) : '\n' ∉ behindTag r n := by
  refine break_flatMap fun a ha => ?_
  exact break_cons (by decide) (break_attributes r h a ha)

theorem toList_opening (n : Node) : (opening r depth n).toList =
    List.replicate (2 * (depth + baseLevel)) ' ' ++
      '<' :: ((r.tagFor n.type).toList ++ behindTag r n) := by
  rw [opening, String.toList_append, indentation, String.toList_ofList, toList_openingTag]
  rfl

theorem toList_closing (n : Node) : (closing r depth n).toList =
    List.replicate (2 * (depth + baseLevel)) ' ' ++
      '<' :: '/' :: ((r.tagFor n.type).toList ++ ['>']) := by
  rw [closing, String.toList_append, String.toList_append, String.toList_append, indentation,
    String.toList_ofList]
  simp only [List.append_assoc]
  rfl

theorem break_tag {tag : String} (h : IsTag tag) : '\n' ∉ tag.toList :=
  fun hmem => absurd (h.alphanum _ hmem) (by decide)

theorem break_spaces (spaces : Nat) : '\n' ∉ List.replicate spaces ' ' :=
  fun h => absurd (List.eq_of_mem_replicate h) (by decide)

variable {r}

theorem break_opening (htag : IsTag (r.tagFor n.type)) (h : n.OneLine) :
    '\n' ∉ (opening r depth n).toList := by
  rw [toList_opening]
  exact break_append (break_spaces _)
    (break_cons (by decide) (break_append (break_tag htag) (break_behindTag r h)))

theorem break_closing (htag : IsTag (r.tagFor n.type)) : '\n' ∉ (closing r depth n).toList := by
  rw [toList_closing]
  exact break_append (break_spaces _)
    (break_cons (by decide) (break_enclosed (by decide) (break_tag htag) (by decide)))

theorem step_stands (htag : IsTag (r.tagFor n.type)) (s : Reading) :
    s.step ((opening r depth n).toList ++ " />".toList) =
      s.act (2 * (depth + baseLevel)) (.stands (r.tagFor n.type)) := by
  rw [toList_opening, List.append_assoc, List.cons_append, List.append_assoc]
  exact s.step_indented _ (by decide) (sign?_stands htag (head?_behindTag r n))

theorem step_opens (htag : IsTag (r.tagFor n.type)) (s : Reading) :
    s.step ((opening r depth n).toList ++ ['>']) =
      s.act (2 * (depth + baseLevel)) (.opens (r.tagFor n.type)) := by
  rw [toList_opening, List.append_assoc, List.cons_append, List.append_assoc]
  exact s.step_indented _ (by decide)
    (sign?_opens htag (head?_behindTag r n) (getLast?_behindTag r n))

theorem step_closes (n : Node) (s : Reading) :
    s.step (closing r depth n).toList =
      s.act (2 * (depth + baseLevel)) (.closes (r.tagFor n.type)) := by
  rw [toList_closing]
  exact s.step_indented _ (by decide) (sign?_closes _)

/-- The line of a text is passed over. -/
theorem reads_text (text : String) :
    Reads (indentation depth ++ "\x7b" ++ (Json.str text).encode ++ "\x7d\n").toList [] := by
  have hline : (indentation depth ++ "\x7b" ++ (Json.str text).encode ++ "\x7d\n").toList =
      (List.replicate (2 * (depth + baseLevel)) ' ' ++
        '\x7b' :: ((Json.str text).encode.toList ++ ['\x7d'])) ++ ['\n'] := by
    have hopen : "\x7b".toList = ['\x7b'] := rfl
    have hclose : "\x7d\n".toList = ['\x7d', '\n'] := rfl
    simp only [String.toList_append, indentation, String.toList_ofList, hopen, hclose,
      List.append_assoc, List.cons_append, List.nil_append]
  rw [hline]
  refine Reads.line ?_ fun s => ?_
  · exact break_append (break_spaces _)
      (break_enclosed (by decide) (Json.break_encode _) (by decide))
  · rw [s.step_indented _ (by decide) rfl, s.add_nil]
    rfl

end

/-! ## The elements of a tree -/

mutual

/-- The element that the markup of a widget at a depth of its tree is read as. -/
def elementOf (r : Registry) (depth : Nat) : Node → Element
  | ⟨_, type, _, _, children, _, text⟩ =>
    let inside := elementsOfChildren r (depth + 1) children
    let spaces := 2 * (depth + baseLevel)
    ⟨r.tagFor type, spaces, if inside = [] ∧ text.getD "" = "" then none else some spaces, inside⟩

/-- The elements of the children, if there are any. -/
def elementsOfChildren (r : Registry) (depth : Nat) : Option (List Node) → List Element
  | none => []
  | some nodes => elementsOf r depth nodes

def elementsOf (r : Registry) (depth : Nat) : List Node → List Element
  | [] => []
  | n :: rest => elementOf r depth n :: elementsOf r depth rest

end

section
variable {r : Registry} {n : Node}

theorem elementsOf_eq_map (r : Registry) (depth : Nat) (nodes : List Node) :
    elementsOf r depth nodes = nodes.map (elementOf r depth) := by
  induction nodes with
  | nil => rw [elementsOf, List.map_nil]
  | cons n rest ih => rw [elementsOf, ih, List.map_cons]

theorem elementsOfChildren_eq_map (r : Registry) (depth : Nat) (children : Option (List Node)) :
    elementsOfChildren r depth children = (children.getD []).map (elementOf r depth) := by
  cases children with
  | none => rw [elementsOfChildren, Option.getD_none, List.map_nil]
  | some nodes => rw [elementsOfChildren, elementsOf_eq_map, Option.getD_some]

/-- A widget is one element around those of its children. -/
theorem elementOf_eq (r : Registry) (depth : Nat) (n : Node) : elementOf r depth n =
    { tag := r.tagFor n.type
      opened := 2 * (depth + baseLevel)
      closed := if n.children.getD [] = [] ∧ n.text.getD "" = "" then none
        else some (2 * (depth + baseLevel))
      inside := (n.children.getD []).map (elementOf r (depth + 1)) } := by
  obtain ⟨id, type, props, style, children, textId, text⟩ := n
  simp only [elementOf, elementsOfChildren_eq_map, List.map_eq_nil_iff]

/-- What stands inside a widget is read as the elements of its children. -/
theorem reads_contents {depth : Nat}
    (h : Reads (childMarkup r (depth + 1) n.children).toList
      ((n.children.getD []).map (elementOf r (depth + 1)))) :
    Reads (contents r depth n).toList ((n.children.getD []).map (elementOf r (depth + 1))) := by
  by_cases hchildren : n.children.getD [] = []
  · rw [hchildren, List.map_nil]
    by_cases htext : n.text.getD "" = ""
    · rw [contents_of_nothing r depth hchildren htext]
      exact .nil
    · rw [contents_of_text r depth hchildren htext]
      exact reads_text (depth + 1) _
  · rwa [contents_of_children r depth hchildren]

/-- A widget is read as its element if what stands inside is read as the elements inside. -/
theorem reads_element {depth : Nat} (htag : IsTag (r.tagFor n.type)) (hn : n.OneLine)
    (h : Reads (contents r depth n).toList ((n.children.getD []).map (elementOf r (depth + 1)))) :
    Reads ((markup r depth n).toList ++ ['\n']) [elementOf r depth n] := by
  have hopening := break_opening depth htag hn
  have hempty := contents_eq_empty_iff r depth n
  rw [markup_eq, elementOf_eq]
  by_cases hcontents : contents r depth n = ""
  · have hchildren := (hempty.mp hcontents).1
    rw [if_pos hcontents, if_pos (hempty.mp hcontents), hchildren, List.map_nil,
      String.toList_append]
    exact Reads.line (break_append hopening (by decide)) (step_stands depth htag)
  · rw [if_neg hcontents, if_neg (mt hempty.mpr hcontents)]
    have hlines : (opening r depth n ++ ">\n" ++ contents r depth n ++ closing r depth n).toList ++
        ['\n'] = ((opening r depth n).toList ++ ['>']) ++ ['\n'] ++ (contents r depth n).toList ++
          ((closing r depth n).toList ++ ['\n']) := by
      have hend : ">\n".toList = ['>', '\n'] := rfl
      simp only [String.toList_append, hend, List.append_assoc, List.cons_append, List.nil_append]
    rw [hlines]
    exact h.enclose (break_append hopening (by decide)) (break_closing depth htag)
      (step_opens depth htag) (step_closes depth n)

mutual

/-- The markup of a tree is read as its element. -/
theorem reads_markup (hr : ∀ e ∈ r.entries, IsTag e.targetTag) :
    ∀ (n : Node) (depth : Nat), (∀ m ∈ n.preorder, m.OneLine) →
      Reads ((markup r depth n).toList ++ ['\n']) [elementOf r depth n]
  | ⟨id, type, props, style, children, textId, text⟩, depth, h => by
    rw [Node.preorder, List.forall_mem_cons] at h
    exact reads_element (isTag_tagFor hr type) h.1
      (reads_contents (reads_children hr children (depth + 1) h.2))

theorem reads_children (hr : ∀ e ∈ r.entries, IsTag e.targetTag) :
    ∀ (children : Option (List Node)) (depth : Nat),
      (∀ m ∈ Node.preorderOfChildren children, m.OneLine) →
        Reads (childMarkup r depth children).toList
          ((children.getD []).map (elementOf r depth))
  | none, depth, _ => by
    rw [childMarkup]
    exact .nil
  | some nodes, depth, h => by
    rw [childMarkup, Option.getD_some]
    exact reads_nodes hr nodes depth h

theorem reads_nodes (hr : ∀ e ∈ r.entries, IsTag e.targetTag) :
    ∀ (nodes : List Node) (depth : Nat), (∀ m ∈ Node.preorderOfNodes nodes, m.OneLine) →
      Reads (markupLines r depth nodes).toList (nodes.map (elementOf r depth))
  | [], _, _ => by
    rw [markupLines]
    exact .nil
  | n :: rest, depth, h => by
    rw [Node.preorderOfNodes, List.forall_mem_append] at h
    rw [markupLines, String.toList_append, String.toList_append, List.map_cons,
      ← List.singleton_append]
    exact (reads_markup hr n depth h.1).append (reads_nodes hr rest depth h.2)

end

end

/-! ## Place by place -/

/-- The element at a place. -/
def Element.at? (e : Element) : List Nat → Option Element
  | [] => some e
  | i :: path => e.inside[i]?.bind fun inner => inner.at? path

/-- What a widget at a depth of its tree is read as: its tag, on lines with the spaces of its
depth. There is a line that closes it if anything stands inside. -/
structure Shows (r : Registry) (depth : Nat) (n : Node) (e : Element) : Prop where
  tag : e.tag = r.tagFor n.type
  opened : e.opened = 2 * (3 + depth)
  closed : e.closed = if n.children.getD [] = [] ∧ n.text.getD "" = "" then none
    else some (2 * (3 + depth))

theorem shows_elementOf (r : Registry) (depth : Nat) (n : Node) :
    Shows r depth n (elementOf r depth n) := by
  rw [elementOf_eq, baseLevel, Nat.add_comm depth]
  exact ⟨rfl, rfl, rfl⟩

theorem at?_elementOf (r : Registry) (depth : Nat) (n : Node) (path : List Nat) :
    (elementOf r depth n).at? path = (n.at? path).map (elementOf r (depth + path.length)) := by
  induction path generalizing n depth with
  | nil => rfl
  | cons i path ih =>
      rw [Element.at?, Node.at?, elementOf_eq]
      simp only [List.getElem?_map]
      cases (n.children.getD [])[i]? with
      | none => rfl
      | some child =>
          rw [Option.map_some, Option.bind_some, Option.bind_some, ih, List.length_cons,
            Nat.add_right_comm, Nat.add_assoc]

/-! ## The live components -/

theorem type_ofNode {r : Registry} {n : Node} (h : ¬ r.MarkupOnly n.type) :
    (Component.ofNode r n).type = r.tagFor n.type := by
  rw [Component.ofNode_eq, Registry.resolve_of_not_markupOnly h, Registry.tagFor]
  cases r.resolve n.type true <;> rfl

/-- The markup of a tree is read back as one element with the places of the tree, each with the
tag of the widget there and on lines with the spaces of its depth. Without widgets that are for
markup only, the tags are those of the live components, place by place. -/
theorem readMarkup_markup (r : Registry) (tree : Node)
    (htags : ∀ e ∈ r.entries, IsTag e.targetTag) (hlines : ∀ n ∈ tree.preorder, n.OneLine) :
    ∃ e, readMarkup (markup r 0 tree) = some [e] ∧
      (∀ path, Option.Rel (Shows r path.length) (tree.at? path) (e.at? path)) ∧
      ((∀ n ∈ tree.preorder, ¬ r.MarkupOnly n.type) → ∀ path,
        (e.at? path).map Element.tag =
          ((Component.ofNode r tree).at? path).map Component.type) := by
  refine ⟨elementOf r 0 tree, readMarkup_of_reads (reads_markup htags tree 0 hlines),
    fun path => ?_, fun hlive path => ?_⟩
  · rw [at?_elementOf, Nat.zero_add]
    cases tree.at? path with
    | none => exact .none
    | some n => exact .some (shows_elementOf r _ n)
  · rw [at?_elementOf, Component.at?_ofNode]
    cases hat : tree.at? path with
    | none => rfl
    | some n =>
        have htag := type_ofNode (hlive n (Node.mem_preorder_of_at? hat))
        rw [Option.map_some, Option.map_some, Option.map_some, Option.map_some, htag,
          (shows_elementOf r _ n).tag]

/-- A column with a text in it that reads like markup. -/
def disguisedText : Node where
  id := some "<main>"
  type := "Column"
  props := []
  style := none
  children := some
    [⟨none, "Text", [], some [("color", .str "\n</div>")], none, none, some "\n</div>"⟩]
  textId := none
  text := none

theorem readMarkup_markup_disguisedText :
    (∀ e ∈ Registry.builtin.entries, IsTag e.targetTag) ∧
      (∀ n ∈ disguisedText.preorder, n.OneLine) ∧
      (∀ n ∈ disguisedText.preorder, ¬ Registry.builtin.MarkupOnly n.type) ∧
      ∃ e, readMarkup (markup Registry.builtin 0 disguisedText) = some [e] ∧
        (∀ path, Option.Rel (Shows Registry.builtin path.length) (disguisedText.at? path)
          (e.at? path)) ∧
        ((∀ n ∈ disguisedText.preorder, ¬ Registry.builtin.MarkupOnly n.type) → ∀ path,
          (e.at? path).map Element.tag =
            ((Component.ofNode Registry.builtin disguisedText).at? path).map Component.type) := by
  have htags : ∀ e ∈ Registry.builtin.entries, IsTag e.targetTag := by decide +kernel
  have hlines : ∀ n ∈ disguisedText.preorder, n.OneLine := by
    simp only [disguisedText, Node.preorder, Node.preorderOfChildren, Node.preorderOfNodes,
      List.append_nil, List.forall_mem_cons]
    refine ⟨⟨by decide, ?_, nofun, nofun⟩, ⟨by decide, nofun, ?_, nofun⟩, List.forall_mem_nil _⟩
    · rintro id ⟨⟩
      decide
    · rintro entries ⟨⟩
      decide
  exact ⟨htags, hlines, by decide +kernel, readMarkup_markup _ _ htags hlines⟩

end ScreenBridge.Source
