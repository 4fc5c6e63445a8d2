import ScreenBridge.Proofs.ManifestText

/-!
# A reader of markup

The reader knows nothing of widgets. It goes through a text line by line with a
stack of what is open, and it looks at how a line starts and at how it ends.

`Reads` says that some lines are read as some elements whatever is open around
them. It holds of a line by itself, of lines behind lines, and of lines between
one that opens an element and one that closes it (`Reads.enclose`), so whatever
is built up like that is read without looking at the stack again.
-/

namespace ScreenBridge.Source

open Text (cutLines joinLines joinLines_append)

/-! ## The reader -/

/-- An element as it is read: its tag, the spaces in front of the line that opens it and of the
line that closes it, and the elements inside. -/
structure Element where
  tag : String
  opened : Nat
  closed : Option Nat
  inside : List Element
  deriving Repr, Inhabited

/-- What a line says. -/
inductive Sign where
  | opens (tag : String)
  | stands (tag : String)
  | closes (tag : String)
  | shows
  deriving DecidableEq, Repr

/-- What a line says that has no spaces in front of it: how it starts, and for an element how it
ends. -/
def sign? : List Char → Option Sign
  | '\x7b' :: _ => some .shows
  | '<' :: '/' :: rest =>
    if rest.getLast? = some '>' then some (.closes (String.ofList rest.dropLast)) else none
  | '<' :: rest =>
    let tag := rest.takeWhile Char.isAlphanum
    if tag = [] then none
    else if " />".toList <:+ rest then some (.stands (String.ofList tag))
    else some (.opens (String.ofList tag))
  | _ => none

/-- An element that is not closed yet. -/
structure Unclosed where
  tag : String
  opened : Nat
  inside : List Element

/-- What was read: the elements that are open, the innermost first, and what stands outside. -/
structure Reading where
  stack : List Unclosed
  outside : List Element

namespace Reading

/-- More elements inside the innermost one that is open. -/
def add (s : Reading) (es : List Element) : Reading :=
  match s.stack with
  | [] => { s with outside := s.outside ++ es }
  | u :: rest => { s with stack := { u with inside := u.inside ++ es } :: rest }

/-- What a line with some spaces in front says is done; none if it closes what is not open. -/
def act (s : Reading) (spaces : Nat) : Sign → Option Reading
  | .shows => some s
  | .stands tag => some (s.add [⟨tag, spaces, none, []⟩])
  | .opens tag => some { s with stack := ⟨tag, spaces, []⟩ :: s.stack }
  | .closes tag =>
    match s.stack with
    | [] => none
    | u :: rest =>
      if tag = u.tag then
        some ({ s with stack := rest }.add [⟨u.tag, u.opened, some spaces, u.inside⟩])
      else none

/-- One more line; none if it says nothing that can be done. -/
def step (s : Reading) (line : List Char) : Option Reading :=
  (sign? (line.dropWhile (· = ' '))).bind (s.act (line.takeWhile (· = ' ')).length)

end Reading

/-- The elements of a text; none if a line cannot be read or an element stays open. -/
def readMarkup (text : String) : Option (List Element) :=
  let (whole, last) := cutLines text.toList
  match (whole ++ [last]).foldlM Reading.step ⟨[], []⟩ with
  | some ⟨[], es⟩ => some es
  | _ => none

/-! ## Signs -/

/-- The names that a tag may have. -/
structure IsTag (tag : String) : Prop where
  ne_nil : tag.toList ≠ []
  alphanum : ∀ c ∈ tag.toList, c.isAlphanum = true

instance (tag : String) : Decidable (IsTag tag) :=
  decidable_of_iff (tag.toList ≠ [] ∧ tag.toList.all Char.isAlphanum = true)
    ⟨fun h => ⟨h.1, List.all_eq_true.mp h.2⟩, fun h => ⟨h.ne_nil, List.all_eq_true.mpr h.alphanum⟩⟩

section
variable {tag : String} {rest : List Char}

theorem takeWhile_tag (htag : IsTag tag) (hrest : rest.head? = some ' ') :
    (tag.toList ++ rest).takeWhile Char.isAlphanum = tag.toList := by
  obtain ⟨more, rfl⟩ := List.head?_eq_some_iff.mp hrest
  rw [List.takeWhile_append_of_pos htag.alphanum, List.takeWhile_cons_of_neg (by decide),
    List.append_nil]

/-- A line that starts with a tag opens an element or is one. -/
theorem sign?_tag (htag : IsTag tag) (hrest : rest.head? = some ' ') :
    sign? ('<' :: (tag.toList ++ rest)) =
      if " />".toList <:+ tag.toList ++ rest then some (.stands tag) else some (.opens tag) := by
  have htake := takeWhile_tag htag hrest
  obtain ⟨c, name, hname⟩ := List.exists_cons_of_ne_nil htag.ne_nil
  have hslash : c ≠ '/' := by
    rintro rfl
    have hmem : '/' ∈ tag.toList := hname ▸ List.mem_cons_self
    exact absurd (htag.alphanum _ hmem) (by decide)
  rw [hname, List.cons_append] at htake ⊢
  have hsign : sign? ('<' :: c :: (name ++ rest)) =
      if (c :: (name ++ rest)).takeWhile Char.isAlphanum = [] then none
      else if " />".toList <:+ c :: (name ++ rest) then
        some (.stands (String.ofList ((c :: (name ++ rest)).takeWhile Char.isAlphanum)))
      else some (.opens (String.ofList ((c :: (name ++ rest)).takeWhile Char.isAlphanum))) := by
    rw [sign?]
    intro more heq
    exact hslash (List.cons.inj heq).1
  rw [hsign, htake, if_neg (List.cons_ne_nil _ _), ← hname, String.ofList_toList]

theorem sign?_stands (htag : IsTag tag) (hrest : rest.head? = some ' ') :
    sign? ('<' :: (tag.toList ++ (rest ++ " />".toList))) = some (.stands tag) := by
  rw [sign?_tag htag, if_pos]
  · exact List.suffix_append_of_suffix (List.suffix_append ..)
  · rw [List.head?_append, hrest, Option.some_or]

theorem sign?_opens (htag : IsTag tag) (hrest : rest.head? = some ' ')
    (hlast : rest.getLast? = some '"') :
    sign? ('<' :: (tag.toList ++ (rest ++ ['>']))) = some (.opens tag) := by
  rw [sign?_tag htag, if_neg]
  · obtain ⟨more, rfl⟩ := List.getLast?_eq_some_iff.mp hlast
    rintro ⟨front, heq⟩
    have hmark := congrArg (fun cs : List Char => cs.dropLast.getLast?) heq
    have hslash : " />".toList = [' ', '/'] ++ ['>'] := rfl
    simp only [hslash, ← List.append_assoc, List.dropLast_concat, List.getLast?_concat] at hmark
    simp at hmark
  · rw [List.head?_append, hrest, Option.some_or]

theorem sign?_closes (tag : String) :
    sign? ('<' :: '/' :: (tag.toList ++ ['>'])) = some (.closes tag) := by
  rw [sign?, if_pos List.getLast?_concat, List.dropLast_concat, String.ofList_toList]

end

/-! ## What lines are read as -/

namespace Reading

theorem add_nil (s : Reading) : s.add [] = s := by
  obtain ⟨stack, outside⟩ := s
  cases stack with
  | nil => rw [add, List.append_nil]
  | cons u rest => simp only [add, List.append_nil]

theorem step_indented (s : Reading) (spaces : Nat) {c : Char} {rest : List Char} {sign : Sign}
    (hc : c ≠ ' ') (hsign : sign? (c :: rest) = some sign) :
    s.step (List.replicate spaces ' ' ++ c :: rest) = s.act spaces sign := by
  have hspaces : ∀ a ∈ List.replicate spaces ' ', decide (a = ' ') = true := by
    intro a ha
    rw [List.eq_of_mem_replicate ha]
    rfl
  rw [step, List.dropWhile_append_of_pos hspaces, List.takeWhile_append_of_pos hspaces,
    List.dropWhile_cons_of_neg (by simpa using hc), List.takeWhile_cons_of_neg (by simpa using hc),
    hsign, Option.bind_some, List.append_nil, List.length_replicate]

theorem add_add (s : Reading) (es es' : List Element) : (s.add es).add es' = s.add (es ++ es') := by
  obtain ⟨stack, outside⟩ := s
  cases stack with
  | nil => simp only [add, List.append_assoc]
  | cons u rest => simp only [add, List.append_assoc]

end Reading

/-- A text in whole lines that are read as some elements, whatever is open around them. -/
def Reads (text : List Char) (es : List Element) : Prop :=
  ∃ lines, text = joinLines lines ∧ (∀ line ∈ lines, '\n' ∉ line) ∧
    ∀ s : Reading, lines.foldlM Reading.step s = some (s.add es)

section
variable {text text' first last : List Char} {es es' : List Element}

theorem Reads.nil : Reads [] [] :=
  ⟨[], rfl, List.forall_mem_nil _, fun s => congrArg some s.add_nil.symm⟩

/-- One line by itself. -/
theorem Reads.line (hline : '\n' ∉ first) (h : ∀ s : Reading, s.step first = some (s.add es)) :
    Reads (first ++ ['\n']) es := by
  refine ⟨[first], ?_, ?_, fun s => ?_⟩
  · rw [joinLines, List.flatMap_singleton]
  · rwa [List.forall_mem_singleton]
  · rw [List.foldlM_cons, h]
    rfl

/-- Lines behind lines. -/
theorem Reads.append (h : Reads text es) (h' : Reads text' es') :
    Reads (text ++ text') (es ++ es') := by
  obtain ⟨lines, rfl, hlines, hrun⟩ := h
  obtain ⟨lines', rfl, hlines', hrun'⟩ := h'
  refine ⟨lines ++ lines', (joinLines_append ..).symm, ?_, fun s => ?_⟩
  · exact List.forall_mem_append.mpr ⟨hlines, hlines'⟩
  · rw [List.foldlM_append, hrun, Option.bind_eq_bind, Option.bind_some, hrun', Reading.add_add]

/-- Lines between one that opens an element and one that closes it. -/
theorem Reads.enclose {tag : String} {opened closed : Nat} (h : Reads text es)
    (hfirst : '\n' ∉ first) (hlast : '\n' ∉ last)
    (hopen : ∀ s : Reading, s.step first = s.act opened (.opens tag))
    (hclose : ∀ s : Reading, s.step last = s.act closed (.closes tag)) :
    Reads (first ++ ['\n'] ++ text ++ (last ++ ['\n'])) [⟨tag, opened, some closed, es⟩] := by
  obtain ⟨lines, rfl, hlines, hrun⟩ := h
  refine ⟨first :: (lines ++ [last]), ?_, ?_, fun s => ?_⟩
  · rw [joinLines, joinLines, List.flatMap_cons, List.flatMap_append, List.flatMap_singleton,
      List.append_assoc]
  · rw [List.forall_mem_cons, List.forall_mem_append, List.forall_mem_singleton]
    exact ⟨hfirst, hlines, hlast⟩
  · -- The elements in between end up inside what the first line opens.
    have hbetween : (lines ++ [last]).foldlM Reading.step
        { s with stack := ⟨tag, opened, []⟩ :: s.stack } =
          Reading.act { s with stack := ⟨tag, opened, es⟩ :: s.stack } closed (.closes tag) := by
      rw [List.foldlM_append, hrun, Option.bind_eq_bind, Option.bind_some, List.foldlM_cons,
        hclose]
      exact bind_pure _
    rw [List.foldlM_cons, hopen]
    exact hbetween.trans (if_pos rfl)

/-- A line that is not ended is cut off behind the whole ones. -/
theorem cutLines_joinLines {lines : List (List Char)} (hlines : ∀ line ∈ lines, '\n' ∉ line)
    (hlast : '\n' ∉ last) : cutLines (joinLines lines ++ last) = (lines, last) := by
  have hnone : cutLines last = ([], last) := by
    induction last with
    | nil => rfl
    | cons c rest ih =>
        rw [List.mem_cons, not_or] at hlast
        rw [cutLines, ih hlast.2]
        simp only [Ne.symm hlast.1, if_false]
  have hline (line : List Char) (hline : '\n' ∉ line) (text : List Char) :
      cutLines (line ++ '\n' :: text) = (line :: (cutLines text).1, (cutLines text).2) := by
    induction line with
    | nil => simp only [List.nil_append, cutLines, if_true]
    | cons c rest ih =>
        rw [List.mem_cons, not_or] at hline
        rw [List.cons_append, cutLines, ih hline.2]
        simp only [Ne.symm hline.1, if_false]
  induction lines with
  | nil => rw [joinLines, List.flatMap_nil, List.nil_append, hnone]
  | cons line rest ih =>
      rw [List.forall_mem_cons] at hlines
      rw [joinLines, List.flatMap_cons, List.append_assoc, List.append_assoc, List.singleton_append,
        hline _ hlines.1, ← joinLines, ih hlines.2]

/-- What lines are read as is what the reader makes of their text. -/
theorem readMarkup_of_reads {text : String} (h : Reads (text.toList ++ ['\n']) es) :
    readMarkup text = some es := by
  obtain ⟨lines, htext, hlines, hrun⟩ := h
  rcases List.eq_nil_or_concat lines with rfl | ⟨whole, last, rfl⟩
  · simp [joinLines] at htext
  · rw [List.concat_eq_append, List.forall_mem_append, List.forall_mem_singleton] at hlines
    rw [List.concat_eq_append, joinLines_append, joinLines, joinLines, List.flatMap_singleton,
      ← List.append_assoc, ← joinLines] at htext
    rw [List.concat_eq_append] at hrun
    rw [readMarkup, List.append_cancel_right htext, cutLines_joinLines hlines.1 hlines.2]
    simp only [hrun]
    rfl

end

end ScreenBridge.Source
