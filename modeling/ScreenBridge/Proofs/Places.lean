import ScreenBridge.Files.Path

/-!
# Names in paths

A path is made by putting a text behind a directory, and the text decides how
many names that adds and whether the directory matters at all. This file says
what is certain all the same. What the text has behind its last slash is the last
name (`append_suffix`), so an extension stays where it was put whatever stands
in front of it; a text that is a name adds just that name (`append_name`); and
nothing hides a NUL (`hasNull_append`).
-/

namespace ScreenBridge.Files

/-! ## Cutting at slashes -/

theorem splitSlashes_cons_slash (s : List Char) :
    splitSlashes ('/' :: s) = [] :: splitSlashes s := by
  rw [splitSlashes, if_pos rfl]

theorem splitSlashes_cons {c : Char} (hc : c ≠ '/') {s part : List Char}
    {more : List (List Char)} (h : splitSlashes s = part :: more) :
    splitSlashes (c :: s) = (c :: part) :: more := by
  rw [splitSlashes, if_neg hc, h]

theorem exists_splitSlashes (s : List Char) :
    ∃ part more, splitSlashes s = part :: more := by
  cases s with
  | nil => exact ⟨[], [], rfl⟩
  | cons c s =>
      rw [splitSlashes]
      split
      · exact ⟨_, _, rfl⟩
      · split <;> exact ⟨_, _, rfl⟩

theorem splitSlashes_of_not_mem {s : List Char} (h : '/' ∉ s) : splitSlashes s = [s] := by
  induction s with
  | nil => rfl
  | cons c s ih =>
      rw [List.mem_cons, not_or] at h
      exact splitSlashes_cons (Ne.symm h.1) (ih h.2)

/-- What a text has behind its last slash. -/
def lastPart (s : List Char) : List Char :=
  (splitSlashes s).getLastD []

/-- What is put at the end of a text goes to the end of its last part. -/
theorem splitSlashes_append (s : List Char) {t : List Char} (ht : '/' ∉ t) :
    splitSlashes (s ++ t) = (splitSlashes s).dropLast ++ [lastPart s ++ t] := by
  induction s with
  | nil => exact splitSlashes_of_not_mem ht
  | cons c s ih =>
      obtain ⟨part, more, h⟩ := exists_splitSlashes s
      rw [lastPart, h] at ih
      by_cases hc : c = '/'
      · subst hc
        rw [List.cons_append, splitSlashes_cons_slash, ih, lastPart, splitSlashes_cons_slash, h]
        rfl
      · rw [lastPart, splitSlashes_cons hc h]
        cases more with
        | nil => exact splitSlashes_cons hc ih
        | cons next more => exact splitSlashes_cons hc ih

theorem lastPart_append (s : List Char) {t : List Char} (ht : '/' ∉ t) :
    lastPart (s ++ t) = lastPart s ++ t := by
  rw [lastPart, splitSlashes_append s ht, List.getLastD_concat]

/-- A character that is no slash is in one of the parts. -/
theorem mem_splitSlashes {c : Char} (hc : c ≠ '/') (s : List Char) :
    (∃ part ∈ splitSlashes s, c ∈ part) ↔ c ∈ s := by
  induction s with
  | nil => simp [splitSlashes]
  | cons d s ih =>
      by_cases hd : d = '/'
      · subst hd
        rw [splitSlashes_cons_slash, List.mem_cons]
        simp [hc, ih]
      · obtain ⟨part, more, h⟩ := exists_splitSlashes s
        rw [splitSlashes_cons hd h, List.mem_cons, ← ih, h]
        simp only [List.mem_cons, exists_eq_or_imp]
        exact or_assoc

namespace Path

/-! ## The names of a text -/

theorem namesOf_of_not_mem {name : String} (hslash : '/' ∉ name.toList) (hne : name ≠ "")
    (hdot : name ≠ ".") : namesOf name = [name] := by
  rw [namesOf, splitSlashes_of_not_mem hslash]
  simp [hne, hdot]

theorem anchorOf_of_not_mem {s : String} (h : '/' ∉ s.toList) : anchorOf s = .here := by
  rw [anchorOf]
  split
  · next hs => exact absurd (hs ▸ List.mem_cons_self) h
  · next hs => exact absurd (hs ▸ List.mem_cons_self) h
  · next hs => exact absurd (hs ▸ List.mem_cons_self) h
  · rfl

theorem ne_of_length_lt {a b : String} (h : a.toList.length < b.toList.length) : b ≠ a := by
  rintro rfl
  exact Nat.lt_irrefl _ h

theorem length_lt_append {n : Nat} (stem : String) {t : String} (h : n < t.toList.length) :
    n < (stem ++ t).toList.length := by
  rw [String.toList_append, List.length_append]
  omega

/-- The name that a text ends with: what stands behind its last slash. -/
def lastName (s : String) : String :=
  String.ofList (lastPart s.toList)

theorem lastName_append (s : String) {t : String} (ht : '/' ∉ t.toList) :
    lastName (s ++ t) = lastName s ++ t := by
  rw [lastName, String.toList_append, lastPart_append _ ht, String.ofList_append,
    String.ofList_toList, lastName]

theorem namesOf_append (s : String) {t : String} (hslash : '/' ∉ t.toList)
    (hlong : 1 < t.toList.length) :
    ∃ front, namesOf (s ++ t) = front ++ [lastName s ++ t] := by
  have h := splitSlashes_append s.toList hslash
  have hlength := length_lt_append (lastName s) hlong
  have hne : lastName s ++ t ≠ "" := ne_of_length_lt (Nat.lt_of_succ_lt hlength)
  have hdot : lastName s ++ t ≠ "." := ne_of_length_lt hlength
  have hkept : decide (lastName s ++ t ≠ "" ∧ lastName s ++ t ≠ ".") = true :=
    decide_eq_true ⟨hne, hdot⟩
  refine ⟨((splitSlashes s.toList).dropLast.map String.ofList).filter fun n => n ≠ "" ∧ n ≠ ".", ?_⟩
  rw [namesOf, String.toList_append, h, List.map_append, List.filter_append, List.map_singleton,
    String.ofList_append, String.ofList_toList, ← lastName]
  simp only [List.filter_cons, List.filter_nil, hkept, if_true]

/-- A NUL in a text is in one of its names. -/
theorem hasNull_ofString (s : String) : (ofString s).hasNull = true ↔ '\x00' ∈ s.toList := by
  rw [← mem_splitSlashes (by decide) s.toList, hasNull, ofString, namesOf]
  simp only [List.any_filter, List.any_map, List.any_eq_true, Function.comp_apply,
    Bool.and_eq_true, decide_eq_true_eq, String.toList_ofList, List.contains_iff_mem]
  constructor
  · rintro ⟨part, hpart, -, hmem⟩
    exact ⟨part, hpart, hmem⟩
  · rintro ⟨part, hpart, hmem⟩
    refine ⟨part, hpart, ⟨?_, ?_⟩, hmem⟩
    · intro he
      rw [← String.toList_ofList (l := part), he] at hmem
      cases hmem
    · intro he
      rw [← String.toList_ofList (l := part), he] at hmem
      revert hmem
      decide

/-! ## A text behind a directory -/

variable {p : Path} {s : String}

theorem append_name (p : Path) {name : String} (hslash : '/' ∉ name.toList) (hne : name ≠ "")
    (hdot : name ≠ ".") : p.append name = ⟨p.anchor, p.names ++ [name]⟩ := by
  rw [append, ofString, anchorOf_of_not_mem hslash, namesOf_of_not_mem hslash hne hdot]
  rfl

/-- The last name of a path is the one that the text ends with. -/
theorem append_suffix (p : Path) (s : String) {t : String} (hslash : '/' ∉ t.toList)
    (hlong : 1 < t.toList.length) :
    ∃ anchor front, p.append (s ++ t) = ⟨anchor, front ++ [lastName s ++ t]⟩ := by
  obtain ⟨front, h⟩ := namesOf_append s hslash hlong
  unfold append ofString
  dsimp only
  rw [h]
  split
  · exact ⟨p.anchor, p.names ++ front, by rw [List.append_assoc]⟩
  · exact ⟨anchorOf (s ++ t), front, rfl⟩

theorem hasNull_append_of_mem (p : Path) (h : '\x00' ∈ s.toList) :
    (p.append s).hasNull = true := by
  have hs := (hasNull_ofString s).mpr h
  unfold append
  dsimp only
  split
  · rw [hasNull, List.any_append, Bool.or_eq_true]
    exact .inr hs
  · exact hs

theorem hasNull_append_of_not_mem (hp : p.hasNull = false) (h : '\x00' ∉ s.toList) :
    (p.append s).hasNull = false := by
  have hs : (ofString s).hasNull = false :=
    Bool.eq_false_iff.mpr fun hn => h ((hasNull_ofString s).mp hn)
  unfold append
  dsimp only
  split
  · rw [hasNull, List.any_append, Bool.or_eq_false_iff]
    exact ⟨hp, hs⟩
  · exact hs

/-- A name behind a directory has a NUL where one of the two has. -/
theorem hasNull_append_name (p : Path) {name : String} (hslash : '/' ∉ name.toList)
    (hne : name ≠ "") (hdot : name ≠ ".") :
    (p.append name).hasNull = true ↔ p.hasNull = true ∨ '\x00' ∈ name.toList := by
  rw [append_name p hslash hne hdot, hasNull, hasNull]
  simp

theorem hasNull_append_plain (p : Path) {name : String} (hslash : '/' ∉ name.toList)
    (hne : name ≠ "") (hdot : name ≠ ".") (hnull : '\x00' ∉ name.toList) :
    (p.append name).hasNull = p.hasNull := by
  rw [Bool.eq_iff_iff, hasNull_append_name p hslash hne hdot, or_iff_left hnull]

/-! ## Resolving -/

theorem collapse_append (base ms ns : List String) :
    collapse base (ms ++ ns) = collapse (collapse base ms) ns := by
  induction ms generalizing base with
  | nil => rfl
  | cons m ms ih =>
      rw [List.cons_append, collapse, collapse]
      split <;> exact ih _

theorem collapse_concat (base ns : List String) {n : String} (hn : n ≠ "..") :
    collapse base (ns ++ [n]) = collapse base ns ++ [n] := by
  rw [collapse_append, collapse, if_neg hn, collapse]

/-- Names without double points lead straight down. -/
theorem collapse_of_not_mem (base : List String) {ns : List String} (h : ".." ∉ ns) :
    collapse base ns = base ++ ns := by
  induction ns generalizing base with
  | nil => rw [collapse, List.append_nil]
  | cons n ns ih =>
      rw [List.mem_cons, not_or] at h
      rw [collapse, if_neg (Ne.symm h.1), ih _ h.2, List.append_assoc, List.singleton_append]

/-- Where the names of a path start. -/
def start (home : List String) (p : Path) : List String :=
  if p.anchor = .here then home else []

theorem resolve_eq (home : List String) (p : Path) :
    p.resolve home = collapse (p.start home) p.names := by
  rw [resolve, start]
  split <;> rfl

theorem resolve_append_name (home : List String) (p : Path) {name : String}
    (hslash : '/' ∉ name.toList) (hne : name ≠ "") (hdot : name ≠ ".") (hdots : name ≠ "..") :
    (p.append name).resolve home = p.resolve home ++ [name] := by
  rw [append_name p hslash hne hdot, resolve_eq, resolve_eq]
  exact collapse_concat _ _ hdots

/-- A path leads directly into a directory under the name that the text ends with, if it leads
directly into it at all. -/
theorem resolve_append_suffix {home : List String} {p : Path} {s t : String}
    (hslash : '/' ∉ t.toList) (hlong : 2 < t.toList.length) {dir : List String}
    (h : ((p.append (s ++ t)).resolve home).dropLast = dir) :
    (p.append (s ++ t)).resolve home = dir ++ [lastName s ++ t] := by
  obtain ⟨anchor, front, heq⟩ := append_suffix p s hslash (by omega)
  have hdots : lastName s ++ t ≠ ".." := ne_of_length_lt (length_lt_append _ hlong)
  rw [heq, resolve_eq, collapse_concat _ _ hdots, List.dropLast_concat] at h
  rw [heq, resolve_eq, collapse_concat _ _ hdots]
  exact congrArg (· ++ [lastName s ++ t]) h

end Path

end ScreenBridge.Files
