import Mathlib.Data.List.Basic
import ScreenBridge.Proofs.Occurrences

/-!
# What a registration writes

A registration writes an import and a route, and finds them again by their
text. So it matters which texts can be taken for which. Names are `Plain`
enough if a component has no slash, no bracket and no quote in it and a route no
bracket and no quote: an import holds its two quotes and nothing else does, a
route its two brackets, and what stands between them can be read off again
(`infix_line_iff`, `infix_tag_iff`).

The other half is what does not happen by accident. A `Mark` is a text that no
end of routes and no route can cut into or complete, wherever these are put:
the imports, the routes and the end of routes itself are marks.
-/

namespace ScreenBridge.Source

open Text

/-- A component and the route that it is registered under. -/
structure Registration where
  component : String
  route : String
  deriving DecidableEq, Repr

namespace Registration

/-- The import of the component. -/
def line (r : Registration) : List Char :=
  (importLine r.component).toList

/-- The route as it is looked for: its line without the blanks around it. -/
def tag (r : Registration) : List Char :=
  stripChars (routeLine r.route r.component).toList

/-- Names that cannot be taken for anything else. -/
structure Plain (r : Registration) : Prop where
  component : ∀ c ∈ ['<', '/', '"', '\'', '\n'], c ∉ r.component.toList
  route : ∀ c ∈ ['<', '"', '\'', '\n'], c ∉ r.route.toList

theorem plain_iff {r : Registration} :
    r.Plain ↔ (['<', '/', '"', '\'', '\n'].all fun c => c ∉ r.component.toList) ∧
      ['<', '"', '\'', '\n'].all fun c => c ∉ r.route.toList := by
  simp only [List.all_eq_true, decide_eq_true_eq]
  exact ⟨fun h => ⟨h.component, h.route⟩, fun h => ⟨h.1, h.2⟩⟩

instance (r : Registration) : Decidable r.Plain :=
  decidable_of_iff _ plain_iff.symm

/-! ## The two texts -/

/-- The blanks in front of a route on a line of its own. -/
def indent : List Char := List.replicate 12 ' '

theorem line_eq (r : Registration) : r.line =
    "import \x7b ".toList ++ (r.component.toList ++ (" \x7d from ".toList ++ '\'' ::
      ("./screens/".toList ++ (r.component.toList ++ '\'' :: [';'])))) := by
  have hfrom : " \x7d from './screens/".toList =
      " \x7d from ".toList ++ '\'' :: "./screens/".toList := by decide +kernel
  have hend : "';".toList = ['\'', ';'] := by decide +kernel
  simp only [line, importLine, String.toList_append, List.append_assoc]
  rw [hfrom, hend, List.append_assoc, List.cons_append]

/-- What a route leads with. -/
def pathWord : List Char := "Route path=".toList

/-- What stands between the two names of a route. -/
def elementWord : List Char := " element=\x7b".toList

/-- What a route ends in. -/
def closing : List Char := " />\x7d />".toList

theorem stripChars_indent {c d : Char} (hc : isBlank c = false) (hd : isBlank d = false)
    (body : List Char) : stripChars (indent ++ c :: (body ++ [d])) = c :: (body ++ [d]) := by
  have hindent : ∀ a ∈ indent, isBlank a = true := by
    intro a ha
    rw [List.eq_of_mem_replicate ha]
    rfl
  have hfront : (indent ++ c :: (body ++ [d])).dropWhile isBlank = c :: (body ++ [d]) := by
    rw [List.dropWhile_append_of_pos hindent, List.dropWhile_cons_of_neg (by simp [hc])]
  have hback : (c :: (body ++ [d])).reverse = d :: (body.reverse ++ [c]) := by simp
  rw [stripChars, hfront, hback, List.dropWhile_cons_of_neg (by simp [hd]), ← hback,
    List.reverse_reverse]

theorem routeLine_eq (r : Registration) : (routeLine r.route r.component).toList =
    indent ++ '<' :: (pathWord ++ '"' :: (r.route.toList ++ '"' :: (elementWord ++ '<' ::
      (r.component.toList ++ closing)))) := by
  have hpath : "            <Route path=\"".toList = indent ++ '<' :: (pathWord ++ ['"']) := by
    decide +kernel
  have helement : "\" element=\x7b<".toList = '"' :: (elementWord ++ ['<']) := by decide +kernel
  have hclosing : " />\x7d />".toList = closing := rfl
  unfold routeLine
  simp only [String.toList_append, List.append_assoc]
  rw [hpath, helement, hclosing]
  simp only [List.append_assoc, List.cons_append, List.nil_append]

theorem tag_eq (r : Registration) : r.tag =
    '<' :: (pathWord ++ '"' :: (r.route.toList ++ '"' :: (elementWord ++ '<' ::
      (r.component.toList ++ closing)))) := by
  have hclosing : closing = " />\x7d /".toList ++ ['>'] := by decide +kernel
  rw [tag, routeLine_eq, hclosing]
  have hstrip := stripChars_indent (c := '<') (d := '>') (by decide) (by decide)
    (pathWord ++ '"' :: (r.route.toList ++ '"' :: (elementWord ++ '<' ::
      (r.component.toList ++ " />\x7d /".toList))))
  simpa only [List.append_assoc, List.cons_append] using hstrip

/-- A route on a line of its own. -/
theorem routeLine_eq_tag (r : Registration) :
    (routeLine r.route r.component).toList = indent ++ r.tag := by
  rw [routeLine_eq, tag_eq]

/-! ## What may stand in them -/

section
variable {q r : Registration}

theorem not_mem_line {c : Char} (hc : c ∉ "import \x7b \x7d from './screens/';".toList)
    (h : c ∉ r.component.toList) : c ∉ r.line :=
  not_mem_importLine hc h

theorem not_mem_tag {c : Char} (hc : c ∉ "<Route path=\"\" element=\x7b< />\x7d />".toList)
    (hroute : c ∉ r.route.toList) (hcomponent : c ∉ r.component.toList) : c ∉ r.tag :=
  fun h => not_mem_routeLine hc hroute hcomponent ((infix_stripChars _).subset h)

theorem line_ne_nil (r : Registration) : r.line ≠ [] := by
  rw [line_eq]
  exact List.append_ne_nil_of_left_ne_nil (by decide) _

theorem tag_ne_nil (r : Registration) : r.tag ≠ [] := by
  rw [tag_eq]
  exact List.cons_ne_nil _ _

namespace Plain

theorem bracket_line (hr : r.Plain) : '<' ∉ r.line :=
  not_mem_line (by decide) (hr.component _ (by decide))

theorem break_line (hr : r.Plain) : '\n' ∉ r.line :=
  not_mem_line (by decide) (hr.component _ (by decide))

theorem break_tag (hr : r.Plain) : '\n' ∉ r.tag :=
  not_mem_tag (by decide +kernel) (hr.route _ (by decide)) (hr.component _ (by decide))

theorem apostrophe_tag (hr : r.Plain) : '\'' ∉ r.tag :=
  not_mem_tag (by decide +kernel) (hr.route _ (by decide)) (hr.component _ (by decide))

end Plain

/-- Which component an import is for can be read off it, wherever it is found. -/
theorem infix_line_iff (hr : r.Plain) : q.line <:+: r.line ↔ q.component = r.component := by
  constructor
  · intro h
    have hquote : '\'' ∉ r.component.toList := hr.component _ (by decide)
    have hsource : '\'' :: (("./screens/".toList ++ q.component.toList) ++ ['\'']) <:+: q.line := by
      refine ⟨"import \x7b ".toList ++ (q.component.toList ++ " \x7d from ".toList), [';'], ?_⟩
      rw [line_eq]
      simp only [List.append_assoc, List.cons_append, List.nil_append]
    have hline : r.line = ("import \x7b ".toList ++ (r.component.toList ++ " \x7d from ".toList)) ++
        '\'' :: (("./screens/".toList ++ r.component.toList) ++ '\'' :: [';']) := by
      rw [line_eq]
      simp only [List.append_assoc]
    have hfront : '\'' ∉ "import \x7b ".toList ++ (r.component.toList ++ " \x7d from ".toList) := by
      simp only [List.mem_append, not_or]
      exact ⟨by decide, hquote, by decide⟩
    have hbetween : '\'' ∉ "./screens/".toList ++ r.component.toList := by
      simp only [List.mem_append, not_or]
      exact ⟨by decide, hquote⟩
    have heq := eq_of_infix_quoted hfront hbetween (by decide) (hline ▸ hsource.trans h)
    exact String.toList_inj.mp (List.append_cancel_left heq)
  · intro h
    rw [line, line, h]

/-- What a route has in front of its second bracket. -/
def front (r : Registration) : List Char :=
  pathWord ++ '"' :: (r.route.toList ++ '"' :: elementWord)

/-- What a route has behind its second bracket. -/
def back (r : Registration) : List Char :=
  r.component.toList ++ closing

theorem tag_eq_brackets (r : Registration) : r.tag = '<' :: (r.front ++ '<' :: r.back) := by
  rw [tag_eq, front, back]
  simp only [List.append_assoc, List.cons_append]

namespace Plain

theorem bracket_front (hr : r.Plain) : '<' ∉ r.front := by
  have hroute : '<' ∉ r.route.toList := hr.route _ (by decide)
  simp only [front, List.mem_append, List.mem_cons, not_or]
  exact ⟨by decide, by decide, hroute, by decide, by decide⟩

theorem bracket_back (hr : r.Plain) : '<' ∉ r.back := by
  simp only [back, List.mem_append, not_or]
  exact ⟨hr.component _ (by decide), by decide⟩

/-- Behind its second bracket a route does not read like behind its first. -/
theorem not_prefix_path (hq : q.Plain) {rest : List Char} :
    ¬ q.back <+: pathWord ++ '"' :: rest := by
  intro h
  have hquote : '"' ∉ q.back := by
    simp only [back, List.mem_append, not_or]
    exact ⟨hq.component _ (by decide), by decide⟩
  have hslash : '/' ∈ q.back := List.mem_append_right _ (by decide)
  exact absurd ((prefix_of_not_mem hquote h).subset hslash) (by decide)

theorem head?_back_ne (hr : r.Plain) : r.back.head? ≠ some '/' := by
  have hslash : '/' ∉ r.component.toList := hr.component _ (by decide)
  rw [back, List.head?_append]
  intro h
  cases hname : r.component.toList with
  | nil =>
      rw [hname] at h
      revert h
      decide
  | cons c name =>
      rw [hname] at h hslash
      cases h
      exact hslash List.mem_cons_self

theorem eq_of_prefix_back (hq : q.Plain) (hr : r.Plain) (h : q.back <+: r.back) :
    q.component = r.component := by
  have hback (s : Registration) :
      s.back = (s.component.toList ++ [' ']) ++ '/' :: ['>', '\x7d', ' ', '/', '>'] := by
    rw [back, List.append_assoc]
    rfl
  have hslash {s : Registration} (hs : s.Plain) : '/' ∉ s.component.toList ++ [' '] := by
    simp only [List.mem_append, not_or]
    exact ⟨hs.component _ (by decide), by decide⟩
  rw [hback, hback] at h
  have heq := eq_of_prefix_separated (hslash hq) (hslash hr) h
  exact String.toList_inj.mp (List.append_cancel_right heq)

end Plain

/-- What is registered can be read off a route, wherever it is found. -/
theorem infix_tag_iff (hq : q.Plain) (hr : r.Plain) : q.tag <:+: r.tag ↔ q = r := by
  constructor
  · intro h
    have hroute : q.route = r.route := by
      have hquoted : '"' :: (q.route.toList ++ ['"']) <:+: q.tag := by
        refine ⟨'<' :: pathWord, elementWord ++ '<' :: q.back, ?_⟩
        rw [tag_eq, back]
        simp only [List.append_assoc, List.cons_append, List.nil_append]
      have htag : r.tag = ('<' :: pathWord) ++ '"' :: (r.route.toList ++ '"' ::
          (elementWord ++ '<' :: r.back)) := tag_eq r
      have hbehind : '"' ∉ elementWord ++ '<' :: r.back := by
        simp only [back, List.mem_append, List.mem_cons, not_or]
        exact ⟨by decide, by decide, hr.component _ (by decide), by decide⟩
      exact String.toList_inj.mp (eq_of_infix_quoted (by decide) (hr.route _ (by decide)) hbehind
        (htag ▸ hquoted.trans h))
    have hcomponent : q.component = r.component := by
      have hback : '<' :: q.back <:+: r.tag := by
        refine List.IsInfix.trans ⟨'<' :: q.front, [], ?_⟩ h
        rw [tag_eq_brackets, List.append_nil, List.cons_append]
      rw [tag_eq_brackets] at hback
      rcases List.infix_cons_iff.mp hback with hin | hin
      · refine absurd (List.cons_prefix_cons.mp hin).2 ?_
        rw [front, List.append_assoc, List.cons_append]
        exact hq.not_prefix_path
      · have hlast := infix_right_of_not_mem (List.head?_cons ..) hr.bracket_front hin
        rcases List.infix_cons_iff.mp hlast with hin | hin
        · exact hq.eq_of_prefix_back hr (List.cons_prefix_cons.mp hin).2
        · exact absurd (hin.subset List.mem_cons_self) hr.bracket_back
    obtain ⟨component, route⟩ := q
    cases hcomponent
    cases hroute
    rfl
  · rintro rfl
    exact List.infix_rfl

end

end Registration

/-! ## Marks -/

/-- A text on one line that is neither completed nor cut in two by an end of
routes or a route that comes to stand somewhere. -/
structure Mark (p : List Char) : Prop where
  ink : ∃ c ∈ p, c ≠ ' '
  oneLine : '\n' ∉ p
  clear_end : ∀ u rest, Clear p u (routesEnd ++ rest)
  clear_tag : ∀ r : Registration, r.Plain → ∀ u rest, Clear p u (r.tag ++ rest)

theorem Mark.ne_nil {p : List Char} (h : Mark p) : p ≠ [] := by
  rintro rfl
  obtain ⟨c, hc, -⟩ := h.ink
  cases hc

/-- A text without a bracket behind its front is a mark. -/
theorem mark_of_tail {p : List Char} (hink : ∃ c ∈ p, c ≠ ' ') (hbreak : '\n' ∉ p)
    (hbracket : '<' ∉ p.tail) : Mark p where
  ink := hink
  oneLine := hbreak
  clear_end _ _ := clear_of_tail rfl hbracket
  clear_tag r _ _ _ :=
    clear_of_tail (by rw [Registration.tag_eq, List.cons_append, List.head?_cons]) hbracket

theorem mark_routesEnd : Mark routesEnd :=
  mark_of_tail ⟨'<', by decide⟩ (by decide) (by decide)

namespace Registration

namespace Plain

variable {q : Registration}

theorem mark_line (hq : q.Plain) : Mark q.line := by
  refine mark_of_tail ⟨';', ?_, by decide⟩ hq.break_line
    fun h => hq.bracket_line (List.mem_of_mem_tail h)
  exact List.mem_of_getLast? (getLast?_importLine q.component)

/-- Only the second bracket of a route can stand where another text starts. -/
theorem clear_bracket (hq : q.Plain) {v : List Char} (hv : ¬ q.back <+: v) (u : List Char) :
    Clear q.tag u ('<' :: v) := by
  rintro start rest heq - hin
  cases rest with
  | nil => exact .inr rfl
  | cons d rest =>
      obtain ⟨rfl, hrest⟩ := List.cons_prefix_cons.mp hin
      cases start with
      | nil => exact .inl rfl
      | cons e start =>
          rw [tag_eq_brackets, List.cons_append] at heq
          obtain ⟨-, -, rfl⟩ := (List.append_cons_inj_of_notMem hq.bracket_front
            hq.bracket_back).mp (List.cons.inj heq).2
          exact absurd hrest hv

theorem mark_tag (hq : q.Plain) : Mark q.tag where
  ink := ⟨'<', by rw [tag_eq]; exact List.mem_cons_self, by decide⟩
  oneLine := hq.break_tag
  clear_end _ rest := by
    refine hq.clear_bracket (v := "/Routes>".toList ++ rest) (fun h => ?_) _
    cases hback : q.back with
    | nil => exact absurd hback (List.append_ne_nil_of_right_ne_nil _ (by decide))
    | cons c more =>
        rw [hback] at h
        have hhead := hq.head?_back_ne
        rw [hback, List.head?_cons, (List.cons_prefix_cons.mp h).1] at hhead
        exact hhead rfl
  clear_tag r _ u rest := by
    rw [tag_eq r]
    simp only [List.append_assoc, List.cons_append]
    exact hq.clear_bracket hq.not_prefix_path u

end Plain

/-! ## How often one text stands in another -/

section
variable {q r : Registration}

theorem occurrences_line_line (hr : r.Plain) :
    occurrences q.line r.line = if q.component = r.component then 1 else 0 := by
  split
  · next heq =>
      have hline : q.line = r.line := by rw [line, line, heq]
      rw [hline, occurrences_self r.line_ne_nil]
  · next hne => rwa [occurrences_eq_zero_iff, infix_line_iff hr]

theorem occurrences_tag_tag (hq : q.Plain) (hr : r.Plain) :
    occurrences q.tag r.tag = if q = r then 1 else 0 := by
  split
  · next heq => rw [heq, occurrences_self r.tag_ne_nil]
  · next hne => rwa [occurrences_eq_zero_iff, infix_tag_iff hq hr]

theorem occurrences_line_tag (hr : r.Plain) : occurrences q.line r.tag = 0 := by
  rw [occurrences_eq_zero_iff]
  intro h
  have hquote : '\'' ∈ q.line := by
    rw [line_eq]
    simp
  exact hr.apostrophe_tag (h.subset hquote)

theorem occurrences_tag_line (hr : r.Plain) : occurrences q.tag r.line = 0 := by
  rw [occurrences_eq_zero_iff, tag_eq]
  exact fun h => hr.bracket_line (h.subset List.mem_cons_self)

theorem occurrences_end_line (hr : r.Plain) : occurrences routesEnd r.line = 0 := by
  rw [occurrences_eq_zero_iff]
  exact fun h => hr.bracket_line (h.subset (by decide))

theorem occurrences_end_tag (hr : r.Plain) : occurrences routesEnd r.tag = 0 := by
  have hend : routesEnd = '<' :: '/' :: "Routes>".toList := by decide +kernel
  rw [occurrences_eq_zero_iff, tag_eq_brackets, hend]
  intro h
  rcases List.infix_cons_iff.mp h with hin | hin
  · have hpath := (List.cons_prefix_cons.mp hin).2
    rw [front, List.append_assoc] at hpath
    exact absurd ((prefix_of_not_mem (by decide) hpath).subset List.mem_cons_self) (by decide)
  · have hlast := infix_right_of_not_mem (List.head?_cons ..) hr.bracket_front hin
    rcases List.infix_cons_iff.mp hlast with hin | hin
    · obtain ⟨more, hmore⟩ := (List.cons_prefix_cons.mp hin).2
      have hhead := hr.head?_back_ne
      rw [← hmore] at hhead
      exact hhead rfl
    · exact hr.bracket_back (hin.subset List.mem_cons_self)

end

end Registration

end ScreenBridge.Source
