import ScreenBridge.Proofs.KeyOrder
import ScreenBridge.Proofs.Registration

/-!
# What a row of registrations makes of a manifest

A manifest is seen as a `Shell`: what stands in front of the line of its first
end of routes, what stands in front of that end on its line, and what follows.
Registering fills a shell with routes and lets it grow. An import comes in at
the start of the text or behind another import, and the filled part has no such
place, so imports only ever make the two outer parts longer
(`insertImport_text`). A route is the next one in the filled part
(`insertRoute_text`). Over a row of registrations the shell has then grown
around the routes that are new, in the order in which they came
(`registerAll_text`).

Which are new is a matter of counting. Every text that is looked for is a
`Mark`, so a registration adds to the number of its copies what it writes and
no more (`occurrences_register`).
-/

namespace ScreenBridge.Source

open Text

/-- A manifest around the first end of its routes. -/
structure Shell where
  /-- The whole lines in front. -/
  lines : List Char
  /-- What stands in front of the end of routes on its line. -/
  head : List Char
  /-- What follows the end of routes. -/
  rest : List Char
  ended : EndsLine lines
  oneLine : '\n' ∉ head
  first : ¬ routesEnd <:+: lines ++ head

namespace Shell

/-- Nothing but blanks stands in front of the end of routes on its line. That is what it takes for
it to count as alone on that line: routes then come in as lines in front of it. -/
def Alone (s : Shell) : Prop :=
  stripChars s.head = []

instance (s : Shell) : Decidable s.Alone :=
  inferInstanceAs (Decidable (_ = _))

/-- A route on a line of its own. -/
def ownLine (r : Registration) : List Char :=
  (routeLine r.route r.component).toList ++ ['\n']

/-- The text in front of the end of routes when some routes are put in: each on a line of its own
before that line, or else one behind the other right before the end of routes. -/
def before (s : Shell) (rs : List Registration) : List Char :=
  if s.Alone then s.lines ++ (rs.flatMap ownLine ++ s.head)
  else s.lines ++ (s.head ++ rs.flatMap Registration.tag)

/-- The manifest when some routes are put in. -/
def text (s : Shell) (rs : List Registration) : List Char :=
  s.before rs ++ (routesEnd ++ s.rest)

/-- A shell with more lines in it. -/
structure Grows (s s' : Shell) : Prop where
  lines : s.lines.Sublist s'.lines
  head : s'.head = s.head
  rest : s.rest.Sublist s'.rest

theorem Grows.refl (s : Shell) : s.Grows s :=
  ⟨.refl _, rfl, .refl _⟩

theorem Grows.trans {s s' s'' : Shell} (h : s.Grows s') (h' : s'.Grows s'') : s.Grows s'' :=
  ⟨h.lines.trans h'.lines, h'.head.trans h.head, h.rest.trans h'.rest⟩

theorem Grows.alone_iff {s s' : Shell} (h : s.Grows s') : s'.Alone ↔ s.Alone := by
  rw [Alone, Alone, h.head]

theorem before_nil (s : Shell) : s.before [] = s.lines ++ s.head := by
  rw [before]
  split
  · rfl
  · rw [List.flatMap_nil, List.append_nil]

/-- What was there is still there. -/
theorem Grows.sublist {s s' : Shell} (h : s.Grows s') (rs : List Registration) :
    (s.text []).Sublist (s'.text rs) := by
  rw [text, text, before_nil]
  refine List.Sublist.append ?_ ((List.Sublist.refl _).append h.rest)
  rw [before, h.head]
  split
  · exact h.lines.append (List.sublist_append_right ..)
  · exact h.lines.append (List.sublist_append_left ..)

end Shell

/-- A manifest with an end of routes has a shell. -/
theorem exists_shell {content : List Char} (h : routesEnd <:+: content) :
    ∃ s : Shell, s.text [] = content := by
  obtain ⟨⟨before, tail⟩, hcut⟩ := Option.isSome_iff_exists.mp (occursIn_iff.mpr h)
  obtain ⟨rest, rfl⟩ := prefix_of_cutAt? hcut
  have hfirst := not_infix_of_cutAt? mark_routesEnd.ne_nil hcut
  rw [← cutLastLine_append before] at hfirst
  refine ⟨⟨(cutLastLine before).1, (cutLastLine before).2, rest, endsLine_cutLastLine before,
    not_mem_cutLastLine before, hfirst⟩, ?_⟩
  rw [Shell.text, Shell.before_nil]
  exact (congrArg (· ++ _) (cutLastLine_append before)).trans (append_of_cutAt? hcut)

/-! ## Counting through a shell -/

namespace Shell

variable {s : Shell} {rs : List Registration} {r : Registration} {p : List Char}

theorem endsLine_ownLines (rs : List Registration) : EndsLine (rs.flatMap ownLine) := by
  induction rs with
  | nil => exact .inl rfl
  | cons r rs ih =>
      rw [List.flatMap_cons]
      refine endsLine_append (.inr ?_) ih
      rw [ownLine, List.getLast?_concat]

theorem not_mem_tags (hrs : ∀ r ∈ rs, r.Plain) : '\n' ∉ rs.flatMap Registration.tag := by
  rw [List.mem_flatMap]
  rintro ⟨r, hr, hmem⟩
  exact (hrs r hr).break_tag hmem

/-- How often a text stands in some routes. -/
def copies (p : List Char) : List Registration → Nat
  | [] => 0
  | r :: rs => occurrences p r.tag + copies p rs

theorem copies_eq_zero (h : ∀ r ∈ rs, occurrences p r.tag = 0) : copies p rs = 0 := by
  induction rs with
  | nil => rfl
  | cons r rs ih =>
      rw [List.forall_mem_cons] at h
      rw [copies, h.1, ih h.2]

theorem occurrences_ownLine (hp : Mark p) (hr : r.Plain) (rest : List Char) :
    occurrences p (ownLine r ++ rest) = occurrences p r.tag + occurrences p rest := by
  have hblank : occurrences p Registration.indent = 0 := by
    rw [occurrences_eq_zero_iff]
    intro h
    obtain ⟨c, hc, hne⟩ := hp.ink
    exact hne (List.eq_of_mem_replicate (h.subset hc))
  have hclear := hp.clear_tag r hr Registration.indent []
  rw [List.append_nil] at hclear
  rw [ownLine, Registration.routeLine_eq_tag, List.append_assoc, List.singleton_append,
    occurrences_line hp.ne_nil hp.oneLine, occurrences_append hp.ne_nil hclear, hblank,
    Nat.zero_add]

theorem occurrences_ownLines (hp : Mark p) (hrs : ∀ r ∈ rs, r.Plain) (rest : List Char) :
    occurrences p (rs.flatMap ownLine ++ rest) = copies p rs + occurrences p rest := by
  induction rs with
  | nil => rw [List.flatMap_nil, copies, List.nil_append, Nat.zero_add]
  | cons r rs ih =>
      rw [List.forall_mem_cons] at hrs
      rw [List.flatMap_cons, List.append_assoc, occurrences_ownLine hp hrs.1, ih hrs.2, copies,
        Nat.add_assoc]

theorem occurrences_tags (hp : Mark p) (hrs : ∀ r ∈ rs, r.Plain) (front : List Char) :
    occurrences p (front ++ rs.flatMap Registration.tag) = occurrences p front + copies p rs := by
  induction rs generalizing front with
  | nil => rw [List.flatMap_nil, List.append_nil, copies, Nat.add_zero]
  | cons r rs ih =>
      rw [List.forall_mem_cons] at hrs
      rw [List.flatMap_cons, occurrences_append hp.ne_nil (hp.clear_tag r hrs.1 _ _), ih hrs.2,
        copies]

/-- In front of the end of routes stand the copies of the shell and those of the routes. -/
theorem occurrences_before (hp : Mark p) (hrs : ∀ r ∈ rs, r.Plain) :
    occurrences p (s.before rs) = occurrences p (s.lines ++ s.head) + copies p rs := by
  have hclear (rest : List Char) : Clear p s.lines rest := clear_of_endsLine s.ended hp.oneLine
  rw [before, occurrences_append hp.ne_nil (hclear s.head)]
  split
  · rw [occurrences_append hp.ne_nil (hclear _), occurrences_ownLines hp hrs]
    omega
  · rw [occurrences_append hp.ne_nil (hclear _), occurrences_tags hp hrs]
    omega

theorem occurrences_text (hp : Mark p) (hrs : ∀ r ∈ rs, r.Plain) :
    occurrences p (s.text rs) = occurrences p (s.text []) + copies p rs := by
  have hclear (front : List Char) := occurrences_append hp.ne_nil (hp.clear_end front s.rest)
  rw [text, text, hclear, hclear, occurrences_before hp hrs, before_nil]
  omega

/-- The end of routes of a shell stays the first one. -/
theorem cutAt?_text (hrs : ∀ r ∈ rs, r.Plain) :
    cutAt? routesEnd (s.text rs) = some (s.before rs, routesEnd ++ s.rest) := by
  refine cutAt?_eq_some mark_routesEnd.ne_nil ?_ (mark_routesEnd.clear_end _ _)
  have hnone : copies routesEnd rs = 0 :=
    copies_eq_zero fun r hr => Registration.occurrences_end_tag (hrs r hr)
  rw [← occurrences_eq_zero_iff, occurrences_before mark_routesEnd hrs, hnone,
    occurrences_eq_zero_iff.mpr s.first]

/-! ## A route comes in -/

/-- Routes do not make the front of the line of the end of routes blank. -/
theorem stripChars_head_ne (h : ¬ s.Alone) (more : List Char) :
    stripChars (s.head ++ more) ≠ [] := by
  intro hstrip
  have hall := blank_of_stripChars hstrip
  exact h (stripChars_of_all_blank fun c hc => hall c (List.mem_append_left _ hc))

/-- A route is the next one in its shell. -/
theorem insertRoute_text (hrs : ∀ r ∈ rs, r.Plain) (hnew : ¬ r.tag <:+: s.text rs) :
    insertRouteChars (s.text rs) (routeLine r.route r.component).toList = s.text (rs ++ [r]) := by
  have hsearch : ¬ occursIn (stripChars (routeLine r.route r.component).toList) (s.text rs) := by
    rw [occursIn_iff]
    exact hnew
  rw [insertRouteChars, if_neg hsearch, cutAt?_text hrs]
  simp only
  by_cases halone : s.Alone
  · have hbefore (rs : List Registration) :
        s.before rs = (s.lines ++ rs.flatMap ownLine) ++ s.head := by
      rw [before, if_pos halone, List.append_assoc]
    have hended := endsLine_append s.ended (endsLine_ownLines rs)
    rw [text, hbefore, hbefore, cutLastLine_of_endsLine hended s.oneLine]
    simp only
    rw [if_pos (show stripChars s.head = [] from halone), List.flatMap_append,
      List.flatMap_singleton, ownLine]
    simp only [List.append_assoc, List.cons_append, List.nil_append]
  · have hbefore (rs : List Registration) :
        s.before rs = s.lines ++ (s.head ++ rs.flatMap Registration.tag) := by
      rw [before, if_neg halone]
    have hline : '\n' ∉ s.head ++ rs.flatMap Registration.tag := by
      rw [List.mem_append, not_or]
      exact ⟨s.oneLine, not_mem_tags hrs⟩
    rw [text, hbefore, hbefore, cutLastLine_of_endsLine s.ended hline]
    simp only
    rw [if_neg (stripChars_head_ne halone _), List.flatMap_append, List.flatMap_singleton]
    simp only [List.append_assoc]
    rfl

/-! ## An import comes in -/

/-- The part of a manifest from the line of the end of routes on, the routes included. -/
def filled (s : Shell) (rs : List Registration) : List Char :=
  if s.Alone then rs.flatMap ownLine ++ (s.head ++ routesEnd)
  else (s.head ++ rs.flatMap Registration.tag) ++ routesEnd

theorem text_eq_filled (s : Shell) (rs : List Registration) :
    s.text rs = s.lines ++ (s.filled rs ++ s.rest) := by
  rw [text, before, filled]
  split <;> simp only [List.append_assoc]

theorem Grows.filled_eq {s s' : Shell} (h : s.Grows s') (rs : List Registration) :
    s'.filled rs = s.filled rs := by
  simp only [filled, h.alone_iff, h.head]

theorem ownLine_eq (r : Registration) :
    ∃ body, ownLine r = (body ++ ['>']) ++ ['\n'] := by
  refine ⟨Registration.indent ++ ('<' :: (r.front ++ '<' :: (r.component.toList ++
    " />\x7d /".toList))), ?_⟩
  have hclosing : Registration.closing = " />\x7d /".toList ++ ['>'] := by decide +kernel
  rw [ownLine, Registration.routeLine_eq_tag, Registration.tag_eq_brackets, Registration.back,
    hclosing]
  simp only [List.append_assoc, List.cons_append]

/-- Lines of routes end in a bracket. -/
theorem getLast?_of_ownLines {tail front : List Char} (hrs : ∀ r ∈ rs, r.Plain)
    (htail : '\n' ∉ tail) (h : front ++ ['\n'] <+: rs.flatMap ownLine ++ tail) :
    front.getLast? = some '>' := by
  induction rs generalizing front with
  | nil => exact absurd (h.subset (List.mem_append_right _ List.mem_cons_self)) htail
  | cons r rs ih =>
      rw [List.forall_mem_cons] at hrs
      obtain ⟨body, hbody⟩ := ownLine_eq r
      have hbreak : '\n' ∉ body ++ ['>'] := by
        intro hmem
        have hline : '\n' ∉ Registration.indent ++ r.tag := by
          rw [List.mem_append, not_or]
          exact ⟨by decide, hrs.1.break_tag⟩
        rw [ownLine, Registration.routeLine_eq_tag] at hbody
        exact hline (List.append_cancel_right hbody ▸ hmem)
      rw [List.flatMap_cons, hbody, List.append_assoc] at h
      rcases List.prefix_or_prefix_of_prefix h (List.prefix_append ..) with hin | hover
      · rcases List.prefix_concat_iff.mp hin with heq | hshort
        · rw [List.append_cancel_right heq, List.getLast?_concat]
        · exact absurd (hshort.subset (List.mem_append_right _ List.mem_cons_self)) hbreak
      · rcases List.prefix_concat_iff.mp hover with heq | ⟨more, rfl⟩
        · rw [← List.append_cancel_right heq, List.getLast?_concat]
        · rw [List.append_assoc, List.prefix_append_right_inj] at h
          rw [List.getLast?_append, ih hrs.2 h, Option.some_or]

theorem getLast?_of_filled {front : List Char} (hrs : ∀ r ∈ rs, r.Plain)
    (h : front ++ ['\n'] <+: s.filled rs) : front.getLast? = some '>' := by
  have hend : '\n' ∉ s.head ++ routesEnd := by
    rw [List.mem_append, not_or]
    exact ⟨s.oneLine, by decide⟩
  rw [filled] at h
  split at h
  · exact getLast?_of_ownLines hrs hend h
  · have hmem := h.subset (List.mem_append_right _ List.mem_cons_self)
    simp only [List.mem_append] at hmem
    rcases hmem with (hmem | hmem) | hmem
    · exact absurd hmem s.oneLine
    · exact absurd hmem (not_mem_tags hrs)
    · exact absurd hmem (by decide)

/-- A line that ends among the routes is a route, and no route ends like an import. -/
theorem ne_endsImport {front imports : List Char} (hrs : ∀ r ∈ rs, r.Plain)
    (h : front ++ ['\n'] <+: s.filled rs) : s.lines ++ front ≠ imports ++ [';'] := by
  intro heq
  have hsame := congrArg List.getLast? heq
  rw [List.getLast?_append, getLast?_of_filled hrs h, Option.some_or, List.getLast?_concat] at hsame
  cases hsame

/-- A line put in among the lines in front. -/
theorem exists_grown {u b line : List Char} (s : Shell) (hlines : s.lines = u ++ b)
    (hu : EndsLine u) (hline : occurrences routesEnd line = 0) :
    ∃ s' : Shell, s.Grows s' ∧ s'.lines = u ++ (line ++ '\n' :: b) ∧ s'.rest = s.rest := by
  have hb : EndsLine b := by
    have hended := s.ended
    cases hlast : b.getLast? with
    | none => exact .inl (List.getLast?_eq_none_iff.mp hlast)
    | some c =>
        rw [hlines, EndsLine, List.getLast?_append, hlast, Option.some_or] at hended
        rcases hended with hnil | hbreak
        · exact .inl (List.append_eq_nil_iff.mp hnil).2
        · exact .inr (hlast.trans hbreak)
  have hended : EndsLine (u ++ (line ++ '\n' :: b)) := by
    refine endsLine_append hu ?_
    rw [← List.singleton_append, ← List.append_assoc]
    exact endsLine_append (.inr List.getLast?_concat) hb
  have hfirst : ¬ routesEnd <:+: (u ++ (line ++ '\n' :: b)) ++ s.head := by
    have hnone := occurrences_eq_zero_iff.mpr s.first
    rw [hlines, List.append_assoc] at hnone
    rw [← occurrences_eq_zero_iff, List.append_assoc, List.append_assoc, List.cons_append,
      occurrences_insert mark_routesEnd.ne_nil (by decide) hu, hnone, hline]
  refine ⟨⟨u ++ (line ++ '\n' :: b), s.head, s.rest, hended, s.oneLine, hfirst⟩, ?_, rfl, rfl⟩
  refine ⟨?_, rfl, .refl _⟩
  rw [hlines]
  exact (List.Sublist.refl u).append
    ((List.sublist_cons_self '\n' b).trans (List.sublist_append_right ..))

/-- An import makes the lines in front longer, or what follows. -/
theorem insertImport_text (hrs : ∀ r ∈ rs, r.Plain) (hr : r.Plain)
    (hnew : ¬ r.line <:+: s.text rs) :
    ∃ s' : Shell, s.Grows s' ∧ insertImportChars (s.text rs) r.line = s'.text rs := by
  obtain ⟨u, v, hcut, hplace, hinsert⟩ := exists_importCut (s.text rs)
  have hu : EndsLine u := by
    rcases hplace with rfl | ⟨front, rfl⟩
    · exact .inl rfl
    · exact .inr (by simp)
  have hamong {b : List Char} (hlines : s.lines = u ++ b) (hv : v = b ++ (s.filled rs ++ s.rest)) :
      ∃ s' : Shell, s.Grows s' ∧ u ++ (r.line ++ '\n' :: v) = s'.text rs := by
    obtain ⟨s', hgrows, hlines', hrest⟩ :=
      s.exists_grown hlines hu (Registration.occurrences_end_line hr)
    refine ⟨s', hgrows, ?_⟩
    rw [text_eq_filled, hgrows.filled_eq, hlines', hrest, hv]
    simp only [List.append_assoc, List.cons_append]
  rw [hinsert _ hnew]
  rw [text_eq_filled] at hcut
  rcases List.append_eq_append_iff.mp hcut with ⟨a, rfl, hafter⟩ | ⟨b, hlines, hv⟩
  · rcases List.append_eq_append_iff.mp hafter with ⟨a', rfl, hrest⟩ | ⟨b, hfilled, rfl⟩
    · refine ⟨{ s with rest := a' ++ (r.line ++ '\n' :: v) }, ⟨.refl _, rfl, ?_⟩, ?_⟩
      · rw [hrest]
        exact (List.Sublist.refl a').append
          ((List.sublist_cons_self '\n' v).trans (List.sublist_append_right ..))
      · rw [text_eq_filled]
        simp only [List.append_assoc]
        rfl
    · rcases List.eq_nil_or_concat a with rfl | ⟨front, c, rfl⟩
      · exact hamong (b := []) (by simp only [List.append_nil]) (by rw [hfilled]; rfl)
      · exfalso
        rw [List.concat_eq_append] at hplace hfilled
        rcases hplace with hnil | ⟨imports, heq⟩
        · simp at hnil
        · have hall : (s.lines ++ front) ++ [c] = (imports ++ [';']) ++ ['\n'] := by
            simpa only [List.append_assoc, List.singleton_append] using heq
          obtain ⟨hfront, hc⟩ := List.append_inj' hall rfl
          cases hc
          exact ne_endsImport hrs (hfilled ▸ List.prefix_append (front ++ ['\n']) b) hfront
  · exact hamong hlines hv

end Shell

/-! ## One registration -/

section
variable {content : List Char} {r : Registration} {p : List Char}

/-- The manifest in which something is registered. -/
def Registration.register (content : String) (r : Registration) : String :=
  updateManifest content r.component r.route

theorem toList_register (content : String) (r : Registration) :
    (r.register content).toList =
      insertRouteChars (insertImportChars content.toList r.line)
        (routeLine r.route r.component).toList :=
  toList_updateManifest ..

theorem occurrences_insertImport (hp : Mark p) (content line : List Char) :
    occurrences p (insertImportChars content line) =
      occurrences p content + if line <:+: content then 0 else occurrences p line := by
  split
  · next h => rw [insertImportChars_of_occurs h, Nat.add_zero]
  · next h =>
      obtain ⟨u, v, rfl, hplace, hinsert⟩ := exists_importCut content
      have hu : EndsLine u := by
        rcases hplace with rfl | ⟨front, rfl⟩
        · exact .inl rfl
        · exact .inr (by simp)
      rw [hinsert line h, occurrences_insert hp.ne_nil hp.oneLine hu]

/-- An import does not bring in a mark that it does not hold. -/
theorem infix_insertImport_iff {content line : List Char} (hp : Mark p)
    (hnone : occurrences p line = 0) :
    p <:+: insertImportChars content line ↔ p <:+: content := by
  rw [← not_iff_not, ← occurrences_eq_zero_iff, ← occurrences_eq_zero_iff,
    occurrences_insertImport hp, hnone, ite_self, Nat.add_zero]

theorem occurrences_insertRoute (hp : Mark p) (hr : r.Plain) (hend : routesEnd <:+: content) :
    occurrences p (insertRouteChars content (routeLine r.route r.component).toList) =
      occurrences p content + if r.tag <:+: content then 0 else occurrences p r.tag := by
  split
  · next h => rw [insertRouteChars_of_occurs h, Nat.add_zero]
  · next h =>
      obtain ⟨s, rfl⟩ := exists_shell hend
      rw [Shell.insertRoute_text (List.forall_mem_nil _) h, List.nil_append,
        Shell.occurrences_text hp (List.forall_mem_singleton.mpr hr), Shell.copies, Shell.copies,
        Nat.add_zero]

/-- A mark stands in the manifest as often as before, once more for each of the two texts that
are new and hold it. -/
theorem occurrences_register {content : String} (hp : Mark p) (hr : r.Plain)
    (hend : routesEnd <:+: content.toList) :
    occurrences p (r.register content).toList = occurrences p content.toList +
      (if r.line <:+: content.toList then 0 else occurrences p r.line) +
      (if r.tag <:+: content.toList then 0 else occurrences p r.tag) := by
  rw [toList_register, occurrences_insertRoute hp hr, occurrences_insertImport hp]
  · simp only [infix_insertImport_iff hr.mark_tag (Registration.occurrences_tag_line hr)]
  · rwa [infix_insertImport_iff mark_routesEnd (Registration.occurrences_end_line hr)]

theorem routesEnd_register {content : String} (hr : r.Plain)
    (hend : routesEnd <:+: content.toList) : routesEnd <:+: (r.register content).toList := by
  have hcount := occurrences_register mark_routesEnd hr hend
  rw [Registration.occurrences_end_line hr, Registration.occurrences_end_tag hr, ite_self,
    ite_self] at hcount
  by_contra hnone
  rw [occurrences_eq_zero_iff.mpr hnone] at hcount
  exact occurrences_eq_zero_iff.mp hcount.symm hend

end

/-! ## A row of registrations -/

section
variable {content : String} {rs : List Registration} {q r : Registration} {p : List Char}

/-- The manifest in which a row of things is registered, one after the other. -/
def registerAll (content : String) (rs : List Registration) : String :=
  rs.foldl Registration.register content

/-- The registrations whose routes are not in the manifest yet, in the order in which they come
first. -/
def newcomers (content : String) (rs : List Registration) : List Registration :=
  (rs.filter fun r => !occursIn r.tag content.toList).eraseDups

theorem registerAll_concat (content : String) (rs : List Registration) (r : Registration) :
    registerAll content (rs ++ [r]) = r.register (registerAll content rs) := by
  rw [registerAll, List.foldl_append, List.foldl_cons, List.foldl_nil, registerAll]

theorem mem_newcomers : r ∈ newcomers content rs ↔ r ∈ rs ∧ ¬ r.tag <:+: content.toList := by
  rw [newcomers, List.mem_eraseDups, List.mem_filter, Bool.not_eq_true', ← Bool.not_eq_true,
    occursIn_iff]

/-- The last of a row is new if its route is not there and did not come before. -/
theorem newcomers_concat (content : String) (rs : List Registration) (r : Registration) :
    newcomers content (rs ++ [r]) =
      if r.tag <:+: content.toList ∨ r ∈ rs then newcomers content rs
      else newcomers content rs ++ [r] := by
  rw [newcomers, List.filter_append]
  by_cases htag : r.tag <:+: content.toList
  · have hold : (!occursIn r.tag content.toList) = false := by
      rw [Bool.not_eq_false', occursIn_iff]
      exact htag
    rw [if_pos (.inl htag), List.filter_cons_of_neg (by simp [hold]), List.filter_nil,
      List.append_nil, newcomers]
  · have hnew : (!occursIn r.tag content.toList) = true := by
      rw [Bool.not_eq_true', ← Bool.not_eq_true, occursIn_iff]
      exact htag
    rw [List.filter_cons_of_pos (by exact hnew), List.filter_nil, eraseDups_concat, ← newcomers]
    simp only [List.mem_filter, hnew, and_true, htag, false_or]

/-! ### How often a text stands in the end -/

/-- After a row of registrations a mark stands in the manifest as often as before, or once if it
was not there and one of the row writes it. -/
theorem occurrences_registerAll {W : Registration → Prop} [DecidablePred W]
    (hrs : ∀ r ∈ rs, r.Plain) (hend : routesEnd <:+: content.toList)
    (hstep : ∀ r ∈ rs, ∀ content : String, routesEnd <:+: content.toList →
      occurrences p (r.register content).toList =
        if W r then max 1 (occurrences p content.toList) else occurrences p content.toList) :
    occurrences p (registerAll content rs).toList =
      if ∃ r ∈ rs, W r then max 1 (occurrences p content.toList)
      else occurrences p content.toList := by
  induction rs generalizing content with
  | nil => simp [registerAll]
  | cons r rs ih =>
      rw [List.forall_mem_cons] at hrs hstep
      have hrest := ih hrs.2 (routesEnd_register hrs.1 hend) hstep.2
      rw [registerAll] at hrest
      rw [registerAll, List.foldl_cons, hrest, hstep.1 content hend]
      by_cases hr : W r <;> by_cases hrow : ∃ r ∈ rs, W r
      all_goals simp only [List.exists_mem_cons_iff, hr, hrow, or_true, true_or, or_self, if_true,
        if_false, Nat.max_self, ← Nat.max_assoc]

theorem add_one_if_missing (p content : List Char) :
    occurrences p content + (if p <:+: content then 0 else 1) = max 1 (occurrences p content) := by
  split
  · next h =>
      have hpos : occurrences p content ≠ 0 := fun hzero => occurrences_eq_zero_iff.mp hzero h
      omega
  · next h =>
      rw [occurrences_eq_zero_iff.mpr h]
      rfl

theorem occurrences_line_register (hr : r.Plain) (hq : q.Plain)
    (hend : routesEnd <:+: content.toList) :
    occurrences q.line (r.register content).toList =
      if q.component = r.component then max 1 (occurrences q.line content.toList)
      else occurrences q.line content.toList := by
  rw [occurrences_register hq.mark_line hr hend, Registration.occurrences_line_line hr,
    Registration.occurrences_line_tag hr, ite_self, Nat.add_zero]
  by_cases hsame : q.component = r.component
  · have hline : r.line = q.line := by rw [Registration.line, Registration.line, hsame]
    rw [if_pos hsame, if_pos hsame, hline, add_one_if_missing]
  · rw [if_neg hsame, if_neg hsame, ite_self, Nat.add_zero]

theorem occurrences_tag_register (hr : r.Plain) (hq : q.Plain)
    (hend : routesEnd <:+: content.toList) :
    occurrences q.tag (r.register content).toList =
      if q = r then max 1 (occurrences q.tag content.toList)
      else occurrences q.tag content.toList := by
  rw [occurrences_register hq.mark_tag hr hend, Registration.occurrences_tag_tag hq hr,
    Registration.occurrences_tag_line hr, ite_self, Nat.add_zero]
  by_cases hsame : q = r
  · subst hsame
    rw [if_pos rfl, if_pos rfl, add_one_if_missing]
  · rw [if_neg hsame, if_neg hsame, ite_self, Nat.add_zero]

theorem occurrences_line_registerAll (hrs : ∀ r ∈ rs, r.Plain) (hq : q.Plain)
    (hend : routesEnd <:+: content.toList) :
    occurrences q.line (registerAll content rs).toList =
      if ∃ r ∈ rs, q.component = r.component then max 1 (occurrences q.line content.toList)
      else occurrences q.line content.toList :=
  occurrences_registerAll hrs hend fun r hr _ => occurrences_line_register (hrs r hr) hq

theorem occurrences_tag_registerAll (hrs : ∀ r ∈ rs, r.Plain) (hq : q.Plain)
    (hend : routesEnd <:+: content.toList) :
    occurrences q.tag (registerAll content rs).toList =
      if ∃ r ∈ rs, q = r then max 1 (occurrences q.tag content.toList)
      else occurrences q.tag content.toList :=
  occurrences_registerAll hrs hend fun r hr _ => occurrences_tag_register (hrs r hr) hq

theorem infix_tag_registerAll (hrs : ∀ r ∈ rs, r.Plain) (hq : q.Plain)
    (hend : routesEnd <:+: content.toList) :
    q.tag <:+: (registerAll content rs).toList ↔ q.tag <:+: content.toList ∨ q ∈ rs := by
  have hcount := occurrences_tag_registerAll hrs hq hend
  rw [← not_iff_not, not_or, ← occurrences_eq_zero_iff, ← occurrences_eq_zero_iff, hcount]
  by_cases hmem : q ∈ rs
  · rw [if_pos ⟨q, hmem, rfl⟩]
    have hpos : max 1 (occurrences q.tag content.toList) ≠ 0 := by omega
    simp only [hpos, hmem, not_true, and_false]
  · rw [if_neg (by rintro ⟨r, hr, rfl⟩; exact hmem hr)]
    simp only [hmem, not_false_eq_true, and_true]

/-! ### What the manifest looks like in the end -/

/-- After a row of registrations the manifest is its shell, grown, around the new routes. -/
theorem registerAll_text {s : Shell} (hs : s.text [] = content.toList)
    (hrs : ∀ r ∈ rs, r.Plain) (hend : routesEnd <:+: content.toList) :
    ∃ s' : Shell, s.Grows s' ∧
      (registerAll content rs).toList = s'.text (newcomers content rs) := by
  induction rs using List.reverseRecOn with
  | nil => exact ⟨s, .refl s, hs.symm⟩
  | append_singleton rs r ih =>
      have hbefore : ∀ q ∈ rs, q.Plain := fun q hq => hrs q (List.mem_append_left _ hq)
      have hr : r.Plain := hrs r (by simp)
      obtain ⟨s₁, hgrown, htext⟩ := ih hbefore
      have hnew : ∀ q ∈ newcomers content rs, q.Plain :=
        fun q hq => hbefore q (mem_newcomers.mp hq).1
      obtain ⟨s₂, hgrows, himport⟩ : ∃ s₂ : Shell, s₁.Grows s₂ ∧
          insertImportChars (registerAll content rs).toList r.line =
            s₂.text (newcomers content rs) := by
        by_cases hline : r.line <:+: (registerAll content rs).toList
        · exact ⟨s₁, .refl s₁, (insertImportChars_of_occurs hline).trans htext⟩
        · rw [htext] at hline ⊢
          exact Shell.insertImport_text hnew hr hline
      have hfound : r.tag <:+: s₂.text (newcomers content rs) ↔
          r.tag <:+: content.toList ∨ r ∈ rs := by
        rw [← himport, infix_insertImport_iff hr.mark_tag (Registration.occurrences_tag_line hr)]
        exact infix_tag_registerAll hbefore hr hend
      refine ⟨s₂, hgrown.trans hgrows, ?_⟩
      rw [registerAll_concat, toList_register, himport, newcomers_concat]
      split
      · next hold => exact insertRouteChars_of_occurs (hfound.mpr hold)
      · next hnone => exact Shell.insertRoute_text hnew (mt hfound.mp hnone)

/-- What a row of registrations makes of a manifest. -/
structure Records (content : String) (rs : List Registration) (result : String) : Prop where
  /-- Nothing is taken away. -/
  kept : content.toList.Sublist result.toList
  /-- The imports stand there as often as before, or once. -/
  imports : ∀ r ∈ rs, occurrences r.line result.toList =
    if r.line <:+: content.toList then occurrences r.line content.toList else 1
  /-- The routes stand there as often as before, or once. -/
  routes : ∀ r ∈ rs, occurrences r.tag result.toList =
    if r.tag <:+: content.toList then occurrences r.tag content.toList else 1
  /-- The new routes stand in front of the first end of routes, in the order in which they came
  first, and behind everything that stood there: the lines in front of that end and what is in
  front of it on its own line, but for the blanks in front of an end that is alone on its line. -/
  placed : ∃ s s' : Shell, s.Grows s' ∧
    cutAt? routesEnd content.toList = some (s.before [], routesEnd ++ s.rest) ∧
    cutAt? routesEnd result.toList = some (s'.before (newcomers content rs), routesEnd ++ s'.rest)

theorem max_one_occurrences (p content : List Char) :
    max 1 (occurrences p content) = if p <:+: content then occurrences p content else 1 := by
  rw [← add_one_if_missing]
  split
  · rw [Nat.add_zero]
  · next h => rw [occurrences_eq_zero_iff.mpr h]

/-- Whatever is registered in a manifest, in whatever order and however often: nothing of the
manifest is lost, every import and every route stands in it, once unless it stood there before, and
the new routes stand where they belong. -/
theorem records_registerAll (content : String) (rs : List Registration)
    (hend : routesEnd <:+: content.toList) (hrs : ∀ r ∈ rs, r.Plain) :
    Records content rs (registerAll content rs) := by
  obtain ⟨s, hs⟩ := exists_shell hend
  obtain ⟨s', hgrows, htext⟩ := registerAll_text hs hrs hend
  have hnew : ∀ q ∈ newcomers content rs, q.Plain := fun q hq => hrs q (mem_newcomers.mp hq).1
  refine ⟨?_, fun r hr => ?_, fun r hr => ?_, s, s', hgrows, ?_, ?_⟩
  · rw [← hs, htext]
    exact hgrows.sublist _
  · rw [occurrences_line_registerAll hrs (hrs r hr) hend, if_pos ⟨r, hr, rfl⟩,
      max_one_occurrences]
  · rw [occurrences_tag_registerAll hrs (hrs r hr) hend, if_pos ⟨r, hr, rfl⟩, max_one_occurrences]
  · rw [← hs, Shell.cutAt?_text (List.forall_mem_nil _)]
  · rw [htext, Shell.cutAt?_text hnew]

/-- Two screens, one of them under two routes, and a route that comes again. -/
theorem records_registerAll_inline :
    routesEnd <:+: "<Routes></Routes>".toList ∧
      (∀ r ∈ [⟨"Home", "/"⟩, ⟨"Detail", "/d"⟩, ⟨"Home", "/h"⟩, ⟨"Home", "/"⟩],
        Registration.Plain r) ∧
      newcomers "<Routes></Routes>"
        [⟨"Home", "/"⟩, ⟨"Detail", "/d"⟩, ⟨"Home", "/h"⟩, ⟨"Home", "/"⟩] =
          [⟨"Home", "/"⟩, ⟨"Detail", "/d"⟩, ⟨"Home", "/h"⟩] ∧
      Records "<Routes></Routes>" [⟨"Home", "/"⟩, ⟨"Detail", "/d"⟩, ⟨"Home", "/h"⟩, ⟨"Home", "/"⟩]
        (registerAll "<Routes></Routes>"
          [⟨"Home", "/"⟩, ⟨"Detail", "/d"⟩, ⟨"Home", "/h"⟩, ⟨"Home", "/"⟩]) := by
  have hend : routesEnd <:+: "<Routes></Routes>".toList := occursIn_iff.mp (by decide +kernel)
  have hplain : ∀ r ∈ [⟨"Home", "/"⟩, ⟨"Detail", "/d"⟩, ⟨"Home", "/h"⟩, ⟨"Home", "/"⟩],
      Registration.Plain r := by decide +kernel
  exact ⟨hend, hplain, by decide +kernel, records_registerAll _ _ hend hplain⟩

end

end ScreenBridge.Source
