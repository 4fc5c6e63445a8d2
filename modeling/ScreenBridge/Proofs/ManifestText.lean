import ScreenBridge.Source.Manifest

/-!
# What a registration does to a manifest

A manifest is edited where something was found in it, and whether it is edited
at all depends on what is found. A registration puts in at most two pieces and
takes nothing away (`insertImportChars_cases`, `insertRouteChars_cases`), so the
question is only whether the second piece can cut the first in two: then the
first, an import, would not be found the next time and come in again.

It cannot (`infix_of_cut`). What stands behind the cut is blank up to the end of
the routes, and an import ends in a character that is neither blank nor part of
that end: to reach over the cut it would have to hold all of it. So what is
registered is listed (`lists_updateManifest`), and what is listed is left alone:
a component without the end of routes in its name is registered once and for
all.
-/

namespace ScreenBridge.Text

/-! ## Searching -/

theorem occursIn_iff {pattern text : List Char} :
    occursIn pattern text = true ↔ pattern <:+: text := by
  rw [occursIn]
  induction text with
  | nil =>
      rw [cutAt?, List.infix_nil]
      cases pattern <;> simp
  | cons c text ih =>
      rw [cutAt?, List.infix_cons_iff, ← ih, ← List.isPrefixOf_iff_prefix]
      split
      · next h => simp [h]
      · next h => simp [h]

/-- A cut is made in front of the pattern. -/
theorem prefix_of_cutAt? {pattern text before rest : List Char}
    (h : cutAt? pattern text = some (before, rest)) : pattern <+: rest := by
  induction text generalizing before with
  | nil =>
      rw [cutAt?] at h
      split at h
      · next hempty =>
          cases h
          obtain rfl := List.isEmpty_iff.mp hempty
          exact List.prefix_rfl
      · cases h
  | cons c text ih =>
      rw [cutAt?] at h
      split at h
      · next hbegins =>
          cases h
          exact List.isPrefixOf_iff_prefix.mp hbegins
      · obtain ⟨⟨b, r⟩, hcut, heq⟩ := Option.map_eq_some_iff.mp h
        cases heq
        exact ih hcut

section
variable {p xs ys : List Char}

theorem infix_right_of_not_mem {c : Char} (hp : p.head? = some c) (hc : c ∉ xs)
    (h : p <:+: xs ++ ys) : p <:+: ys := by
  rcases List.infix_append_iff.mp h with hx | hy | ⟨front, back, rfl, hfront, hback⟩
  · exact absurd (hx.subset (List.mem_of_head? hp)) hc
  · exact hy
  · cases front with
    | nil => exact hback.isInfix
    | cons d front =>
        cases hp
        exact absurd (hfront.subset List.mem_cons_self) hc

theorem infix_left_of_not_mem {c : Char} (hp : p.getLast? = some c) (hc : c ∉ ys)
    (h : p <:+: xs ++ ys) : p <:+: xs := by
  rw [← List.reverse_infix] at h ⊢
  rw [List.reverse_append] at h
  exact infix_right_of_not_mem (by rw [List.head?_reverse, hp])
    (fun hmem => hc (List.mem_reverse.mp hmem)) h

end

/-! ## Lines -/

theorem cutLastLine_append (text : List Char) :
    (cutLastLine text).1 ++ (cutLastLine text).2 = text := by
  have hsuffix : (cutLastLine text).2 <:+ text := by
    rw [← List.reverse_prefix, cutLastLine, List.reverse_reverse]
    exact List.takeWhile_prefix _
  exact List.suffix_iff_eq_append.mp hsuffix

theorem joinLines_append (xs ys : List (List Char)) :
    joinLines (xs ++ ys) = joinLines xs ++ joinLines ys :=
  List.flatMap_append

/-! ## Blanks -/

theorem blank_of_dropWhile {cs : List Char} (h : cs.dropWhile isBlank = []) :
    ∀ c ∈ cs, isBlank c = true := by
  induction cs with
  | nil => exact fun _ hc => (nomatch hc)
  | cons c cs ih =>
      rw [List.dropWhile_cons] at h
      split at h
      · next hc =>
          intro d hd
          rcases List.mem_cons.mp hd with rfl | hd
          · exact hc
          · exact ih h d hd
      · cases h

/-- A text that strips to nothing is blank. -/
theorem blank_of_stripChars {cs : List Char} (h : stripChars cs = []) :
    ∀ c ∈ cs, isBlank c = true := by
  rw [stripChars, List.reverse_eq_nil_iff] at h
  have hall := blank_of_dropWhile h
  refine blank_of_dropWhile ?_
  cases hdrop : cs.dropWhile isBlank with
  | nil => rfl
  | cons c rest =>
      have hc := List.head?_dropWhile_not isBlank cs
      rw [hdrop] at hall hc
      rw [List.head?_cons] at hc
      have hblank := hall c (List.mem_reverse.mpr List.mem_cons_self)
      rw [hc] at hblank
      cases hblank

theorem infix_stripChars (cs : List Char) : stripChars cs <:+: cs := by
  have hsuffix : cs.dropWhile isBlank <:+ cs := List.dropWhile_suffix _
  have hbegins : stripChars cs <+: cs.dropWhile isBlank := by
    rw [stripChars, ← List.reverse_suffix, List.reverse_reverse]
    exact List.dropWhile_suffix _
  exact hbegins.isInfix.trans hsuffix.isInfix

/-! ## Line breaks -/

theorem unifyAfter_of_not_mem {text : List Char} (h : '\r' ∉ text) :
    unifyAfter false text = text := by
  induction text with
  | nil => rfl
  | cons c text ih =>
      rw [List.mem_cons, not_or] at h
      rw [unifyAfter, if_neg (Ne.symm h.1), Bool.and_false, if_neg Bool.false_ne_true, ih h.2]

/-- Where line feeds are the only line breaks, there is nothing to unify. -/
theorem unifyLineBreaks_of_not_mem {text : List Char} (h : '\r' ∉ text) :
    unifyLineBreaks text = text :=
  unifyAfter_of_not_mem h

theorem not_mem_unifyAfter (returned : Bool) (text : List Char) :
    '\r' ∉ unifyAfter returned text := by
  induction text generalizing returned with
  | nil => exact fun h => (nomatch h)
  | cons c text ih =>
      rw [unifyAfter]
      split
      · exact List.not_mem_cons_of_ne_of_not_mem (by decide) (ih _)
      · next hc =>
          split
          · exact ih _
          · exact List.not_mem_cons_of_ne_of_not_mem (Ne.symm hc) (ih _)

theorem not_mem_unifyLineBreaks (text : List Char) : '\r' ∉ unifyLineBreaks text :=
  not_mem_unifyAfter false text

end ScreenBridge.Text

namespace ScreenBridge.Source

open Text

variable {content line text : List Char}

/-! ## The pieces that are put in -/

theorem cutImports_append (lines : List (List Char)) :
    (cutImports lines).1 ++ (cutImports lines).2 = lines := by
  rw [cutImports]
  have hall := List.takeWhile_append_dropWhile (p := fun line => !holdsImport line) (l := lines)
  split
  · rfl
  · next line rest hrest =>
      rw [hrest] at hall
      rw [List.append_assoc, List.cons_append, List.takeWhile_append_dropWhile]
      exact hall

theorem getLast?_of_endsImport {rest : List Char} (h : endsImport rest = true) :
    rest.getLast? = some ';' := by
  rw [endsImport, Bool.and_eq_true] at h
  simpa using h.1

theorem getLast?_of_holdsImport (h : holdsImport line = true) : line.getLast? = some ';' := by
  rw [holdsImport] at h
  split at h
  · next before rest hcut =>
      have hsuffix : rest.drop importWord.length <:+ line :=
        (List.drop_suffix _ rest).trans ⟨before, append_of_cutAt? hcut⟩
      obtain ⟨front, rfl⟩ := hsuffix
      rw [List.getLast?_append, getLast?_of_endsImport h, Option.some_or]
  · cases h

theorem getLast?_of_isImport (h : isImport line = true) : line.getLast? = some ';' := by
  rw [isImport, Bool.and_eq_true] at h
  obtain ⟨front, hfront⟩ := List.drop_suffix importWord.length line
  rw [← hfront, List.getLast?_append, getLast?_of_endsImport h.2, Option.some_or]

/-- A block of imports ends in one. -/
theorem cutImports_ends (lines : List (List Char)) :
    (cutImports lines).1 = [] ∨
      ∃ front last, (cutImports lines).1 = front ++ [last] ∧ last.getLast? = some ';' := by
  rw [cutImports]
  split
  · exact .inl rfl
  · next line rest hrest =>
      have hline : line.getLast? = some ';' := by
        have hhead := List.head?_dropWhile_not (fun line => !holdsImport line) lines
        rw [hrest, List.head?_cons] at hhead
        exact getLast?_of_holdsImport (by simpa using hhead)
      right
      rcases List.eq_nil_or_concat (rest.takeWhile isImport) with hnil | ⟨block, last, hblock⟩
      · exact ⟨_, line, by rw [hnil], hline⟩
      · rw [List.concat_eq_append] at hblock
        have hmem : last ∈ rest.takeWhile isImport := by
          rw [hblock]
          exact List.mem_append_right _ List.mem_cons_self
        refine ⟨lines.takeWhile (fun line => !holdsImport line) ++ line :: block, last, ?_,
          getLast?_of_isImport (List.all_eq_true.mp List.all_takeWhile _ hmem)⟩
        rw [hblock, List.append_assoc, List.cons_append]

/-- The place for an import is the start of a text or follows an import there. -/
theorem exists_importCut (content : List Char) :
    ∃ u v, content = u ++ v ∧ (u = [] ∨ ∃ front, u = front ++ [';', '\n']) ∧
      ∀ line, ¬ line <:+: content → insertImportChars content line = u ++ (line ++ '\n' :: v) := by
  refine ⟨joinLines (cutImports (cutLines content).1).1,
    joinLines (cutImports (cutLines content).1).2 ++ (cutLines content).2, ?_, ?_, ?_⟩
  · rw [← List.append_assoc, ← joinLines_append, cutImports_append, joinLines_cutLines]
  · rcases cutImports_ends (cutLines content).1 with hnil | ⟨front, last, heq, hlast⟩
    · exact .inl (by rw [hnil]; rfl)
    · obtain ⟨body, rfl⟩ := List.getLast?_eq_some_iff.mp hlast
      refine .inr ⟨joinLines front ++ body, ?_⟩
      rw [heq, joinLines_append, List.append_assoc]
      congr 1
      simp [joinLines]
  · intro line hline
    rw [insertImportChars, if_neg (by rwa [occursIn_iff])]

/-- An import is there already, or it becomes a line of its own. -/
theorem insertImportChars_cases (content line : List Char) :
    (line <:+: content ∧ insertImportChars content line = content) ∨
      ∃ u v, content = u ++ v ∧ insertImportChars content line = u ++ (line ++ '\n' :: v) := by
  by_cases h : line <:+: content
  · refine .inl ⟨h, ?_⟩
    rw [insertImportChars, if_pos (occursIn_iff.mpr h)]
  · obtain ⟨u, v, hcontent, -, hinsert⟩ := exists_importCut content
    exact .inr ⟨u, v, hcontent, hinsert line h⟩

/-- A route is there already, or there is no end of routes, or the route
becomes a line or a part of one in front of that end: between the two are only
blanks. -/
theorem insertRouteChars_cases (content line : List Char) :
    (stripChars line <:+: content ∧ insertRouteChars content line = content) ∨
      (¬ routesEnd <:+: content ∧ insertRouteChars content line = content) ∨
      ∃ u new head rest, content = u ++ (head ++ (routesEnd ++ rest)) ∧
        (∀ c ∈ head, isBlank c = true) ∧ (new = line ++ ['\n'] ∨ new = stripChars line) ∧
        insertRouteChars content line = u ++ (new ++ (head ++ (routesEnd ++ rest))) := by
  rw [insertRouteChars]
  split
  · next h => exact .inl ⟨occursIn_iff.mp h, rfl⟩
  split
  · next hcut =>
      refine .inr (.inl ⟨fun h => ?_, rfl⟩)
      have hoccurs := occursIn_iff.mpr h
      rw [occursIn, hcut] at hoccurs
      cases hoccurs
  · next before rest hcut =>
      obtain ⟨rest, rfl⟩ := prefix_of_cutAt? hcut
      have hcontent := append_of_cutAt? hcut
      have hbefore := cutLastLine_append before
      refine .inr (.inr ?_)
      split
      next lines head hlast =>
      rw [hlast] at hbefore
      split
      · next hblank =>
          refine ⟨lines, line ++ ['\n'], head, rest, ?_, blank_of_stripChars hblank, .inl rfl, ?_⟩
          · rw [← List.append_assoc, hbefore, hcontent]
          · rw [List.append_assoc, List.singleton_append]
      · exact ⟨before, stripChars line, [], rest, hcontent.symm, fun _ hc => (nomatch hc),
          .inr rfl, rfl⟩

theorem mem_insertImportChars {c : Char} (h : c ∈ insertImportChars content line) :
    c ∈ content ∨ c ∈ line ∨ c = '\n' := by
  rcases insertImportChars_cases content line with ⟨-, heq⟩ | ⟨u, v, hcontent, heq⟩
  · exact .inl (heq ▸ h)
  · rw [heq, List.mem_append, List.mem_append, List.mem_cons] at h
    rw [hcontent, List.mem_append]
    rcases h with h | h | h | h
    · exact .inl (.inl h)
    · exact .inr (.inl h)
    · exact .inr (.inr h)
    · exact .inl (.inr h)

theorem mem_insertRouteChars {c : Char} (h : c ∈ insertRouteChars content line) :
    c ∈ content ∨ c ∈ line ∨ c = '\n' := by
  rcases insertRouteChars_cases content line with
    ⟨-, heq⟩ | ⟨-, heq⟩ | ⟨u, new, head, rest, hcontent, -, hnew, heq⟩
  · exact .inl (heq ▸ h)
  · exact .inl (heq ▸ h)
  · rw [heq, List.mem_append, List.mem_append] at h
    rw [hcontent, List.mem_append]
    rcases h with h | h | h
    · exact .inl (.inl h)
    · rcases hnew with rfl | rfl
      · rw [List.mem_append, List.mem_singleton] at h
        exact .inr h
      · exact .inr (.inl ((infix_stripChars line).subset h))
    · exact .inl (.inr h)

/-! ## Nothing is cut in two -/

/-- A text that ends in a semicolon and has no end of routes in it stays whole
where something is put in front of an end of routes. -/
theorem infix_of_cut {u new head rest : List Char} (hend : ¬ routesEnd <:+: line)
    (hlast : line.getLast? = some ';') (hblank : ∀ c ∈ head, isBlank c = true)
    (h : line <:+: u ++ (head ++ (routesEnd ++ rest))) :
    line <:+: u ++ (new ++ (head ++ (routesEnd ++ rest))) := by
  rcases List.infix_append_iff.mp h with hu | hv | ⟨front, back, rfl, hfront, hback⟩
  · exact hu.trans (List.prefix_append ..).isInfix
  · exact hv.trans ((List.suffix_append ..).trans (List.suffix_append ..)).isInfix
  cases hempty : back.getLast? with
  | none =>
      rw [List.getLast?_eq_none_iff.mp hempty, List.append_nil]
      exact hfront.isInfix.trans (List.prefix_append ..).isInfix
  | some c =>
      rw [List.getLast?_append, hempty, Option.some_or] at hlast
      cases hlast
      have hmem : ';' ∈ back := List.mem_of_getLast? hempty
      have hhead : ';' ∉ head := fun hc => absurd (hblank _ hc) (by decide)
      rcases List.prefix_or_prefix_of_prefix hback (List.prefix_append ..) with hin | ⟨more, rfl⟩
      · exact absurd (hin.subset hmem) hhead
      rw [List.prefix_append_right_inj] at hback
      rcases List.prefix_or_prefix_of_prefix hback (List.prefix_append ..) with hin | hall
      · rcases List.mem_append.mp hmem with hc | hc
        · exact absurd hc hhead
        · exact absurd (hin.subset hc) (by decide)
      · refine absurd (hall.isInfix.trans ?_) hend
        exact ((List.suffix_append ..).trans (List.suffix_append ..)).isInfix

/-! ## Registering twice -/

/-- The end of routes is not in an import unless it is in the component's name. -/
theorem not_infix_importLine {component : String} (h : ¬ routesEnd <:+: component.toList) :
    ¬ routesEnd <:+: (importLine component).toList := by
  intro hline
  simp only [importLine, String.toList_append, List.append_assoc] at hline
  have hafter := infix_right_of_not_mem (c := '<') rfl (by decide) hline
  rcases List.infix_append_iff.mp hafter with hname | hrest | ⟨front, back, heq, hfront, hback⟩
  · exact h hname
  · have hsecond := infix_right_of_not_mem (c := '<') rfl (by decide) hrest
    exact h (infix_left_of_not_mem (c := '>') rfl (by decide) hsecond)
  · cases back with
    | nil =>
        rw [List.append_nil] at heq
        exact h (heq ▸ hfront.isInfix)
    | cons c back =>
        obtain rfl : c = ' ' := (List.cons_prefix_cons.mp hback).1
        have hmem : ' ' ∈ routesEnd := heq ▸ List.mem_append_right _ List.mem_cons_self
        revert hmem
        decide

theorem getLast?_importLine (component : String) :
    (importLine component).toList.getLast? = some ';' := by
  rw [importLine, String.toList_append, List.getLast?_append]
  rfl

theorem infix_insertImportChars (content line : List Char) :
    line <:+: insertImportChars content line := by
  rcases insertImportChars_cases content line with ⟨h, heq⟩ | ⟨u, v, -, heq⟩
  · rw [heq]
    exact h
  · rw [heq]
    exact ⟨u, '\n' :: v, List.append_assoc ..⟩

theorem insertImportChars_of_occurs (h : line <:+: content) :
    insertImportChars content line = content := by
  rw [insertImportChars, if_pos (occursIn_iff.mpr h)]

theorem insertRouteChars_of_occurs (h : stripChars line <:+: content) :
    insertRouteChars content line = content := by
  rw [insertRouteChars]
  exact if_pos (occursIn_iff.mpr h)

/-- A route that was put in is found, unless there was no place for it. -/
theorem routed_insertRouteChars (content line : List Char) :
    stripChars line <:+: insertRouteChars content line ∨
      ¬ routesEnd <:+: insertRouteChars content line := by
  rcases insertRouteChars_cases content line with
    ⟨h, heq⟩ | ⟨h, heq⟩ | ⟨u, new, head, rest, -, -, hnew, heq⟩
  · exact .inl (by rwa [heq])
  · exact .inr (by rwa [heq])
  · have hin : stripChars line <:+: new := by
      rcases hnew with rfl | rfl
      · exact (infix_stripChars line).trans (List.prefix_append ..).isInfix
      · exact List.infix_rfl
    rw [heq]
    exact .inl (hin.trans ⟨u, _, List.append_assoc ..⟩)

/-- An import outlives the routes that are put in after it. -/
theorem infix_insertRouteChars {component : String} (hend : ¬ routesEnd <:+: component.toList)
    (h : (importLine component).toList <:+: content) (route : List Char) :
    (importLine component).toList <:+: insertRouteChars content route := by
  rcases insertRouteChars_cases content route with
    ⟨-, heq⟩ | ⟨-, heq⟩ | ⟨u, new, head, rest, hcontent, hblank, -, heq⟩
  · rw [heq]
    exact h
  · rw [heq]
    exact h
  · rw [heq]
    exact infix_of_cut (not_infix_importLine hend) (getLast?_importLine component) hblank
      (hcontent ▸ h)

theorem toList_updateManifest (content component route : String) :
    (updateManifest content component route).toList =
      insertRouteChars (insertImportChars content.toList (importLine component).toList)
        (routeLine route component).toList := by
  rw [updateManifest, insertRoute, insertImport, String.toList_ofList, String.toList_ofList]

theorem insertRouteChars_of_not_occurs (h : ¬ routesEnd <:+: content) (line : List Char) :
    insertRouteChars content line = content := by
  rcases insertRouteChars_cases content line with
    ⟨-, heq⟩ | ⟨-, heq⟩ | ⟨u, new, head, rest, hcontent, -⟩
  · exact heq
  · exact heq
  · exact absurd ⟨u ++ head, rest, by simp [hcontent]⟩ h

/-- A manifest that lists a component under a route: it has the import, and it
has the route unless there is no end of routes to put it in front of. -/
structure Lists (content : List Char) (component route : String) : Prop where
  imported : (importLine component).toList <:+: content
  routed : stripChars (routeLine route component).toList <:+: content ∨ ¬ routesEnd <:+: content

/-- What is listed is not registered again. -/
theorem Lists.updateManifest_eq {content component route : String}
    (h : Lists content.toList component route) :
    updateManifest content component route = content := by
  rw [← String.toList_inj, toList_updateManifest, insertImportChars_of_occurs h.imported]
  rcases h.routed with hroute | hend
  · exact insertRouteChars_of_occurs hroute
  · exact insertRouteChars_of_not_occurs hend _

/-- What is registered is listed, however the route reads. -/
theorem lists_updateManifest (content route : String) {component : String}
    (hend : ¬ routesEnd <:+: component.toList) :
    Lists (updateManifest content component route).toList component route := by
  rw [toList_updateManifest]
  exact
    { imported := infix_insertRouteChars hend (infix_insertImportChars ..) _
      routed := routed_insertRouteChars _ _ }

/-- Registering a component under the same route twice is registering it once,
whatever the manifest and the route hold. -/
theorem updateManifest_updateManifest (content route : String) {component : String}
    (hend : ¬ routesEnd <:+: component.toList) :
    updateManifest (updateManifest content component route) component route =
      updateManifest content component route :=
  (lists_updateManifest content route hend).updateManifest_eq

/-- The route of this one reads like the rest of a manifest. -/
theorem updateManifest_updateManifest_disguised :
    ¬ routesEnd <:+: "HomeScreen".toList ∧
      updateManifest (updateManifest "import a from 'a';\n</Routes></Routes>" "HomeScreen"
          "\"</Routes>\nimport \x7b HomeScreen \x7d from './") "HomeScreen"
          "\"</Routes>\nimport \x7b HomeScreen \x7d from './" =
        updateManifest "import a from 'a';\n</Routes></Routes>" "HomeScreen"
          "\"</Routes>\nimport \x7b HomeScreen \x7d from './" := by
  have hend : ¬ routesEnd <:+: "HomeScreen".toList := by
    rw [← occursIn_iff]
    decide +kernel
  exact ⟨hend, updateManifest_updateManifest _ _ hend⟩

theorem not_mem_append {c : Char} {a b : String} (ha : c ∉ a.toList) (hb : c ∉ b.toList) :
    c ∉ (a ++ b).toList := by
  rw [String.toList_append, List.mem_append]
  exact fun h => h.elim ha hb

theorem not_mem_join {c : Char} {parts : List String} (h : ∀ s ∈ parts, c ∉ s.toList) :
    c ∉ (String.join parts).toList := by
  have hall (acc : String) (hacc : c ∉ acc.toList) :
      c ∉ (parts.foldl (· ++ ·) acc).toList := by
    induction parts generalizing acc with
    | nil => exact hacc
    | cons s parts ih =>
        rw [List.foldl_cons]
        exact ih (fun s hs => h s (List.mem_cons_of_mem _ hs)) _
          (not_mem_append hacc (h s List.mem_cons_self))
  exact hall "" (by simp)

theorem not_mem_baseManifest : '\r' ∉ baseManifest.toList := by
  refine not_mem_join fun s hs => ?_
  obtain ⟨line, hline, rfl⟩ := List.mem_map.mp hs
  refine not_mem_append ?_ (by decide)
  revert line
  decide +kernel

theorem not_mem_importLine {c : Char} (hc : c ∉ "import \x7b \x7d from './screens/';".toList)
    {component : String} (h : c ∉ component.toList) : c ∉ (importLine component).toList := by
  have hpart {part : String} (hin : part.toList ⊆ "import \x7b \x7d from './screens/';".toList) :
      c ∉ part.toList := fun hmem => hc (hin hmem)
  exact not_mem_append (not_mem_append (not_mem_append (not_mem_append (hpart (by decide)) h)
    (hpart (by decide))) h) (hpart (by decide))

theorem not_mem_routeLine {c : Char} (hc : c ∉ "<Route path=\"\" element=\x7b< />\x7d />".toList)
    {route component : String} (hroute : c ∉ route.toList) (hcomponent : c ∉ component.toList) :
    c ∉ (routeLine route component).toList := by
  have hpart {part : String}
      (hin : part.toList ⊆ "<Route path=\"\" element=\x7b< />\x7d />".toList) : c ∉ part.toList :=
    fun hmem => hc (hin hmem)
  exact not_mem_append (not_mem_append (not_mem_append (not_mem_append
    (hpart (by decide +kernel)) hroute) (hpart (by decide))) hcomponent) (hpart (by decide))

/-- A carriage return in a manifest comes from the manifest or from what is
registered in it. -/
theorem not_mem_updateManifest {content component route : String}
    (hcontent : '\r' ∉ content.toList) (hcomponent : '\r' ∉ component.toList)
    (hroute : '\r' ∉ route.toList) :
    '\r' ∉ (updateManifest content component route).toList := by
  have hbreak : '\r' ≠ '\n' := by decide
  rw [toList_updateManifest]
  intro hmem
  rcases mem_insertRouteChars hmem with hmem | hmem | heq
  · rcases mem_insertImportChars hmem with hmem | hmem | heq
    · exact hcontent hmem
    · exact not_mem_importLine (by decide) hcomponent hmem
    · exact hbreak heq
  · exact not_mem_routeLine (by decide +kernel) hroute hcomponent hmem
  · exact hbreak heq

end ScreenBridge.Source
