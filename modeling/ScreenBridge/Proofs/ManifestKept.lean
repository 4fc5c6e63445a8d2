import ScreenBridge.Proofs.Regeneration

/-!
# What a registration keeps of a manifest

People write into a manifest too, and a registration must leave that alone. The
edit itself does: it puts in at most two pieces, so the text that it was given is
still there, character by character, with others in between
(`sublist_updateManifest`). A manifest that lists the screen is not edited at all.

But the text that it is given is not the file. The file is read with its line
breaks unified and written as a whole, so each carriage return in it is lost,
edit or no edit. That is all that is lost (`filter_sublist_unifyLineBreaks`), and
it always is: `keeps_manifest` has both directions.
-/

namespace ScreenBridge

namespace Text

/-- Only carriage returns are lost when line breaks are unified. Behind one, the
line feed that stands for it makes up for the one that is skipped. -/
theorem filter_sublist_unifyAfter (text : List Char) :
    (text.filter (· ≠ '\r')).Sublist (unifyAfter false text) ∧
      (text.filter (· ≠ '\r')).Sublist ('\n' :: unifyAfter true text) := by
  induction text with
  | nil => exact ⟨.slnil, List.nil_sublist _⟩
  | cons c text ih =>
      obtain ⟨ihfalse, ihtrue⟩ := ih
      rw [List.filter_cons, unifyAfter, unifyAfter]
      by_cases hreturn : c = '\r'
      · rw [if_neg (by simpa using hreturn), if_pos hreturn, if_pos hreturn]
        exact ⟨ihtrue, ihtrue.cons _⟩
      · rw [if_pos (by simpa using hreturn), if_neg hreturn, if_neg hreturn, Bool.and_false,
          if_neg Bool.false_ne_true, Bool.and_true]
        refine ⟨ihfalse.cons_cons c, ?_⟩
        split
        · next hfeed =>
            rw [of_decide_eq_true hfeed]
            exact ihfalse.cons_cons _
        · exact (ihfalse.cons_cons c).cons _

theorem filter_sublist_unifyLineBreaks (text : List Char) :
    (text.filter (· ≠ '\r')).Sublist (unifyLineBreaks text) :=
  (filter_sublist_unifyAfter text).1

end Text

namespace Source

open Text

variable {content line : List Char}

/-! ## The edit -/

theorem sublist_insertImportChars (content line : List Char) :
    content.Sublist (insertImportChars content line) := by
  rcases insertImportChars_cases content line with ⟨-, heq⟩ | ⟨u, v, rfl, heq⟩
  · exact heq.symm ▸ List.Sublist.refl content
  · rw [heq]
    exact ((List.sublist_cons_self _ v).trans (List.sublist_append_right line _)).append_left u

theorem sublist_insertRouteChars (content line : List Char) :
    content.Sublist (insertRouteChars content line) := by
  rcases insertRouteChars_cases content line with
    ⟨-, heq⟩ | ⟨-, heq⟩ | ⟨u, new, head, rest, rfl, -, -, heq⟩
  · exact heq.symm ▸ List.Sublist.refl content
  · exact heq.symm ▸ List.Sublist.refl content
  · rw [heq]
    exact (List.sublist_append_right new _).append_left u

theorem sublist_updateManifest (content component route : String) :
    content.toList.Sublist (updateManifest content component route).toList := by
  rw [toList_updateManifest]
  exact (sublist_insertImportChars _ _).trans (sublist_insertRouteChars _ _)

namespace Generator

open Files (Location Path Tree)
open Ui (Document)

variable {g : Generator} {d : Document} {t : Tree} {old : String}

/-! ## The file -/

theorem toList_openedText (old : String) :
    (openedText (some old)).toList = unifyLineBreaks old.toList :=
  String.toList_ofList

theorem not_mem_openedText (old : String) : '\r' ∉ (openedText (some old)).toList := by
  rw [toList_openedText]
  exact not_mem_unifyLineBreaks _

/-- What the registration of a screen keeps of a manifest. -/
structure Keeps (d : Document) (old new : String) : Prop where
  /-- But for its line breaks, the manifest is all there, -/
  unified : (unifyLineBreaks old.toList).Sublist new.toList
  /-- so whatever is not a carriage return is. -/
  others : (old.toList.filter (· ≠ '\r')).Sublist new.toList
  /-- One without carriage returns is there as it was, -/
  whole : '\r' ∉ old.toList → old.toList.Sublist new.toList
  /-- and nothing is added to it if the screen is listed. -/
  same : '\r' ∉ old.toList → Lists old.toList (componentName d.screenId) d.route → new = old
  /-- One with carriage returns is not, unless the screen brings some of its own. -/
  altered : '\r' ∈ old.toList → '\r' ∉ d.screenId.toList → '\r' ∉ d.route.toList →
    ¬ old.toList.Sublist new.toList

theorem keeps_registered (d : Document) (old : String) :
    Keeps d old (registered d (openedText (some old))) := by
  have hunified : (unifyLineBreaks old.toList).Sublist
      (registered d (openedText (some old))).toList := by
    rw [← toList_openedText]
    exact sublist_updateManifest ..
  refine
    { unified := hunified
      others := (filter_sublist_unifyLineBreaks _).trans hunified
      whole := fun hold => ?_
      same := fun hold hlists => ?_
      altered := fun hold hid hroute hsub => ?_ }
  · rwa [unifyLineBreaks_of_not_mem hold] at hunified
  · rw [openedText_of_not_mem hold]
    exact hlists.updateManifest_eq
  · exact not_mem_registered (not_mem_openedText old) hid hroute (hsub.subset hold)

/-- A call that returns has kept what was in the manifest, but for carriage
returns, and leaves it alone if it has none and lists the screen. -/
theorem keeps_manifest {g : Generator} {d : Document} {t : Tree} {old : String}
    (hext : '/' ∉ g.extension.toList) (hold : g.manifest? t = some (Text.Utf8.encode old))
    (h : g.outcome t d = .ok ()) :
    ∃ new, g.manifest? (g.next t d) = some (Text.Utf8.encode new) ∧ Keeps d old new := by
  have hold' : g.manifest? t = (some old).map Text.Utf8.encode := hold
  have hnext := manifest?_next hext d hold'
  rw [h] at hnext
  exact ⟨_, hnext, keeps_registered d old⟩

/-- A project in which someone has written a manifest. -/
def projectWith (manifest : String) : Tree where
  home := ["work"]
  entries := [(["work"], .directory), (["work", "out"], .directory),
    (["work", "out", "src"], .directory),
    (["work", "out", "src", "App.tsx"], .file (Text.Utf8.encode manifest))]
  isDirectory_home := rfl

/-- A manifest with a comment of its own. -/
def customShell : String :=
  "import React from 'react';\n// custom shell\n<Routes>\n        </Routes>\n"

theorem keeps_manifest_customShell :
    ∃ new, frontend.manifest? (frontend.next (projectWith customShell) (plainScreen "home" "/")) =
        some (Text.Utf8.encode new) ∧ Keeps (plainScreen "home" "/") customShell new :=
  keeps_manifest (by decide) (by decide +kernel) (returns_of_isOk (by decide +kernel))

/-- A manifest that lists the screen, with the line breaks of another system. -/
def foreignShell : String :=
  importLine "HomeScreen" ++ "\r\n" ++ routeLine "/" "HomeScreen" ++ "\r\n</Routes>\r\n"

/-- Nothing is registered, and still the manifest is not what it was. -/
theorem not_kept_foreignShell :
    frontend.outcome (projectWith foreignShell) (plainScreen "home" "/") = .ok () ∧
      Lists foreignShell.toList "HomeScreen" "/" ∧
      ∃ new, frontend.manifest? (projectWith foreignShell) = some (Text.Utf8.encode foreignShell) ∧
        frontend.manifest? (frontend.next (projectWith foreignShell) (plainScreen "home" "/")) =
          some (Text.Utf8.encode new) ∧
        ¬ foreignShell.toList.Sublist new.toList ∧ new ≠ foreignShell := by
  have hext : '/' ∉ frontend.extension.toList := by decide
  have hreturns := returns_of_isOk (g := frontend) (t := projectWith foreignShell)
    (d := plainScreen "home" "/") (by decide +kernel)
  have hold : frontend.manifest? (projectWith foreignShell) =
      (some foreignShell).map Text.Utf8.encode := by decide +kernel
  have hnext := manifest?_next hext (plainScreen "home" "/") hold
  rw [hreturns] at hnext
  have hreturn : '\r' ∈ foreignShell.toList := by decide +kernel
  have hclean := not_mem_registered (d := plainScreen "home" "/")
    (not_mem_openedText foreignShell) (by decide) (by decide)
  refine ⟨hreturns, ⟨?_, .inl ?_⟩, _, hold, hnext, fun h => hclean (h.subset hreturn), fun h => ?_⟩
  · rw [← occursIn_iff]
    decide +kernel
  · rw [← occursIn_iff]
    decide +kernel
  · rw [h] at hclean
    exact hclean hreturn

end Generator

end Source

end ScreenBridge
