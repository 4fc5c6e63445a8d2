import ScreenBridge.Proofs.ManifestLedger
import ScreenBridge.Proofs.ManifestText

/-!
# Generating a screen again

A screen is generated anew whenever its viewers are shown it, most of the time
as it was. What is there by then is `Settled`: the directories, the two files
with what would be written to them, and a manifest that has the screen. Each
step that comes is one that finds its work done, so the files stay as they are,
all of them (`Settled.again`).

Whether a manifest that was just written has the screen is another matter, for
it is read back with its line breaks unified. A carriage return in a route or in
the name of a component was written as such and comes back as a line feed; the
line that holds it is not found, and comes in again each time
(`not_settled_carriageReturn`).
-/

namespace ScreenBridge.Source.Generator

open Files (Location Path Tree)
open Ui (Document)

variable {g : Generator} {d : Document} {t t' : Tree} {text : String}

/-- The work on a screen is done: the manifest has the screen registered. -/
structure Settled (g : Generator) (d : Document) (text : String) (t : Tree) : Prop where
  screen : Lands t.home g.screensDir (g.screenPath d)
  style : Lands t.home g.stylesDir (g.stylePath d)
  screens : t.isDirectory g.screensDir = true
  styles : t.isDirectory g.stylesDir = true
  rendered : Rendered g d t
  manifest : t.lookUp g.manifestPath = .ok (.file (Text.Utf8.encode text))
  stable : registered d (openedText (some text)) = text

namespace Settled

variable (h : Settled g d text t)
include h

theorem not_hasNull : ¬ HasNull g d :=
  not_hasNull_of_lands h.screen

theorem ensureDirectories_screens : t.ensureDirectories g.screensDir = (t, .ok ()) :=
  Tree.ensureDirectories_of_isDirectory h.screen.directory_hasNull h.screens

theorem ensureDirectories_styles : t.ensureDirectories g.stylesDir = (t, .ok ()) :=
  Tree.ensureDirectories_of_isDirectory h.style.directory_hasNull h.styles

theorem write_screen :
    t.write (g.screenPath d) (Text.Utf8.encode (screenSource g.registry g.liveUpdateUrl d)) =
      .ok t :=
  Tree.write_again h.screen.hasNull h.rendered.screen

theorem write_style : t.write (g.stylePath d) (Text.Utf8.encode (screenStyles d)) = .ok t :=
  Tree.write_again h.style.hasNull h.rendered.style

theorem prepared (hprepared : Prepared g d t t') : t' = t := by
  obtain ⟨t₁, hscreens, hstyles⟩ := hprepared.made
  rw [h.ensureDirectories_screens] at hscreens
  cases hscreens
  rw [h.ensureDirectories_styles] at hstyles
  cases hstyles
  rfl

theorem sourced (hsourced : Sourced g d t t') : t' = t := by
  obtain ⟨t₁, t₂, hprepared, hscreen, hstyle⟩ := hsourced.written
  obtain rfl := h.prepared hprepared
  rw [h.write_screen] at hscreen
  cases hscreen
  rw [h.write_style] at hstyle
  cases hstyle
  rfl

/-- The manifest is found and read. -/
theorem opened {screenId : String} {r : Except Stop String}
    (hcourse : ManifestCourse g screenId t r t') :
    r = .ok (openedText (some text)) ∧ t' = t := by
  have hnull := hasNull_manifestPath h.not_hasNull
  have hexists : t.exists? g.manifestPath = .ok true :=
    Tree.exists?_eq_true.mpr ⟨hnull, _, h.manifest⟩
  have hread : t.read g.manifestPath = .ok (Text.Utf8.encode text) :=
    Tree.read_eq_ok.mpr ⟨hnull, h.manifest⟩
  have hdecode : Text.Utf8.decodeChars (Text.Utf8.encode text) = .ok text.toList :=
    Text.Utf8.decodeChars_encodeChars _
  cases hcourse with
  | hidden hno => exact nomatch hexists.symm.trans hno
  | unread _ hno => exact nomatch hread.symm.trans hno
  | garbled hbytes hno =>
      cases hread.symm.trans hbytes
      exact nomatch hdecode.symm.trans hno
  | found hbytes hcs =>
      cases hread.symm.trans hbytes
      cases hdecode.symm.trans hcs
      exact ⟨rfl, rfl⟩
  | homeless hno _ | stylesHidden hno _ _ | unstyled hno _ _ _ | styled hno _ _
  | seeded hno _ _ _ => exact nomatch hexists.symm.trans hno

/-- All work on the screen finds itself done. -/
theorem again {r : Except Stop Unit} (hcourse : Course g d t r t') : r = .ok () ∧ t' = t := by
  cases hcourse with
  | screenRefused hmiss => exact absurd h.screen hmiss.not_lands
  | styleRefused _ hmiss => exact absurd h.style hmiss.not_lands
  | noScreens _ _ hno => exact nomatch h.ensureDirectories_screens.symm.trans hno
  | noStyles _ _ hscreens hno =>
      cases h.ensureDirectories_screens.symm.trans hscreens
      exact nomatch h.ensureDirectories_styles.symm.trans hno
  | unwritten hprepared hno =>
      obtain rfl := h.prepared hprepared
      exact nomatch h.write_screen.symm.trans hno
  | unstyled hprepared hscreen hno =>
      obtain rfl := h.prepared hprepared
      cases h.write_screen.symm.trans hscreen
      exact nomatch h.write_style.symm.trans hno
  | unrouted hsourced hmanifest =>
      obtain rfl := h.sourced hsourced
      exact nomatch (h.opened hmanifest).1
  | unregistered hsourced hmanifest hno =>
      obtain rfl := h.sourced hsourced
      obtain ⟨hopened, rfl⟩ := h.opened hmanifest
      cases hopened
      rw [h.stable] at hno
      exact nomatch
        (Tree.write_again (hasNull_manifestPath h.not_hasNull) h.manifest).symm.trans hno
  | done hsourced hmanifest hwrite =>
      obtain rfl := h.sourced hsourced
      obtain ⟨hopened, rfl⟩ := h.opened hmanifest
      cases hopened
      rw [h.stable] at hwrite
      cases (Tree.write_again (hasNull_manifestPath h.not_hasNull) h.manifest).symm.trans hwrite
      exact ⟨rfl, rfl⟩

end Settled

/-! ## What a call leaves -/

theorem Course.settled (hext : '/' ∉ g.extension.toList) (h : Course g d t (.ok ()) t') :
    ∃ manifest, openedManifest (g.manifest? t) = .ok manifest ∧
      (registered d (openedText (some (registered d manifest))) = registered d manifest →
        Settled g d (registered d manifest) t') := by
  have hrendered := h.rendered hext
  cases h with
  | @done manifest _ _ _ h hmanifest hwrite =>
      have h₁ := h.alters
      have hsrc := reaches_srcDir h.isDirectory_screens
      have h₂ := hmanifest.alters hext h.not_hasNull hsrc
      have hwritten := Tree.written_of_write hwrite
      have h₃ := hwritten.alters fun _ => False
      have hhome : t'.home = t.home := h₃.home.trans (h₂.home.trans h₁.home)
      refine ⟨manifest, ?_, fun hstable => ?_⟩
      · rw [← h.manifest? hext]
        exact hmanifest.opened hext h.not_hasNull hsrc
      · exact
          { screen := hhome ▸ h.lands.1
            style := hhome ▸ h.lands.2
            screens := h₃.isDirectory (h₂.isDirectory h.isDirectory_screens)
            styles := h₃.isDirectory (h₂.isDirectory h.isDirectory_styles)
            rendered := hrendered
            manifest := hwritten.lookUp
            stable := hstable }

/-- A manifest that is gone by has line feeds as its only line breaks. -/
theorem not_mem_openedManifest {bytes? : Option (List UInt8)} {manifest : String}
    (h : openedManifest bytes? = .ok manifest) : '\r' ∉ manifest.toList := by
  cases bytes? with
  | none =>
      cases h
      exact not_mem_baseManifest
  | some bytes =>
      rw [openedManifest] at h
      cases hbytes : Text.Utf8.decodeChars bytes with
      | error => rw [hbytes] at h; cases h
      | ok cs =>
          rw [hbytes] at h
          cases h
          rw [String.toList_ofList]
          exact Text.not_mem_unifyLineBreaks cs

theorem not_mem_registered {manifest : String} (hmanifest : '\r' ∉ manifest.toList)
    (hid : '\r' ∉ d.screenId.toList) (hroute : '\r' ∉ d.route.toList) :
    '\r' ∉ (registered d manifest).toList := by
  refine not_mem_updateManifest hmanifest ?_ hroute
  rw [mem_componentName_of_control (by decide)]
  exact hid

theorem openedText_of_not_mem {manifest : String} (h : '\r' ∉ manifest.toList) :
    openedText (some manifest) = manifest := by
  rw [openedText, Text.unifyLineBreaks_of_not_mem h, String.ofList_toList]

/-- What is registered without a carriage return is found when it is read back. -/
theorem registered_again {manifest : String} (hmanifest : '\r' ∉ manifest.toList)
    (hid : '\r' ∉ d.screenId.toList) (hroute : '\r' ∉ d.route.toList)
    (hend : ¬ routesEnd <:+: (componentName d.screenId).toList) :
    registered d (openedText (some (registered d manifest))) = registered d manifest := by
  rw [openedText_of_not_mem (not_mem_registered hmanifest hid hroute)]
  exact (lists_updateManifest manifest d.route hend).updateManifest_eq

/-- A screen that was generated may be generated again: that returns too, and
every file stays as it is. This holds of every screen with no carriage return in
its name or its route and no end of routes in its component's name. -/
theorem generate_again {g : Generator} {d : Document} {t : Tree}
    (hext : '/' ∉ g.extension.toList) (hid : '\r' ∉ d.screenId.toList)
    (hroute : '\r' ∉ d.route.toList) (hend : ¬ routesEnd <:+: (componentName d.screenId).toList)
    (h : g.outcome t d = .ok ()) :
    g.outcome (g.next t d) d = .ok () ∧ g.next (g.next t d) d = g.next t d := by
  have hfirst := g.course_next t d
  rw [h] at hfirst
  obtain ⟨manifest, hopened, hsettled⟩ := hfirst.settled hext
  have hstable := registered_again (not_mem_openedManifest hopened) hid hroute hend
  exact (hsettled hstable).again (g.course_next (g.next t d) d)

/-- Whether a call returns can be computed. -/
theorem returns_of_isOk (h : (g.outcome t d).isOk = true) : g.outcome t d = .ok () := by
  cases hr : g.outcome t d with
  | ok => rfl
  | error => rw [hr] at h; cases h

theorem generate_again_home :
    frontend.outcome .empty (plainScreen "home" "/") = .ok () ∧
      frontend.next (frontend.next .empty (plainScreen "home" "/")) (plainScreen "home" "/") =
        frontend.next .empty (plainScreen "home" "/") := by
  have hreturns := returns_of_isOk (g := frontend) (t := .empty) (d := plainScreen "home" "/")
    (by decide +kernel)
  refine ⟨hreturns, (generate_again (by decide) (by decide) (by decide) ?_ hreturns).2⟩
  rw [← Text.occursIn_iff]
  decide +kernel

/-- A project whose manifest is nothing but an end of routes. -/
def bareProject : Tree where
  home := ["work"]
  entries := [(["work"], .directory), (["work", "out"], .directory),
    (["work", "out", "src"], .directory),
    (["work", "out", "src", "App.tsx"], .file (Text.Utf8.encode "</Routes>"))]
  isDirectory_home := rfl

/-- A screen whose route has a carriage return in it. -/
def returning : Document := plainScreen "s" "a\rb"

/-- A route with a carriage return is registered each time. -/
theorem not_settled_carriageReturn :
    frontend.outcome bareProject returning = .ok () ∧
      frontend.outcome (frontend.next bareProject returning) returning = .ok () ∧
      frontend.manifest? (frontend.next (frontend.next bareProject returning) returning) ≠
        frontend.manifest? (frontend.next bareProject returning) := by
  have hext : '/' ∉ frontend.extension.toList := by decide
  have hfirst := returns_of_isOk (g := frontend) (t := bareProject) (d := returning)
    (by decide +kernel)
  have hsecond := returns_of_isOk (g := frontend) (t := frontend.next bareProject returning)
    (d := returning) (by decide +kernel)
  have hbare : frontend.manifest? bareProject =
      (some "</Routes>").map Text.Utf8.encode := by decide +kernel
  have hone := manifest?_next hext returning hbare
  rw [hfirst] at hone
  have htwo := manifest?_next hext returning hone
  rw [hsecond] at htwo
  refine ⟨hfirst, hsecond, fun hsame => ?_⟩
  rw [hone, htwo] at hsame
  have hlength := congrArg List.length (Text.Utf8.toList_eq_of_encode (Option.some.inj hsame))
  simp only [openedText, registered, toList_updateManifest, String.toList_ofList] at hlength
  revert hlength
  decide +kernel

end ScreenBridge.Source.Generator
