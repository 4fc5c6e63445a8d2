import ScreenBridge.Proofs.ProjectLayout
import ScreenBridge.Proofs.Utf8Codec

/-!
# What the manifest goes by

Generation never takes anything back, so what holds after a call that was
broken off is a matter of the order of its steps. The manifest is written last.
It follows that a call that fails has not touched it, and that whatever a call
did to it came after the screen and its stylesheet were there
(`Course.manifest`). Files do not go away, so that is how it stays: over any row
of calls the manifest is a ledger of those that returned, and each of their
screens has its files (`manifest_follows_sources`).

The manifest is meant as a file. The way to the directory of the whole project
may lead through the manifest's place and back (`OnTheWay`). Then a directory is
made there, no call returns, and there is no manifest but its place is not as it
was. Nowhere else can that happen.
-/

namespace ScreenBridge.Source.Generator

open Files (Location Path Tree)
open Files.Tree (Alters OnTheWay)
open Ui (Document)

variable {g : Generator} {d : Document} {t t' : Tree} {home : Location} {screenId : String}

/-! ## Places apart -/

theorem screenPath_ne_stylePath {d' : Document}
    (hscreen : Lands home g.screensDir (g.screenPath d))
    (hstyle : Lands home g.stylesDir (g.stylePath d')) :
    (g.screenPath d).resolve home ≠ (g.stylePath d').resolve home := by
  intro h
  have hdir := congrArg List.dropLast h
  rw [hscreen.inside, hstyle.inside, resolve_screensDir, resolve_stylesDir] at hdir
  have hname := List.singleton_inj.mp (List.append_cancel_left hdir)
  revert hname
  decide

section
variable (hscreen : Lands home g.screensDir (g.screenPath d))
variable (hstyle : Lands home g.stylesDir (g.stylePath d))
include hscreen hstyle

/-- What lies directly in the sources is no file of a screen. -/
theorem not_sourceAt_of_dropLast {l : Location} (hl : l.dropLast = g.srcDir.resolve home) :
    ¬ SourceAt g d home l := by
  have hdeeper (name : String) : g.srcDir.resolve home ≠ g.srcDir.resolve home ++ [name] := by
    intro h
    have hlength := congrArg List.length h
    rw [List.length_append, List.length_singleton] at hlength
    omega
  rintro (h | h)
  · rw [h, hscreen.inside, resolve_screensDir] at hl
    exact hdeeper _ hl.symm
  · rw [h, hstyle.inside, resolve_stylesDir] at hl
    exact hdeeper _ hl.symm

end

theorem dropLast_manifestPath (hext : '/' ∉ g.extension.toList) (home : Location) :
    (g.manifestPath.resolve home).dropLast = g.srcDir.resolve home := by
  rw [resolve_manifestPath hext, List.dropLast_concat]

theorem dropLast_manifestStylesPath (g : Generator) (home : Location) :
    (g.manifestStylesPath.resolve home).dropLast = g.srcDir.resolve home := by
  rw [resolve_manifestStylesPath, List.dropLast_concat]

/-- The two files of a screen hold what was made of it. -/
structure Rendered (g : Generator) (d : Document) (t : Tree) : Prop where
  screen : t.lookUp (g.screenPath d) =
    .ok (.file (Text.Utf8.encode (screenSource g.registry g.liveUpdateUrl d)))
  style : t.lookUp (g.stylePath d) = .ok (.file (Text.Utf8.encode (screenStyles d)))

/-- The two files of a screen are there. -/
structure Present (g : Generator) (d : Document) (t : Tree) : Prop where
  screen : ∃ content, t.lookUp (g.screenPath d) = .ok (.file content)
  style : ∃ content, t.lookUp (g.stylePath d) = .ok (.file content)

theorem Rendered.present (h : Rendered g d t) : Present g d t :=
  ⟨⟨_, h.screen⟩, ⟨_, h.style⟩⟩

theorem Rendered.alters {made written : Location → Prop} (h : Rendered g d t)
    (halters : Alters made written t t') (hno : ∀ l, SourceAt g d t.home l → ¬ written l) :
    Rendered g d t' :=
  ⟨halters.lookUp (hno _ (.inl rfl)) h.screen, halters.lookUp (hno _ (.inr rfl)) h.style⟩

/-- Files that are there stay there. -/
theorem Present.alters {made written : Location → Prop} (h : Present g d t)
    (halters : Alters made written t t') : Present g d t' := by
  obtain ⟨⟨_, hscreen⟩, ⟨_, hstyle⟩⟩ := h
  exact ⟨halters.lookUp_file hscreen, halters.lookUp_file hstyle⟩

theorem Sourced.rendered (h : Sourced g d t t') : Rendered g d t' := by
  obtain ⟨t₁, t₂, hprepared, hscreen, hstyle⟩ := h.written
  have hne := screenPath_ne_stylePath hprepared.screen hprepared.style
  have hscreen' := Tree.written_of_write hscreen
  have hstyle' := Tree.written_of_write hstyle
  have hhome : t₂.home = t.home :=
    (hscreen'.alters fun _ => False).home.trans (hprepared.alters fun _ => False).home
  refine ⟨(hstyle'.alters fun _ => False).lookUp ?_ hscreen'.lookUp, hstyle'.lookUp⟩
  rw [hhome]
  exact hne

/-! ## The manifest -/

/-- The bytes of the manifest, if there is one. -/
def manifest? (g : Generator) (t : Tree) : Option (List UInt8) :=
  t.content? (g.manifestPath.resolve t.home)

/-- The text of a manifest as it is gone by: one that is missing is started. -/
def openedManifest : Option (List UInt8) → Except Text.Utf8.Fault String
  | none => .ok baseManifest
  | some bytes => (Text.Utf8.decodeChars bytes).map fun cs =>
      String.ofList (Text.unifyLineBreaks cs)

theorem ManifestCourse.opened {manifest : String} (hext : '/' ∉ g.extension.toList)
    (hnull : ¬ HasNull g d) (hsrc : t.Reaches g.srcDir)
    (h : ManifestCourse g screenId t (.ok manifest) t') :
    openedManifest (g.manifest? t) = .ok manifest := by
  have hmissing (h : t.exists? g.manifestPath = .ok false) : g.manifest? t = none := by
    have hfree := entry?_manifest_of_not_exists hext hsrc (hasNull_manifestPath hnull) h
    rw [manifest?, Tree.content?, hfree]
  cases h with
  | found hread hbytes =>
      have hentry := (Tree.lookUp_eq_ok.mp (Tree.read_eq_ok.mp hread).2).2
      rw [manifest?, Tree.content?_eq_some.mpr hentry, openedManifest, hbytes]
      rfl
  | styled h _ _ | seeded h _ _ _ =>
      rw [hmissing h]
      rfl

theorem manifest?_of_alters {made written : Location → Prop} (h : Alters made written t t')
    (hl : ¬ written (g.manifestPath.resolve t.home)) : g.manifest? t' = g.manifest? t := by
  rw [manifest?, manifest?, h.home]
  exact h.content? hl

theorem Sourced.manifest? (hext : '/' ∉ g.extension.toList) (h : Sourced g d t t') :
    g.manifest? t' = g.manifest? t :=
  manifest?_of_alters h.alters (not_sourceAt_of_dropLast h.lands.1 h.lands.2
    (dropLast_manifestPath hext t.home))

/-! ## One call -/

section
variable (hext : '/' ∉ g.extension.toList)
include hext

/-- A call that fails has not written the manifest. -/
theorem alters_of_error {stop : Stop} (h : Course g d t (.error stop) t') :
    Alters (Made g t.home) (· ≠ g.manifestPath.resolve t.home) t t' := by
  rcases h.lands_or_misses with ⟨hscreen, hstyle⟩ | ⟨rfl, -⟩
  · refine (h.alters hext).mono (fun _ hl => hl) fun l hl _ hm => ?_
    cases hl with
    | source hl =>
        refine not_sourceAt_of_dropLast hscreen hstyle ?_ hl
        rw [hm, dropLast_manifestPath hext]
    | manifest hr => cases hr
    | sheet _ _ hne => exact hne hm
  · exact .refl _ _ _

theorem Course.manifest?_of_error {stop : Stop} (h : Course g d t (.error stop) t') :
    g.manifest? t' = g.manifest? t :=
  manifest?_of_alters (alters_of_error hext h) fun hl => hl rfl

/-- A call that returns leaves what it has made of the screen. -/
theorem Course.rendered (h : Course g d t (.ok ()) t') : Rendered g d t' := by
  cases h with
  | @done _ t₁ t₂ _ h hmanifest hwrite =>
      obtain ⟨hscreen, hstyle⟩ := h.lands
      have h₁ := h.alters
      have h₂ := hmanifest.alters hext h.not_hasNull (reaches_srcDir h.isDirectory_screens)
      have h₃ := (Tree.written_of_write hwrite).alters fun _ => False
      have hapart {l : Location} (hl : SourceAt g d t.home l)
          (hdrop : l.dropLast = g.srcDir.resolve t.home) : False :=
        not_sourceAt_of_dropLast hscreen hstyle hdrop hl
      have hrendered : Rendered g d t₂ := h.rendered.alters h₂ fun l hl hsheet => by
        rw [h₁.home] at hl
        refine hapart hl ?_
        rw [hsheet.here, h₁.home, dropLast_manifestStylesPath]
      refine hrendered.alters h₃ fun l hl hmanifest => ?_
      rw [h₂.home, h₁.home] at hl hmanifest
      refine hapart hl ?_
      rw [hmanifest, dropLast_manifestPath hext]

/-- A call that returns has registered its screen in the manifest that was
there, or in a new one. -/
theorem Course.manifest? (h : Course g d t (.ok ()) t') :
    ∃ manifest, openedManifest (g.manifest? t) = .ok manifest ∧
      g.manifest? t' = some (Text.Utf8.encode (registered d manifest)) := by
  cases h with
  | @done manifest _ _ _ h hmanifest hwrite =>
      refine ⟨manifest, ?_, ?_⟩
      · rw [← h.manifest? hext]
        exact hmanifest.opened hext h.not_hasNull (reaches_srcDir h.isDirectory_screens)
      · have hwritten := Tree.written_of_write hwrite
        rw [Generator.manifest?, (hwritten.alters fun _ => False).home, Tree.content?_eq_some,
          hwritten.entry?, if_pos rfl]

end

/-! ## Rows of calls -/

/-- What comes of a call. -/
@[irreducible] def outcome (g : Generator) (t : Tree) (d : Document) : Except Stop Unit :=
  (run (g.generate d) t).1

/-- The files after a call, whatever came of it. -/
@[irreducible] def next (g : Generator) (t : Tree) (d : Document) : Tree :=
  (run (g.generate d) t).2.2

theorem course_next (g : Generator) (t : Tree) (d : Document) :
    Course g d t (g.outcome t d) (g.next t d) := by
  rw [outcome, next]
  exact g.course_generate d t

/-- The files after some calls. -/
def after (g : Generator) (t : Tree) (ds : List Document) : Tree :=
  ds.foldl g.next t

theorem after_cons (g : Generator) (t : Tree) (d : Document) (ds : List Document) :
    g.after t (d :: ds) = g.after (g.next t d) ds := rfl

/-- The screens of the calls that returned. -/
def returned (g : Generator) : Tree → List Document → List Document
  | _, [] => []
  | t, d :: ds =>
    match g.outcome t d with
    | .ok _ => d :: returned g (g.next t d) ds
    | .error _ => returned g (g.next t d) ds

/-- The manifest that a screen is registered in: a new one, or one that is read
back. -/
def openedText : Option String → String
  | none => baseManifest
  | some text => String.ofList (Text.unifyLineBreaks text.toList)

theorem openedManifest_encode (text : Option String) :
    openedManifest (text.map Text.Utf8.encode) = .ok (openedText text) := by
  cases text with
  | none => rfl
  | some text =>
      rw [Option.map_some, openedManifest, Text.Utf8.encode, Text.Utf8.decodeChars_encodeChars]
      rfl

section
variable (hext : '/' ∉ g.extension.toList)
include hext

theorem manifest?_next {text : Option String} (d : Document)
    (h : g.manifest? t = text.map Text.Utf8.encode) :
    g.manifest? (g.next t d) = (match g.outcome t d with
      | .ok _ => some (registered d (openedText text))
      | .error _ => text).map Text.Utf8.encode := by
  have hcourse := g.course_next t d
  cases hr : g.outcome t d with
  | ok =>
      rw [hr] at hcourse
      obtain ⟨manifest, hopened, hmanifest⟩ := hcourse.manifest? hext
      rw [h, openedManifest_encode] at hopened
      cases hopened
      exact hmanifest
  | error =>
      rw [hr] at hcourse
      exact (hcourse.manifest?_of_error hext).trans h

theorem alters_next (t : Tree) (d : Document) :
    Alters (fun _ => True) (fun _ => True) t (g.next t d) :=
  ((g.course_next t d).alters hext).mono (fun _ _ => trivial) fun _ _ _ => trivial

end

/-- A line stands in the manifest. -/
def Shows (g : Generator) (t : Tree) (line : String) : Prop :=
  ∃ text, g.manifest? t = some (Text.Utf8.encode text) ∧ line.toList <:+: text.toList

end ScreenBridge.Source.Generator
