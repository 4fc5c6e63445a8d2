import ScreenBridge.Mapping.Builtin
import ScreenBridge.Proofs.GenerationCourse

/-!
# Where a project's files go

The name of a screen comes from outside, and it goes into two paths as it is
but for its capitals: it may hold slashes, double points and a root. What keeps
the files of a screen in the project is the check before anything is written,
which resolves each path and wants it directly inside its directory. This file
says what that comes to. Whatever the screen is called, the only changes are
directories on the way to the project's own, a file directly in each of the
two, and the manifest with its stylesheet (`generate_within_layout`); a screen
that the check turns away changes nothing.

A NUL in a path ends the work before the check, and not as a failure but as a
crash. `HasNull` is where it can come from.
-/

namespace ScreenBridge.Source.Generator

open Files (FileError Location Path Tree)
open Files.Tree (Alters OnTheWay)
open Ui (Document)

variable {g : Generator} {d : Document} {t t' : Tree} {home : Location} {screenId : String}

/-! ## The directories of a project -/

theorem resolve_screensDir (g : Generator) (home : Location) :
    g.screensDir.resolve home = g.srcDir.resolve home ++ ["screens"] :=
  Path.resolve_append_name home _ (by decide) (by decide) (by decide) (by decide)

theorem resolve_stylesDir (g : Generator) (home : Location) :
    g.stylesDir.resolve home = g.srcDir.resolve home ++ ["styles"] :=
  Path.resolve_append_name home _ (by decide) (by decide) (by decide) (by decide)

theorem resolve_manifestStylesPath (g : Generator) (home : Location) :
    g.manifestStylesPath.resolve home = g.srcDir.resolve home ++ ["App.css"] :=
  Path.resolve_append_name home _ (by decide) (by decide) (by decide) (by decide)

theorem manifestName_ne (g : Generator) {name : String} (hname : name.toList.length ≤ 2) :
    "App." ++ g.extension ≠ name := by
  refine Path.ne_of_length_lt (Nat.lt_of_le_of_lt hname ?_)
  rw [String.toList_append, List.length_append]
  exact Nat.lt_add_right _ (by decide)

section
variable (hext : '/' ∉ g.extension.toList)
include hext

theorem not_mem_manifestName : '/' ∉ ("App." ++ g.extension).toList := by
  rw [String.toList_append, List.mem_append]
  rintro (hname | hmem)
  · revert hname
    decide
  · exact hext hmem

theorem resolve_manifestPath (home : Location) :
    g.manifestPath.resolve home = g.srcDir.resolve home ++ ["App." ++ g.extension] :=
  Path.resolve_append_name home _ (not_mem_manifestName hext) (g.manifestName_ne (by decide))
    (g.manifestName_ne (by decide)) (g.manifestName_ne (by decide))

end

theorem hasNull_srcDir (g : Generator) : g.srcDir.hasNull = g.outputDir.hasNull :=
  Path.hasNull_append_plain _ (by decide) (by decide) (by decide) (by decide)

theorem hasNull_screensDir (g : Generator) : g.screensDir.hasNull = g.outputDir.hasNull :=
  (Path.hasNull_append_plain _ (by decide) (by decide) (by decide) (by decide)).trans
    g.hasNull_srcDir

theorem hasNull_stylesDir (g : Generator) : g.stylesDir.hasNull = g.outputDir.hasNull :=
  (Path.hasNull_append_plain _ (by decide) (by decide) (by decide) (by decide)).trans
    g.hasNull_srcDir

theorem hasNull_manifestStylesPath (g : Generator) :
    g.manifestStylesPath.hasNull = g.outputDir.hasNull :=
  (Path.hasNull_append_plain _ (by decide) (by decide) (by decide) (by decide)).trans
    g.hasNull_srcDir

/-- The sources are on the way to the screens. -/
theorem onTheWay_srcDir {l : Location} (h : OnTheWay home g.srcDir l) :
    OnTheWay home g.screensDir l :=
  (Tree.onTheWay_append_name (by decide) (by decide) (by decide)).mpr (.inl h)

theorem reaches_srcDir (h : t.isDirectory g.screensDir = true) : t.Reaches g.srcDir :=
  Tree.reaches_of_isDirectory_append (by decide) (by decide) (by decide) h

/-! ## NULs -/

/-- A NUL in one of the texts that the paths of a screen are made of. -/
def HasNull (g : Generator) (d : Document) : Prop :=
  '\x00' ∈ d.screenId.toList ∨ '\x00' ∈ g.extension.toList ∨ g.outputDir.hasNull = true

section
variable (h : ¬ HasNull g d)
include h

theorem outputDir_hasNull : g.outputDir.hasNull = false :=
  Bool.eq_false_iff.mpr fun hout => h (.inr (.inr hout))

theorem hasNull_screenPath : (g.screenPath d).hasNull = false := by
  refine Path.hasNull_append_of_not_mem (g.hasNull_screensDir.trans (outputDir_hasNull h)) ?_
  rw [String.toList_append, String.toList_append, List.mem_append, List.mem_append,
    mem_componentName_of_control (by decide)]
  rintro ((hid | hpoint) | hext)
  · exact h (.inl hid)
  · revert hpoint
    decide
  · exact h (.inr (.inl hext))

theorem hasNull_stylePath : (g.stylePath d).hasNull = false := by
  refine Path.hasNull_append_of_not_mem (g.hasNull_stylesDir.trans (outputDir_hasNull h)) ?_
  rw [String.toList_append, List.mem_append, mem_componentName_of_control (by decide)]
  rintro (hid | hcss)
  · exact h (.inl hid)
  · revert hcss
    decide

theorem hasNull_manifestPath : g.manifestPath.hasNull = false := by
  refine Path.hasNull_append_of_not_mem (g.hasNull_srcDir.trans (outputDir_hasNull h)) ?_
  rw [String.toList_append, List.mem_append]
  rintro (hname | hext)
  · revert hname
    decide
  · exact h (.inr (.inl hext))

end

/-- A NUL anywhere stands in the path of a screen or in its directory. -/
theorem HasNull.screenPath (h : HasNull g d) :
    (g.screenPath d).hasNull = true ∨ g.screensDir.hasNull = true := by
  rcases h with hid | hext | hout
  · refine .inl (Path.hasNull_append_of_mem _ ?_)
    rw [String.toList_append, String.toList_append, List.mem_append, List.mem_append,
      mem_componentName_of_control (by decide)]
    exact .inl (.inl hid)
  · refine .inl (Path.hasNull_append_of_mem _ ?_)
    rw [String.toList_append, List.mem_append]
    exact .inr hext
  · exact .inr (g.hasNull_screensDir.trans hout)

theorem not_hasNull_of_lands (h : Lands home g.screensDir (g.screenPath d)) :
    ¬ HasNull g d := by
  intro hnull
  rcases hnull.screenPath with hpath | hdirectory
  · exact Bool.false_ne_true (h.hasNull.symm.trans hpath)
  · exact Bool.false_ne_true (h.directory_hasNull.symm.trans hdirectory)

/-! ## The check -/

/-- A path that leads directly into a directory, under some name. -/
def DirectlyIn (home : Location) (directory path : Path) : Prop :=
  ∃ name, path.resolve home = directory.resolve home ++ [name]

theorem directlyIn_iff {directory path : Path} (hne : directory.resolve home ≠ []) :
    DirectlyIn home directory path ↔
      (path.resolve home).dropLast = directory.resolve home := by
  constructor
  · rintro ⟨name, h⟩
    rw [h, List.dropLast_concat]
  · intro h
    have hpath : path.resolve home ≠ [] := by
      rintro hnil
      rw [hnil, List.dropLast_nil] at h
      exact hne h.symm
    exact ⟨(path.resolve home).getLast hpath, by rw [← h, List.dropLast_concat_getLast]⟩

theorem resolve_screensDir_ne (g : Generator) (home : Location) :
    g.screensDir.resolve home ≠ [] := by
  rw [resolve_screensDir]
  exact List.concat_ne_nil _ _

theorem resolve_stylesDir_ne (g : Generator) (home : Location) :
    g.stylesDir.resolve home ≠ [] := by
  rw [resolve_stylesDir]
  exact List.concat_ne_nil _ _

/-- Both files of a screen may be written, or nothing is done for it at all. -/
theorem Course.lands_or_misses {r : Except Stop Unit} (h : Course g d t r t') :
    (Lands t.home g.screensDir (g.screenPath d) ∧ Lands t.home g.stylesDir (g.stylePath d)) ∨
      t' = t ∧ ∃ stop, r = .error stop ∧
        (Misses t.home d.screenId g.screensDir (g.screenPath d) stop ∨
          Lands t.home g.screensDir (g.screenPath d) ∧
            Misses t.home d.screenId g.stylesDir (g.stylePath d) stop) := by
  cases h with
  | screenRefused h => exact .inr ⟨rfl, _, rfl, .inl h⟩
  | styleRefused hscreen h => exact .inr ⟨rfl, _, rfl, .inr ⟨hscreen, h⟩⟩
  | noScreens hscreen hstyle _ => exact .inl ⟨hscreen, hstyle⟩
  | noStyles hscreen hstyle _ _ => exact .inl ⟨hscreen, hstyle⟩
  | unwritten h _ => exact .inl ⟨h.screen, h.style⟩
  | unstyled h _ _ => exact .inl ⟨h.screen, h.style⟩
  | unrouted h _ | unregistered h _ _ | done h _ _ =>
      obtain ⟨_, _, hprepared, -⟩ := h.written
      exact .inl ⟨hprepared.screen, hprepared.style⟩

/-- A screen that leads out of its directories is turned away. -/
theorem Course.refused {r : Except Stop Unit} (h : Course g d t r t') (hnull : ¬ HasNull g d)
    (hout : ¬ (DirectlyIn t.home g.screensDir (g.screenPath d) ∧
      DirectlyIn t.home g.stylesDir (g.stylePath d))) :
    t' = t ∧ ∃ directory path,
      r = .error (.failed (.outsideProject d.screenId directory path)) := by
  have houtput := outputDir_hasNull hnull
  rcases h.lands_or_misses with ⟨hscreen, hstyle⟩ | ⟨rfl, stop, rfl, hscreen | ⟨-, hstyle⟩⟩
  · exact absurd ⟨(directlyIn_iff (g.resolve_screensDir_ne _)).mpr hscreen.inside,
      (directlyIn_iff (g.resolve_stylesDir_ne _)).mpr hstyle.inside⟩ hout
  · obtain rfl := hscreen.outsideProject (hasNull_screenPath hnull)
      (g.hasNull_screensDir.trans houtput)
    exact ⟨rfl, _, _, rfl⟩
  · obtain rfl := hstyle.outsideProject (hasNull_stylePath hnull)
      (g.hasNull_stylesDir.trans houtput)
    exact ⟨rfl, _, _, rfl⟩

/-- A NUL ends the work on a screen before it starts. -/
theorem Course.crashed {r : Except Stop Unit} (h : Course g d t r t') (hnull : HasNull g d) :
    t' = t ∧ r = .error (.crashed .nullByte) := by
  rcases h.lands_or_misses with ⟨hscreen, -⟩ | ⟨rfl, stop, rfl, hscreen | ⟨hscreen, -⟩⟩
  · exact absurd hnull (not_hasNull_of_lands hscreen)
  · obtain rfl := hscreen.nullByte hnull.screenPath
    exact ⟨rfl, rfl⟩
  · exact absurd hnull (not_hasNull_of_lands hscreen)

/-! ## What is changed -/

/-- The places at which directories may be made for a screen. -/
def Made (g : Generator) (home l : Location) : Prop :=
  OnTheWay home g.screensDir l ∨ OnTheWay home g.stylesDir l

theorem alters_of_ensureDirectories {directory : Path} {r : Except FileError Unit}
    {made : Location → Prop} (written : Location → Prop)
    (hmade : ∀ l, OnTheWay t.home directory l → made l)
    (h : t.ensureDirectories directory = (t', r)) : Alters made written t t' := by
  have halters := (t.ensureDirectories_ensures directory).alters
  rw [h] at halters
  exact halters.mono hmade fun _ hno _ => hno.elim

theorem isDirectory_of_ensureDirectories {directory : Path}
    (h : t.ensureDirectories directory = (t', .ok ())) : t'.isDirectory directory = true := by
  have hdirectory := (t.ensureDirectories_ensures directory).isDirectory
  rw [h] at hdirectory
  exact hdirectory rfl

section
variable (h : Prepared g d t t')
include h

theorem Prepared.alters (written : Location → Prop) :
    Alters (Made g t.home) written t t' := by
  obtain ⟨t₁, hscreens, hstyles⟩ := h.made
  have h₁ : Alters (Made g t.home) written t t₁ :=
    alters_of_ensureDirectories written (fun _ => .inl) hscreens
  refine h₁.trans (alters_of_ensureDirectories written (fun l hl => .inr ?_) hstyles)
  exact h₁.home ▸ hl

theorem Prepared.isDirectory_screens : t'.isDirectory g.screensDir = true := by
  obtain ⟨t₁, hscreens, hstyles⟩ := h.made
  exact (alters_of_ensureDirectories (fun _ => False) (fun _ hl => hl) hstyles).isDirectory
    (isDirectory_of_ensureDirectories hscreens)

theorem Prepared.isDirectory_styles : t'.isDirectory g.stylesDir = true := by
  obtain ⟨_, _, hstyles⟩ := h.made
  exact isDirectory_of_ensureDirectories hstyles

end

/-- The places of the two files of a screen. -/
def SourceAt (g : Generator) (d : Document) (home l : Location) : Prop :=
  l = (g.screenPath d).resolve home ∨ l = (g.stylePath d).resolve home

section
variable (h : Sourced g d t t')
include h

theorem Sourced.alters : Alters (Made g t.home) (SourceAt g d t.home) t t' := by
  obtain ⟨t₁, t₂, hprepared, hscreen, hstyle⟩ := h.written
  have h₁ := hprepared.alters (SourceAt g d t.home)
  have h₂ : Alters (Made g t.home) (SourceAt g d t.home) t₁ t₂ :=
    ((Tree.written_of_write hscreen).alters _).mono (fun _ hl => hl)
      fun l hl _ => .inl (h₁.home ▸ hl)
  have h₁₂ := h₁.trans h₂
  exact h₁₂.trans (((Tree.written_of_write hstyle).alters _).mono (fun _ hl => hl)
    fun l hl _ => .inr (h₁₂.home ▸ hl))

/-- Writing the files takes no directory away. -/
theorem Sourced.isDirectory {p : Path}
    (hp : ∀ t₁, Prepared g d t t₁ → t₁.isDirectory p = true) : t'.isDirectory p = true := by
  obtain ⟨t₁, t₂, hprepared, hscreen, hstyle⟩ := h.written
  have h₂ := (Tree.written_of_write hscreen).alters fun _ => False
  have h₃ := (Tree.written_of_write hstyle).alters fun _ => False
  exact h₃.isDirectory (h₂.isDirectory (hp t₁ hprepared))

theorem Sourced.isDirectory_screens : t'.isDirectory g.screensDir = true :=
  h.isDirectory fun _ => Prepared.isDirectory_screens

theorem Sourced.isDirectory_styles : t'.isDirectory g.stylesDir = true :=
  h.isDirectory fun _ => Prepared.isDirectory_styles

theorem Sourced.lands : Lands t.home g.screensDir (g.screenPath d) ∧
    Lands t.home g.stylesDir (g.stylePath d) := by
  obtain ⟨_, _, hprepared, -⟩ := h.written
  exact ⟨hprepared.screen, hprepared.style⟩

theorem Sourced.not_hasNull : ¬ HasNull g d :=
  not_hasNull_of_lands h.lands.1

end

/-- Work on the manifest that is given up has written nothing. -/
theorem ManifestCourse.alters_error {stop : Stop}
    (h : ManifestCourse g screenId t (.error stop) t') (written : Location → Prop) :
    Alters (OnTheWay t.home g.srcDir) written t t' := by
  cases h with
  | hidden _ | unread _ _ | garbled _ _ => exact .refl _ _ _
  | homeless _ hmake | stylesHidden _ hmake _ | unstyled _ hmake _ _ =>
      exact alters_of_ensureDirectories written (fun _ hl => hl) hmake

/-- A manifest that is missing has left its place free. -/
theorem entry?_manifest_of_not_exists (hext : '/' ∉ g.extension.toList)
    (hsrc : t.Reaches g.srcDir) (hnull : g.manifestPath.hasNull = false)
    (h : t.exists? g.manifestPath = .ok false) :
    t.entry? (g.manifestPath.resolve t.home) = none := by
  rw [resolve_manifestPath hext]
  exact Tree.entry?_of_not_exists (not_mem_manifestName hext) (g.manifestName_ne (by decide))
    (g.manifestName_ne (by decide)) (g.manifestName_ne (by decide)) hsrc hnull h

theorem entry?_manifestStyles_of_not_exists (hsrc : t.Reaches g.srcDir)
    (hnull : g.manifestStylesPath.hasNull = false)
    (h : t.exists? g.manifestStylesPath = .ok false) :
    t.entry? (g.manifestStylesPath.resolve t.home) = none := by
  rw [resolve_manifestStylesPath]
  exact Tree.entry?_of_not_exists (by decide) (by decide) (by decide) (by decide) hsrc hnull h

/-- A stylesheet written for a manifest that is new, where there was none. -/
structure SheetAt (g : Generator) (t t' : Tree) (l : Location) : Prop where
  here : l = g.manifestStylesPath.resolve t.home
  manifest : t.entry? (g.manifestPath.resolve t.home) = none
  free : t.entry? l = none
  written : ∃ content, t'.lookUp g.manifestStylesPath = .ok (.file content)

theorem ManifestCourse.alters {manifest : String} (hext : '/' ∉ g.extension.toList)
    (hnull : ¬ HasNull g d) (hsrc : t.Reaches g.srcDir)
    (h : ManifestCourse g screenId t (.ok manifest) t') :
    Alters (OnTheWay t.home g.srcDir) (SheetAt g t t') t t' := by
  cases h with
  | found _ _ => exact .refl _ _ _
  | styled _ hmake _ => exact alters_of_ensureDirectories _ (fun _ hl => hl) hmake
  | @seeded t₁ _ hmissing hmake hstyles hwrite =>
      have h₁ := alters_of_ensureDirectories (SheetAt g t t') (fun _ hl => hl) hmake
      have hwritten := Tree.written_of_write hwrite
      refine h₁.trans ((hwritten.alters _).mono (fun _ hl => hl) fun l hl _ => ?_)
      have hfree := entry?_manifestStyles_of_not_exists (h₁.reaches hsrc)
        (g.hasNull_manifestStylesPath.trans (outputDir_hasNull hnull)) hstyles
      refine ⟨h₁.home ▸ hl, ?_, ?_, _, hwritten.lookUp⟩
      · exact entry?_manifest_of_not_exists hext hsrc (hasNull_manifestPath hnull) hmissing
      · exact h₁.entry?_of_none (hl ▸ hfree)

/-- The screen and the manifest are got ready: what is written by then. -/
theorem alters_of_manifest {manifest : String} {t₁ : Tree} (hext : '/' ∉ g.extension.toList)
    (h : Sourced g d t t₁) (hmanifest : ManifestCourse g screenId t₁ (.ok manifest) t') :
    Alters (Made g t.home) (fun l => SourceAt g d t.home l ∨ SheetAt g t t' l) t t' := by
  have h₁ := h.alters
  have h₂ := hmanifest.alters hext h.not_hasNull (reaches_srcDir h.isDirectory_screens)
  refine (h₁.mono (fun _ hl => hl) fun _ hl _ => .inl hl).trans
    (h₂.mono (fun l hl => .inl (onTheWay_srcDir (h₁.home ▸ hl))) fun l hl _ => .inr ?_)
  refine ⟨h₁.home ▸ hl.here, ?_, h₁.entry?_of_none hl.free, hl.written⟩
  rw [← h₁.home]
  exact h₁.entry?_of_none hl.manifest

/-- The manifest and its stylesheet are one file only if they have one path. -/
theorem manifestPath_eq (hext : '/' ∉ g.extension.toList)
    (h : g.manifestStylesPath.resolve home = g.manifestPath.resolve home) :
    g.manifestPath = g.manifestStylesPath := by
  rw [resolve_manifestStylesPath, resolve_manifestPath hext] at h
  have hname := List.singleton_inj.mp (List.append_cancel_left h)
  rw [manifestPath, ← hname]
  rfl

/-- The places at which files may be written for a screen, by what comes of it. -/
inductive WritesAt (g : Generator) (d : Document) (t : Tree) (r : Except Stop Unit) :
    Location → Prop
  | source {l} (h : SourceAt g d t.home l) : WritesAt g d t r l
  | manifest (h : r = .ok ()) : WritesAt g d t r (g.manifestPath.resolve t.home)
  | sheet (hmanifest : t.entry? (g.manifestPath.resolve t.home) = none)
      (hfree : t.entry? (g.manifestStylesPath.resolve t.home) = none)
      (hne : g.manifestStylesPath.resolve t.home ≠ g.manifestPath.resolve t.home) :
      WritesAt g d t r (g.manifestStylesPath.resolve t.home)

/-- The files and directories that the work on a screen may have changed. -/
theorem Course.alters {r : Except Stop Unit} (hext : '/' ∉ g.extension.toList)
    (h : Course g d t r t') : Alters (Made g t.home) (WritesAt g d t r) t t' := by
  cases h with
  | screenRefused _ | styleRefused _ _ => exact .refl _ _ _
  | noScreens _ _ hmake => exact alters_of_ensureDirectories _ (fun _ => .inl) hmake
  | @noStyles e t₁ _ _ _ hscreens hmake =>
      have h₁ : Alters (Made g t.home) (WritesAt g d t (.error (.ofRefusal d.screenId e))) t t₁ :=
        alters_of_ensureDirectories _ (fun _ => .inl) hscreens
      exact h₁.trans (alters_of_ensureDirectories _ (fun l hl => .inr (h₁.home ▸ hl)) hmake)
  | unwritten h _ => exact h.alters _
  | @unstyled e _ _ h hscreen _ =>
      have h₁ := h.alters (WritesAt g d t (.error (.ofRefusal d.screenId e)))
      exact h₁.trans (((Tree.written_of_write hscreen).alters _).mono (fun _ hl => hl)
        fun l hl _ => .source (.inl (h₁.home ▸ hl)))
  | @unrouted stop _ _ h hmanifest =>
      have h₁ : Alters (Made g t.home) (WritesAt g d t (.error stop)) t _ :=
        h.alters.mono (fun _ hl => hl) fun l hl _ => .source hl
      exact h₁.trans ((hmanifest.alters_error _).mono
        (fun l hl => .inl (onTheWay_srcDir (h₁.home ▸ hl))) fun _ hl _ => hl)
  | unregistered h hmanifest hwrite =>
      refine (alters_of_manifest hext h hmanifest).mono (fun _ hl => hl) fun l hl _ => ?_
      rcases hl with hsource | ⟨rfl, hmissing, hfree, content, hsheet⟩
      · exact .source hsource
      -- a sheet in the manifest's own place would take the manifest
      · refine .sheet hmissing hfree fun hsame => ?_
        rw [← manifestPath_eq hext hsame] at hsheet
        rw [Tree.write_of_lookUp (hasNull_manifestPath h.not_hasNull) hsheet] at hwrite
        cases hwrite
  | done h hmanifest hwrite =>
      have h₁ := alters_of_manifest hext h hmanifest
      have h₂ : Alters (Made g t.home) (WritesAt g d t (.ok ())) _ t' :=
        ((Tree.written_of_write hwrite).alters _).mono (fun _ hl => hl) fun l hl _ => by
          rw [h₁.home] at hl
          exact hl ▸ .manifest rfl
      refine (h₁.mono (fun _ hl => hl) fun l hl _ => ?_).trans h₂
      rcases hl with hsource | ⟨rfl, hmissing, hfree, -⟩
      · exact .source hsource
      · by_cases hsame : g.manifestStylesPath.resolve t.home = g.manifestPath.resolve t.home
        · rw [hsame]
          exact .manifest rfl
        · exact .sheet hmissing hfree hsame

/-! ## The files of a project -/

/-- What the files of a screen are called: its component, from the last slash on. -/
def fileStem (screenId : String) : String :=
  Path.lastName (componentName screenId)

/-- The file of a screen is called by its stem and ends in the extension. -/
theorem resolve_screenPath_eq (hext : '/' ∉ g.extension.toList)
    (h : Lands home g.screensDir (g.screenPath d)) :
    (g.screenPath d).resolve home =
      g.screensDir.resolve home ++ [fileStem d.screenId ++ "." ++ g.extension] := by
  have hslash : '/' ∉ ("Screen." ++ g.extension).toList := by
    rw [String.toList_append, List.mem_append]
    rintro (hname | hmem)
    · revert hname
      decide
    · exact hext hmem
  have hlong : 2 < ("Screen." ++ g.extension).toList.length := by
    rw [String.toList_append, List.length_append]
    exact Nat.lt_add_right _ (by decide)
  have hword : "Screen" ++ "." = "Screen." := by decide
  have hsuffix (stem : String) :
      stem ++ "Screen" ++ "." ++ g.extension = stem ++ ("Screen." ++ g.extension) := by
    rw [← hword, String.append_assoc, String.append_assoc, String.append_assoc]
  have hinside := h.inside
  rw [screenPath, fileStem, componentName, Path.lastName_append _ (by decide), hsuffix, hsuffix]
  rw [screenPath, componentName, hsuffix] at hinside
  exact Path.resolve_append_suffix hslash hlong hinside

theorem resolve_stylePath_eq (h : Lands home g.stylesDir (g.stylePath d)) :
    (g.stylePath d).resolve home =
      g.stylesDir.resolve home ++ [fileStem d.screenId ++ ".css"] :=
  Path.resolve_append_suffix (by decide) (by decide) h.inside

theorem resolve_screenPath (hext : '/' ∉ g.extension.toList)
    (h : Lands home g.screensDir (g.screenPath d)) :
    ∃ name, (g.screenPath d).resolve home =
      g.screensDir.resolve home ++ [name ++ "." ++ g.extension] :=
  ⟨_, resolve_screenPath_eq hext h⟩

theorem resolve_stylePath (h : Lands home g.stylesDir (g.stylePath d)) :
    ∃ name, (g.stylePath d).resolve home = g.stylesDir.resolve home ++ [name ++ ".css"] :=
  ⟨_, resolve_stylePath_eq h⟩

/-- The files of a project: one that is called like a screen directly inside
the screens, one directly inside the styles, the manifest, and a stylesheet for
the manifest if neither of the two is there. -/
inductive ProjectFile (g : Generator) (t : Tree) (screen sheet : String) : Location → Prop
  | screen : ProjectFile g t screen sheet
      (g.screensDir.resolve t.home ++ [screen ++ "." ++ g.extension])
  | sheet : ProjectFile g t screen sheet (g.stylesDir.resolve t.home ++ [sheet ++ ".css"])
  | manifest : ProjectFile g t screen sheet
      (g.srcDir.resolve t.home ++ ["App." ++ g.extension])
  | manifestSheet
      (hmanifest : t.entry? (g.srcDir.resolve t.home ++ ["App." ++ g.extension]) = none)
      (hfree : t.entry? (g.srcDir.resolve t.home ++ ["App.css"]) = none) :
      ProjectFile g t screen sheet (g.srcDir.resolve t.home ++ ["App.css"])

theorem WritesAt.projectFile {r : Except Stop Unit} {screen sheet : String} {l : Location}
    (hext : '/' ∉ g.extension.toList)
    (hscreen : (g.screenPath d).resolve t.home =
      g.screensDir.resolve t.home ++ [screen ++ "." ++ g.extension])
    (hsheet : (g.stylePath d).resolve t.home = g.stylesDir.resolve t.home ++ [sheet ++ ".css"])
    (h : WritesAt g d t r l) : ProjectFile g t screen sheet l := by
  cases h with
  | source h =>
      rcases h with hl | hl
      · rw [hl, hscreen]
        exact .screen
      · rw [hl, hsheet]
        exact .sheet
  | manifest _ =>
      rw [resolve_manifestPath hext]
      exact .manifest
  | sheet hmanifest hfree _ =>
      rw [resolve_manifestPath hext] at hmanifest
      rw [resolve_manifestStylesPath] at hfree ⊢
      exact .manifestSheet hmanifest hfree

/-- Whatever a screen is called, its generation stays in the project. The
changes are directories on the way to the screens and the styles, one file
directly in each of the two, the manifest, and the manifest's stylesheet if
neither was there. A screen that leads anywhere else is refused and nothing is
changed, unless a NUL stands in one of the texts: that is a crash, which changes
nothing either. -/
theorem generate_within_layout {g : Generator} (hext : '/' ∉ g.extension.toList)
    (d : Document) (t : Tree) :
    (∃ screen sheet,
      Alters (fun l => OnTheWay t.home g.screensDir l ∨ OnTheWay t.home g.stylesDir l)
        (ProjectFile g t screen sheet) t (run (g.generate d) t).2.2) ∧
    (¬ HasNull g d →
      ¬ (DirectlyIn t.home g.screensDir (g.screenPath d) ∧
        DirectlyIn t.home g.stylesDir (g.stylePath d)) →
      (run (g.generate d) t).2.2 = t ∧ ∃ directory path,
        (run (g.generate d) t).1 =
          .error (.failed (.outsideProject d.screenId directory path))) ∧
    (HasNull g d →
      (run (g.generate d) t).2.2 = t ∧
        (run (g.generate d) t).1 = .error (.crashed .nullByte)) := by
  have hcourse := g.course_generate d t
  generalize run (g.generate d) t = outcome at hcourse ⊢
  refine ⟨?_, fun hnull hout => hcourse.refused hnull hout, fun hnull => hcourse.crashed hnull⟩
  rcases hcourse.lands_or_misses with ⟨hscreen, hstyle⟩ | ⟨hsame, -⟩
  · obtain ⟨screen, hscreen⟩ := resolve_screenPath hext hscreen
    obtain ⟨sheet, hsheet⟩ := resolve_stylePath hstyle
    exact ⟨screen, sheet, (hcourse.alters hext).mono (fun _ hl => hl)
      fun _ hl _ => hl.projectFile hext hscreen hsheet⟩
  · rw [hsame]
    exact ⟨"", "", .refl _ _ _⟩

/-- A project in `out`. -/
def frontend : Generator where
  registry := .builtin
  outputDir := .ofString "out"
  extension := "tsx"
  liveUpdateUrl := "ws://localhost:3001"

/-- A screen that is one empty column. -/
def plainScreen (screenId route : String) : Document :=
  ⟨screenId, route, "", "python", ⟨none, "Column", [], none, none, none, none⟩, [], [], []⟩

/-- A screen that climbs out of the project is refused. -/
theorem generate_within_layout_climbing :
    (run (frontend.generate (plainScreen "../../../etc/x" "/")) .empty).2.2 = .empty ∧
      ∃ directory path, (run (frontend.generate (plainScreen "../../../etc/x" "/")) .empty).1 =
        .error (.failed (.outsideProject "../../../etc/x" directory path)) := by
  have hnull : ¬ HasNull frontend (plainScreen "../../../etc/x" "/") := by
    unfold HasNull
    decide
  refine (generate_within_layout (g := frontend) (by decide) _ _).2.1 hnull fun h => ?_
  have hinside := (directlyIn_iff (frontend.resolve_screensDir_ne _)).mp h.1
  revert hinside
  decide +kernel

/-- In a directory with a NUL in its name the check itself breaks off, and the
screen that climbs is not refused as one. -/
theorem not_refused_nullDirectory :
    let g := { frontend with outputDir := .ofString "out\x00x" }
    let d := plainScreen "../x" "/"
    '\x00' ∉ d.screenId.toList ∧ '/' ∉ g.extension.toList ∧ '\x00' ∉ g.extension.toList ∧
      ¬ DirectlyIn Tree.empty.home g.screensDir (g.screenPath d) ∧
      (run (g.generate d) .empty).1 = .error (.crashed .nullByte) := by
  refine ⟨by decide, by decide, by decide, fun h => ?_, ?_⟩
  · have hinside := (directlyIn_iff (resolve_screensDir_ne _ _)).mp h
    revert hinside
    decide +kernel
  · exact ((course_generate _ _ _).crashed (.inr (.inr (by decide)))).2

end ScreenBridge.Source.Generator
