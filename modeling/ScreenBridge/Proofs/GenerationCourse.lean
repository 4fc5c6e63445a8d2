import ScreenBridge.Proofs.CaseMapping
import ScreenBridge.Proofs.TreeChanges
import ScreenBridge.Source.Project

/-!
# How the generation of a screen goes

A screen takes seven operations on the files: two directories, two files, a
look at the manifest, its making if it is missing, and its rewriting. Each of
them may be refused, and there is no way back from what was done before. This
file says once what can come of it. `ManifestCourse` lists how the manifest is
got hold of and `Course` how a whole screen goes, each end with the operations
that led to it, so that later proofs are about trees of files and never look
at the generation again.

The steps are gone through with `Leads`: what a step comes to on some files,
whatever was noted before.
-/

namespace ScreenBridge.Source

open Files (FileError Location Path Tree)
open Ui (Document)

/-! ## Component names -/

/-- A name is made of what its screen is called; letters are changed, and
control characters are not. -/
theorem mem_joinParts_of_control {c : Char} (hc : c.toNat < 0x20) (fresh : Bool)
    (s : List Char) : c ∈ joinParts fresh s ↔ c ∈ s := by
  induction s generalizing fresh with
  | nil => rfl
  | cons d s ih =>
      rw [joinParts]
      split
      · next hd =>
          have hne : c ≠ d := by
            rintro rfl
            rw [hd] at hc
            exact absurd hc (by decide)
          rw [ih, List.mem_cons, or_iff_right hne]
      · rw [List.mem_append, List.mem_cons, ih]
        refine or_congr_left ?_
        split
        · exact Text.mem_capital_of_control hc d
        · exact List.mem_singleton

theorem mem_componentName_of_control {c : Char} (hc : c.toNat < 0x20) (screenId : String) :
    c ∈ (componentName screenId).toList ↔ c ∈ screenId.toList := by
  rw [componentName, String.toList_append, String.toList_ofList, List.mem_append,
    mem_joinParts_of_control hc]
  refine or_iff_left fun hmem => ?_
  have hletters : "Screen".toList.all (fun d => decide (0x20 ≤ d.toNat)) = true := by decide
  have hletter := of_decide_eq_true (List.all_eq_true.mp hletters c hmem)
  exact absurd hc (Nat.not_lt.mpr hletter)

/-- Why a refusal by the system ends the work on a screen. -/
def Stop.ofRefusal (screenId : String) : FileError → Stop
  | .os errno path => .failed (.notWritten screenId errno path)
  | .nullByte => .crashed .nullByte

/-! ## Going through the steps -/

namespace Generation

variable {α β : Type} {t : Tree} {Q : Except Stop α → Tree → Prop}
variable {R : Except Stop β → Tree → Prop} {next : α → Generation β} {id : String} {p : Path}

/-- A step on some files comes to what `Q` says, whatever was noted before. -/
def Leads (step : Generation α) (t : Tree) (Q : Except Stop α → Tree → Prop) : Prop :=
  ∀ notices, Q (step.run.run ⟨t, notices⟩).1 (step.run.run ⟨t, notices⟩).2.files

theorem leads_pure {a : α} (h : Q (.ok a) t) : Leads (pure a) t Q :=
  fun _ => h

theorem leads_throw {stop : Stop} (h : Q (.error stop) t) : Leads (throw stop) t Q :=
  fun _ => h

theorem leads_bind {step : Generation α} (hstep : Leads step t Q)
    (hstop : ∀ stop t', Q (.error stop) t' → R (.error stop) t')
    (hnext : ∀ a t', Q (.ok a) t' → Leads (next a) t' R) : Leads (step >>= next) t R := by
  intro notices
  have h := hstep notices
  rw [ExceptT.run_bind, StateT.run_bind]
  cases hrun : step.run.run ⟨t, notices⟩ with
  | mk outcome w =>
      rw [hrun] at h
      cases outcome with
      | error stop => exact hstop stop _ h
      | ok a => exact hnext a _ h w.notices

/-- What a step has to come to, for `next` behind it to come to `R`. -/
def Awaits (next : α → Generation β) (R : Except Stop β → Tree → Prop) :
    Except Stop α → Tree → Prop
  | .ok a, t => Leads (next a) t R
  | .error stop, t => R (.error stop) t

theorem leads_bind_of_awaits {step : Generation α} (h : Leads step t (Awaits next R)) :
    Leads (step >>= next) t R :=
  leads_bind h (fun _ _ hstop => hstop) fun _ _ hnext => hnext

theorem leads_note {n : Log.Notice} {Q : Except Stop Unit → Tree → Prop} (h : Q (.ok ()) t) :
    Leads (note n) t Q :=
  fun _ => h

theorem leads_note_bind {n : Log.Notice} {next : Unit → Generation β}
    (h : Leads (next ()) t R) : Leads (note n >>= next) t R :=
  fun notices => h (notices ++ [n])

theorem leads_refuse {e : FileError} (h : Q (.error (.ofRefusal id e)) t) :
    Leads (refuse id e) t Q := by
  cases e with
  | os errno path => exact leads_note_bind (leads_throw h)
  | nullByte => exact leads_throw h

theorem leads_get_bind {next : Workspace → Generation β}
    (h : ∀ notices, Leads (next ⟨t, notices⟩) t R) : Leads (get >>= next) t R :=
  fun notices => h notices notices

theorem leads_modify_bind {t' : Tree} {next : Unit → Generation β} (h : Leads (next ()) t' R) :
    Leads ((modify fun w => { w with files := t' }) >>= next) t R :=
  fun notices => h notices

/-- A look at the files changes none. -/
theorem leads_inspect {look : Tree → Except FileError α}
    (hrefused : ∀ e, look t = .error e → Q (.error (.ofRefusal id e)) t)
    (hseen : ∀ a, look t = .ok a → Q (.ok a) t) : Leads (inspect id look) t Q := by
  rw [inspect]
  refine leads_get_bind fun _ => ?_
  dsimp only
  cases hlook : look t with
  | ok a => exact leads_pure (hseen a hlook)
  | error e => exact leads_refuse (hrefused e hlook)

theorem leads_inspect_bind {look : Tree → Except FileError α}
    (hrefused : ∀ e, look t = .error e → R (.error (.ofRefusal id e)) t)
    (hseen : ∀ a, look t = .ok a → Leads (next a) t R) : Leads (inspect id look >>= next) t R :=
  leads_bind_of_awaits (leads_inspect hrefused hseen)

theorem leads_writeText {content : String} {Q : Except Stop Unit → Tree → Prop}
    (hrefused : ∀ e, t.write p (Text.Utf8.encode content) = .error e →
      Q (.error (.ofRefusal id e)) t)
    (hwritten : ∀ t', t.write p (Text.Utf8.encode content) = .ok t' → Q (.ok ()) t') :
    Leads (writeText id p content) t Q :=
  leads_inspect_bind hrefused fun t' h _ => hwritten t' h

theorem leads_writeText_bind {content : String} {next : Unit → Generation β}
    (hrefused : ∀ e, t.write p (Text.Utf8.encode content) = .error e →
      R (.error (.ofRefusal id e)) t)
    (hwritten : ∀ t', t.write p (Text.Utf8.encode content) = .ok t' → Leads (next ()) t' R) :
    Leads (writeText id p content >>= next) t R :=
  leads_bind_of_awaits (leads_writeText hrefused hwritten)

theorem leads_makeDirectories {Q : Except Stop Unit → Tree → Prop}
    (hrefused : ∀ e t', t.ensureDirectories p = (t', .error e) → Q (.error (.ofRefusal id e)) t')
    (hmade : ∀ t', t.ensureDirectories p = (t', .ok ()) → Q (.ok ()) t') :
    Leads (makeDirectories id p) t Q := by
  rw [makeDirectories]
  refine leads_get_bind fun _ => ?_
  dsimp only
  cases hmake : t.ensureDirectories p with
  | mk t' outcome =>
      refine leads_modify_bind ?_
      cases outcome with
      | ok => exact leads_pure (hmade t' hmake)
      | error e => exact leads_refuse (hrefused e t' hmake)

theorem leads_makeDirectories_bind {next : Unit → Generation β}
    (hrefused : ∀ e t', t.ensureDirectories p = (t', .error e) → R (.error (.ofRefusal id e)) t')
    (hmade : ∀ t', t.ensureDirectories p = (t', .ok ()) → Leads (next ()) t' R) :
    Leads (makeDirectories id p >>= next) t R :=
  leads_bind_of_awaits (leads_makeDirectories hrefused hmade)

theorem leads_readText {Q : Except Stop String → Tree → Prop}
    (hrefused : ∀ e, t.read p = .error e → Q (.error (.ofRefusal id e)) t)
    (hgarbled : ∀ bytes fault, t.read p = .ok bytes → Text.Utf8.decodeChars bytes = .error fault →
      Q (.error (.crashed (.notUtf8 fault))) t)
    (hread : ∀ bytes cs, t.read p = .ok bytes → Text.Utf8.decodeChars bytes = .ok cs →
      Q (.ok (String.ofList (Text.unifyLineBreaks cs))) t) :
    Leads (readText id p) t Q := by
  refine leads_inspect_bind hrefused fun bytes hbytes => ?_
  cases hcs : Text.Utf8.decodeChars bytes with
  | ok cs => exact leads_pure (hread bytes cs hbytes hcs)
  | error fault => exact leads_throw (hgarbled bytes fault hbytes hcs)

end Generation

/-! ## The places of a screen's files -/

/-- A path that a file of a screen may be written at: it leads directly into
its directory. -/
structure Lands (home : Location) (directory path : Path) : Prop where
  hasNull : path.hasNull = false
  directory_hasNull : directory.hasNull = false
  inside : (path.resolve home).dropLast = directory.resolve home

/-- Why nothing is written at a path. -/
inductive Misses (home : Location) (screenId : String) (directory path : Path) : Stop → Prop
  | null (h : path.hasNull = true ∨ directory.hasNull = true) :
      Misses home screenId directory path (.crashed .nullByte)
  | outside (hpath : path.hasNull = false) (hdirectory : directory.hasNull = false)
      (h : (path.resolve home).dropLast ≠ directory.resolve home) :
      Misses home screenId directory path
        (.failed (.outsideProject screenId directory.text path.text))

section
variable {home : Location} {screenId : String} {directory path : Path} {stop : Stop}
variable (h : Misses home screenId directory path stop)
include h

theorem Misses.nullByte (hnull : path.hasNull = true ∨ directory.hasNull = true) :
    stop = .crashed .nullByte := by
  cases h with
  | null => rfl
  | outside hpath hdirectory => simp [hpath, hdirectory] at hnull

theorem Misses.outsideProject (hpath : path.hasNull = false)
    (hdirectory : directory.hasNull = false) :
    stop = .failed (.outsideProject screenId directory.text path.text) := by
  cases h with
  | null hnull => simp [hpath, hdirectory] at hnull
  | outside => rfl

theorem Misses.not_lands : ¬ Lands home directory path := by
  intro hland
  cases h with
  | null hnull => simp [hland.hasNull, hland.directory_hasNull] at hnull
  | outside _ _ hout => exact hout hland.inside

end

namespace Generator

open Generation

section
variable {t : Tree} {directory : Path} {name screenId : String}

theorem leads_target {Q : Except Stop Path → Tree → Prop}
    (hmiss : ∀ stop, Misses t.home screenId directory (directory.append name) stop →
      Q (.error stop) t)
    (hland : Lands t.home directory (directory.append name) →
      Q (.ok (directory.append name)) t) : Leads (target directory name screenId) t Q := by
  rw [target]
  refine leads_get_bind fun _ => ?_
  dsimp only
  split
  · next hnull => exact leads_throw (hmiss _ (.null ((Bool.or_eq_true _ _).mp hnull)))
  · next hnull =>
      obtain ⟨hpath, hdirectory⟩ := Bool.or_eq_false_iff.mp (Bool.eq_false_iff.mpr hnull)
      split
      · next hin => exact leads_pure (hland ⟨hpath, hdirectory, hin⟩)
      · next hout => exact leads_throw (hmiss _ (.outside hpath hdirectory hout))

theorem leads_target_bind {β : Type} {R : Except Stop β → Tree → Prop}
    {next : Path → Generation β}
    (hmiss : ∀ stop, Misses t.home screenId directory (directory.append name) stop →
      R (.error stop) t)
    (hland : Lands t.home directory (directory.append name) →
      Leads (next (directory.append name)) t R) :
    Leads (target directory name screenId >>= next) t R :=
  leads_bind_of_awaits (leads_target hmiss hland)

end

def screenPath (g : Generator) (d : Document) : Path :=
  g.screensDir.append (componentName d.screenId ++ "." ++ g.extension)

def stylePath (g : Generator) (d : Document) : Path :=
  g.stylesDir.append (componentName d.screenId ++ ".css")

/-! ## The manifest -/

/-- How the manifest is got hold of. It is read where there is one, and where
there is none it is started, with its stylesheet unless that is there already. -/
inductive ManifestCourse (g : Generator) (id : String) (t : Tree) :
    Except Stop String → Tree → Prop
  | hidden {e} (h : t.exists? g.manifestPath = .error e) :
      ManifestCourse g id t (.error (.ofRefusal id e)) t
  | unread {e} (h : t.exists? g.manifestPath = .ok true)
      (hread : t.read g.manifestPath = .error e) :
      ManifestCourse g id t (.error (.ofRefusal id e)) t
  | garbled {bytes fault} (hread : t.read g.manifestPath = .ok bytes)
      (hbytes : Text.Utf8.decodeChars bytes = .error fault) :
      ManifestCourse g id t (.error (.crashed (.notUtf8 fault))) t
  | found {bytes cs} (hread : t.read g.manifestPath = .ok bytes)
      (hbytes : Text.Utf8.decodeChars bytes = .ok cs) :
      ManifestCourse g id t (.ok (String.ofList (Text.unifyLineBreaks cs))) t
  | homeless {e t'} (h : t.exists? g.manifestPath = .ok false)
      (hmake : t.ensureDirectories g.srcDir = (t', .error e)) :
      ManifestCourse g id t (.error (.ofRefusal id e)) t'
  | stylesHidden {e t'} (h : t.exists? g.manifestPath = .ok false)
      (hmake : t.ensureDirectories g.srcDir = (t', .ok ()))
      (hstyles : t'.exists? g.manifestStylesPath = .error e) :
      ManifestCourse g id t (.error (.ofRefusal id e)) t'
  | unstyled {e t'} (h : t.exists? g.manifestPath = .ok false)
      (hmake : t.ensureDirectories g.srcDir = (t', .ok ()))
      (hstyles : t'.exists? g.manifestStylesPath = .ok false)
      (hwrite : t'.write g.manifestStylesPath (Text.Utf8.encode baseStylesheet) = .error e) :
      ManifestCourse g id t (.error (.ofRefusal id e)) t'
  | styled {t'} (h : t.exists? g.manifestPath = .ok false)
      (hmake : t.ensureDirectories g.srcDir = (t', .ok ()))
      (hstyles : t'.exists? g.manifestStylesPath = .ok true) :
      ManifestCourse g id t (.ok baseManifest) t'
  | seeded {t' t''} (h : t.exists? g.manifestPath = .ok false)
      (hmake : t.ensureDirectories g.srcDir = (t', .ok ()))
      (hstyles : t'.exists? g.manifestStylesPath = .ok false)
      (hwrite : t'.write g.manifestStylesPath (Text.Utf8.encode baseStylesheet) = .ok t'') :
      ManifestCourse g id t (.ok baseManifest) t''

theorem leads_manifest (g : Generator) (id : String) (t : Tree) :
    Leads (g.manifest id) t (ManifestCourse g id t) := by
  refine leads_inspect_bind (fun e he => .hidden he) fun found hfound => ?_
  cases found with
  | true =>
      exact leads_readText (fun e he => .unread hfound he)
        (fun bytes fault hread hbytes => .garbled hread hbytes)
        fun bytes cs hread hbytes => .found hread hbytes
  | false =>
      refine leads_makeDirectories_bind (fun e t' hmake => .homeless hfound hmake)
        fun t' hmake => ?_
      refine leads_inspect_bind (fun e he => .stylesHidden hfound hmake he)
        fun styled hstyles => ?_
      cases styled with
      | true => exact leads_note_bind (leads_pure (.styled hfound hmake hstyles))
      | false =>
          refine leads_writeText_bind (fun e he => .unstyled hfound hmake hstyles he)
            fun t'' hwrite => ?_
          exact leads_note_bind (leads_pure (.seeded hfound hmake hstyles hwrite))

/-! ## A screen -/

/-- The files of a screen may be written, and their directories are there. -/
structure Prepared (g : Generator) (d : Document) (t t' : Tree) : Prop where
  screen : Lands t.home g.screensDir (g.screenPath d)
  style : Lands t.home g.stylesDir (g.stylePath d)
  made : ∃ t₁, t.ensureDirectories g.screensDir = (t₁, .ok ()) ∧
    t₁.ensureDirectories g.stylesDir = (t', .ok ())

/-- The files of a screen are written. -/
structure Sourced (g : Generator) (d : Document) (t t' : Tree) : Prop where
  written : ∃ t₁ t₂, Prepared g d t t₁ ∧
    t₁.write (g.screenPath d)
      (Text.Utf8.encode (screenSource g.registry g.liveUpdateUrl d)) = .ok t₂ ∧
    t₂.write (g.stylePath d) (Text.Utf8.encode (screenStyles d)) = .ok t'

/-- The manifest with a screen registered. -/
def registered (d : Document) (manifest : String) : String :=
  updateManifest manifest (componentName d.screenId) d.route

/-- How the generation of a screen goes. -/
inductive Course (g : Generator) (d : Document) (t : Tree) : Except Stop Unit → Tree → Prop
  | screenRefused {stop} (h : Misses t.home d.screenId g.screensDir (g.screenPath d) stop) :
      Course g d t (.error stop) t
  | styleRefused {stop} (hscreen : Lands t.home g.screensDir (g.screenPath d))
      (h : Misses t.home d.screenId g.stylesDir (g.stylePath d) stop) :
      Course g d t (.error stop) t
  | noScreens {e t'} (hscreen : Lands t.home g.screensDir (g.screenPath d))
      (hstyle : Lands t.home g.stylesDir (g.stylePath d))
      (hmake : t.ensureDirectories g.screensDir = (t', .error e)) :
      Course g d t (.error (.ofRefusal d.screenId e)) t'
  | noStyles {e t₁ t'} (hscreen : Lands t.home g.screensDir (g.screenPath d))
      (hstyle : Lands t.home g.stylesDir (g.stylePath d))
      (hscreens : t.ensureDirectories g.screensDir = (t₁, .ok ()))
      (hmake : t₁.ensureDirectories g.stylesDir = (t', .error e)) :
      Course g d t (.error (.ofRefusal d.screenId e)) t'
  | unwritten {e t'} (h : Prepared g d t t')
      (hwrite : t'.write (g.screenPath d)
        (Text.Utf8.encode (screenSource g.registry g.liveUpdateUrl d)) = .error e) :
      Course g d t (.error (.ofRefusal d.screenId e)) t'
  | unstyled {e t₁ t'} (h : Prepared g d t t₁)
      (hscreen : t₁.write (g.screenPath d)
        (Text.Utf8.encode (screenSource g.registry g.liveUpdateUrl d)) = .ok t')
      (hwrite : t'.write (g.stylePath d) (Text.Utf8.encode (screenStyles d)) = .error e) :
      Course g d t (.error (.ofRefusal d.screenId e)) t'
  | unrouted {stop t₁ t'} (h : Sourced g d t t₁)
      (hmanifest : ManifestCourse g d.screenId t₁ (.error stop) t') :
      Course g d t (.error stop) t'
  | unregistered {manifest e t₁ t'} (h : Sourced g d t t₁)
      (hmanifest : ManifestCourse g d.screenId t₁ (.ok manifest) t')
      (hwrite : t'.write g.manifestPath (Text.Utf8.encode (registered d manifest)) = .error e) :
      Course g d t (.error (.ofRefusal d.screenId e)) t'
  | done {manifest t₁ t₂ t'} (h : Sourced g d t t₁)
      (hmanifest : ManifestCourse g d.screenId t₁ (.ok manifest) t₂)
      (hwrite : t₂.write g.manifestPath (Text.Utf8.encode (registered d manifest)) = .ok t') :
      Course g d t (.ok ()) t'

theorem leads_updateRouting {g : Generator} {d : Document} {t t₁ : Tree} (h : Sourced g d t t₁) :
    Leads (g.updateRouting d.screenId d.route) t₁ (Course g d t) := by
  refine leads_bind (leads_manifest g d.screenId t₁) (fun stop t' hstop => .unrouted h hstop)
    fun manifest t' hmanifest => ?_
  refine leads_writeText_bind (fun e he => .unregistered h hmanifest he) fun t'' hwrite => ?_
  exact leads_note (.done h hmanifest hwrite)

theorem leads_generate (g : Generator) (d : Document) (t : Tree) :
    Leads (g.generate d) t (Course g d t) := by
  refine leads_note_bind ?_
  refine leads_target_bind (fun stop h => .screenRefused h) fun hscreen => ?_
  refine leads_target_bind (fun stop h => .styleRefused hscreen h) fun hstyle => ?_
  refine leads_makeDirectories_bind (fun e t' h => .noScreens hscreen hstyle h)
    fun t₁ hscreens => ?_
  refine leads_makeDirectories_bind (fun e t' h => .noStyles hscreen hstyle hscreens h)
    fun t₂ hstyles => ?_
  have hprepared : Prepared g d t t₂ := ⟨hscreen, hstyle, t₁, hscreens, hstyles⟩
  refine leads_writeText_bind (fun e he => .unwritten hprepared he) fun t₃ hsource => ?_
  refine leads_note_bind ?_
  refine leads_writeText_bind (fun e he => .unstyled hprepared hsource he) fun t₄ hsheet => ?_
  refine leads_note_bind ?_
  have hsourced : Sourced g d t t₄ := ⟨t₂, t₃, hprepared, hsource, hsheet⟩
  refine leads_bind (leads_updateRouting hsourced) (fun _ _ h => h) fun _ t' hdone => ?_
  exact leads_note hdone

theorem run_of_leads {step : Generation Unit} {t : Tree} {Q : Except Stop Unit → Tree → Prop}
    (h : Leads step t Q) : Q (run step t).1 (run step t).2.2 :=
  h []

/-- Whatever comes of a screen, `Course` has it. -/
theorem course_generate (g : Generator) (d : Document) (t : Tree) :
    Course g d t (run (g.generate d) t).1 (run (g.generate d) t).2.2 :=
  run_of_leads (leads_generate g d t)

end Generator

end ScreenBridge.Source
