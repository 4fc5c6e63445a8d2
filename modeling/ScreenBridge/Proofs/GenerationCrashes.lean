import ScreenBridge.Proofs.GenerationStops
import ScreenBridge.Proofs.ManifestLedger

/-!
# What the generation of a screen is not prepared for

A refusal by the system is a failure of generation and is reported as one. Two
things are none, and go through the work as they are: a NUL in a path, which no
system is asked about, and a manifest whose bytes are no text. This file says
that there is nothing else. Where the screen and the files are `Clear`, the
work returns or fails with the code of generation (`outcome_of_clear`).

A NUL is found by the check before anything is written, so the later steps
cannot come upon one. The manifest is read when the files of the screen are
written. They could be the manifest, if the extension leads there; but what was
written is text, and what is not text was there before (`Sourced.content?`).
-/

namespace ScreenBridge.Source

open Files (FileError Location Path Tree)
open Ui (Document)

theorem Stop.nullByte_of_ofRefusal {id : String} {e : FileError} {c : Wire.Crash}
    (h : Stop.ofRefusal id e = .crashed c) : e = .nullByte := by
  cases e with
  | os errno path => cases h
  | nullByte => rfl

namespace Generator

variable {g : Generator} {d : Document} {t t' : Tree} {id : String} {c : Wire.Crash}

/-- Nothing stands in the way of a screen but what the system may refuse: its
paths hold no NUL, and the manifest, if there is one, is text. -/
structure Clear (g : Generator) (d : Document) (t : Tree) : Prop where
  not_hasNull : ¬ HasNull g d
  readable : ∀ bytes, g.manifest? t = some bytes → ∃ cs, Text.Utf8.decodeChars bytes = .ok cs

theorem not_refused_of_hasNull {p : Path} {id : String} (hnull : p.hasNull = false) {e : FileError}
    (h : e = .nullByte → p.hasNull = true) : Stop.ofRefusal id e ≠ .crashed c := by
  intro hcrash
  exact Bool.false_ne_true (hnull.symm.trans (h (Stop.nullByte_of_ofRefusal hcrash)))

theorem write_not_crashed {p : Path} {content : List UInt8} {e : FileError}
    (hnull : p.hasNull = false) (h : t.write p content = .error e) :
    Stop.ofRefusal id e ≠ .crashed c :=
  not_refused_of_hasNull hnull fun he => Tree.hasNull_of_onPath (he ▸ h)

theorem read_not_crashed {p : Path} {e : FileError} (hnull : p.hasNull = false)
    (h : t.read p = .error e) : Stop.ofRefusal id e ≠ .crashed c :=
  not_refused_of_hasNull hnull fun he => Tree.hasNull_of_onPath (he ▸ h)

theorem ensureDirectories_not_crashed {p : Path} {e : FileError} (hnull : p.hasNull = false)
    (h : t.ensureDirectories p = (t', .error e)) : Stop.ofRefusal id e ≠ .crashed c := by
  have hensures := (t.ensureDirectories_ensures p).hasNull
  rw [h] at hensures
  exact not_refused_of_hasNull hnull fun he => hensures (he ▸ rfl)

theorem exists?_not_crashed {p : Path} {e : FileError} (h : t.exists? p = .error e) :
    Stop.ofRefusal id e ≠ .crashed c :=
  fun hcrash => Tree.exists?_eq_error h (Stop.nullByte_of_ofRefusal hcrash)

/-- Work on the manifest crashes over bytes that are no text, and nothing else. -/
theorem ManifestCourse.garbled_of_crashed {r : Except Stop String}
    (h : ManifestCourse g id t r t') (hnull : ¬ HasNull g d) (hr : r = .error (.crashed c)) :
    ∃ bytes fault, g.manifest? t = some bytes ∧ Text.Utf8.decodeChars bytes = .error fault := by
  have hpath := hasNull_manifestPath hnull
  have hsrc := g.hasNull_srcDir.trans (outputDir_hasNull hnull)
  have hsheet := g.hasNull_manifestStylesPath.trans (outputDir_hasNull hnull)
  cases h with
  | hidden h => exact absurd (Except.error.inj hr) (exists?_not_crashed h)
  | unread _ hread => exact absurd (Except.error.inj hr) (read_not_crashed hpath hread)
  | garbled hread hbytes =>
      have hentry := (Tree.lookUp_eq_ok.mp (Tree.read_eq_ok.mp hread).2).2
      exact ⟨_, _, Tree.content?_eq_some.mpr hentry, hbytes⟩
  | homeless _ hmake =>
      exact absurd (Except.error.inj hr) (ensureDirectories_not_crashed hsrc hmake)
  | stylesHidden _ _ hstyles => exact absurd (Except.error.inj hr) (exists?_not_crashed hstyles)
  | unstyled _ _ _ hwrite => exact absurd (Except.error.inj hr) (write_not_crashed hsheet hwrite)
  | found _ _ | styled _ _ _ | seeded _ _ _ _ => cases hr

/-- What is read after the files of a screen were written was there before, or
is the text of one of them. -/
theorem Sourced.content? (h : Sourced g d t t') (l : Location) :
    t'.content? l = t.content? l ∨ ∃ text, t'.content? l = some (Text.Utf8.encode text) := by
  obtain ⟨t₁, t₂, hprepared, hscreen, hstyle⟩ := h.written
  have hmade := (hprepared.alters fun _ => False).content? (l := l) id
  rw [(Tree.written_of_write hstyle).content?]
  split
  · exact .inr ⟨_, rfl⟩
  · rw [(Tree.written_of_write hscreen).content?]
    split
    · exact .inr ⟨_, rfl⟩
    · exact .inl hmade

/-- A crash is the work of a NUL, or of a manifest that is no text. -/
theorem Course.not_clear {r : Except Stop Unit} (h : Course g d t r t')
    (hr : r = .error (.crashed c)) : ¬ Clear g d t := by
  rintro ⟨hnull, hreadable⟩
  have hscreens := g.hasNull_screensDir.trans (outputDir_hasNull hnull)
  have hstyles := g.hasNull_stylesDir.trans (outputDir_hasNull hnull)
  have hscreen := hasNull_screenPath hnull
  have hstyle := hasNull_stylePath hnull
  cases h with
  | screenRefused hmiss =>
      cases hr
      cases hmiss.outsideProject hscreen hscreens
  | styleRefused _ hmiss =>
      cases hr
      cases hmiss.outsideProject hstyle hstyles
  | noScreens _ _ hmake =>
      exact ensureDirectories_not_crashed hscreens hmake (Except.error.inj hr)
  | noStyles _ _ _ hmake => exact ensureDirectories_not_crashed hstyles hmake (Except.error.inj hr)
  | unwritten _ hwrite => exact write_not_crashed hscreen hwrite (Except.error.inj hr)
  | unstyled _ _ hwrite => exact write_not_crashed hstyle hwrite (Except.error.inj hr)
  | unregistered _ _ hwrite =>
      exact write_not_crashed (hasNull_manifestPath hnull) hwrite (Except.error.inj hr)
  | done _ _ _ => cases hr
  | unrouted h hmanifest =>
      cases hr
      obtain ⟨bytes, fault, hbytes, hfault⟩ := hmanifest.garbled_of_crashed hnull rfl
      rw [Generator.manifest?, h.alters.home] at hbytes
      rcases h.content? (g.manifestPath.resolve t.home) with hsame | ⟨text, htext⟩
      · obtain ⟨cs, hcs⟩ := hreadable bytes (hsame.symm.trans hbytes)
        cases hcs.symm.trans hfault
      · cases htext.symm.trans hbytes
        cases (Text.Utf8.decodeChars_encodeChars _).symm.trans hfault

theorem not_clear_of_crashed (h : g.outcome t d = .error (.crashed c)) : ¬ Clear g d t :=
  (g.course_next t d).not_clear h

theorem code_of_outcome {failure : Wire.Failure} (h : g.outcome t d = .error (.failed failure)) :
    failure.code = .generation := by
  rw [outcome] at h
  exact code_of_generate_failed h

/-- Where nothing stands in the way, a screen is generated or refused. -/
theorem outcome_of_clear (h : Clear g d t) :
    g.outcome t d = .ok () ∨ ∃ failure, g.outcome t d = .error (.failed failure) ∧
      failure.code = .generation := by
  cases hr : g.outcome t d with
  | ok => exact .inl rfl
  | error stop =>
      cases stop with
      | failed failure => exact .inr ⟨failure, rfl, code_of_outcome hr⟩
      | crashed c => exact absurd h (not_clear_of_crashed hr)

end Generator

end ScreenBridge.Source
