import ScreenBridge.Proofs.Regeneration

/-!
# Files of their own

The two files of a screen are called by its component, and the name of a
component does not tell screens apart: underscores go, small letters behind them
become capitals, and in a path only what stands behind the last slash counts.
What is left is the stem of the files. A call for another screen leaves the
files of a screen alone as long as the stems differ, whether it returns or not
(`Course.keeps`), and so does any row of calls. With one stem the later screen
takes the files of the earlier one. Names in small letters with single
underscores between the words are told apart by their stems, since the words can
be read off the capitals again.
-/

namespace ScreenBridge.Source.Generator

open Files (Location Path Tree)
open Text (capital)
open Ui (Document)

variable {g : Generator} {d d' : Document} {t t' : Tree} {home : Location}

/-! ## Places and stems -/

/-- The files of a screen have their places in the project. -/
structure Placed (g : Generator) (d : Document) (home : Location) : Prop where
  screen : Lands home g.screensDir (g.screenPath d)
  style : Lands home g.stylesDir (g.stylePath d)

theorem Course.placed (h : Course g d t (.ok ()) t') : Placed g d t.home := by
  rcases h.lands_or_misses with ⟨hscreen, hstyle⟩ | ⟨-, stop, hstop, -⟩
  · exact ⟨hscreen, hstyle⟩
  · cases hstop

section
variable (h : Placed g d home) (h' : Placed g d' home)
include h h'

theorem resolve_screenPath_eq_iff (hext : '/' ∉ g.extension.toList) :
    (g.screenPath d).resolve home = (g.screenPath d').resolve home ↔
      fileStem d.screenId = fileStem d'.screenId := by
  rw [resolve_screenPath_eq hext h.screen, resolve_screenPath_eq hext h'.screen,
    List.append_cancel_left_eq, List.singleton_inj, String.append_left_inj, String.append_left_inj]

theorem resolve_stylePath_eq_iff :
    (g.stylePath d).resolve home = (g.stylePath d').resolve home ↔
      fileStem d.screenId = fileStem d'.screenId := by
  rw [resolve_stylePath_eq h.style, resolve_stylePath_eq h'.style, List.append_cancel_left_eq,
    List.singleton_inj, String.append_left_inj]

theorem fileStem_eq_of_sourceAt (hext : '/' ∉ g.extension.toList) {l : Location}
    (hl : SourceAt g d home l) (hl' : SourceAt g d' home l) :
    fileStem d.screenId = fileStem d'.screenId := by
  rcases hl with hscreen | hstyle <;> rcases hl' with hscreen' | hstyle'
  · exact (resolve_screenPath_eq_iff h h' hext).mp (hscreen.symm.trans hscreen')
  · exact absurd (hscreen.symm.trans hstyle') (screenPath_ne_stylePath h.screen h'.style)
  · exact absurd (hscreen'.symm.trans hstyle) (screenPath_ne_stylePath h'.screen h.style)
  · exact (resolve_stylePath_eq_iff h h').mp (hstyle.symm.trans hstyle')

end

/-! ## Calls for other screens -/

theorem eq_of_lookUp {p : Path} {text text' : String}
    (h : t.lookUp p = .ok (.file (Text.Utf8.encode text)))
    (h' : t.lookUp p = .ok (.file (Text.Utf8.encode text'))) : text = text' := by
  have hfile := Except.ok.inj (h.symm.trans h')
  have hbytes := Files.Entry.file.inj hfile
  exact String.toList_injective (Text.Utf8.toList_eq_of_encode hbytes)

section
variable (hext : '/' ∉ g.extension.toList)
include hext

/-- A call leaves the files of a screen with another stem as they are, whatever comes of it. -/
theorem Course.keeps {r : Except Stop Unit} (h : Course g d' t r t') (hplaced : Placed g d t.home)
    (hstem : fileStem d.screenId ≠ fileStem d'.screenId) (hrendered : Rendered g d t) :
    Rendered g d t' := by
  rcases h.lands_or_misses with ⟨hscreen, hstyle⟩ | ⟨rfl, -⟩
  · refine hrendered.alters (h.alters hext) fun l hl hwritten => ?_
    cases hwritten with
    | source hsource =>
        exact hstem (fileStem_eq_of_sourceAt hplaced ⟨hscreen, hstyle⟩ hext hl hsource)
    | manifest _ =>
        exact not_sourceAt_of_dropLast hplaced.screen hplaced.style
          (dropLast_manifestPath hext t.home) hl
    | sheet _ _ _ =>
        exact not_sourceAt_of_dropLast hplaced.screen hplaced.style
          (g.dropLast_manifestStylesPath t.home) hl
  · exact hrendered

/-- A call that returns takes the files of a screen with the same stem. -/
theorem Course.takes (h : Course g d' t (.ok ()) t') (hplaced : Placed g d t.home)
    (hstem : fileStem d.screenId = fileStem d'.screenId) (hrendered : Rendered g d t) :
    t'.lookUp (g.screenPath d) =
      .ok (.file (Text.Utf8.encode (screenSource g.registry g.liveUpdateUrl d'))) ∧
    t'.lookUp (g.stylePath d) = .ok (.file (Text.Utf8.encode (screenStyles d'))) := by
  have halters := h.alters hext
  have hnew := h.rendered hext
  have hsame {p p' : Path} {e e' : Files.Entry} (hp : p.resolve t.home = p'.resolve t.home)
      (hold : t.lookUp p = .ok e) (hnew : t'.lookUp p' = .ok e') : t'.lookUp p = .ok e' := by
    rw [Files.Tree.lookUp_eq_ok, halters.home] at hnew ⊢
    rw [hp]
    exact ⟨hp ▸ halters.locate (Files.Tree.lookUp_eq_ok.mp hold).1, hnew.2⟩
  exact ⟨hsame ((resolve_screenPath_eq_iff hplaced h.placed hext).mpr hstem) hrendered.screen
      hnew.screen,
    hsame ((resolve_stylePath_eq_iff hplaced h.placed).mpr hstem) hrendered.style hnew.style⟩

theorem rendered_after (hplaced : Placed g d t.home) (hrendered : Rendered g d t)
    {ds : List Document} (hstems : ∀ e ∈ ds, fileStem d.screenId ≠ fileStem e.screenId) :
    Rendered g d (g.after t ds) := by
  induction ds generalizing t with
  | nil => exact hrendered
  | cons e ds ih =>
      rw [List.forall_mem_cons] at hstems
      have hcourse := g.course_next t e
      have hplaced' : Placed g d (g.next t e).home := by rwa [(alters_next hext t e).home]
      rw [after_cons]
      exact ih hplaced' (hcourse.keeps hext hplaced hstems.1 hrendered) hstems.2

theorem rendered_next (h : g.outcome t d = .ok ()) :
    Placed g d (g.next t d).home ∧ Rendered g d (g.next t d) := by
  have hcourse := g.course_next t d
  rw [h] at hcourse
  refine ⟨?_, hcourse.rendered hext⟩
  rw [(alters_next hext t d).home]
  exact hcourse.placed

/-- Of two screens with one stem the files are kept if there is nothing to tell them apart. -/
theorem rendered_again_iff (hplaced : Placed g d t.home) (hrendered : Rendered g d t)
    (h : g.outcome t d' = .ok ()) (hstem : fileStem d.screenId = fileStem d'.screenId) :
    Rendered g d (g.next t d') ↔
      screenSource g.registry g.liveUpdateUrl d' = screenSource g.registry g.liveUpdateUrl d ∧
        screenStyles d' = screenStyles d := by
  have hcourse := g.course_next t d'
  rw [h] at hcourse
  obtain ⟨hscreen, hstyle⟩ := hcourse.takes hext hplaced hstem hrendered
  constructor
  · intro hkept
    exact ⟨eq_of_lookUp hscreen hkept.screen, eq_of_lookUp hstyle hkept.style⟩
  · rintro ⟨hsource, hstyles⟩
    exact ⟨hsource ▸ hscreen, hstyles ▸ hstyle⟩

end

/-! ## Plain names -/

/-- Words between single underscores, each of which begins with a small Latin letter and holds no
capital one and no slash; `fresh` says that a word begins here. -/
def isSnake (fresh : Bool) : List Char → Bool
  | [] => !fresh
  | c :: rest =>
    if fresh then isSmall c && isSnake false rest
    else if c = '_' then isSnake true rest
    else !isCapital c && c ≠ '/' && isSnake false rest

example : isSnake true "home_screen".toList = true ∧ isSnake true "aB".toList = false := by decide

/-- An underscore and a small letter for each capital one. -/
def unjoin (cs : List Char) : List Char :=
  cs.flatMap fun c => if isCapital c then ['_', c.toLower] else [c]

theorem unjoin_append (cs ds : List Char) : unjoin (cs ++ ds) = unjoin cs ++ unjoin ds :=
  List.flatMap_append

theorem unjoin_capital {c : Char} (h : isSmall c = true) : unjoin (capital c) = ['_', c] := by
  have hletters : ∀ n < 123, 97 ≤ n → unjoin (capital (Char.ofNat n)) = ['_', Char.ofNat n] := by
    decide +kernel
  rw [isSmall, Bool.and_eq_true, decide_eq_true_eq, decide_eq_true_eq] at h
  have hfirst : 97 ≤ c.toNat := h.1
  have hlast : c.toNat ≤ 122 := h.2
  have hc := hletters c.toNat (by omega) hfirst
  rwa [Char.ofNat_toNat] at hc

/-- In the name of a component the words of a plain name can be told again. -/
theorem unjoin_joinParts {fresh : Bool} {cs : List Char} (h : isSnake fresh cs = true) :
    unjoin (joinParts fresh cs) = if fresh then '_' :: cs else cs := by
  induction cs generalizing fresh with
  | nil =>
      cases fresh with
      | false => rfl
      | true => cases h
  | cons c rest ih =>
      rw [isSnake] at h
      rw [joinParts]
      cases fresh with
      | true =>
          rw [if_pos rfl, Bool.and_eq_true] at h
          have hc : c ≠ '_' := by
            rintro rfl
            exact absurd h.1 (by decide)
          rw [if_neg hc, if_pos rfl, if_pos rfl, unjoin_append, unjoin_capital h.1, ih h.2]
          rfl
      | false =>
          rw [if_neg Bool.false_ne_true] at h
          by_cases hc : c = '_'
          · rw [if_pos hc] at h ⊢
            rw [ih h, hc]
            rfl
          · rw [if_neg hc, Bool.and_eq_true, Bool.and_eq_true] at h
            have hplain : unjoin [c] = [c] := by
              have hsmall : isCapital c = false := by simpa using h.1.1
              rw [unjoin, List.flatMap_singleton, hsmall]
              rfl
            rw [if_neg hc, if_neg Bool.false_ne_true, unjoin_append, hplain, ih h.2]
            rfl

theorem not_mem_of_isSnake {fresh : Bool} {cs : List Char} (h : isSnake fresh cs = true) :
    '/' ∉ cs := by
  induction cs generalizing fresh with
  | nil => exact List.not_mem_nil
  | cons c rest ih =>
      rw [isSnake] at h
      rw [List.mem_cons, not_or]
      split at h
      · rw [Bool.and_eq_true] at h
        refine ⟨?_, ih h.2⟩
        rintro rfl
        exact absurd h.1 (by decide)
      · split at h
        · next hc => exact ⟨by rw [hc]; decide, ih h⟩
        · rw [Bool.and_eq_true, Bool.and_eq_true, decide_eq_true_eq] at h
          exact ⟨Ne.symm h.1.2, ih h.2⟩

/-- The stem of a plain name is the whole component. -/
theorem fileStem_of_isSnake {screenId : String} (h : isSnake true screenId.toList = true) :
    fileStem screenId = componentName screenId := by
  have hslash : '/' ∉ joinParts true screenId.toList := by
    intro hmem
    have hunjoined : '/' ∈ unjoin (joinParts true screenId.toList) :=
      List.mem_flatMap.mpr ⟨'/', hmem, by decide⟩
    rw [unjoin_joinParts h, if_pos rfl, List.mem_cons] at hunjoined
    rcases hunjoined with heq | hid
    · exact absurd heq (by decide)
    · exact not_mem_of_isSnake h hid
  rw [fileStem, componentName, Path.lastName_append _ (by decide), Path.lastName,
    String.toList_ofList, Files.lastPart, Files.splitSlashes_of_not_mem hslash]
  rfl

theorem fileStem_inj_of_isSnake {a b : String} (ha : isSnake true a.toList = true)
    (hb : isSnake true b.toList = true) (h : fileStem a = fileStem b) : a = b := by
  rw [fileStem_of_isSnake ha, fileStem_of_isSnake hb, componentName, componentName,
    String.append_left_inj] at h
  have hjoined : joinParts true a.toList = joinParts true b.toList := String.ofList_injective h
  have hids := congrArg unjoin hjoined
  rw [unjoin_joinParts ha, unjoin_joinParts hb] at hids
  exact String.toList_injective (List.cons.inj hids).2

/-- Screens with plain names keep their files, whatever is generated for other such screens. -/
theorem rendered_after_of_isSnake (hext : '/' ∉ g.extension.toList) (h : g.outcome t d = .ok ())
    (hd : isSnake true d.screenId.toList = true) {ds : List Document}
    (hds : ∀ e ∈ ds, isSnake true e.screenId.toList = true ∧ d.screenId ≠ e.screenId) :
    Rendered g d (g.after t (d :: ds)) := by
  obtain ⟨hplaced, hrendered⟩ := rendered_next hext h
  rw [after_cons]
  refine rendered_after hext hplaced hrendered fun e he hstem => ?_
  exact (hds e he).2 (fileStem_inj_of_isSnake hd (hds e he).1 hstem)

/-! ## Two calls -/

/-- Of two calls that return, the first has written the files of its screen, and after the second
one they are as they were exactly if the two screens differ in the stem of their files, or the
second screen has the same files to write. -/
theorem keeps_files_iff {g : Generator} {d d' : Document} {t : Tree}
    (hext : '/' ∉ g.extension.toList) (h : g.outcome t d = .ok ())
    (h' : g.outcome (g.next t d) d' = .ok ()) :
    Rendered g d (g.next t d) ∧
    (Rendered g d (g.next (g.next t d) d') ↔
      (fileStem d.screenId = fileStem d'.screenId →
        screenSource g.registry g.liveUpdateUrl d' = screenSource g.registry g.liveUpdateUrl d ∧
          screenStyles d' = screenStyles d)) := by
  obtain ⟨hplaced, hrendered⟩ := rendered_next hext h
  refine ⟨hrendered, ?_⟩
  by_cases hstem : fileStem d.screenId = fileStem d'.screenId
  · rw [rendered_again_iff hext hplaced hrendered h' hstem]
    exact ⟨fun hsame _ => hsame, fun hsame => hsame hstem⟩
  · have hcourse := g.course_next (g.next t d) d'
    exact iff_of_true (hcourse.keeps hext hplaced hstem hrendered) fun heq => absurd heq hstem

def homeScreen : Document := plainScreen "home" "/"

def settingsScreen : Document := plainScreen "settings" "/settings"

theorem keeps_files_iff_settings :
    frontend.outcome bareProject homeScreen = .ok () ∧
      frontend.outcome (frontend.next bareProject homeScreen) settingsScreen = .ok () ∧
      Rendered frontend homeScreen
        (frontend.next (frontend.next bareProject homeScreen) settingsScreen) := by
  have hhome := returns_of_isOk (g := frontend) (t := bareProject) (d := homeScreen)
    (by decide +kernel)
  have hsettings := returns_of_isOk (g := frontend) (t := frontend.next bareProject homeScreen)
    (d := settingsScreen) (by decide +kernel)
  have hstem : fileStem homeScreen.screenId ≠ fileStem settingsScreen.screenId := by
    decide +kernel
  have hext : '/' ∉ frontend.extension.toList := by decide
  exact ⟨hhome, hsettings, (keeps_files_iff hext hhome hsettings).2.mpr fun h => absurd h hstem⟩

/-- Two screens whose components are called the same. -/
def underscored : Document := plainScreen "a_b" "/1"

def capitalised : Document :=
  { plainScreen "aB" "/2" with tree := ⟨none, "Row", [], none, none, none, none⟩ }

theorem not_kept_underscored :
    underscored.screenId ≠ capitalised.screenId ∧
      frontend.outcome bareProject underscored = .ok () ∧
      frontend.outcome (frontend.next bareProject underscored) capitalised = .ok () ∧
      Rendered frontend underscored (frontend.next bareProject underscored) ∧
      ¬ Rendered frontend underscored
        (frontend.next (frontend.next bareProject underscored) capitalised) := by
  have hext : '/' ∉ frontend.extension.toList := by decide
  have hfirst := returns_of_isOk (g := frontend) (t := bareProject) (d := underscored)
    (by decide +kernel)
  have hsecond := returns_of_isOk (g := frontend) (t := frontend.next bareProject underscored)
    (d := capitalised) (by decide +kernel)
  obtain ⟨hplaced, hrendered⟩ := rendered_next hext hfirst
  have hstem : fileStem underscored.screenId = fileStem capitalised.screenId := by
    decide +kernel
  refine ⟨by decide, hfirst, hsecond, hrendered, fun hkept => ?_⟩
  have hsame := ((rendered_again_iff hext hplaced hrendered hsecond hstem).mp hkept).2
  have hsize := congrArg String.utf8ByteSize hsame
  revert hsize
  decide +kernel

end ScreenBridge.Source.Generator
