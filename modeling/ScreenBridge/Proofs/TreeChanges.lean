import ScreenBridge.Files.Tree
import ScreenBridge.Proofs.Places

/-!
# What happens to a tree of files

Work on files is a row of operations, each of which may be refused, and what
was done before a refusal stays. So the question is never only what an operation
does but what any row of them can have done. `Alters` answers it place by
place: some directories are new, some files were written, and the rest is as
it was. It composes, and it never takes a directory or a file away, which is
why a path that led somewhere still leads there (`Alters.lookUp`).

A path is followed name by name, and each name on the way has to be a
directory. The place is then the one that the path resolves to without a look
at the files (`lookUp_eq_ok`): there are no links that could lead elsewhere.
-/

namespace ScreenBridge.Files.Tree

open Files.Path (collapse collapse_append)

variable {t t' t'' : Tree} {l m : Location} {p : Path} {content : List UInt8}

/-! ## One place -/

theorem putEntry_of_lookup {entries : List (Location × Entry)} {e : Entry}
    (h : entries.lookup l = some e) : putEntry entries l e = entries := by
  induction entries with
  | nil => cases h
  | cons entry entries ih =>
      obtain ⟨k, f⟩ := entry
      rw [lookup_cons_eq] at h
      rw [putEntry]
      by_cases hk : k = l
      · rw [if_pos hk.symm] at h
        rw [if_pos hk, Option.some.inj h]
      · rw [if_neg (Ne.symm hk)] at h
        rw [if_neg hk, ih h]

theorem entry?_put (h : t.entry? l ≠ some .directory) (e : Entry) (m : Location) :
    Tree.entry? (t.put l e) m = if m = l then some e else t.entry? m := by
  rw [put, dif_neg h]
  exact standsAt?_putEntry h e m

theorem home_put (t : Tree) (l : Location) (e : Entry) : (t.put l e).home = t.home := by
  unfold put
  split <;> rfl

/-- Putting what is there changes nothing. -/
theorem put_of_entry? {e : Entry} (h : t.entry? l = some e) : t.put l e = t := by
  unfold put
  split
  · rfl
  · next hno =>
      have hlookup : t.entries.lookup l = some e := by
        rw [Tree.entry?, standsAt?] at h hno
        by_cases hroot : l = []
        · rw [if_pos hroot] at hno
          exact absurd rfl hno
        · rwa [if_neg hroot] at h
      simp only [putEntry_of_lookup hlookup]

/-- The bytes of the file at a place, if there is one. -/
def content? (t : Tree) (l : Location) : Option (List UInt8) :=
  match t.entry? l with
  | some (.file content) => some content
  | _ => none

theorem content?_eq_some : t.content? l = some content ↔ t.entry? l = some (.file content) := by
  rw [content?]
  split
  · next h => simp [h]
  · next hno => exact ⟨fun h => (nomatch h), fun h => absurd h (hno content)⟩

/-! ## Rows of changes -/

/-- Some directories are new, at places in `made`, and some files were
written, at places in `written`. -/
structure Alters (made written : Location → Prop) (t t' : Tree) : Prop where
  home : t'.home = t.home
  entry? : ∀ l, t'.entry? l = t.entry? l ∨
    (made l ∧ t.entry? l = none ∧ t'.entry? l = some .directory) ∨
    (written l ∧ t.entry? l ≠ some .directory ∧ ∃ content, t'.entry? l = some (.file content))

namespace Alters

variable {made written : Location → Prop}

theorem refl (made written : Location → Prop) (t : Tree) : Alters made written t t :=
  ⟨rfl, fun _ => .inl rfl⟩

theorem directory (h : Alters made written t t') (hl : t.entry? l = some .directory) :
    t'.entry? l = some .directory := by
  rcases h.entry? l with heq | ⟨-, hnone, -⟩ | ⟨-, hno, -⟩
  · rw [heq, hl]
  · rw [hl] at hnone
    cases hnone
  · exact absurd hl hno

theorem file (h : Alters made written t t') (hl : t.entry? l = some (.file content)) :
    ∃ content', t'.entry? l = some (.file content') := by
  rcases h.entry? l with heq | ⟨-, hnone, -⟩ | ⟨-, -, hfile⟩
  · exact ⟨content, heq.trans hl⟩
  · rw [hl] at hnone
    cases hnone
  · exact hfile

theorem mono {made' written' : Location → Prop} (h : Alters made written t t')
    (hmade : ∀ l, made l → made' l)
    (hwritten : ∀ l, written l → t.entry? l ≠ t'.entry? l → written' l) :
    Alters made' written' t t' := by
  refine ⟨h.home, fun l => ?_⟩
  rcases h.entry? l with heq | ⟨hl, hnew⟩ | ⟨hl, hnew⟩
  · exact .inl heq
  · exact .inr (.inl ⟨hmade l hl, hnew⟩)
  · by_cases heq : t.entry? l = t'.entry? l
    · exact .inl heq.symm
    · exact .inr (.inr ⟨hwritten l hl heq, hnew⟩)

/-- What is a directory by now is not written to, and what was written is no
place for a directory: one of two changes decides about each place. -/
theorem trans (h : Alters made written t t') (h' : Alters made written t' t'') :
    Alters made written t t'' := by
  refine ⟨h'.home.trans h.home, fun l => ?_⟩
  rcases h'.entry? l with heq | ⟨hmade, hnone, hdir⟩ | ⟨hwritten, hno, hfile⟩
  · rw [heq]
    exact h.entry? l
  · rcases h.entry? l with heq | ⟨-, -, hsome⟩ | ⟨-, -, _, hsome⟩
    · exact .inr (.inl ⟨hmade, heq ▸ hnone, hdir⟩)
    · rw [hsome] at hnone
      cases hnone
    · rw [hsome] at hnone
      cases hnone
  · rcases h.entry? l with heq | ⟨-, -, hsome⟩ | ⟨-, hno', -⟩
    · exact .inr (.inr ⟨hwritten, heq ▸ hno, hfile⟩)
    · exact absurd hsome hno
    · exact .inr (.inr ⟨hwritten, hno', hfile⟩)

theorem entry?_eq (h : Alters made written t t') (hmade : ¬ made l) (hwritten : ¬ written l) :
    t'.entry? l = t.entry? l := by
  rcases h.entry? l with heq | ⟨hl, -⟩ | ⟨hl, -⟩
  · exact heq
  · exact absurd hl hmade
  · exact absurd hl hwritten

/-- A file that was not written to is the file that it was. -/
theorem file_iff (h : Alters made written t t') (hl : ¬ written l) :
    t'.entry? l = some (.file content) ↔ t.entry? l = some (.file content) := by
  rcases h.entry? l with heq | ⟨-, hnone, hdir⟩ | ⟨hwritten, -⟩
  · rw [heq]
  · rw [hnone, hdir]
    constructor <;> intro hc <;> cases hc
  · exact absurd hwritten hl

theorem content? (h : Alters made written t t') (hl : ¬ written l) :
    t'.content? l = t.content? l := by
  refine Option.ext fun content => ?_
  rw [content?_eq_some, content?_eq_some]
  exact h.file_iff hl

theorem entry?_of_none (h : Alters made written t t') (hl : t'.entry? l = none) :
    t.entry? l = none := by
  rcases h.entry? l with heq | ⟨-, hnone, -⟩ | ⟨-, -, _, hfile⟩
  · rw [← heq, hl]
  · exact hnone
  · rw [hl] at hfile
    cases hfile

end Alters

/-! ## Following a path -/

theorem follow_eq_collapse {start : Location} {names : List String}
    (h : t.follow start names = .ok l) : l = collapse start names := by
  induction names generalizing start with
  | nil =>
      cases h
      rfl
  | cons n names ih =>
      rw [follow] at h
      rw [collapse]
      split at h
      · cases h
      · cases h
      · split at h
        · next hn => rw [if_pos hn]; exact ih h
        · next hn =>
            rw [if_neg hn]
            split at h
            · cases h
            · exact ih h

/-- The first names on the way are followed first. -/
theorem follow_append (t : Tree) (start : Location) (ms ns : List String) :
    t.follow start (ms ++ ns) =
      match t.follow start ms with
      | .ok l => t.follow l ns
      | .error errno => .error errno := by
  induction ms generalizing start with
  | nil => rfl
  | cons n ms ih =>
      rw [List.cons_append, follow, follow]
      split
      · rfl
      · rfl
      · split
        · exact ih _
        · split
          · rfl
          · exact ih _

theorem Alters.follow {made written : Location → Prop} (h : Alters made written t t')
    {start : Location} {names : List String} (hfollow : t.follow start names = .ok l) :
    t'.follow start names = .ok l := by
  induction names generalizing start with
  | nil => exact hfollow
  | cons n names ih =>
      rw [Tree.follow] at hfollow ⊢
      split at hfollow
      · cases hfollow
      · cases hfollow
      · next hdir =>
          rw [h.directory hdir]
          dsimp only
          split at hfollow
          · next hn =>
              rw [if_pos hn]
              exact ih hfollow
          · next hn =>
              rw [if_neg hn]
              split at hfollow
              · cases hfollow
              · next hlong =>
                  rw [if_neg hlong]
                  exact ih hfollow

theorem locate_eq_ok : t.locate p = .ok l ↔
    ¬ pathSizeBound ≤ p.text.utf8ByteSize ∧ t.follow (p.start t.home) p.names = .ok l := by
  unfold locate
  split
  · next hsize => exact ⟨fun h => (nomatch h), fun h => absurd hsize h.1⟩
  · next hsize => exact ⟨fun h => ⟨hsize, h⟩, fun h => h.2⟩

theorem eq_resolve_of_locate (h : t.locate p = .ok l) : l = p.resolve t.home := by
  rw [Path.resolve_eq]
  exact follow_eq_collapse (locate_eq_ok.mp h).2

theorem Alters.locate {made written : Location → Prop} (h : Alters made written t t')
    (hp : t.locate p = .ok l) : t'.locate p = .ok l := by
  obtain ⟨hsize, hfollow⟩ := locate_eq_ok.mp hp
  exact locate_eq_ok.mpr ⟨hsize, h.home ▸ h.follow hfollow⟩

/-- What stands at a path stands at the place that it resolves to. -/
theorem lookUp_eq_ok {e : Entry} : t.lookUp p = .ok e ↔
    t.locate p = .ok (p.resolve t.home) ∧ t.entry? (p.resolve t.home) = some e := by
  rw [lookUp]
  constructor
  · intro h
    split at h
    · cases h
    · next l hl =>
        rw [← eq_resolve_of_locate hl]
        split at h
        · next f hf =>
            cases h
            exact ⟨hl, hf⟩
        · cases h
  · rintro ⟨hl, he⟩
    rw [hl]
    dsimp only
    rw [he]

theorem isDirectory_iff : t.isDirectory p = true ↔ t.lookUp p = .ok .directory := by
  rw [isDirectory]
  split
  · next h => exact iff_of_true rfl h
  · next h => exact iff_of_false Bool.false_ne_true h

/-- A path goes on leading to what it led to: to a directory, or to a file. -/
theorem Alters.isDirectory {made written : Location → Prop} (h : Alters made written t t')
    (hp : t.isDirectory p = true) : t'.isDirectory p = true := by
  obtain ⟨hl, he⟩ := lookUp_eq_ok.mp (isDirectory_iff.mp hp)
  refine isDirectory_iff.mpr (lookUp_eq_ok.mpr ?_)
  rw [h.home]
  exact ⟨h.locate hl, h.directory he⟩

theorem Alters.lookUp_file {made written : Location → Prop} (h : Alters made written t t')
    (hp : t.lookUp p = .ok (.file content)) :
    ∃ content', t'.lookUp p = .ok (.file content') := by
  obtain ⟨hl, he⟩ := lookUp_eq_ok.mp hp
  obtain ⟨content', he'⟩ := h.file he
  refine ⟨content', lookUp_eq_ok.mpr ?_⟩
  rw [h.home]
  exact ⟨h.locate hl, he'⟩

/-- What stands at a path stays there if it is not written to. -/
theorem Alters.lookUp {made written : Location → Prop} (h : Alters made written t t') {e : Entry}
    (hl : ¬ written (p.resolve t.home)) (hp : t.lookUp p = .ok e) : t'.lookUp p = .ok e := by
  obtain ⟨hlocate, he⟩ := lookUp_eq_ok.mp hp
  refine lookUp_eq_ok.mpr ?_
  rw [h.home]
  refine ⟨h.locate hlocate, ?_⟩
  rcases h.entry? (p.resolve t.home) with heq | ⟨-, hnone, -⟩ | ⟨hwritten, -⟩
  · exact heq.trans he
  · rw [he] at hnone
    cases hnone
  · exact absurd hwritten hl

/-! ## Single operations -/

theorem onPath_eq_ok {α : Type} {operation : Except Errno α} {a : α} :
    onPath p operation = .ok a ↔ p.hasNull = false ∧ operation = .ok a := by
  unfold onPath
  split
  · next h => simp [h]
  · next h => cases operation <;> simp [h]

theorem hasNull_of_onPath {α : Type} {operation : Except Errno α}
    (h : onPath p operation = .error .nullByte) : p.hasNull = true := by
  unfold onPath at h
  split at h
  · next hp => exact hp
  · cases operation <;> cases h

theorem read_eq_ok : t.read p = .ok content ↔
    p.hasNull = false ∧ t.lookUp p = .ok (.file content) := by
  rw [read, onPath_eq_ok]
  refine and_congr_right fun _ => ?_
  split
  · next h => simp [h]
  · next h => simp [h]
  · next h => simp [h]

theorem exists?_eq_true : t.exists? p = .ok true ↔
    p.hasNull = false ∧ ∃ e, t.lookUp p = .ok e := by
  rw [exists?]
  split
  · next h => simp [h]
  · next h =>
      split
      · next e he => simp [h, he]
      · next he => simp [he]
      · next he => simp [he]

theorem exists?_eq_error {e : FileError} (h : t.exists? p = .error e) : e ≠ .nullByte := by
  rw [exists?] at h
  split at h
  · cases h
  · split at h <;> cases h
    exact fun hc => nomatch hc

/-- A file was written in place of the one that was there, or as a new one. -/
structure Written (p : Path) (content : List UInt8) (t t' : Tree) : Prop where
  hasNull : p.hasNull = false
  located : t.locate p = .ok (p.resolve t.home)
  free : t.entry? (p.resolve t.home) ≠ some .directory
  eq : t' = t.put (p.resolve t.home) (.file content)

theorem written_of_write (h : t.write p content = .ok t') : Written p content t t' := by
  rw [write, onPath_eq_ok] at h
  obtain ⟨hnull, h⟩ := h
  rw [target] at h
  split at h
  · cases h
  · next l hl =>
      obtain rfl := eq_resolve_of_locate hl
      split at h
      · cases h
      · next _ he =>
          cases h
          exact ⟨hnull, hl, by simp [he], rfl⟩
      · next he =>
          split at h <;> cases h
          exact ⟨hnull, hl, by simp [he], rfl⟩

namespace Written

variable (h : Written p content t t')

include h

theorem entry? (l : Location) : t'.entry? l =
    if l = p.resolve t.home then some (.file content) else t.entry? l := by
  rw [h.eq]
  exact entry?_put h.free _ l

theorem content? (l : Location) : t'.content? l =
    if l = p.resolve t.home then some content else t.content? l := by
  rw [Tree.content?, Tree.content?, h.entry?]
  by_cases hl : l = p.resolve t.home
  · rw [if_pos hl, if_pos hl]
  · rw [if_neg hl, if_neg hl]

theorem alters (made : Location → Prop) : Alters made (· = p.resolve t.home) t t' := by
  refine ⟨by rw [h.eq, home_put], fun l => ?_⟩
  rw [h.entry?]
  split
  · next hl => exact .inr (.inr ⟨hl, hl ▸ h.free, content, rfl⟩)
  · exact .inl rfl

theorem lookUp : t'.lookUp p = .ok (.file content) := by
  have hhome := (h.alters fun _ => False).home
  refine lookUp_eq_ok.mpr ?_
  rw [hhome, h.entry?, if_pos rfl]
  exact ⟨(h.alters fun _ => False).locate h.located, rfl⟩

end Written

/-- Where there is a file, another one can be written. -/
theorem write_of_lookUp (hnull : p.hasNull = false) {old : List UInt8}
    (h : t.lookUp p = .ok (.file old)) (content : List UInt8) :
    t.write p content = .ok (t.put (p.resolve t.home) (.file content)) := by
  obtain ⟨hl, he⟩ := lookUp_eq_ok.mp h
  rw [write, onPath_eq_ok, target, hl]
  dsimp only
  rw [he]
  exact ⟨hnull, rfl⟩

/-- A file that is written with what it holds is what it was. -/
theorem write_again (hnull : p.hasNull = false) (h : t.lookUp p = .ok (.file content)) :
    t.write p content = .ok t := by
  rw [write_of_lookUp hnull h content, put_of_entry? (lookUp_eq_ok.mp h).2]

/-! ## Making directories -/

/-- A place that a path leads through, or to. -/
def OnTheWay (home : Location) (p : Path) (l : Location) : Prop :=
  ∃ names, names <+: p.names ∧ l = (⟨p.anchor, names⟩ : Path).resolve home

theorem onTheWay_resolve (home : Location) (p : Path) : OnTheWay home p (p.resolve home) :=
  ⟨p.names, List.prefix_rfl, rfl⟩

theorem OnTheWay.longer {home : Location} {anchor : Anchor} {ms ns : List String}
    (hlonger : ms <+: ns) (h : OnTheWay home ⟨anchor, ms⟩ l) : OnTheWay home ⟨anchor, ns⟩ l := by
  obtain ⟨names, hnames, rfl⟩ := h
  exact ⟨names, hnames.trans hlonger, rfl⟩

/-- One name more adds one place to the way: the one that it leads to. -/
theorem onTheWay_append_name {home : Location} {name : String} (hslash : '/' ∉ name.toList)
    (hne : name ≠ "") (hdot : name ≠ ".") :
    OnTheWay home (p.append name) l ↔ OnTheWay home p l ∨ l = (p.append name).resolve home := by
  rw [Path.append_name p hslash hne hdot]
  constructor
  · rintro ⟨names, hnames, rfl⟩
    rcases List.prefix_concat_iff.mp hnames with rfl | hshorter
    · exact .inr rfl
    · exact .inl ⟨names, hshorter, rfl⟩
  · rintro (⟨names, hnames, rfl⟩ | rfl)
    · exact ⟨names, hnames.trans (List.prefix_append ..), rfl⟩
    · exact onTheWay_resolve ..

/-- There is a directory at a path, and all that is new are directories on the way to it. -/
structure Ensured (p : Path) (t t' : Tree) : Prop where
  alters : Alters (OnTheWay t.home p) (fun _ => False) t t'
  isDirectory : t'.isDirectory p = true
  hasNull : p.hasNull = false

theorem ensured_of_makeDirectory (h : t.makeDirectory p = .ok t') : Ensured p t t' := by
  rw [makeDirectory, onPath_eq_ok] at h
  obtain ⟨hnull, h⟩ := h
  split at h
  · cases h
  · next l hl =>
      obtain rfl := eq_resolve_of_locate hl
      split at h
      · cases h
      · next he =>
          split at h <;> cases h
          have hfree : t.entry? (p.resolve t.home) ≠ some .directory := by simp [he]
          have halters : Alters (OnTheWay t.home p) (fun _ => False) t
              (t.put (p.resolve t.home) .directory) := by
            refine ⟨home_put .., fun l => ?_⟩
            rw [entry?_put hfree]
            split
            · next hl' =>
                subst hl'
                exact .inr (.inl ⟨onTheWay_resolve .., he, rfl⟩)
            · exact .inl rfl
          refine ⟨halters, isDirectory_iff.mpr (lookUp_eq_ok.mpr ?_), hnull⟩
          rw [home_put]
          exact ⟨halters.locate hl, (entry?_put hfree _ _).trans (if_pos rfl)⟩

theorem ensured_of_ensureDirectory (h : t.ensureDirectory p = .ok t') : Ensured p t t' := by
  rw [ensureDirectory] at h
  split at h
  · next hmake =>
      cases h
      exact ensured_of_makeDirectory hmake
  · cases h
  · cases h
  · next e hnull _ hmake =>
      split at h
      · next hdir =>
          cases h
          refine ⟨.refl _ _ _, hdir, ?_⟩
          cases hp : p.hasNull with
          | false => rfl
          | true =>
              unfold makeDirectory onPath at hmake
              rw [if_pos hp] at hmake
              cases hmake
              exact absurd rfl hnull
      · cases h

theorem hasNull_of_ensureDirectory (h : t.ensureDirectory p = .error .nullByte) :
    p.hasNull = true := by
  rw [ensureDirectory] at h
  split at h
  · cases h
  · next hmake => exact hasNull_of_onPath hmake
  · cases h
  · next e hnull _ hmake =>
      split at h
      · cases h
      · cases h
        exact absurd rfl hnull

theorem ensureDirectory_of_isDirectory (hnull : p.hasNull = false)
    (h : t.isDirectory p = true) : t.ensureDirectory p = .ok t := by
  obtain ⟨hl, he⟩ := lookUp_eq_ok.mp (isDirectory_iff.mp h)
  have hmake : t.makeDirectory p = .error (.os .exists p.text) := by
    unfold makeDirectory onPath
    rw [hnull, hl]
    simp only [he, Bool.false_eq_true, if_false]
  rw [ensureDirectory, hmake]
  dsimp only
  rw [if_pos h]

/-- How the making of directories comes out: whatever is new is a directory on the way. -/
structure Ensures (p : Path) (t : Tree) (r : Tree × Except FileError Unit) : Prop where
  alters : Alters (OnTheWay t.home p) (fun _ => False) t r.1
  isDirectory : r.2 = .ok () → r.1.isDirectory p = true
  hasNull : r.2 = .error .nullByte → p.hasNull = true

theorem Ensures.done (h : Ensured p t t') : Ensures p t (t', .ok ()) :=
  ⟨h.alters, fun _ => h.isDirectory, fun hc => nomatch hc⟩

theorem ensureFrom_ensures (anchor : Anchor) (names : List String) (t : Tree) :
    Ensures ⟨anchor, names.reverse⟩ t (ensureFrom anchor names t) := by
  induction names generalizing t with
  | nil =>
      rw [ensureFrom]
      split
      · next h => exact .done (ensured_of_ensureDirectory h)
      · next e h =>
          refine ⟨.refl _ _ _, fun hc => (nomatch hc), fun hc => ?_⟩
          cases hc
          exact hasNull_of_ensureDirectory h
  | cons n above ih =>
      have habove : above.reverse <+: (n :: above).reverse := by
        rw [List.reverse_cons]
        exact List.prefix_append ..
      have hway : Alters (OnTheWay t.home ⟨anchor, (n :: above).reverse⟩) (fun _ => False) t
          (ensureFrom anchor above t).1 :=
        (ih t).alters.mono (fun l => OnTheWay.longer (l := l) habove) fun _ hc _ => hc
      have hnull := (ih t).hasNull
      rw [ensureFrom]
      split
      · next h => exact .done (ensured_of_ensureDirectory h)
      · split
        · next t₁ e heq =>
            rw [heq] at hway hnull
            refine ⟨hway, fun hc => (nomatch hc), fun hc => ?_⟩
            have habove := hnull hc
            rw [Path.hasNull, List.any_reverse] at habove ⊢
            rw [List.any_cons, habove, Bool.or_true]
        · next t₁ _ heq =>
            rw [heq] at hway
            split
            · next t₂ h =>
                have hlast := ensured_of_ensureDirectory h
                have halters := hlast.alters
                rw [hway.home] at halters
                exact .done ⟨hway.trans halters, hlast.isDirectory, hlast.hasNull⟩
            · next e h =>
                refine ⟨hway, fun hc => (nomatch hc), fun hc => ?_⟩
                cases hc
                exact hasNull_of_ensureDirectory h
      · next e h =>
          refine ⟨.refl _ _ _, fun hc => (nomatch hc), fun hc => ?_⟩
          cases hc
          exact hasNull_of_ensureDirectory h

theorem ensureDirectories_ensures (t : Tree) (p : Path) :
    Ensures p t (t.ensureDirectories p) := by
  have h := ensureFrom_ensures p.anchor p.names.reverse t
  rw [List.reverse_reverse] at h
  exact h

/-- A directory that is there is not made again. -/
theorem ensureDirectories_of_isDirectory (hnull : p.hasNull = false)
    (h : t.isDirectory p = true) : t.ensureDirectories p = (t, .ok ()) := by
  have hensure := ensureDirectory_of_isDirectory hnull h
  rw [ensureDirectories]
  cases hnames : p.names.reverse with
  | nil =>
      have hp : p = ⟨p.anchor, []⟩ := by
        rw [← List.reverse_eq_nil_iff.mp hnames]
      rw [hp] at hensure
      rw [ensureFrom, hensure]
  | cons n above =>
      have hp : p = ⟨p.anchor, (n :: above).reverse⟩ := by
        rw [← hnames, List.reverse_reverse]
      rw [hp] at hensure
      rw [ensureFrom]
      rw [hensure]

/-! ## Names in a directory -/

/-- The names of a path lead to a directory. -/
def Reaches (t : Tree) (p : Path) : Prop :=
  t.follow (p.start t.home) p.names = .ok (p.resolve t.home) ∧
    t.entry? (p.resolve t.home) = some .directory

theorem Alters.reaches {made written : Location → Prop} (h : Alters made written t t')
    (hp : t.Reaches p) : t'.Reaches p := by
  rw [Reaches, h.home]
  exact ⟨h.follow hp.1, h.directory hp.2⟩

section
variable {name : String} (hslash : '/' ∉ name.toList) (hne : name ≠ "") (hdot : name ≠ ".")
include hslash hne hdot

/-- A path to a directory leads through the one that it is in. -/
theorem reaches_of_isDirectory_append (h : t.isDirectory (p.append name) = true) :
    t.Reaches p := by
  have hlocate := (lookUp_eq_ok.mp (isDirectory_iff.mp h)).1
  have hfollow := (locate_eq_ok.mp hlocate).2
  rw [Path.append_name p hslash hne hdot, follow_append] at hfollow
  split at hfollow
  · next l hl =>
      have hl' : t.follow (p.start t.home) p.names = .ok l := hl
      obtain rfl : l = p.resolve t.home := by
        rw [Path.resolve_eq]
        exact follow_eq_collapse hl'
      refine ⟨hl', ?_⟩
      rw [follow] at hfollow
      split at hfollow
      · cases hfollow
      · cases hfollow
      · next hdir => exact hdir
  · cases hfollow

/-- A name in a directory that is not there leads to a place with nothing at it. -/
theorem entry?_of_not_exists (hdots : name ≠ "..") (hp : t.Reaches p)
    (hnull : (p.append name).hasNull = false) (h : t.exists? (p.append name) = .ok false) :
    t.entry? (p.resolve t.home ++ [name]) = none := by
  rw [exists?, if_neg (by rw [hnull]; exact Bool.false_ne_true)] at h
  split at h
  · cases h
  · cases h
  · next errno hlong hlook =>
      rw [lookUp] at hlook
      split at hlook
      · next _ hlocate =>
          cases hlook
          rw [locate] at hlocate
          split at hlocate
          · cases hlocate
            exact absurd rfl hlong
          · exfalso
            rw [Path.append_name p hslash hne hdot] at hlocate
            have hfollow : t.follow (p.start t.home) (p.names ++ [name]) = .error errno := hlocate
            rw [follow_append, hp.1] at hfollow
            dsimp only at hfollow
            rw [follow, hp.2] at hfollow
            dsimp only at hfollow
            rw [if_neg hdots] at hfollow
            split at hfollow
            · cases hfollow
              exact hlong rfl
            · cases hfollow
      · next l hl =>
          have hl' := eq_resolve_of_locate hl
          rw [Path.resolve_append_name _ p hslash hne hdot hdots] at hl'
          split at hlook
          · cases hlook
          · next hnone =>
              rw [← hl']
              exact hnone

end

end ScreenBridge.Files.Tree
