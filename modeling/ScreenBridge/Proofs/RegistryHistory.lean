import ScreenBridge.Mapping.Builtin
import ScreenBridge.Proofs.TranslatedTree

/-!
# What a registry has seen

A registry is made from a list of entries, and more entries are put to it later.
An entry for a type that is there already is refused, and the registry that was
there before stays. `run` is the registry behind a row of calls, and `taken` are
the entries of those calls that were not refused.

Everything rests on what one call does (`register_eq_ok_iff`,
`register_eq_error_iff`). For a row of calls there are two views of the outcome:
the entries are the old ones and behind them the taken ones (`entries_run`), and
a type is found as its first entry among all that were put to the registry,
taken or not (`find?_run`). The second one does not mention refusals, so it also
says that nothing that comes later matters for a type once it is there.
-/

namespace ScreenBridge.Mapping

namespace Registry

/-! ## Rows of calls -/

/-- The registry behind a call, which is the one before it if the call is refused. -/
def attempt (r : Registry) (e : Entry) : Registry :=
  match r.register e with
  | .ok next => next
  | .error _ => r

/-- The registry behind a row of calls. -/
def run (r : Registry) (calls : List Entry) : Registry :=
  calls.foldl attempt r

/-- The entries of those calls that are not refused, in their order. -/
def taken (r : Registry) : List Entry → List Entry
  | [] => []
  | e :: rest =>
    match r.register e with
    | .ok next => e :: next.taken rest
    | .error _ => r.taken rest

variable {r s : Registry} {e : Entry} {d : DuplicateMapping} {given calls : List Entry}

theorem ext_entries (h : r.entries = s.entries) : r = s := by
  obtain ⟨entries, _⟩ := r
  obtain ⟨entries', _⟩ := s
  cases h
  rfl

/-! ## One call -/

theorem register_eq_error_iff :
    r.register e = .error d ↔ e.sourceType ∈ r.types ∧ d = ⟨e.sourceType⟩ := by
  unfold register
  split
  · next h =>
      rw [Except.error.injEq]
      exact ⟨fun heq => ⟨h, heq.symm⟩, fun heq => heq.2.symm⟩
  · next h => exact iff_of_false (by simp) fun heq => h heq.1

theorem register_eq_ok_iff :
    r.register e = .ok s ↔ e.sourceType ∉ r.types ∧ s.entries = r.entries ++ [e] := by
  unfold register
  split
  · next h => exact iff_of_false (by simp) fun hs => hs.1 h
  · next h =>
      rw [Except.ok.injEq]
      constructor
      · intro hs
        exact ⟨h, congrArg entries hs.symm⟩
      · intro hs
        exact ext_entries hs.2.symm

/-! ## Rows of calls, step by step -/

theorem run_cons (r : Registry) (e : Entry) (rest : List Entry) :
    r.run (e :: rest) = (r.attempt e).run rest :=
  rfl

theorem attempt_of_error (h : r.register e = .error d) : r.attempt e = r := by
  rw [attempt, h]

theorem attempt_of_ok (h : r.register e = .ok s) : r.attempt e = s := by
  rw [attempt, h]

theorem taken_of_error (h : r.register e = .error d) (rest : List Entry) :
    r.taken (e :: rest) = r.taken rest := by
  rw [taken, h]

theorem taken_of_ok (h : r.register e = .ok s) (rest : List Entry) :
    r.taken (e :: rest) = e :: s.taken rest := by
  rw [taken, h]

/-- The taken entries stand behind the old ones. -/
theorem entries_run (r : Registry) (calls : List Entry) :
    (r.run calls).entries = r.entries ++ r.taken calls := by
  induction calls generalizing r with
  | nil => exact (List.append_nil _).symm
  | cons e rest ih =>
      rw [run_cons]
      cases h : r.register e with
      | error d => rw [attempt_of_error h, taken_of_error h, ih]
      | ok s =>
          rw [attempt_of_ok h, taken_of_ok h, ih, (register_eq_ok_iff.mp h).2, List.append_assoc,
            List.singleton_append]

/-- Without the refused calls the same registry comes out, and no call is refused. -/
theorem registerAll_taken (r : Registry) (calls : List Entry) :
    r.registerAll (r.taken calls) = .ok (r.run calls) := by
  induction calls generalizing r with
  | nil => rfl
  | cons e rest ih =>
      rw [run_cons]
      cases h : r.register e with
      | error d => rw [attempt_of_error h, taken_of_error h, ih]
      | ok s =>
          rw [attempt_of_ok h, taken_of_ok h, registerAll, h]
          exact ih s

/-- The first entry for a type is the one that is found. -/
theorem find?_run (r : Registry) (calls : List Entry) (type : String) :
    (r.run calls).find? type =
      (r.find? type).or (calls.find? fun e => e.sourceType = type) := by
  induction calls generalizing r with
  | nil => exact (Option.or_none).symm
  | cons e rest ih =>
      rw [run_cons, ih, List.find?_cons]
      cases h : r.register e with
      | error d =>
          rw [attempt_of_error h]
          by_cases htype : e.sourceType = type
          · -- The refused entry comes too late: another one is found first.
            have hthere : type ∈ r.types := htype ▸ (register_eq_error_iff.mp h).1
            obtain ⟨e', he', hfirst⟩ := List.mem_map.mp hthere
            rw [find?_eq_some_iff.mpr ⟨he', hfirst⟩, Option.some_or, Option.some_or]
          · simp [htype]
      | ok s =>
          obtain ⟨-, hentries⟩ := register_eq_ok_iff.mp h
          rw [attempt_of_ok h, find?, hentries, List.find?_append, ← find?, Option.or_assoc]
          by_cases htype : e.sourceType = type
          · simp [htype]
          · simp [htype]

/-! ## Making a registry -/

theorem entries_of_registerAll {es : List Entry} (h : r.registerAll es = .ok s) :
    s.entries = r.entries ++ es := by
  induction es generalizing r with
  | nil =>
      rw [registerAll] at h
      cases h
      exact (List.append_nil _).symm
  | cons e rest ih =>
      rw [registerAll] at h
      split at h
      · next next hnext =>
          rw [ih h, (register_eq_ok_iff.mp hnext).2, List.append_assoc, List.singleton_append]
      · cases h

theorem registerAll_eq_error_iff (r : Registry) (es : List Entry) :
    (∃ d, r.registerAll es = .error d) ↔
      ¬ ((r.entries ++ es).map Entry.sourceType).Nodup := by
  induction es generalizing r with
  | nil =>
      rw [List.append_nil]
      refine iff_of_false ?_ (not_not_intro r.distinct)
      rintro ⟨d, h⟩
      cases h
  | cons e rest ih =>
      rw [registerAll]
      cases h : r.register e with
      | error d =>
          have hthere : e.sourceType ∈ r.entries.map Entry.sourceType :=
            (register_eq_error_iff.mp h).1
          refine iff_of_true ⟨d, rfl⟩ fun hnodup => ?_
          rw [List.map_append, List.map_cons, List.nodup_append] at hnodup
          exact hnodup.2.2 _ hthere _ List.mem_cons_self rfl
      | ok s =>
          simp only [ih, (register_eq_ok_iff.mp h).2, List.append_assoc, List.singleton_append]

/-- A registry is not made from entries two of which are for one type. -/
theorem ofList_eq_error_iff (given : List Entry) :
    (∃ d, ofList given = .error d) ↔ ∃ i j : Nat, i < j ∧ ∃ e e' : Entry,
      given[i]? = some e ∧ given[j]? = some e' ∧ e.sourceType = e'.sourceType := by
  have hempty : empty.entries ++ given = given := rfl
  rw [ofList, registerAll_eq_error_iff, hempty, List.nodup_iff_getElem?_ne_getElem?]
  simp only [List.getElem?_map, List.length_map]
  constructor
  · intro h
    push Not at h
    obtain ⟨i, j, hij, hj, heq⟩ := h
    rw [List.getElem?_eq_getElem (Nat.lt_trans hij hj), List.getElem?_eq_getElem hj] at heq
    exact ⟨i, j, hij, given[i], given[j], List.getElem?_eq_getElem _, List.getElem?_eq_getElem _,
      Option.some.inj heq⟩
  · rintro ⟨i, j, hij, e, e', he, he', htype⟩ h
    have hj : j < given.length := (List.getElem?_eq_some_iff.mp he').1
    refine h i j hij hj ?_
    rw [he, he', Option.map_some, Option.map_some, htype]

/-! ## What is there behind a row of calls -/

/-- What is known of a registry when it was made from some entries as `r` and is `s` behind some
calls. -/
structure Tells (given calls : List Entry) (r s : Registry) : Prop where
  /-- The next call is refused if its type is there, and only then, -/
  refused : ∀ e d, s.register e = .error d ↔ e.sourceType ∈ s.types ∧ d = ⟨e.sourceType⟩
  /-- and what is refused is the same as not called, for the calls behind it -/
  ignored : ∀ e, e.sourceType ∈ s.types → ∀ more, s.run (e :: more) = s.run more
  /-- as for those in front. -/
  replayed : r.registerAll (r.taken calls) = .ok s
  /-- The types are those of the entries that were taken, in their order, -/
  types : s.types = (given ++ r.taken calls).map Entry.sourceType
  /-- no type twice. -/
  nodup : s.types.Nodup
  size : s.size = s.types.length
  /-- A type has the one entry that was taken for it, -/
  entry : ∀ type e, s.resolve type true = some e ↔
    e ∈ given ++ r.taken calls ∧ e.sourceType = type
  /-- which is the first one that was put to the registry. -/
  first : ∀ type, s.resolve type true = (given ++ calls).find? fun e => e.sourceType = type
  /-- Without markup it is found if it is for runtime. -/
  runtime : ∀ type, s.resolve type false = (s.resolve type true).filter Entry.runtime
  tag : ∀ type, s.tagFor type = ((s.resolve type true).map Entry.targetTag).getD "div"
  /-- What a type is found as does not change any more. -/
  stays : ∀ type ∈ s.types, ∀ more markup,
    (s.run more).resolve type markup = s.resolve type markup ∧
      (s.run more).tagFor type = s.tagFor type

theorem resolve_true (r : Registry) (type : String) : r.resolve type true = r.find? type := by
  unfold resolve
  cases r.find? type with
  | none => rfl
  | some e => simp

theorem tagFor_eq (r : Registry) (type : String) :
    r.tagFor type = ((r.resolve type true).map Entry.targetTag).getD "div" := by
  unfold tagFor
  cases r.resolve type true <;> rfl

theorem find?_run_of_mem {type : String} (h : type ∈ r.types) (more : List Entry) :
    (r.run more).find? type = r.find? type := by
  obtain ⟨e, he, htype⟩ := List.mem_map.mp h
  rw [find?_run, find?_eq_some_iff.mpr ⟨he, htype⟩, Option.some_or]

/-- Making a registry is refused if two of its entries are for one type, and only then. Behind any
calls to a registry that was made, refused ones among them, each type is found as the entry that was
first put to the registry for it. -/
theorem registers_first (given : List Entry) :
    ((∃ d, ofList given = .error d) ↔ ∃ i j : Nat, i < j ∧ ∃ e e' : Entry,
      given[i]? = some e ∧ given[j]? = some e' ∧ e.sourceType = e'.sourceType) ∧
    ∀ r, ofList given = .ok r → ∀ calls, Tells given calls r (r.run calls) := by
  refine ⟨ofList_eq_error_iff given, fun r hr calls => ?_⟩
  have hgiven : r.entries = given := entries_of_registerAll hr
  have hentries : (r.run calls).entries = given ++ r.taken calls := by
    rw [entries_run, hgiven]
  exact
    { refused := fun e d => register_eq_error_iff
      ignored := fun e he more => by
        rw [run_cons, attempt_of_error (register_eq_error_iff.mpr ⟨he, rfl⟩)]
      replayed := registerAll_taken r calls
      types := by rw [types, hentries]
      nodup := (r.run calls).distinct
      size := (List.length_map _).symm
      entry := fun type e => by rw [resolve_true, find?_eq_some_iff, hentries]
      first := fun type => by
        rw [resolve_true, find?_run, find?, hgiven, List.find?_append]
      runtime := fun type => by simp [resolve]
      tag := tagFor_eq _
      stays := fun type htype more markup => by
        have hfind := find?_run_of_mem htype more
        rw [tagFor_eq, tagFor_eq, resolve_true, resolve_true, resolve, resolve, hfind]
        exact ⟨rfl, rfl⟩ }

/-- An icon that only markup knows, and a card. -/
def icon : Entry :=
  markupOnly "Icon" "i" .icon

def card : Entry :=
  { sourceType := "Card", targetTag := "section", kind := .container }

def withIcon : Registry :=
  ⟨[icon], by decide⟩

/-- A second icon, the card, and the card with another tag: the first and the last are refused. -/
def laterCalls : List Entry :=
  [{ icon with runtime := true }, card, { card with targetTag := "p" }]

theorem registers_first_laterCalls :
    ofList [icon] = .ok withIcon ∧ Tells [icon] laterCalls withIcon (withIcon.run laterCalls) ∧
      withIcon.taken laterCalls = [card] ∧ (withIcon.run laterCalls).tagFor "Card" = "section" ∧
      (withIcon.run laterCalls).resolve "Icon" false = none := by
  have hmade : ofList [icon] = .ok withIcon := rfl
  exact ⟨hmade, (registers_first [icon]).2 withIcon hmade laterCalls, by decide, by decide,
    by decide⟩

end Registry

end ScreenBridge.Mapping
