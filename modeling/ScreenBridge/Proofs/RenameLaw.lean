import ScreenBridge.Mapping.Entry
import ScreenBridge.Proofs.KeyOrder

/-!
# What a rename comes to

A translation writes three times into one list: the defaults are there, what
has no rename goes over them under its own key, and the renamed values go over
both. Renames may meet each other, the keys that stay, and the defaults; a key
may be renamed away while another one is renamed to it. `Translates` says what
comes of it without the three passes, key by key and with the order of the keys.

The only thing in it that is not a look-up is which of several renames to one
key counts. It is the last of those whose old key is there (`lastRenamed?`),
and it is the reason why the passes are gone through from the back.
-/

namespace ScreenBridge.Mapping

open Keyed (get?_cons get?_filter get?_update get?_update_reverse keys_update newKeys mem_newKeys newKeys_nil)

variable {defaults source result : Keyed Json} {renames : Keyed String} {key : String}

/-! ## Renamed values -/

/-- What the source has under the old key of the last rename to a key, of those whose old key the
source has. -/
def lastRenamed? (renames : Keyed String) (source : Keyed Json) (key : String) : Option Json :=
  ((renames.filter fun r => r.2 = key && source.has r.1).getLast?).bind fun r => source.get? r.1

theorem lastRenamed?_concat (renames : Keyed String) (source : Keyed Json) (r : String × String)
    (key : String) :
    lastRenamed? (renames ++ [r]) source key =
      if r.2 = key then (source.get? r.1).or (lastRenamed? renames source key)
      else lastRenamed? renames source key := by
  rw [lastRenamed?, List.filter_append]
  by_cases hkey : r.2 = key
  · rw [if_pos hkey]
    cases hv : source.get? r.1 with
    | none =>
        rw [List.filter_cons_of_neg (by simp [Keyed.has, hv]), List.filter_nil, List.append_nil,
          Option.none_or, lastRenamed?]
    | some v =>
        rw [List.filter_cons_of_pos (by simp [Keyed.has, hv, hkey]), List.filter_nil,
          List.getLast?_concat, Option.bind_some, hv, Option.some_or]
  · rw [if_neg hkey, List.filter_cons_of_neg (by simp [hkey]), List.filter_nil, List.append_nil,
      lastRenamed?]

theorem lastRenamed?_singleton (old new : String) (source : Keyed Json) :
    lastRenamed? [(old, new)] source new = source.get? old := by
  rw [← List.nil_append [(old, new)], lastRenamed?_concat, if_pos rfl]
  exact Option.or_none

/-- The renamed values, read from the back. -/
theorem get?_renamed (renames : Keyed String) (source : Keyed Json) (key : String) :
    Keyed.get? (renames.filterMap fun r => (source.get? r.1).map fun v => (r.2, v)).reverse key =
      lastRenamed? renames source key := by
  induction renames using List.reverseRecOn with
  | nil => rfl
  | append_singleton renames r ih =>
      rw [lastRenamed?_concat, List.filterMap_append, List.reverse_append]
      cases hv : source.get? r.1 with
      | none =>
          rw [List.filterMap_cons_none (by rw [hv, Option.map_none]), List.filterMap_nil,
            List.reverse_nil, List.nil_append, ih, Option.none_or, ite_self]
      | some v =>
          rw [List.filterMap_cons_some (by rw [hv, Option.map_some]), List.filterMap_nil,
            List.reverse_singleton, List.singleton_append, get?_cons, ih, Option.some_or]

theorem keys_renamed (renames : Keyed String) (source : Keyed Json) :
    Keyed.keys (renames.filterMap fun r => (source.get? r.1).map fun v => (r.2, v)) =
      (renames.filter fun r => source.has r.1).map Prod.snd := by
  induction renames with
  | nil => rfl
  | cons r renames ih =>
      rw [Keyed.keys] at ih ⊢
      cases hv : source.get? r.1 with
      | none =>
          rw [List.filterMap_cons_none (by rw [hv, Option.map_none]),
            List.filter_cons_of_neg (by simp [Keyed.has, hv]), ih]
      | some v =>
          rw [List.filterMap_cons_some (by rw [hv, Option.map_some]),
            List.filter_cons_of_pos (by simp [Keyed.has, hv]), List.map_cons, List.map_cons, ih]

/-! ## The law -/

/-- What a source comes to over some defaults. -/
structure Translates (defaults : Keyed Json) (renames : Keyed String)
    (source result : Keyed Json) : Prop where
  /-- A key has the value of the last rename to it, else its own value unless it is renamed itself,
  else its default. -/
  get? : ∀ key, result.get? key =
    (lastRenamed? renames source key).or
      ((if key ∈ renames.keys then none else source.get? key).or (defaults.get? key))
  /-- The defaults come first, behind them the keys that stay and are new, in the order of the
  source, and behind these the new names that are new, in the order of the renames. -/
  keys : result.keys = defaults.keys ++
    newKeys defaults.keys (source.keys.filter fun key => key ∉ renames.keys) ++
    newKeys (defaults.keys ++ source.keys.filter fun key => key ∉ renames.keys)
      ((renames.filter fun r => source.has r.1).map Prod.snd)

theorem has_iff (xs : Keyed String) (key : String) : xs.has key = true ↔ key ∈ xs.keys :=
  Keyed.get?_isSome_iff xs key

theorem keys_verbatim (renames : Keyed String) (source : Keyed Json) :
    Keyed.keys (source.filter fun kv => !renames.has kv.1) =
      source.keys.filter fun key => key ∉ renames.keys := by
  have hsource : source.keys = source.map Prod.fst := rfl
  rw [hsource, List.filter_map, Keyed.keys]
  refine congrArg (List.map Prod.fst) (List.filter_congr fun kv _ => ?_)
  simp only [Function.comp_apply, ← has_iff, decide_not, Bool.decide_eq_true]

theorem translates_translateOver (hsource : source.keys.Nodup) (defaults : Keyed Json)
    (renames : Keyed String) :
    Translates defaults renames source (translateOver defaults renames source) where
  get? key := by
    have hverbatim : (Keyed.keys (source.filter fun kv => !renames.has kv.1)).Nodup :=
      hsource.sublist (List.filter_sublist.map Prod.fst)
    unfold translateOver
    extract_lets verbatim renamed
    rw [get?_update_reverse, get?_renamed, get?_update hverbatim,
      get?_filter source (fun key => !renames.has key)]
    simp only [← has_iff]
    cases renames.has key <;> rfl
  keys := by
    unfold translateOver
    extract_lets verbatim renamed
    rw [keys_update, keys_update, keys_renamed, keys_verbatim]
    refine congrArg (_ ++ List.eraseDups ·) (List.filter_congr fun key _ => ?_)
    by_cases hdefault : key ∈ defaults.keys <;> simp [mem_newKeys, hdefault]

/-! ## Renames that keep every name -/

theorem lastRenamed?_of_identity (h : ∀ r ∈ renames, r.2 = r.1) (source : Keyed Json)
    (key : String) :
    lastRenamed? renames source key = if key ∈ renames.keys then source.get? key else none := by
  induction renames using List.reverseRecOn with
  | nil => rfl
  | append_singleton renames r ih =>
      rw [List.forall_mem_append, List.forall_mem_singleton] at h
      obtain ⟨old, new⟩ := r
      obtain rfl : new = old := h.2
      rw [lastRenamed?_concat, ih h.1]
      simp only [Keyed.keys_concat, List.mem_append, List.mem_singleton]
      by_cases hkey : new = key
      · subst hkey
        rw [if_pos rfl, if_pos (Or.inr rfl : new ∈ Keyed.keys renames ∨ new = new)]
        split
        · exact Option.or_self
        · exact Option.or_none
      · rw [if_neg hkey]
        simp only [Ne.symm hkey, or_false]

theorem Translates.get?_of_identity (h : Translates [] renames source result)
    (hidentity : ∀ r ∈ renames, r.2 = r.1) (key : String) :
    result.get? key = source.get? key := by
  rw [h.get?, lastRenamed?_of_identity hidentity, Keyed.get?_nil, Option.or_none]
  split
  · exact Option.or_none
  · exact Option.none_or

/-! ## Entries -/

theorem translates_nil (hsource : source.keys.Nodup) : Translates [] [] source source where
  get? key := by
    rw [Keyed.get?_nil, Option.or_none, if_neg (by exact List.not_mem_nil)]
    rfl
  keys := by
    have hstay : source.keys.filter (fun key => key ∉ Keyed.keys ([] : Keyed String)) =
        source.keys :=
      List.filter_eq_self.mpr (by simp [Keyed.keys])
    have hnodefaults : Keyed.keys ([] : Keyed Json) = [] := rfl
    rw [hstay, hnodefaults, newKeys_nil, eraseDups_of_nodup hsource]
    exact (List.append_nil _).symm

/-- The props and the style of a widget with an entry. Both follow the one law, the props over the
defaults of the entry and with its renames of props, the style over nothing and with its renames of
styles, if it has any. No style stays none, and a style whose renames change no name says under
each key what it said. -/
theorem translates_by_entry (e : Entry) {source : Keyed Json} (hsource : source.keys.Nodup) :
    Translates e.defaultProps (e.propRenames.getD []) source (e.translateProps source) ∧
    e.translateStyle none = none ∧
    ∃ style, e.translateStyle (some source) = some style ∧
      Translates [] (e.styleRenames.getD []) source style ∧
      ((∀ r ∈ e.styleRenames.getD [], r.2 = r.1) →
        ∀ key, style.get? key = source.get? key) := by
  have hstyle : ∃ style, e.translateStyle (some source) = some style ∧
      Translates [] (e.styleRenames.getD []) source style := by
    rw [Entry.translateStyle, Option.map_some]
    cases e.styleRenames with
    | none => exact ⟨source, rfl, translates_nil hsource⟩
    | some renames => exact ⟨_, rfl, translates_translateOver hsource [] renames⟩
  obtain ⟨style, htranslated, hlaw⟩ := hstyle
  exact ⟨translates_translateOver hsource _ _, rfl, style, htranslated, hlaw,
    hlaw.get?_of_identity⟩

/-- Renames that swap two names, two that meet in one, and a default under that one. -/
def crossing : Entry where
  sourceType := "Range"
  targetTag := "input"
  kind := .textInput
  propRenames := some [("min", "max"), ("max", "min"), ("hint", "label"), ("title", "label")]
  styleRenames := some [("min", "min"), ("color", "color")]
  defaultProps := [("label", .str "?"), ("step", .int 1)]

/-- A source with all of these names. -/
def crossed : Keyed Json :=
  [("label", .str "own"), ("title", .str "title"), ("min", .int 0), ("color", .str "red"),
    ("max", .int 9), ("hint", .str "hint")]

theorem translates_by_entry_crossing :
    crossed.keys.Nodup ∧
    Translates crossing.defaultProps (crossing.propRenames.getD []) crossed
      [("label", .str "title"), ("step", .int 1), ("color", .str "red"), ("max", .int 0),
        ("min", .int 9)] ∧
    (∀ r ∈ crossing.styleRenames.getD [], r.2 = r.1) ∧
    ∃ style, crossing.translateStyle (some crossed) = some style ∧
      ∀ key, style.get? key = crossed.get? key := by
  have hdistinct : crossed.keys.Nodup := by decide
  have hidentity : ∀ r ∈ crossing.styleRenames.getD [], r.2 = r.1 := by decide
  obtain ⟨hprops, -, style, hstyle, -, hsame⟩ := translates_by_entry crossing hdistinct
  exact ⟨hdistinct, hprops, hidentity, style, hstyle, hsame hidentity⟩

end ScreenBridge.Mapping
