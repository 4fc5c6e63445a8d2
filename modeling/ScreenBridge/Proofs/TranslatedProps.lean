import ScreenBridge.Mapping.Builtin
import ScreenBridge.Proofs.CaseMapping
import ScreenBridge.Proofs.ReadLength

/-!
# What an entry makes of a widget's words

The words of a widget come out longer than they went in: its type becomes a tag
and the props an entry always has, its props take new names, and a type without
an entry is spelled out in small letters. This file says by how much, in the
measures of `TextLength`: nine times the `bulk` of what is written against the
`weight` of what was read.

A rename takes a member from under one key, so the members it takes have to be
told apart from those that stay. `share` is what the member under one key
weighs, and `shares_add_rest_le` charges each member once, under the key it was
taken from or among the rest.
-/

namespace ScreenBridge

open Json (bulk bulkOfMembers contentLength contentLength_append quotedLength weight
  weightOfMembers)

/-! ## Small letters -/

namespace Text

theorem contentLength_pos (c : Char) : 0 < contentLength [c] := by
  have hne : Json.quotedChar c ≠ [] := by
    unfold Json.quotedChar
    repeat' split
    all_goals nofun
  obtain ⟨d, ds, hcons⟩ := List.exists_cons_of_ne_nil hne
  have hd := d.utf8Size_pos
  rw [contentLength, List.flatMap_singleton, hcons, Utf8.encodeChars_cons, List.length_append,
    String.length_utf8EncodeChar]
  omega

theorem contentLength_le_four {c : Char} (h : 0x20 ≤ c.toNat) : contentLength [c] ≤ 4 := by
  rw [contentLength, List.flatMap_singleton]
  by_cases hquote : c = '"'
  · rw [hquote]
    decide
  · by_cases hslash : c = '\\'
    · rw [hslash]
      decide
    · rw [Json.quotedChar_of_raw hquote hslash (by omega), Utf8.encodeChars_cons,
        Utf8.encodeChars_nil, List.append_nil, String.length_utf8EncodeChar]
      exact c.utf8Size_le_four

theorem contentLength_small_le (c : Char) : contentLength (small c) ≤ 4 * contentLength [c] := by
  have hpos := contentLength_pos c
  unfold small
  split
  · have hthree : contentLength ['i', '\u0307'] = 3 := by decide
    omega
  · split
    · next d himage =>
        obtain ⟨hnat, -, hd⟩ := toNat_ofNat_image toLetters_capitalRuns himage
        have hfour := contentLength_le_four (hd.trans_eq hnat.symm)
        omega
    · omega

theorem contentLength_lowerAfter_le (afterCased : Bool) (cs : List Char) :
    contentLength (lowerAfter afterCased cs) ≤ 4 * contentLength cs := by
  induction cs generalizing afterCased with
  | nil => exact Nat.le_refl _
  | cons c cs ih =>
      have hrest := ih (if isCaseIgnorable c then afterCased else isCased c)
      have hsplit : contentLength (c :: cs) = contentLength [c] + contentLength cs :=
        contentLength_append [c] cs
      have hhere : contentLength (if c = 'Σ' then
          [if afterCased && !startsCased cs then 'ς' else 'σ'] else small c) ≤
          4 * contentLength [c] := by
        split
        · have hpos := contentLength_pos c
          refine Nat.le_trans (m := 4) ?_ (by omega)
          split <;> decide
        · exact contentLength_small_le c
      rw [lowerAfter, contentLength_append, hsplit]
      omega

theorem quotedLength_lower_le (s : String) : quotedLength (lower s) + 6 ≤ 4 * quotedLength s := by
  have hcontent := contentLength_lowerAfter_le false s.toList
  rw [Json.quotedLength_eq, Json.quotedLength_eq, lower, String.toList_ofList]
  omega

end Text

/-! ## Members written and members read -/

namespace Json

theorem bulkOfMembers_append (ms ns : List (String × Json)) :
    bulkOfMembers (ms ++ ns) = bulkOfMembers ms + bulkOfMembers ns := by
  induction ms with
  | nil => exact (Nat.zero_add _).symm
  | cons m ms ih =>
      obtain ⟨k, v⟩ := m
      rw [List.cons_append, bulkOfMembers, bulkOfMembers, ih]
      omega

theorem bulkOfMembers_set_le (ms : Keyed Json) (k : String) (v : Json) :
    bulkOfMembers (ms.set k v) ≤ bulkOfMembers ms + (quotedLength k + 2 + bulk v) := by
  induction ms with
  | nil =>
      rw [Keyed.set, bulkOfMembers_singleton]
      exact Nat.le_add_left ..
  | cons m ms ih =>
      obtain ⟨l, u⟩ := m
      rw [Keyed.set]
      split
      · next hk =>
          rw [bulkOfMembers, bulkOfMembers, hk]
          omega
      · rw [bulkOfMembers, bulkOfMembers]
        omega

theorem bulkOfMembers_update_le (ms ns : Keyed Json) :
    bulkOfMembers (ms.update ns) ≤ bulkOfMembers ms + bulkOfMembers ns := by
  induction ns generalizing ms with
  | nil => exact Nat.le_refl _
  | cons n ns ih =>
      obtain ⟨k, v⟩ := n
      have hset := bulkOfMembers_set_le ms k v
      have hrest := ih (ms.set k v)
      have hcons : ms.update ((k, v) :: ns) = (ms.set k v).update ns := rfl
      rw [hcons, bulkOfMembers]
      omega

theorem weightOfMembers_filter_le (p : String × Json → Bool) (ms : Keyed Json) :
    weightOfMembers (ms.filter p) ≤ weightOfMembers ms := by
  induction ms with
  | nil => exact Nat.le_refl _
  | cons m ms ih =>
      obtain ⟨k, v⟩ := m
      rw [List.filter_cons]
      split
      · rw [weightOfMembers, weightOfMembers]
        omega
      · rw [weightOfMembers]
        omega

/-- What the member under a key weighs, nothing if it is not there. -/
def share (ms : Keyed Json) (key : String) : Nat :=
  match ms.get? key with
  | some v => 40 * (quotedLength key + 1) + weight v
  | none => 0

theorem share_of_get? {ms : Keyed Json} {key : String} {v : Json} (h : ms.get? key = some v) :
    share ms key = 40 * (quotedLength key + 1) + weight v := by
  rw [share, h]

theorem share_erase {ms : Keyed Json} {key other : String} (h : key ≠ other) :
    share (ms.erase key) other = share ms other := by
  rw [share, share, Keyed.get?_erase, if_neg h]

theorem share_add_erase_le (ms : Keyed Json) (key : String) :
    share ms key + weightOfMembers (ms.erase key) ≤ weightOfMembers ms := by
  induction ms with
  | nil => exact Nat.le_refl _
  | cons m ms ih =>
      obtain ⟨k, v⟩ := m
      rw [share, Keyed.get?_cons, Keyed.erase, List.filter_cons, weightOfMembers]
      by_cases hk : k = key
      · have hrest := weightOfMembers_filter_le (fun kv => kv.1 ≠ key) ms
        rw [if_pos hk, if_neg (by simp [hk]), hk]
        dsimp only
        omega
      · rw [share, Keyed.erase] at ih
        rw [if_neg hk, if_pos (by simp [hk]), weightOfMembers]
        omega

/-- Each member counts once, under one of the keys or among the rest. -/
theorem shares_add_rest_le {keys : List String} (hkeys : keys.Nodup) (ms : Keyed Json) :
    (keys.map (share ms)).sum + weightOfMembers (ms.filter fun m => m.1 ∉ keys) ≤
      weightOfMembers ms := by
  induction keys generalizing ms with
  | nil =>
      have hall : ms.filter (fun m => m.1 ∉ ([] : List String)) = ms :=
        List.filter_eq_self.mpr (by simp)
      rw [hall]
      exact Nat.le_of_eq (Nat.zero_add _)
  | cons key keys ih =>
      rw [List.nodup_cons] at hkeys
      have hothers : keys.map (share ms) = keys.map (share (ms.erase key)) :=
        List.map_congr_left fun k hk => by
          rw [share_erase]
          rintro rfl
          exact hkeys.1 hk
      have hrest : ms.filter (fun m => m.1 ∉ key :: keys) =
          (ms.erase key).filter fun m => m.1 ∉ keys := by
        rw [Keyed.erase, List.filter_filter]
        exact List.filter_congr fun m _ => by simp [Bool.and_comm]
      have hkey := share_add_erase_le ms key
      have hothersLe := ih hkeys.2 (ms.erase key)
      rw [List.map_cons, List.sum_cons, hothers, hrest]
      omega

end Json

open Json (share shares_add_rest_le)

/-! ## Renames -/

namespace Mapping

/-- Renames of different keys, to names that the old ones pay for. -/
structure Affordable (renames : Keyed String) : Prop where
  distinct : renames.keys.Nodup
  names : ∀ r ∈ renames, 9 * (quotedLength r.2 + 2) ≤ 40 * (quotedLength r.1 + 1)

theorem bulkOfMembers_renamed_le {renames : Keyed String}
    (h : ∀ r ∈ renames, 9 * (quotedLength r.2 + 2) ≤ 40 * (quotedLength r.1 + 1))
    (source : Keyed Json) :
    9 * bulkOfMembers (renames.filterMap fun r => (source.get? r.1).map fun v => (r.2, v)) ≤
      (renames.keys.map (share source)).sum := by
  induction renames with
  | nil => exact Nat.le_refl _
  | cons r renames ih =>
      rw [List.forall_mem_cons] at h
      have hrest := ih h.2
      rw [Keyed.keys] at hrest ⊢
      rw [List.map_cons, List.map_cons, List.sum_cons]
      cases hv : source.get? r.1 with
      | none =>
          rw [List.filterMap_cons_none (by rw [hv, Option.map_none])]
          omega
      | some v =>
          have hbulk := Json.nine_mul_bulk_le v
          have hname := h.1
          rw [List.filterMap_cons_some (by rw [hv, Option.map_some]), bulkOfMembers,
            Json.share_of_get? hv]
          omega

theorem bulkOfMembers_translateOver_le {renames : Keyed String} (h : Affordable renames)
    (defaults source : Keyed Json) :
    9 * bulkOfMembers (translateOver defaults renames source) ≤
      9 * bulkOfMembers defaults + weightOfMembers source := by
  have hkept : source.filter (fun kv => !renames.has kv.1) =
      source.filter fun m => m.1 ∉ renames.keys := by
    refine List.filter_congr fun m _ => ?_
    rw [Keyed.has, Bool.eq_iff_iff, Bool.not_eq_true', ← Bool.not_eq_true,
      Keyed.get?_isSome_iff, decide_eq_true_iff]
  unfold translateOver
  extract_lets verbatim renamed
  have hverbatim : 9 * bulkOfMembers verbatim ≤
      weightOfMembers (source.filter fun m => m.1 ∉ renames.keys) := by
    rw [← hkept]
    exact Json.nine_mul_bulkOfMembers_le verbatim
  have hrenamed : 9 * bulkOfMembers renamed ≤ (renames.keys.map (share source)).sum :=
    bulkOfMembers_renamed_le h.names source
  have honce := shares_add_rest_le h.distinct source
  have hfirst := Json.bulkOfMembers_update_le defaults verbatim
  have hsecond := Json.bulkOfMembers_update_le (defaults.update verbatim) renamed
  omega

/-! ## Entries -/

/-- An entry whose tag and constant props the name of its type pays for. -/
structure Entry.Light (e : Entry) : Prop where
  constant : 9 * (23 + quotedLength e.targetTag + max 2 (bulkOfMembers e.defaultProps)) ≤
    400 + 40 * quotedLength e.sourceType
  props : Affordable (e.propRenames.getD [])
  style : Affordable (e.styleRenames.getD [])

variable {e : Entry}

theorem bulkOfMembers_translateProps_le (he : e.Light) (props : Keyed Json) :
    9 * bulkOfMembers (e.translateProps props) ≤
      9 * bulkOfMembers e.defaultProps + weightOfMembers props :=
  bulkOfMembers_translateOver_le he.props e.defaultProps props

theorem bulkOfMembers_translateStyle_le (he : e.Light) {style style' : Keyed Json}
    (h : e.translateStyle (some style) = some style') :
    9 * bulkOfMembers style' ≤ weightOfMembers style := by
  rw [Entry.translateStyle, Option.map_some, Option.some_inj] at h
  have haffordable := he.style
  cases hrenames : e.styleRenames with
  | none =>
      rw [hrenames] at h
      cases h
      exact Json.nine_mul_bulkOfMembers_le style
  | some renames =>
      rw [hrenames] at h haffordable
      dsimp only at h
      have hle := bulkOfMembers_translateOver_le haffordable [] style
      rw [Option.getD_some, h, Json.bulkOfMembers_nil] at hle
      omega

end Mapping

end ScreenBridge
