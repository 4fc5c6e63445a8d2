import Mathlib.Data.List.Induction
import Mathlib.Data.List.Nodup
import ScreenBridge.Keyed

/-!
# Which keys, and in which order

A keyed list that is built by writing to it has its keys in the order in which
they first came. What stands under a key depends on how it was written: of
several values the last one counts with `update`, and the first one with
`setNew`. This file says so of whole rows of pairs, which may have a key more
than once. `newKeys` are the keys that such a row adds, and `FirstOf` is what
comes of a row of which the first word on each key counts.
-/

namespace ScreenBridge

/-! ## First occurrences -/

section
variable {α : Type} [DecidableEq α]

theorem eraseDups_concat (l : List α) (a : α) :
    (l ++ [a]).eraseDups = if a ∈ l then l.eraseDups else l.eraseDups ++ [a] := by
  rw [List.eraseDups_append]
  split
  · next h => simp [List.removeAll, h]
  · next h => simp [List.removeAll, h, List.eraseDups_cons]

theorem nodup_eraseDups (l : List α) : l.eraseDups.Nodup := by
  induction l using List.reverseRecOn with
  | nil => exact List.nodup_nil
  | append_singleton l a ih =>
      rw [eraseDups_concat]
      split
      · exact ih
      · next h =>
          have hnew : a ∉ l.eraseDups := by rwa [List.mem_eraseDups]
          rw [← List.concat_eq_append]
          exact List.Nodup.concat hnew ih

theorem eraseDups_of_nodup {l : List α} (h : l.Nodup) : l.eraseDups = l := by
  induction l using List.reverseRecOn with
  | nil => rfl
  | append_singleton l a ih =>
      rw [← List.concat_eq_append, List.nodup_concat] at h
      rw [eraseDups_concat, if_neg h.1, ih h.2]

end

namespace Keyed

variable {α : Type} {key : String}

/-! ## The last word on a key -/

/-- The keys in a row that are not among some others, each where it comes first. -/
def newKeys (old row : List String) : List String :=
  (row.filter fun key => key ∉ old).eraseDups

theorem mem_newKeys {old row : List String} : key ∈ newKeys old row ↔ key ∈ row ∧ key ∉ old := by
  rw [newKeys, List.mem_eraseDups, List.mem_filter, decide_eq_true_iff]

theorem newKeys_nil (row : List String) : newKeys [] row = row.eraseDups := by
  rw [newKeys, List.filter_eq_self.mpr (by simp)]

theorem newKeys_concat (old row : List String) (key : String) :
    newKeys old (row ++ [key]) =
      if key ∈ old ++ newKeys old row then newKeys old row else newKeys old row ++ [key] := by
  simp only [List.mem_append, mem_newKeys]
  rw [newKeys, List.filter_append]
  by_cases hold : key ∈ old
  · rw [if_pos (.inl hold), List.filter_cons_of_neg (by simpa using hold), List.filter_nil,
      List.append_nil, newKeys]
  · rw [List.filter_cons_of_pos (by simpa using hold), List.filter_nil, eraseDups_concat]
    simp only [List.mem_filter, hold, not_false_iff, decide_true, and_true, false_or, newKeys]

theorem update_concat (xs ys : Keyed α) (key : String) (v : α) :
    xs.update (ys ++ [(key, v)]) = (xs.update ys).set key v := by
  rw [update, List.foldl_append, List.foldl_cons, List.foldl_nil, update]

theorem keys_concat (xs : Keyed α) (key : String) (v : α) :
    keys (xs ++ [(key, v)]) = xs.keys ++ [key] := by
  rw [keys, List.map_append, List.map_singleton, keys]

/-- Writing pairs over a list leaves its keys where they are and puts the new ones behind them. -/
theorem keys_update (xs ys : Keyed α) :
    (xs.update ys).keys = xs.keys ++ newKeys xs.keys ys.keys := by
  induction ys using List.reverseRecOn with
  | nil => exact (List.append_nil _).symm
  | append_singleton ys kv ih =>
      obtain ⟨key, v⟩ := kv
      rw [update_concat, keys_set, ih, keys_concat, newKeys_concat]
      split
      · rfl
      · rw [List.append_assoc]

/-- Of several values under one key the last one is kept. -/
theorem get?_update_reverse (xs ys : Keyed α) (key : String) :
    (xs.update ys).get? key = (get? ys.reverse key).or (xs.get? key) := by
  induction ys using List.reverseRecOn with
  | nil => rfl
  | append_singleton ys kv ih =>
      obtain ⟨k, v⟩ := kv
      rw [update_concat, get?_set, ih, List.reverse_concat, get?_cons]
      split <;> rfl

/-! ## The first word on a key -/

/-- What is kept of a row of pairs if the first value under each key counts. -/
structure FirstOf (row kept : Keyed α) : Prop where
  keys : kept.keys = row.keys.eraseDups
  get? : ∀ key, kept.get? key = row.get? key

theorem keys_setNew (xs : Keyed α) (key : String) (v : α) :
    (xs.setNew key v).keys = if key ∈ xs.keys then xs.keys else xs.keys ++ [key] := by
  unfold setNew has
  simp only [get?_isSome_iff]
  split
  · rfl
  · exact keys_concat xs key v

namespace FirstOf

variable {row kept : Keyed α}

theorem nil : FirstOf ([] : Keyed α) [] :=
  ⟨rfl, fun _ => rfl⟩

theorem setNew (h : FirstOf row kept) (key : String) (v : α) :
    FirstOf (row ++ [(key, v)]) (kept.setNew key v) where
  keys := by
    rw [keys_setNew, h.keys, keys_concat, eraseDups_concat]
    simp only [List.mem_eraseDups]
  get? other := by
    rw [get?_setNew, h.get?, get?_append, get?_cons, get?_nil]

/-- One row after the other. -/
theorem append (h : FirstOf row kept) (more : Keyed α) :
    FirstOf (row ++ more) (more.foldl (fun acc kv => Keyed.setNew acc kv.1 kv.2) kept) := by
  induction more generalizing row kept with
  | nil => rwa [List.append_nil]
  | cons kv more ih =>
      rw [List.append_cons]
      exact ih (h.setNew kv.1 kv.2)

end FirstOf

end Keyed

end ScreenBridge
