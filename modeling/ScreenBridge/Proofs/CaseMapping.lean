import ScreenBridge.Text.Case

/-!
# What the case mappings lead to

A case mapping moves a run of characters by one shift. Whether that gives
characters at all, and that a control character is neither moved nor the image
of another one, can be read off the tables; `ToLetters` is what a table of runs
has to pass for it.
-/

namespace ScreenBridge.Text

/-- Runs from and to characters that are no control characters. -/
def ToLetters (runs : List CaseRun) : Prop :=
  ∀ r ∈ runs, 0x20 ≤ r.first ∧ 0x20 ≤ r.first + r.shift ∧
    (r.last + r.shift < 0xd800 ∨ 0xdfff < r.first + r.shift ∧ r.last + r.shift < 0x110000)

instance (runs : List CaseRun) : Decidable (ToLetters runs) :=
  inferInstanceAs (Decidable (∀ r ∈ runs, _))

theorem toLetters_capitalRuns : ToLetters capitalRuns := by decide +kernel

theorem toLetters_smallRuns : ToLetters smallRuns := by decide +kernel

theorem mem_of_imageIn {c d : Nat} {runs : List CaseRun} (h : imageIn c runs = some d) :
    ∃ r ∈ runs, r.image? c = some d := by
  induction runs with
  | nil => cases h
  | cons r rest ih =>
      rw [imageIn] at h
      split at h
      · cases h
      · split at h
        · next hr =>
            cases h
            exact ⟨r, List.mem_cons_self, hr⟩
        · obtain ⟨r', hmem, hr⟩ := ih h
          exact ⟨r', List.mem_cons_of_mem _ hmem, hr⟩

theorem toNat_ofNat_image {runs : List CaseRun} (hruns : ToLetters runs) {c d : Nat}
    (h : imageIn c runs = some d) : (Char.ofNat d).toNat = d ∧ 0x20 ≤ c ∧ 0x20 ≤ d := by
  obtain ⟨r, hr, himage⟩ := mem_of_imageIn h
  have hrange := hruns r hr
  unfold CaseRun.image? at himage
  split at himage
  · next hin =>
      cases himage
      have hvalid : ((c : Int) + r.shift).toNat.isValidChar := by
        rw [Nat.isValidChar]
        omega
      refine ⟨?_, by omega, by omega⟩
      rw [Char.ofNat, dif_pos hvalid]
      rfl
  · cases himage

/-- Capitals of several characters are of letters, and are letters. -/
theorem expandedCapitals_letters : ∀ e ∈ expandedCapitals,
    0x20 ≤ e.1 ∧ ∀ d ∈ e.2, 0x20 ≤ (Char.ofNat d).toNat := by
  decide +kernel

theorem mem_of_lookup {c : Nat} {ds : List Nat} {table : List (Nat × List Nat)}
    (h : table.lookup c = some ds) : (c, ds) ∈ table := by
  induction table with
  | nil => cases h
  | cons e table ih =>
      obtain ⟨k, es⟩ := e
      rw [List.lookup_cons] at h
      split at h
      · next hk =>
          cases h
          rw [beq_iff_eq] at hk
          rw [hk]
          exact List.mem_cons_self
      · exact List.mem_cons_of_mem _ (ih h)

/-- A control character is the capital form of itself, and of nothing else. -/
theorem mem_capital_of_control {c : Char} (hc : c.toNat < 0x20) (d : Char) :
    c ∈ capital d ↔ c = d := by
  unfold capital
  split
  · next ds hds =>
      obtain ⟨hd, hall⟩ := expandedCapitals_letters _ (mem_of_lookup hds)
      constructor
      · intro hmem
        obtain ⟨e, he, rfl⟩ := List.mem_map.mp hmem
        have := hall e he
        omega
      · rintro rfl
        omega
  · split
    · next e himage =>
        obtain ⟨hnat, hd, he⟩ := toNat_ofNat_image toLetters_smallRuns himage
        constructor
        · intro hmem
          rw [List.mem_singleton] at hmem
          rw [hmem] at hc
          omega
        · rintro rfl
          omega
    · exact List.mem_singleton

end ScreenBridge.Text
