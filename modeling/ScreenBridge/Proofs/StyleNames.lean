import Mathlib.Data.List.Basic
import ScreenBridge.Source.Naming

/-!
# Two spellings of a style name

A style key is written in camel case where it stands in markup and in kebab case
in the stylesheet. Both are made from the key as it came, each for itself, and
the key may mix the two. They are still spellings of one name: the kebab case of
the one is the other (`kebabCase_camelCase`), since all that camel case does is
to trade a dash and a small letter for the capital, and kebab case undoes just
that. How a letter comes out in small form depends on what stands around it,
because of the sigma at the end of a word, so the argument runs on `SameLower`:
two texts with one small form, whatever stands in front of them. A capital Latin
letter and its small one are the same there.

A name that is in camel case already is read back from its kebab case.
-/

namespace ScreenBridge

namespace Text

/-! ## Latin letters and the small form -/

/-- A statement about the characters below 128 is a finite one. -/
theorem forall_ascii {p : Char → Prop} (h : ∀ n < 128, p (Char.ofNat n)) {c : Char}
    (hc : c.toNat < 128) : p c := by
  have hp := h c.toNat hc
  rwa [Char.ofNat_toNat] at hp

/-- Two texts that have the same small form and look the same to a sigma in front of them. -/
structure SameLower (cs ds : List Char) : Prop where
  starts : startsCased cs = startsCased ds
  lower : ∀ afterCased, lowerAfter afterCased cs = lowerAfter afterCased ds

theorem SameLower.refl (cs : List Char) : SameLower cs cs :=
  ⟨rfl, fun _ => rfl⟩

variable {cs ds : List Char}

theorem SameLower.cons (h : SameLower cs ds) (c : Char) : SameLower (c :: cs) (c :: ds) where
  starts := by rw [startsCased, startsCased, h.starts]
  lower afterCased := by rw [lowerAfter, lowerAfter, h.starts, h.lower]

theorem SameLower.append (h : SameLower cs ds) (front : List Char) :
    SameLower (front ++ cs) (front ++ ds) := by
  induction front with
  | nil => exact h
  | cons c front ih => exact ih.cons c

/-- Two letters, neither of them the sigma, that have one small form and are the same to a sigma
next to them. -/
def SameLetter (c d : Char) : Prop :=
  c ≠ 'Σ' ∧ d ≠ 'Σ' ∧ isCaseIgnorable c = isCaseIgnorable d ∧ isCased c = isCased d ∧
    small c = small d

instance (c d : Char) : Decidable (SameLetter c d) :=
  inferInstanceAs (Decidable (_ ∧ _))

theorem SameLower.letter {c d : Char} (hletter : SameLetter c d) (h : SameLower cs ds) :
    SameLower (c :: cs) (d :: ds) := by
  obtain ⟨hc, hd, hignorable, hcased, hsmall⟩ := hletter
  constructor
  · rw [startsCased, startsCased, hignorable, hcased, h.starts]
  · intro afterCased
    rw [lowerAfter, lowerAfter, if_neg hc, if_neg hd, hignorable, hcased, hsmall, h.lower]

/-- Without a capital sigma each character has its own small form. -/
theorem lowerAfter_of_not_mem (h : 'Σ' ∉ cs) (afterCased : Bool) :
    lowerAfter afterCased cs = cs.flatMap small := by
  induction cs generalizing afterCased with
  | nil => rfl
  | cons c rest ih =>
      rw [List.mem_cons, not_or] at h
      rw [lowerAfter, List.flatMap_cons, ih h.2, if_neg (Ne.symm h.1)]

end Text

namespace Source

open Text

/-! ## Latin letters -/

theorem toNat_of_isAlphanum {c : Char} (h : c.isAlphanum = true) : c.toNat < 128 := by
  have hkind : ('A' ≤ c ∧ c ≤ 'Z' || isSmall c || '0' ≤ c && c ≤ '9') = true := h
  simp only [isSmall, Bool.or_eq_true, Bool.and_eq_true, decide_eq_true_eq, Char.le_def,
    UInt32.le_iff_toNat_le] at hkind
  have hnat : c.toNat = c.val.toNat := rfl
  have hcapital : 'Z'.val.toNat = 90 := rfl
  have hsmall : 'z'.val.toNat = 122 := rfl
  have hdigit : '9'.val.toNat = 57 := rfl
  omega

theorem toNat_of_isSmall {c : Char} (h : isSmall c = true) : c.toNat < 128 := by
  rw [isSmall, Bool.and_eq_true, decide_eq_true_eq, decide_eq_true_eq] at h
  have hlast : c.toNat ≤ 122 := h.2
  omega

/-- The capital of a small Latin letter is one, and is the same letter. -/
theorem toUpper_of_isSmall {c : Char} (h : isSmall c = true) :
    isCapital c = false ∧ isCapital c.toUpper = true ∧ SameLetter c.toUpper c :=
  forall_ascii (p := fun c => isSmall c = true →
    isCapital c = false ∧ isCapital c.toUpper = true ∧ SameLetter c.toUpper c)
    (by decide +kernel) (toNat_of_isSmall h) h

/-- The small form of a Latin letter or a digit: a capital becomes a small letter that knows its
capital, and everything else stays as it is. -/
theorem small_of_isAlphanum {c : Char} (h : c.isAlphanum = true) :
    c ≠ 'Σ' ∧ c ≠ '-' ∧
      if isCapital c then
        small c = [c.toLower] ∧ isSmall c.toLower = true ∧ c.toLower.toUpper = c
      else small c = [c] :=
  forall_ascii (p := fun c => c.isAlphanum = true → c ≠ 'Σ' ∧ c ≠ '-' ∧
      if isCapital c then
        small c = [c.toLower] ∧ isSmall c.toLower = true ∧ c.toLower.toUpper = c
      else small c = [c])
    (by decide +kernel) (toNat_of_isAlphanum h) h

/-! ## Kebab case of camel case -/

theorem dashCapitals_cons (c : Char) (cs : List Char) :
    dashCapitals (c :: cs) = (if isCapital c then ['-', c] else [c]) ++ dashCapitals cs :=
  List.flatMap_cons

/-- Whether a dash and a small letter are written or the capital for them, is all the same to the
small form. -/
theorem sameLower_camelAfter (cs : List Char) (dash : Bool) :
    SameLower (dashCapitals (camelAfter dash cs))
      (dashCapitals ((if dash then ['-'] else []) ++ cs)) := by
  induction cs generalizing dash with
  | nil => cases dash <;> exact SameLower.refl _
  | cons c rest ih =>
      rw [camelAfter]
      split
      · next hboth =>
          rw [Bool.and_eq_true] at hboth
          obtain ⟨hdash, hsmall⟩ := hboth
          obtain ⟨hplain, hcapital, hletter⟩ := toUpper_of_isSmall hsmall
          rw [hdash, if_pos rfl, List.singleton_append, dashCapitals_cons, dashCapitals_cons,
            dashCapitals_cons, hcapital, hplain]
          exact ((ih false).letter hletter).cons '-'
      · have hfront (front more : List Char) :
            dashCapitals (front ++ more) = dashCapitals front ++ dashCapitals more :=
          List.flatMap_append
        rw [hfront, hfront]
        refine SameLower.append ?_ _
        split
        · next hc =>
            rw [hc]
            exact ih true
        · rw [dashCapitals_cons, dashCapitals_cons]
          exact (ih false).append _

/-- The kebab case of a key is that of its camel case. -/
theorem kebabCase_camelCase (k : String) : kebabCase (camelCase k) = kebabCase k := by
  rw [kebabCase, camelCase, String.toList_ofList, kebabCase, kebabChars, kebabChars,
    (sameLower_camelAfter k.toList false).lower]
  rfl

/-! ## Camel case of kebab case -/

/-- A dash and the small letter for each capital one. -/
def splitCapitals (cs : List Char) : List Char :=
  cs.flatMap fun c => if isCapital c then ['-', c.toLower] else [c]

theorem lowerAfter_dashCapitals {cs : List Char} (h : ∀ c ∈ cs, c.isAlphanum = true)
    (afterCased : Bool) : lowerAfter afterCased (dashCapitals cs) = splitCapitals cs := by
  have hsigma : 'Σ' ∉ dashCapitals cs := by
    rw [dashCapitals, List.mem_flatMap]
    rintro ⟨c, hc, hmem⟩
    obtain ⟨hne, -⟩ := small_of_isAlphanum (h c hc)
    split at hmem <;> simp [hne.symm] at hmem
  rw [lowerAfter_of_not_mem hsigma, dashCapitals, List.flatMap_assoc, splitCapitals]
  refine List.flatMap_congr fun c hc => ?_
  obtain ⟨-, -, hform⟩ := small_of_isAlphanum (h c hc)
  split at hform
  · next hcapital =>
      rw [if_pos hcapital, if_pos hcapital, List.flatMap_cons, List.flatMap_singleton, hform.1]
      rfl
  · next hplain => rw [if_neg hplain, if_neg hplain, List.flatMap_singleton, hform]

theorem camelAfter_splitCapitals {cs : List Char} (h : ∀ c ∈ cs, c.isAlphanum = true) :
    camelAfter false (splitCapitals cs) = cs := by
  induction cs with
  | nil => rfl
  | cons c rest ih =>
      rw [List.forall_mem_cons] at h
      obtain ⟨-, hdash, hform⟩ := small_of_isAlphanum h.1
      rw [splitCapitals, List.flatMap_cons, ← splitCapitals]
      split at hform
      · next hcapital =>
          obtain ⟨-, hsmall, hupper⟩ := hform
          simp [hcapital, camelAfter, hsmall, hupper, ih h.2]
      · next hplain =>
          simp [hplain, camelAfter, hdash, ih h.2]

/-- A name in camel case: Latin letters and digits, and a small letter first. -/
structure IsCamel (k : String) : Prop where
  alphanum : ∀ c ∈ k.toList, c.isAlphanum = true
  first : k.toList.head?.any isSmall = true

theorem camelCase_kebabCase {k : String} (h : IsCamel k) : camelCase (kebabCase k) = k := by
  obtain ⟨c, rest, hk, hsmall⟩ : ∃ c rest, k.toList = c :: rest ∧ isSmall c = true := by
    have hfirst := h.first
    cases hk : k.toList with
    | nil =>
        rw [hk] at hfirst
        cases hfirst
    | cons c rest =>
        rw [hk] at hfirst
        exact ⟨c, rest, rfl, hfirst⟩
  -- No capital stands first, so no dash does.
  have hdash : dropDash (splitCapitals k.toList) = splitCapitals k.toList := by
    have hplain := (toUpper_of_isSmall hsmall).1
    have hne := (small_of_isAlphanum (h.alphanum c (hk ▸ List.mem_cons_self))).2.1
    rw [hk, splitCapitals, List.flatMap_cons, hplain]
    simp only [Bool.false_eq_true, if_false, List.singleton_append]
    unfold dropDash
    split
    · next heq => exact absurd (List.cons.inj heq).1 hne
    · rfl
  rw [camelCase, kebabCase, String.toList_ofList, kebabChars, lowerAfter_dashCapitals h.alphanum,
    hdash, camelAfter_splitCapitals h.alphanum, String.ofList_toList]

/-- The key that markup has for a style and the property that the stylesheet has for it are two
spellings of one name, whatever the key is that both are made from; and a name in camel case can be
read back from its kebab case. -/
theorem style_names (k : String) :
    kebabCase (camelCase k) = kebabCase k ∧ (IsCamel k → camelCase (kebabCase k) = k) :=
  ⟨kebabCase_camelCase k, camelCase_kebabCase⟩

theorem style_names_adjacent :
    IsCamel "borderTLRadius2" ∧ camelCase (kebabCase "borderTLRadius2") = "borderTLRadius2" ∧
      kebabCase "borderTLRadius2" = "border-t-l-radius2" := by
  have h : IsCamel "borderTLRadius2" := ⟨by simp, rfl⟩
  exact ⟨h, (style_names _).2 h, rfl⟩

end Source

end ScreenBridge
