import ScreenBridge.AppConfig
import ScreenBridge.Proofs.NodeMembers

/-!
# Configurations that read back

A configuration goes out in a form of its own: under the first name of each
field, without what is null, and with the unknown members of a theme behind its
fields. Such a text is meant to be a configuration again, and the same one.

It is, but for one case. A field of a theme has two names, and the first one
counts. If it is null there, what stands under the second name is an unknown
member and is kept as it is. Then the null is left out, and what is kept comes
to be read as the field (`Theme.Veils`). It was never checked as one, so it may
be refused; if it is accepted, it goes out under the first name next time. So
`rereads_iff` says exactly when a configuration reads back. Themes are the only
records with this case, since the others drop what they do not know.
-/

namespace ScreenBridge

open Schema

/-! ## Fields -/

namespace Schema

variable {α β : Type} {members : Keyed Json} {name : String} {others : List String}

theorem get?_member? (o : Option Json) (key : String) :
    (member? name o).get? key = if name = key then o else none := by
  cases o with
  | none => exact (ite_self _).symm
  | some v => rfl

theorem present?_of_get?_eq_some {v : Json} (h : members.get? name = some v) :
    present? members (name :: others) = some (name, v) := by
  rw [present?, h]

theorem present?_of_get?_eq_none (h : members.get? name = none) :
    present? members (name :: others) = present? members others := by
  rw [present?, h]

theorem mem_of_present? {names : List String} {v : Json}
    (h : present? members names = some (name, v)) : name ∈ names ∧ (name, v) ∈ members := by
  induction names with
  | nil => cases h
  | cons first rest ih =>
      rw [present?] at h
      split at h
      · next u hu =>
          cases h
          exact ⟨List.mem_cons_self, Keyed.mem_of_get?_eq_some hu⟩
      · exact (ih h).imp_left (List.mem_cons_of_mem _)

theorem nullable_eq_none {read : Json → Checked α} {v : Json}
    (h : nullable read v = .valid none) : v = .null := by
  unfold nullable at h
  split at h
  · rfl
  · obtain ⟨a, -, heq⟩ := Checked.map_eq_valid.mp h
    cases heq

theorem optional_eq_valid {read : Json → Checked α} {names : List String} {a default : α}
    {v : Json} (hpresent : present? members names = some (name, v))
    (h : optional members names default read = .valid a) : read v = .valid a := by
  rw [optional, hpresent] at h
  exact under_eq_valid.mp h

theorem field_eq_none_iff {read : Json → Checked α} {names : List String} {o : Option α} {v : Json}
    (hpresent : present? members names = some (name, v))
    (h : optional members names none (nullable read) = .valid o) : o = none ↔ v = .null := by
  have hread := optional_eq_valid hpresent h
  constructor
  · rintro rfl
    exact nullable_eq_none hread
  · rintro rfl
    cases hread
    rfl

theorem required_written {read : Json → Checked α} {v : Json} {a : α}
    (hget : members.get? name = some v) (hread : read v = .valid a) :
    required members (name :: others) read = .valid a := by
  rw [required, present?, hget]
  exact under_eq_valid.mpr hread

theorem optional_written {read : Json → Checked α} {v : Json} {a default : α}
    (hget : members.get? name = some v) (hread : read v = .valid a) :
    optional members (name :: others) default read = .valid a := by
  rw [optional, present?, hget]
  exact under_eq_valid.mpr hread

theorem mem_member? {o : Option Json} {key : String} {v : Json} :
    (key, v) ∈ member? name o ↔ key = name ∧ o = some v := by
  cases o <;> simp [member?, eq_comm]

/-- A nullable field that is written only if it has a value is read from what was
written, or from nothing. -/
theorem nullable_written_iff {read : Json → Checked β} {write : α → Json} {o : Option α}
    {o' : Option β} (hget : members.get? name = o.map write) (hvalue : ∀ a, write a ≠ .null)
    (hothers : o = none → present? members others = none) :
    optional members (name :: others) none (nullable read) = .valid o' ↔
      Option.Rel (fun a b => read (write a) = .valid b) o o' := by
  cases o with
  | none =>
      rw [optional, present?_of_get?_eq_none hget, hothers rfl]
      dsimp only
      constructor
      · intro h
        cases h
        exact .none
      · rintro ⟨⟩
        rfl
  | some a =>
      have hnullable : nullable read (write a) = (read (write a)).map some := by
        cases hw : write a with
        | null => exact absurd hw (hvalue a)
        | _ => rfl
      rw [optional, present?_of_get?_eq_some hget]
      dsimp only
      rw [under_eq_valid, hnullable, Checked.map_eq_valid]
      constructor
      · rintro ⟨b, hb, rfl⟩
        exact .some hb
      · intro h
        cases h with
        | some hb => exact ⟨_, hb, rfl⟩

theorem rel_self {read : Json → Checked α} {write : α → Json} {o : Option α}
    (h : ∀ a, read (write a) = .valid a) :
    Option.Rel (fun a b => read (write a) = .valid b) o o := by
  cases o with
  | none => exact .none
  | some a => exact .some (h a)

theorem string_str (s : String) : string (.str s) = .valid s := rfl

theorem nonEmptyString_str {s : String} (h : s ≠ "") : nonEmptyString (.str s) = .valid s := by
  rw [nonEmptyString, if_neg (by simpa using h)]

theorem itemsFrom_string (i : Nat) (ss : List String) :
    itemsFrom string i (ss.map .str) = .valid ss := by
  induction ss generalizing i with
  | nil => rfl
  | cons s ss ih =>
      rw [List.map_cons, itemsFrom, ih]
      rfl

theorem list_string (ss : List String) : list string (.arr (ss.map .str)) = .valid ss :=
  itemsFrom_string 0 ss

end Schema

/-! ## Colours and text styles -/

theorem ColorScheme.ofJson_toJson (c : ColorScheme) : ofJson c.toJson = .valid c := rfl

theorem TextTheme.ofJson_toJson (t : TextTheme) : ofJson t.toJson = .valid t := by
  obtain ⟨headline, large, medium⟩ := t
  cases headline <;> cases large <;> cases medium <;> rfl

/-! ## Themes -/

namespace Theme

variable {members : Keyed Json} {t : Theme} {key name other : String} {v : Json}

/-- The two names of each field that a theme may do without. -/
def optionalNames : List (String × String) :=
  [("colorScheme", "color_scheme"), ("textTheme", "text_theme")]

/-- The members of a theme in which a field is null under its first name and is
something else under its second one. -/
def Veils (members : Keyed Json) : Prop :=
  ∃ names ∈ optionalNames, members.get? names.1 = some .null ∧
    ∃ member ∈ members, member.1 = names.2 ∧ member.2 ≠ .null

instance : Decidable (Veils members) :=
  inferInstanceAs (Decidable (∃ names ∈ optionalNames, members.get? names.1 = some .null ∧
    ∃ member ∈ members, member.1 = names.2 ∧ member.2 ≠ .null))

/-! ### What is not a field -/

theorem mem_fieldNames_of_mem_optionalNames :
    ∀ names ∈ optionalNames, [names.1, names.2] ∈ fieldNames := by
  decide

theorem fieldNames_apart : ∀ names ∈ fieldNames, ∀ names' ∈ fieldNames,
    ∀ key ∈ names, key ∈ names' → names = names' := by
  decide

theorem fieldNames_nodup : ∀ names ∈ fieldNames, names.Nodup := by
  decide

/-- The names that the fields of a theme were read under. -/
def usedNames (members : Keyed Json) : List String :=
  fieldNames.filterMap fun names => (present? members names).map Prod.fst

theorem mem_extrasOf {member : String × Json} :
    member ∈ extrasOf members ↔ member ∈ members ∧ member.1 ∉ usedNames members := by
  rw [extrasOf, List.mem_filter, ← usedNames]
  simp

theorem mem_usedNames :
    key ∈ usedNames members ↔
      ∃ names ∈ fieldNames, ∃ v, present? members names = some (key, v) := by
  simp [usedNames]

theorem first_mem_usedNames (hnames : [name, other] ∈ fieldNames) (h : name ∈ members.keys) :
    name ∈ usedNames members := by
  obtain ⟨v, hv⟩ := Option.isSome_iff_exists.mp ((members.get?_isSome_iff name).mpr h)
  exact mem_usedNames.mpr ⟨_, hnames, v, present?_of_get?_eq_some hv⟩

theorem second_mem_usedNames_iff (hnames : [name, other] ∈ fieldNames)
    (h : other ∈ members.keys) : other ∈ usedNames members ↔ members.get? name = none := by
  obtain ⟨v, hv⟩ := Option.isSome_iff_exists.mp ((members.get?_isSome_iff other).mpr h)
  constructor
  · intro hused
    obtain ⟨names, hmem, w, hpresent⟩ := mem_usedNames.mp hused
    obtain rfl := fieldNames_apart _ hnames _ hmem other (by simp) (mem_of_present? hpresent).1
    cases hname : members.get? name with
    | none => rfl
    | some u =>
        rw [present?_of_get?_eq_some hname] at hpresent
        cases hpresent
        exact absurd (fieldNames_nodup _ hnames) (by simp)
  · intro hname
    refine mem_usedNames.mpr ⟨_, hnames, v, ?_⟩
    rw [present?_of_get?_eq_none hname]
    exact present?_of_get?_eq_some hv

theorem first_not_mem_extrasOf (hnames : [name, other] ∈ fieldNames) :
    name ∉ (extrasOf members).keys := by
  intro hmem
  obtain ⟨member, hextra, rfl⟩ := List.mem_map.mp hmem
  obtain ⟨hmember, hunused⟩ := mem_extrasOf.mp hextra
  exact hunused (first_mem_usedNames hnames (List.mem_map_of_mem hmember))

/-- A member under the second name of a field is kept exactly if the first name is
there too. -/
theorem second_mem_extrasOf_iff (hnames : [name, other] ∈ fieldNames) :
    (other, v) ∈ extrasOf members ↔ (other, v) ∈ members ∧ members.get? name ≠ none := by
  rw [mem_extrasOf]
  refine and_congr_right fun hmember => not_congr ?_
  exact second_mem_usedNames_iff hnames (List.mem_map_of_mem hmember)

/-! ### What is written -/

/-- The members under the names of the fields. -/
def fields (t : Theme) : Keyed Json :=
  [("primaryColor", .str t.primaryColor)] ++
    member? "colorScheme" (t.colorScheme.map ColorScheme.toJson) ++
    member? "textTheme" (t.textTheme.map TextTheme.toJson)

/-- What is kept of the unknown members. -/
def kept (t : Theme) : Keyed Json :=
  t.extras.filter fun kv => kv.2 ≠ .null

def written (t : Theme) : Keyed Json :=
  t.fields ++ t.kept

theorem toJson_eq (t : Theme) : t.toJson = .obj t.written := rfl

theorem mem_kept : (key, v) ∈ t.kept ↔ (key, v) ∈ t.extras ∧ v ≠ .null := by
  simp [kept]

theorem of_mem_fields (h : (key, v) ∈ t.fields) :
    (∃ other, [key, other] ∈ fieldNames) ∧ v ≠ .null := by
  simp only [fields, List.mem_append, List.mem_singleton, mem_member?, Option.map_eq_some_iff,
    Prod.mk.injEq] at h
  rcases h with (⟨rfl, rfl⟩ | ⟨rfl, c, -, rfl⟩) | ⟨rfl, texts, -, rfl⟩
  · exact ⟨⟨"primary_color", by decide⟩, Json.noConfusion⟩
  · exact ⟨⟨"color_scheme", by decide⟩, Json.noConfusion⟩
  · exact ⟨⟨"text_theme", by decide⟩, Json.noConfusion⟩

theorem ne_null_of_mem_written (h : (key, v) ∈ t.written) : v ≠ .null := by
  rcases List.mem_append.mp h with hfield | hkept
  · exact (of_mem_fields hfield).2
  · exact (mem_kept.mp hkept).2

theorem second_not_mem_fields (hnames : [name, other] ∈ fieldNames) : other ∉ t.fields.keys := by
  intro hmem
  obtain ⟨⟨key, v⟩, hfield, rfl⟩ := List.mem_map.mp hmem
  obtain ⟨second, hsecond⟩ := (of_mem_fields hfield).1
  have heq := fieldNames_apart _ hnames _ hsecond key (by simp) (by simp)
  cases heq
  exact absurd (fieldNames_nodup _ hnames) (by simp)

theorem eq_pair_of_mem_fieldNames (t : Theme) {names : List String} (h : names ∈ fieldNames) :
    ∃ name other, names = [name, other] ∧
      (t.written.get? name ≠ none ∨ (name, other) ∈ optionalNames) := by
  simp only [fieldNames, List.mem_cons, List.not_mem_nil, or_false] at h
  rcases h with rfl | rfl | rfl
  · exact ⟨_, _, rfl, .inl nofun⟩
  · exact ⟨_, _, rfl, .inr (by decide)⟩
  · exact ⟨_, _, rfl, .inr (by decide)⟩

/-- A theme that goes out with the second name of a field and without its first. -/
def Misnames (t : Theme) : Prop :=
  ∃ names ∈ optionalNames, t.written.get? names.1 = none ∧ names.2 ∈ t.written.keys

/-- What is written for the one theme is read as the other. -/
def ReadsAs (t t' : Theme) : Prop :=
  ofJson t.toJson = .valid t'

/-- What a theme has to do with the members that it was read from. -/
structure ReadFrom (members : Keyed Json) (t : Theme) : Prop where
  primaryColor : required members ["primaryColor", "primary_color"] string = .valid t.primaryColor
  colorScheme : optional members ["colorScheme", "color_scheme"] none
    (nullable ColorScheme.ofJson) = .valid t.colorScheme
  textTheme : optional members ["textTheme", "text_theme"] none
    (nullable TextTheme.ofJson) = .valid t.textTheme
  extras : t.extras = extrasOf members

theorem readFrom_of_ofJson (h : ofJson (.obj members) = .valid t) : ReadFrom members t := by
  simp only [ofJson, record, Checked.map_eq, Checked.seq_eq, Checked.apply_eq_valid,
    Checked.map_eq_valid] at h
  obtain ⟨_, texts, ⟨_, colors, ⟨primary, hprimary, rfl⟩, hcolors, rfl⟩, htexts, rfl⟩ := h
  exact ⟨hprimary, hcolors, htexts, rfl⟩

namespace ReadFrom

variable (h : ReadFrom members t)
include h

theorem first_not_mem_kept (hnames : [name, other] ∈ fieldNames) : name ∉ t.kept.keys := by
  intro hmem
  obtain ⟨member, hkept, rfl⟩ := List.mem_map.mp hmem
  have hextra : member ∈ t.extras := (mem_kept.mp hkept).1
  rw [h.extras] at hextra
  exact first_not_mem_extrasOf hnames (List.mem_map_of_mem hextra)

theorem get?_kept (hnames : [name, other] ∈ fieldNames) : t.kept.get? name = none := by
  rw [← Option.not_isSome_iff_eq_none, Keyed.get?_isSome_iff]
  exact h.first_not_mem_kept hnames

theorem get?_colorScheme :
    t.written.get? "colorScheme" = t.colorScheme.map ColorScheme.toJson := by
  have hnames : ["colorScheme", "color_scheme"] ∈ fieldNames := by decide
  simp [written, fields, Keyed.get?_append, Keyed.get?_cons, get?_member?, h.get?_kept hnames]

theorem get?_textTheme : t.written.get? "textTheme" = t.textTheme.map TextTheme.toJson := by
  have hnames : ["textTheme", "text_theme"] ∈ fieldNames := by decide
  simp [written, fields, Keyed.get?_append, Keyed.get?_cons, get?_member?, h.get?_kept hnames]

/-- A field goes out exactly if what it was read from is not null. -/
theorem get?_written_eq_none_iff {names : String × String} (hnames : names ∈ optionalNames)
    (hpresent : present? members [names.1, names.2] = some (key, v)) :
    t.written.get? names.1 = none ↔ v = .null := by
  rw [optionalNames, List.mem_cons, List.mem_singleton] at hnames
  rcases hnames with rfl | rfl
  · rw [h.get?_colorScheme, Option.map_eq_none_iff]
    exact field_eq_none_iff hpresent h.colorScheme
  · rw [h.get?_textTheme, Option.map_eq_none_iff]
    exact field_eq_none_iff hpresent h.textTheme

theorem misnames_iff : t.Misnames ↔ Veils members := by
  refine exists_congr fun ⟨name, other⟩ => and_congr_right fun hoptional => ?_
  have hnames := mem_fieldNames_of_mem_optionalNames _ hoptional
  dsimp only at hnames ⊢
  constructor
  · rintro ⟨hnone, hother⟩
    rw [written, Keyed.keys, List.map_append, List.mem_append] at hother
    have hsecond := hother.resolve_left (second_not_mem_fields hnames)
    obtain ⟨⟨_, v⟩, hkept, rfl⟩ := List.mem_map.mp hsecond
    obtain ⟨hextra, hv⟩ := mem_kept.mp hkept
    rw [h.extras, second_mem_extrasOf_iff hnames] at hextra
    obtain ⟨w, hw⟩ := Option.ne_none_iff_exists'.mp hextra.2
    have hnull := (h.get?_written_eq_none_iff hoptional (present?_of_get?_eq_some hw)).mp hnone
    exact ⟨hnull ▸ hw, _, hextra.1, rfl, hv⟩
  · rintro ⟨hnull, ⟨key, v⟩, hmember, rfl, hv⟩
    refine ⟨(h.get?_written_eq_none_iff hoptional (present?_of_get?_eq_some hnull)).mpr rfl, ?_⟩
    have hextra : (key, v) ∈ t.extras := by
      rw [h.extras, second_mem_extrasOf_iff hnames, hnull]
      exact ⟨hmember, nofun⟩
    exact List.mem_map_of_mem (List.mem_append_right _ (mem_kept.mpr ⟨hextra, hv⟩))

/-- Nothing that is kept is taken for a field when it is read again. -/
theorem extrasOf_written (hnot : ¬ t.Misnames) : extrasOf t.written = t.kept := by
  have hfields : ∀ member ∈ t.fields, member.1 ∈ usedNames t.written := by
    rintro ⟨key, v⟩ hfield
    obtain ⟨other, hnames⟩ := (of_mem_fields hfield).1
    exact first_mem_usedNames hnames (List.mem_map_of_mem (List.mem_append_left _ hfield))
  have hkept : ∀ member ∈ t.kept, member.1 ∉ usedNames t.written := by
    intro member hmember hused
    have hkey : member.1 ∈ t.kept.keys := List.mem_map_of_mem hmember
    have hwritten : member.1 ∈ t.written.keys :=
      List.mem_map_of_mem (List.mem_append_right _ hmember)
    obtain ⟨names, hnames, v, hpresent⟩ := mem_usedNames.mp hused
    obtain ⟨name, other, rfl, hfirst⟩ := t.eq_pair_of_mem_fieldNames hnames
    rcases List.mem_pair.mp (mem_of_present? hpresent).1 with heq | heq
    · exact h.first_not_mem_kept hnames (heq ▸ hkey)
    · rw [heq] at hused hwritten
      have hnone := (second_mem_usedNames_iff hnames hwritten).mp hused
      exact hfirst.elim (fun hsome => hsome hnone) fun hmem => hnot ⟨_, hmem, hnone, hwritten⟩
  rw [extrasOf, ← usedNames, written, List.filter_append, ← written]
  rw [List.filter_eq_nil_iff.mpr, List.filter_eq_self.mpr, List.nil_append]
  · simpa using hkept
  · simpa using hfields

theorem readsAs (hnot : ¬ t.Misnames) : t.ReadsAs { t with extras := t.kept } := by
  have hothers : ∀ names ∈ optionalNames, t.written.get? names.1 = none →
      present? t.written [names.2] = none := by
    intro names hnames hnone
    rw [present?_singleton, Option.map_eq_none_iff, ← Option.not_isSome_iff_eq_none,
      Keyed.get?_isSome_iff]
    exact fun hother => hnot ⟨names, hnames, hnone, hother⟩
  have hprimary : required t.written ["primaryColor", "primary_color"] string =
      .valid t.primaryColor :=
    required_written rfl rfl
  have hcolors : optional t.written ["colorScheme", "color_scheme"] none
      (nullable ColorScheme.ofJson) = .valid t.colorScheme := by
    refine (nullable_written_iff h.get?_colorScheme nofun fun hnone => ?_).mpr
      (rel_self ColorScheme.ofJson_toJson)
    refine hothers ("colorScheme", "color_scheme") (by decide) ?_
    rw [h.get?_colorScheme, hnone, Option.map_none]
  have htexts : optional t.written ["textTheme", "text_theme"] none
      (nullable TextTheme.ofJson) = .valid t.textTheme := by
    refine (nullable_written_iff h.get?_textTheme nofun fun hnone => ?_).mpr
      (rel_self TextTheme.ofJson_toJson)
    refine hothers ("textTheme", "text_theme") (by decide) ?_
    rw [h.get?_textTheme, hnone, Option.map_none]
  rw [ReadsAs, toJson_eq, ofJson, record, hprimary, hcolors, htexts, h.extrasOf_written hnot]
  rfl

end ReadFrom

/-- A theme reads back as itself unless one of its fields was veiled. -/
theorem reads_back_iff (h : ofJson (.obj members) = .valid t) :
    (∃ t', t.ReadsAs t' ∧ t'.toJson = t.toJson) ↔ ¬ Veils members := by
  have hfrom := readFrom_of_ofJson h
  rw [← hfrom.misnames_iff]
  constructor
  · rintro ⟨t', hread, hsame⟩ ⟨names, hnames, hnone, hother⟩
    have hfrom' : ReadFrom t.written t' := readFrom_of_ofJson hread
    obtain ⟨v, hv⟩ := Option.isSome_iff_exists.mp ((Keyed.get?_isSome_iff _ _).mpr hother)
    have hpresent : present? t.written [names.1, names.2] = some (names.2, v) := by
      rw [present?_of_get?_eq_none hnone]
      exact present?_of_get?_eq_some hv
    have hnull := (hfrom'.get?_written_eq_none_iff hnames hpresent).mp
    rw [toJson_eq, toJson_eq, Json.obj.injEq] at hsame
    rw [hsame] at hnull
    exact ne_null_of_mem_written (Keyed.mem_of_get?_eq_some hv) (hnull hnone)
  · intro hnot
    refine ⟨_, hfrom.readsAs hnot, ?_⟩
    rw [toJson_eq, toJson_eq, written, written, kept, kept, List.filter_filter]
    simp only [Bool.and_self]
    rfl

end Theme

/-! ## Configurations -/

namespace AppConfig

variable {members : Keyed Json} {c c' : AppConfig} {names : List String} {o : Option Theme}

/-- The members of the theme that is given under some names. -/
def themeUnder? (members : Keyed Json) (names : List String) : Option (Keyed Json) :=
  match present? members names with
  | some (_, .obj theme) => some theme
  | _ => none

/-- The names of the two themes. -/
def themeNames : List (List String) :=
  [["theme"], ["darkTheme", "dark_theme"]]

/-- The members of a configuration with a theme that veils one of its fields. -/
def Veils (members : Keyed Json) : Prop :=
  ∃ names ∈ themeNames, ∃ theme ∈ themeUnder? members names, Theme.Veils theme

instance : Decidable (Veils members) :=
  inferInstanceAs (Decidable (∃ names ∈ themeNames,
    ∃ theme ∈ themeUnder? members names, Theme.Veils theme))

/-- What is written for a theme, if there is one, reads back as itself. -/
def ThemeReadsBack (o : Option Theme) : Prop :=
  ∃ o', Option.Rel Theme.ReadsAs o o' ∧ o'.map Theme.toJson = o.map Theme.toJson

theorem themeReadsBack_none : ThemeReadsBack none :=
  ⟨none, .none, rfl⟩

theorem themeReadsBack_some {t : Theme} :
    ThemeReadsBack (some t) ↔ ∃ t', t.ReadsAs t' ∧ t'.toJson = t.toJson := by
  constructor
  · rintro ⟨o', hrel, hsame⟩
    cases hrel with
    | some hread => exact ⟨_, hread, Option.some.inj hsame⟩
  · rintro ⟨t', hread, hsame⟩
    exact ⟨some t', .some hread, congrArg some hsame⟩

theorem themeUnder?_cases (h : optional members names none (nullable Theme.ofJson) = .valid o) :
    (o = none ∧ themeUnder? members names = none) ∨
      ∃ t theme, o = some t ∧ themeUnder? members names = some theme ∧
        Theme.ofJson (.obj theme) = .valid t := by
  unfold themeUnder?
  cases hpresent : present? members names with
  | none =>
      rw [Schema.optional, hpresent] at h
      cases h
      exact .inl ⟨rfl, rfl⟩
  | some member =>
      obtain ⟨name, v⟩ := member
      have hread := optional_eq_valid hpresent h
      cases v with
      | null =>
          cases hread
          exact .inl ⟨rfl, rfl⟩
      | obj theme =>
          obtain ⟨t, ht, rfl⟩ := Checked.map_eq_valid.mp hread
          exact .inr ⟨t, theme, rfl, rfl, ht⟩
      | bool | int | real | str | arr => cases hread

theorem themeReadsBack_iff (h : optional members names none (nullable Theme.ofJson) = .valid o) :
    ThemeReadsBack o ↔ ¬ ∃ theme ∈ themeUnder? members names, Theme.Veils theme := by
  rcases themeUnder?_cases h with ⟨rfl, hnone⟩ | ⟨t, theme, rfl, hsome, ht⟩
  · rw [hnone]
    exact iff_of_true themeReadsBack_none nofun
  · rw [hsome, themeReadsBack_some, Theme.reads_back_iff ht]
    simp

/-- What a configuration has to do with the members that it was read from. -/
structure ReadFrom (members : Keyed Json) (c : AppConfig) : Prop where
  title : required members ["title"] nonEmptyString = .valid c.title
  theme : optional members ["theme"] none (nullable Theme.ofJson) = .valid c.theme
  darkTheme : optional members ["darkTheme", "dark_theme"] none (nullable Theme.ofJson) =
    .valid c.darkTheme

theorem readFrom_of_ofJson (h : ofJson (.obj members) = .valid c) : ReadFrom members c := by
  simp only [ofJson, record, Checked.map_eq, Checked.seq_eq, Checked.apply_eq_valid,
    Checked.map_eq_valid] at h
  obtain ⟨_, _, ⟨_, _, ⟨_, _, ⟨_, _, ⟨_, _, ⟨_, _, ⟨title, htitle, rfl⟩, htheme, rfl⟩, hdark, rfl⟩,
    -, rfl⟩, -, rfl⟩, -, rfl⟩, -, rfl⟩ := h
  exact ⟨htitle, htheme, hdark⟩

theorem ReadFrom.title_ne (h : ReadFrom members c) : c.title ≠ "" := by
  obtain ⟨v, -, hread⟩ := required_one_eq_valid h.title
  exact ne_empty_of_nonEmptyString hread

def written (c : AppConfig) : Keyed Json :=
  [("title", .str c.title)] ++ member? "theme" (c.theme.map Theme.toJson) ++
    member? "darkTheme" (c.darkTheme.map Theme.toJson) ++
    [("routes", .arr (c.routes.map .str)), ("initialRoute", .str c.initialRoute),
      ("supportedLocales", .arr (c.supportedLocales.map .str)),
      ("currentLocale", .str c.currentLocale)]

theorem toJson_eq (c : AppConfig) : c.toJson = .obj c.written := rfl

theorem get?_written (c : AppConfig) {key : String} {o : Option Json}
    (h : (key, o) ∈ [("title", some (.str c.title)), ("theme", c.theme.map Theme.toJson),
      ("darkTheme", c.darkTheme.map Theme.toJson), ("dark_theme", none),
      ("routes", some (.arr (c.routes.map .str))), ("initialRoute", some (.str c.initialRoute)),
      ("supportedLocales", some (.arr (c.supportedLocales.map .str))),
      ("currentLocale", some (.str c.currentLocale))]) :
    c.written.get? key = o := by
  simp only [List.mem_cons, List.not_mem_nil, or_false, Prod.mk.injEq] at h
  rcases h with h | h | h | h | h | h | h | h <;>
    simp [h, written, Keyed.get?_append, Keyed.get?_cons, get?_member?]

theorem get?_theme (c : AppConfig) : c.written.get? "theme" = c.theme.map Theme.toJson :=
  c.get?_written (by simp)

theorem get?_darkTheme (c : AppConfig) :
    c.written.get? "darkTheme" = c.darkTheme.map Theme.toJson :=
  c.get?_written (by simp)

/-- A configuration is read from its own form part by part; only the themes may
come out different, or not at all. -/
theorem ofJson_toJson_iff (htitle : c.title ≠ "") :
    ofJson c.toJson = .valid c' ↔ ∃ theme dark,
      Option.Rel Theme.ReadsAs c.theme theme ∧ Option.Rel Theme.ReadsAs c.darkTheme dark ∧
      c' = { c with theme := theme, darkTheme := dark } := by
  have htitle' : required c.written ["title"] nonEmptyString = .valid c.title :=
    required_written (c.get?_written (by simp)) (nonEmptyString_str htitle)
  have htheme (o) : optional c.written ["theme"] none (nullable Theme.ofJson) = .valid o ↔
      Option.Rel Theme.ReadsAs c.theme o :=
    nullable_written_iff c.get?_theme nofun fun _ => rfl
  have hdark (o) : optional c.written ["darkTheme", "dark_theme"] none (nullable Theme.ofJson) =
      .valid o ↔ Option.Rel Theme.ReadsAs c.darkTheme o :=
    nullable_written_iff c.get?_darkTheme nofun fun _ =>
      present?_of_get?_eq_none (c.get?_written (by simp))
  have hroutes : optional c.written ["routes"] [] (list string) = .valid c.routes :=
    optional_written (c.get?_written (by simp)) (list_string _)
  have hinitial : optional c.written ["initialRoute", "initial_route"] "/" string =
      .valid c.initialRoute :=
    optional_written (c.get?_written (by simp)) (string_str _)
  have hlocales : optional c.written ["supportedLocales", "supported_locales"] ["en"]
      (list string) = .valid c.supportedLocales :=
    optional_written (c.get?_written (by simp)) (list_string _)
  have hlocale : optional c.written ["currentLocale", "current_locale"] "en" string =
      .valid c.currentLocale :=
    optional_written (c.get?_written (by simp)) (string_str _)
  rw [toJson_eq, ofJson, record, htitle', hroutes, hinitial, hlocales, hlocale]
  simp only [Checked.map_eq, Checked.seq_eq, Checked.apply_eq_valid, Checked.map_eq_valid, htheme,
    hdark]
  constructor
  · rintro ⟨_, _, ⟨_, _, ⟨_, _, ⟨_, _, ⟨_, dark, ⟨_, theme, ⟨title, heq, rfl⟩, hrel, rfl⟩, hrel',
      rfl⟩, heq₁, rfl⟩, heq₂, rfl⟩, heq₃, rfl⟩, heq₄, rfl⟩
    cases heq; cases heq₁; cases heq₂; cases heq₃; cases heq₄
    exact ⟨theme, dark, hrel, hrel', rfl⟩
  · rintro ⟨theme, dark, hrel, hrel', rfl⟩
    exact ⟨_, _, ⟨_, _, ⟨_, _, ⟨_, _, ⟨_, dark, ⟨_, theme, ⟨_, rfl, rfl⟩, hrel, rfl⟩, hrel', rfl⟩,
      rfl, rfl⟩, rfl, rfl⟩, rfl, rfl⟩, rfl, rfl⟩

theorem themes_of_toJson_eq (h : c'.toJson = c.toJson) :
    c'.theme.map Theme.toJson = c.theme.map Theme.toJson ∧
      c'.darkTheme.map Theme.toJson = c.darkTheme.map Theme.toJson := by
  rw [toJson_eq, toJson_eq, Json.obj.injEq] at h
  rw [← c.get?_theme, ← c.get?_darkTheme, ← h]
  exact ⟨c'.get?_theme.symm, c'.get?_darkTheme.symm⟩

theorem reads_back_iff_themes (htitle : c.title ≠ "") :
    (∃ c', ofJson c.toJson = .valid c' ∧ c'.toJson = c.toJson) ↔
      ThemeReadsBack c.theme ∧ ThemeReadsBack c.darkTheme := by
  constructor
  · rintro ⟨c', hread, hsame⟩
    obtain ⟨theme, dark, htheme, hdark, rfl⟩ := (ofJson_toJson_iff htitle).mp hread
    obtain ⟨hsame, hsame'⟩ := themes_of_toJson_eq hsame
    exact ⟨⟨theme, htheme, hsame⟩, dark, hdark, hsame'⟩
  · rintro ⟨⟨theme, htheme, hsame⟩, dark, hdark, hsame'⟩
    refine ⟨_, (ofJson_toJson_iff htitle).mpr ⟨theme, dark, htheme, hdark, rfl⟩, ?_⟩
    rw [toJson_eq, toJson_eq, written, written, hsame, hsame']

/-- The form in which a configuration goes out is a configuration again, and one
with the very same form, unless a theme veils one of its fields; then it is not. -/
theorem rereads_iff (h : ofJson (.obj members) = .valid c) :
    (∃ c', ofJson c.toJson = .valid c' ∧ c'.toJson = c.toJson) ↔ ¬ Veils members := by
  have hfrom := readFrom_of_ofJson h
  rw [reads_back_iff_themes hfrom.title_ne, themeReadsBack_iff hfrom.theme,
    themeReadsBack_iff hfrom.darkTheme, Veils, themeNames]
  simp

/-- A configuration that uses both kinds of names, nulls and unknown members. -/
def shop : Keyed Json :=
  [("title", .str "Shop"), ("initial_route", .str "/home"), ("build", .int 7),
    ("theme", .obj [("primary_color", .str "#000"), ("colorScheme", .null), ("fontFamily", .null),
      ("primaryColor", .str "#fff"), ("brightness", .str "dark")]),
    ("dark_theme", .null)]

theorem rereads_iff_shop :
    ∃ c, ofJson (.obj shop) = .valid c ∧ ∃ c', ofJson c.toJson = .valid c' ∧ c'.toJson = c.toJson :=
  have hveils : ¬ Veils shop := by decide
  ⟨_, rfl, (rereads_iff rfl).mpr hveils⟩

/-- A configuration whose theme says that it has no colours, and has a member under
their other name. -/
def veiled (colors : Json) : Keyed Json :=
  [("title", .str "Shop"),
    ("theme", .obj [("primaryColor", .str "#fff"), ("colorScheme", .null),
      ("color_scheme", colors)])]

/-- What goes out is refused when it comes back, or it is taken and goes out in
another form. -/
theorem not_reread_veiled :
    (∃ c, ofJson (.obj (veiled (.str "blue"))) = .valid c ∧
      ∃ issues, ofJson c.toJson = .invalid issues) ∧
    ∃ c c', ofJson (.obj (veiled (ColorScheme.toJson ⟨"a", "b", "c", "d"⟩))) = .valid c ∧
      ofJson c.toJson = .valid c' ∧ c'.toJson ≠ c.toJson :=
  ⟨⟨_, rfl, _, rfl⟩, _, _, rfl, rfl, by decide⟩

end AppConfig

end ScreenBridge
