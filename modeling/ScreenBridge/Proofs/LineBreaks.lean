import ScreenBridge.Proofs.CaseMapping
import ScreenBridge.Proofs.MarkupShape
import ScreenBridge.Proofs.TextLength

/-!
# What stays on one line

Values are written on one line, whatever they hold: a line break inside a
string is escaped in every form but one. That form is the attribute of a string,
where the string stands for itself; so do the names that an attribute is made
of. `OneLine` asks of a widget that these have no line break, and then its
attributes have none (`break_attributes`).
-/

namespace ScreenBridge

open Mapping (Registry Entry)
open Ui (Node)

theorem break_flatMap {α : Type} {f : α → List Char} {cs : List α} (h : ∀ c ∈ cs, '\n' ∉ f c) :
    '\n' ∉ cs.flatMap f := by
  rw [List.mem_flatMap]
  rintro ⟨c, hc, hmem⟩
  exact h c hc hmem

theorem break_cons {c : Char} {cs : List Char} (hc : c ≠ '\n') (hcs : '\n' ∉ cs) :
    '\n' ∉ c :: cs :=
  List.not_mem_cons_of_ne_of_not_mem hc.symm hcs

theorem break_append {cs cs' : List Char} (h : '\n' ∉ cs) (h' : '\n' ∉ cs') :
    '\n' ∉ cs ++ cs' := by
  rw [List.mem_append, not_or]
  exact ⟨h, h'⟩

theorem break_enclosed {first last : Char} {cs : List Char} (hfirst : first ≠ '\n')
    (hcs : '\n' ∉ cs) (hlast : last ≠ '\n') : '\n' ∉ first :: (cs ++ [last]) :=
  break_cons hfirst (break_append hcs (break_cons hlast List.not_mem_nil))

/-! ## Values -/

namespace Json

theorem break_of_numeral {cs : List Char} (h : ∀ c ∈ cs, Numeral c) : '\n' ∉ cs :=
  fun hmem => absurd (h _ hmem) (by decide)

theorem digitChar_ne : ∀ n < 16, Nat.digitChar n ≠ '\n' := by decide

theorem break_toDigits (n : Nat) : '\n' ∉ Nat.toDigits 16 n := by
  induction n using Nat.strongRecOn with
  | ind n ih =>
      rw [Nat.toDigits_eq_if (by decide)]
      split
      · next h => exact fun hmem => digitChar_ne n h (List.mem_singleton.mp hmem).symm
      · next h =>
          have hlast := digitChar_ne (n % 16) (Nat.mod_lt _ (by decide))
          exact break_append (ih _ (Nat.div_lt_self (by omega) (by decide)))
            (break_cons hlast List.not_mem_nil)

theorem break_hexDigits (width n : Nat) : '\n' ∉ hexDigits width n := by
  rw [hexDigits]
  exact break_append (fun h => absurd (List.eq_of_mem_replicate h) (by decide)) (break_toDigits n)

theorem break_unicodeEscape {c : Char} (hc : c.toNat < 0x20) : '\n' ∉ unicodeEscape c := by
  have hhigh := digitChar_ne (c.toNat / 16) (by omega)
  have hlow := digitChar_ne (c.toNat % 16) (by omega)
  have hdigits := break_cons hhigh (break_cons hlow List.not_mem_nil)
  exact break_append (by decide : '\n' ∉ ['\\', 'u', '0', '0']) hdigits

theorem break_quotedChar (c : Char) : '\n' ∉ quotedChar c := by
  unfold quotedChar
  repeat' split
  all_goals first | decide | skip
  · next hc => exact break_unicodeEscape hc
  · next hc _ _ _ _ _ => exact fun hmem => hc (List.mem_singleton.mp hmem).symm

theorem break_quotedChars (cs : List Char) : '\n' ∉ quotedChars cs :=
  break_enclosed (by decide) (break_flatMap fun c _ => break_quotedChar c) (by decide)

section
variable {f : Form}

theorem Form.OneLine.break_lineBreak (hf : f.OneLine) (level : Nat) :
    '\n' ∉ f.lineBreak level := by
  rw [hf.lineBreak]
  exact List.not_mem_nil

mutual

theorem break_chars (hf : f.OneLine) : ∀ (v : Json) (level : Nat), '\n' ∉ chars f level v
  | .null, _ => by rw [chars]; decide
  | .bool true, _ => by rw [chars]; decide
  | .bool false, _ => by rw [chars]; decide
  | .int i, _ => break_of_numeral (numeral_intChars i)
  | .real x, _ => break_of_numeral (numeral_layout _ x)
  | .str s, _ => break_quotedChars s.toList
  | .arr [], _ => by rw [chars]; decide
  | .obj [], _ => by rw [chars]; decide
  | .arr (x :: rest), level => by
      have hinside := break_append (break_append (hf.break_lineBreak (level + 1))
        (break_chars hf x (level + 1))) (break_moreItems hf rest (level + 1))
      rw [chars]
      exact break_enclosed (by decide) (break_append hinside (hf.break_lineBreak level)) (by decide)
  | .obj ((k, v) :: rest), level => by
      have hkey := break_append (break_append (hf.break_lineBreak (level + 1))
        (break_quotedChars k.toList)) hf.breaks.1
      have hinside := break_append (break_append hkey (break_chars hf v (level + 1)))
        (break_moreMembers hf rest (level + 1))
      rw [chars]
      exact break_enclosed (by decide) (break_append hinside (hf.break_lineBreak level)) (by decide)

theorem break_moreItems (hf : f.OneLine) : ∀ (xs : List Json) (level : Nat),
    '\n' ∉ moreItems f level xs
  | [], _ => List.not_mem_nil
  | x :: rest, level => by
      have hcomma := break_append hf.breaks.2 (hf.break_lineBreak level)
      rw [moreItems]
      exact break_append (break_append hcomma (break_chars hf x level))
        (break_moreItems hf rest level)

theorem break_moreMembers (hf : f.OneLine) : ∀ (ms : List (String × Json)) (level : Nat),
    '\n' ∉ moreMembers f level ms
  | [], _ => List.not_mem_nil
  | (k, v) :: rest, level => by
      have hcomma := break_append hf.breaks.2 (hf.break_lineBreak level)
      have hkey := break_append (break_append hcomma (break_quotedChars k.toList)) hf.breaks.1
      rw [moreMembers]
      exact break_append (break_append hkey (break_chars hf v level))
        (break_moreMembers hf rest level)

end

end

/-- Text on the wire is on one line. -/
theorem break_encode (v : Json) : '\n' ∉ v.encode.toList := by
  rw [encode, encodeWith, text, String.toList_ofList]
  exact break_chars (oneLine_formFor v) v 0

theorem break_literalChar {quote : Char} (hquote : quote ≠ '\n') (c : Char) :
    '\n' ∉ literalChar quote c := by
  unfold literalChar
  repeat' split
  all_goals first | decide | skip
  · next h =>
      have hc : c ≠ '\n' := by
        rintro rfl
        rcases h with h | h
        · exact hquote h.symm
        · cases h
      exact break_cons (by decide) (break_cons hc List.not_mem_nil)
  · next hc _ _ _ => exact fun hmem => hc (List.mem_singleton.mp hmem).symm
  all_goals exact break_cons (by decide) (break_cons (by decide) (break_hexDigits _ _))

theorem break_literalChars (cs : List Char) : '\n' ∉ literalChars cs := by
  have hquote : (if cs.contains '\'' && !cs.contains '"' then '"' else '\'') ≠ '\n' := by
    split <;> decide
  exact break_enclosed hquote (break_flatMap fun c _ => break_literalChar hquote c) hquote

mutual

theorem break_outlineChars : ∀ v : Json, '\n' ∉ v.outlineChars
  | .null => by decide
  | .bool true => by decide
  | .bool false => by decide
  | .int i => break_of_numeral (numeral_intChars i)
  | .real x => break_of_numeral (numeral_layout _ x)
  | .str s => break_literalChars s.toList
  | .arr [] => by decide
  | .obj [] => by decide
  | .arr (x :: rest) => by
      rw [outlineChars]
      exact break_enclosed (by decide)
        (break_append (break_outlineChars x) (break_outlineItems rest)) (by decide)
  | .obj ((k, v) :: rest) => by
      have hmembers := break_enclosed (by decide : ' ' ≠ '\n')
        (break_append (break_outlineChars v) (break_outlineMembers rest))
        (by decide : '\x7d' ≠ '\n')
      rw [outlineChars]
      exact break_cons (by decide)
        (break_append (break_literalChars k.toList) (break_cons (by decide) hmembers))

theorem break_outlineItems : ∀ xs : List Json, '\n' ∉ outlineItems xs
  | [] => List.not_mem_nil
  | x :: rest => by
      rw [outlineItems]
      exact break_cons (by decide) (break_cons (by decide)
        (break_append (break_outlineChars x) (break_outlineItems rest)))

theorem break_outlineMembers : ∀ ms : List (String × Json), '\n' ∉ outlineMembers ms
  | [] => List.not_mem_nil
  | (k, v) :: rest => by
      have hvalue := break_append (break_outlineChars v) (break_outlineMembers rest)
      rw [outlineMembers]
      exact break_cons (by decide) (break_cons (by decide) (break_append
        (break_literalChars k.toList) (break_cons (by decide) (break_cons (by decide) hvalue))))

end

/-- Only a string can bring a line break into other text. -/
theorem break_plain {v : Json} (h : ∀ s, v = .str s → '\n' ∉ s.toList) : '\n' ∉ v.plain.toList := by
  unfold plain
  split
  · next s => exact h s rfl
  · rw [outline, String.toList_ofList]
    exact break_outlineChars v

end Json

/-! ## Names -/

namespace Text

theorem break_small {c : Char} (hc : c ≠ '\n') : '\n' ∉ small c := by
  unfold small
  split
  · decide
  · split
    · next d himage =>
        obtain ⟨hnat, -, hd⟩ := toNat_ofNat_image toLetters_capitalRuns himage
        intro hmem
        rw [← List.mem_singleton.mp hmem] at hnat
        have hbreak : ('\n' : Char).toNat = 10 := rfl
        omega
    · exact fun hmem => hc (List.mem_singleton.mp hmem).symm

theorem break_lowerAfter {cs : List Char} (h : '\n' ∉ cs) (afterCased : Bool) :
    '\n' ∉ lowerAfter afterCased cs := by
  induction cs generalizing afterCased with
  | nil => exact List.not_mem_nil
  | cons c rest ih =>
      rw [List.mem_cons, not_or] at h
      rw [lowerAfter]
      refine break_append ?_ (ih h.2 _)
      split
      · split <;> decide
      · exact break_small (Ne.symm h.1)

end Text

namespace Source

open Text

theorem break_kebabCase {s : String} (h : '\n' ∉ s.toList) : '\n' ∉ (kebabCase s).toList := by
  have hdashes : '\n' ∉ dashCapitals s.toList := by
    refine break_flatMap fun c hc => ?_
    have hne : '\n' ≠ c := fun heq => h (heq ▸ hc)
    split <;> simp [hne]
  have hlower := break_lowerAfter hdashes false
  rw [kebabCase, String.toList_ofList, kebabChars]
  generalize lowerAfter false (dashCapitals s.toList) = cs at hlower ⊢
  unfold dropDash
  split
  · exact fun hmem => hlower (List.mem_cons_of_mem _ hmem)
  · exact hlower

theorem break_cssClass {name : String} (h : '\n' ∉ name.toList) :
    '\n' ∉ (cssClass name).toList := by
  rw [cssClass, String.toList_append]
  exact break_append (by decide) (break_kebabCase h)

theorem toUpper_ne {c : Char} (h : isSmall c = true) : c.toUpper ≠ '\n' := by
  simp only [isSmall, Bool.and_eq_true, decide_eq_true_eq] at h
  obtain ⟨hlow, hhigh⟩ := h
  unfold Char.toUpper
  rw [dif_pos ⟨hlow, hhigh⟩]
  intro heq
  have hval := congrArg (fun d : Char => d.val.toNat) heq
  rw [Char.le_def, UInt32.le_iff_toNat_le] at hlow hhigh
  simp only [UInt32.toNat_add, UInt32.toNat_sub, UInt32.reduceToNat, Char.reduceVal]
    at hval hlow hhigh
  omega

theorem break_camelAfter {cs : List Char} (h : '\n' ∉ cs) (dash : Bool) :
    '\n' ∉ camelAfter dash cs := by
  induction cs generalizing dash with
  | nil => cases dash <;> decide
  | cons c rest ih =>
      rw [List.mem_cons, not_or] at h
      have hdash : '\n' ∉ if dash then ['-'] else [] := by
        split <;> decide
      rw [camelAfter]
      split
      · next hsmall =>
          rw [Bool.and_eq_true] at hsmall
          exact break_cons (toUpper_ne hsmall.2) (ih h.2 _)
      · refine break_append hdash ?_
        split
        · exact ih h.2 _
        · exact break_cons (Ne.symm h.1) (ih h.2 _)

theorem break_camelCase {s : String} (h : '\n' ∉ s.toList) : '\n' ∉ (camelCase s).toList := by
  rw [camelCase, String.toList_ofList]
  exact break_camelAfter h false

/-! ## Literals and attributes -/

theorem break_scriptLiteral (v : Json) : '\n' ∉ (scriptLiteral v).toList := by
  have hchar (c : Char) : '\n' ∉ scriptChar c := by
    unfold scriptChar
    repeat' split
    all_goals first | decide | skip
    next hc => exact fun hmem => hc (List.mem_singleton.mp hmem).symm
  have houtline (v : Json) : '\n' ∉ v.outline.toList := by
    rw [Json.outline, String.toList_ofList]
    exact Json.break_outlineChars v
  unfold scriptLiteral
  split
  · decide
  · decide
  · decide
  · rw [scriptString, String.toList_ofList]
    exact break_enclosed (by decide) (break_flatMap fun c _ => hchar c) (by decide)
  · exact houtline _
  · exact houtline _
  · exact Json.break_encode _
  · exact Json.break_encode _

theorem break_expression {name code : String} (hname : '\n' ∉ name.toList)
    (hcode : '\n' ∉ code.toList) : '\n' ∉ (expression name code).toList := by
  simp only [expression, String.toList_append]
  exact break_append (break_append (break_append hname (by decide)) hcode) (by decide)

theorem break_attributeText {name : String} {v : Json} (hname : '\n' ∉ name.toList)
    (hv : ∀ s, v = .str s → '\n' ∉ s.toList) : '\n' ∉ (attributeText name v).toList := by
  have hplain := Json.break_plain hv
  have hchar : '\n' ∉ v.plain.toList.flatMap attributeChar := by
    refine break_flatMap fun c hc => ?_
    have hne : '\n' ≠ c := fun heq => hplain (heq ▸ hc)
    unfold attributeChar
    split
    · decide
    · simpa using hne
  simp only [attributeText, String.toList_append, String.toList_ofList]
  exact break_append (break_append (break_append hname (by decide)) hchar) (by decide)

theorem break_intercalate {s : String} {parts : List String} (hs : '\n' ∉ s.toList)
    (h : ∀ part ∈ parts, '\n' ∉ part.toList) : '\n' ∉ (s.intercalate parts).toList := by
  induction parts with
  | nil => exact List.not_mem_nil
  | cons part rest ih =>
      rw [List.forall_mem_cons] at h
      cases rest with
      | nil =>
          rw [String.intercalate_singleton]
          exact h.1
      | cons next rest =>
          rw [String.intercalate_cons_cons]
          simp only [String.toList_append]
          exact break_append (break_append h.1 hs) (ih h.2)

theorem break_inlineStyle? {style : Option (Keyed Json)} {literal : String}
    (h : ∀ entries, style = some entries → ∀ key ∈ Keyed.keys entries, '\n' ∉ key.toList)
    (hliteral : inlineStyle? style = some literal) : '\n' ∉ literal.toList := by
  unfold inlineStyle? at hliteral
  split at hliteral
  · next entry rest =>
      cases hliteral
      have hentries := h _ rfl
      have hparts : ∀ part ∈ (entry :: rest).map fun kv => camelCase kv.1 ++ ": " ++
          scriptLiteral kv.2, '\n' ∉ part.toList := by
        intro part hpart
        obtain ⟨kv, hkv, rfl⟩ := List.mem_map.mp hpart
        have hkey := break_camelCase (hentries kv.1 (List.mem_map_of_mem hkv))
        simp only [String.toList_append]
        exact break_append (break_append hkey (by decide)) (break_scriptLiteral kv.2)
      simp only [String.toList_append]
      exact break_append (break_append (by decide) (break_intercalate (by decide) hparts))
        (by decide)
  · cases hliteral

end Source

/-! ## Widgets -/

/-- A widget whose names, and what it shows in attributes as it stands, have no line break. -/
structure Ui.Node.OneLine (n : Node) : Prop where
  type : '\n' ∉ n.type.toList
  id : ∀ id, n.id = some id → '\n' ∉ id.toList
  style : ∀ entries, n.style = some entries → ∀ key ∈ Keyed.keys entries, '\n' ∉ key.toList
  shown : ∀ key ∈ ["placeholder", "src", "alt"], ∀ s, n.props.get? key = some (.str s) →
    '\n' ∉ s.toList

namespace Source

theorem break_idAttributes {id : Option String} (h : ∀ s, id = some s → '\n' ∉ s.toList) :
    ∀ a ∈ idAttributes id, '\n' ∉ a.toList := by
  unfold idAttributes
  split
  · next s =>
      split
      · exact List.forall_mem_nil _
      · rw [List.forall_mem_singleton]
        refine break_attributeText (by decide) fun s' hs' => ?_
        cases hs'
        exact h s rfl
  · exact List.forall_mem_nil _

theorem break_propAttributes {props : Keyed Json} {name : String} (hname : '\n' ∉ name.toList)
    (h : ∀ s, props.get? name = some (.str s) → '\n' ∉ s.toList) :
    ∀ a ∈ propAttributes props name, '\n' ∉ a.toList := by
  unfold propAttributes
  split
  · next v hv =>
      split
      · rw [List.forall_mem_singleton]
        exact break_attributeText hname fun s hs => h s (hs ▸ hv)
      · exact List.forall_mem_nil _
  · exact List.forall_mem_nil _

theorem break_disabledAttributes (props : Keyed Json) :
    ∀ a ∈ disabledAttributes props, '\n' ∉ a.toList := by
  unfold disabledAttributes
  split
  · rw [List.forall_mem_singleton]
    exact break_expression (by decide) (break_scriptLiteral _)
  · rw [List.forall_mem_singleton]
    exact break_expression (by decide) (break_scriptLiteral _)
  · exact List.forall_mem_nil _

theorem break_kindAttributes {n : Node} (h : n.OneLine) (kind : Option Mapping.WidgetKind) :
    ∀ a ∈ kindAttributes n.props kind, '\n' ∉ a.toList := by
  unfold kindAttributes
  split
  · rw [List.forall_mem_append, List.forall_mem_singleton]
    exact ⟨break_disabledAttributes n.props, by decide⟩
  · rw [List.forall_mem_cons]
    exact ⟨by decide, break_propAttributes (by decide) (h.shown _ (by decide))⟩
  · rw [List.forall_mem_append]
    exact ⟨break_propAttributes (by decide) (h.shown _ (by decide)),
      break_propAttributes (by decide) (h.shown _ (by decide))⟩
  · exact List.forall_mem_nil _

theorem break_styleAttributes {style : Option (Keyed Json)}
    (h : ∀ entries, style = some entries → ∀ key ∈ Keyed.keys entries, '\n' ∉ key.toList) :
    ∀ a ∈ styleAttributes style, '\n' ∉ a.toList := by
  unfold styleAttributes
  split
  · next literal hliteral =>
      rw [List.forall_mem_singleton]
      exact break_expression (by decide) (break_inlineStyle? h hliteral)
  · exact List.forall_mem_nil _

/-- The attributes of a widget are on one line. -/
theorem break_attributes (r : Registry) {n : Node} (h : n.OneLine) :
    ∀ a ∈ attributes r n, '\n' ∉ a.toList := by
  have hclass : '\n' ∉ (attributeText "className" (.str (cssClass n.type))).toList := by
    refine break_attributeText (by decide) fun s hs => ?_
    cases hs
    exact break_cssClass h.type
  rw [attributes]
  simp only [List.forall_mem_append, List.forall_mem_singleton]
  exact ⟨⟨⟨break_idAttributes h.id, break_kindAttributes h _⟩, break_styleAttributes h.style⟩,
    hclass⟩

end Source

end ScreenBridge
