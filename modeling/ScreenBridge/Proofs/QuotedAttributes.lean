import ScreenBridge.Proofs.MarkupShape
import ScreenBridge.Proofs.Occurrences

/-!
# What can be read off a quoted attribute

An attribute in double quotes has an entity for each double quote in its value,
and everything else as it is, the entity of a double quote too if it is in the
value itself. So no double quote is left inside, and an attribute ends where the
next one comes. But a double quote and its entity are written in the same way.
That is all that is lost: values are written alike just if they are alike once
each entity is read as the double quote that it stands for (`quoted_eq_iff`).

The values of a widget are read off its markup with that loss and no other. Its
attributes come in a fixed order behind the tag, some of them only if there is a
value, and none of them begins like the one that is looked for in its place.
-/

namespace ScreenBridge.Source

open Mapping (Registry Entry WidgetKind)
open Ui (Node)

/-! ## Entities -/

/-- The entity of a double quote. -/
def quoteEntity : List Char :=
  ['&', 'q', 'u', 'o', 't', ';']

/-- A text inside a quoted attribute. -/
def quoted (cs : List Char) : List Char :=
  cs.flatMap attributeChar

/-- A text with each entity of a double quote read as one; the list form of `readQuotes`. -/
def readQuoteChars : List Char → List Char
  | '&' :: 'q' :: 'u' :: 'o' :: 't' :: ';' :: rest => '"' :: readQuoteChars rest
  | c :: rest => c :: readQuoteChars rest
  | [] => []

def readQuotes (s : String) : String :=
  String.ofList (readQuoteChars s.toList)

/-- A text is gone through by its entities, and by single characters where none begins. -/
@[elab_as_elim]
theorem entityInduction {motive : List Char → Prop} (nil : motive [])
    (entity : ∀ rest, motive rest → motive (quoteEntity ++ rest))
    (other : ∀ c rest, ¬ quoteEntity <+: c :: rest → motive rest → motive (c :: rest))
    (cs : List Char) : motive cs := by
  induction cs using readQuoteChars.induct with
  | case1 rest ih => exact entity rest ih
  | case2 c rest h ih =>
      refine other c rest ?_ ih
      rintro ⟨more, heq⟩
      cases heq
      exact h more rfl rfl
  | case3 => exact nil

theorem readQuoteChars_entity (rest : List Char) :
    readQuoteChars (quoteEntity ++ rest) = '"' :: readQuoteChars rest :=
  rfl

theorem readQuoteChars_other {c : Char} {rest : List Char} (h : ¬ quoteEntity <+: c :: rest) :
    readQuoteChars (c :: rest) = c :: readQuoteChars rest := by
  rw [readQuoteChars]
  rintro more rfl rfl
  exact h (List.prefix_append quoteEntity more)

theorem quoted_cons (c : Char) (cs : List Char) : quoted (c :: cs) = attributeChar c ++ quoted cs :=
  List.flatMap_cons

theorem quoted_entity (rest : List Char) :
    quoted (quoteEntity ++ rest) = quoteEntity ++ quoted rest :=
  rfl

theorem not_mem_quoted (cs : List Char) : '"' ∉ quoted cs := by
  rw [quoted, List.mem_flatMap]
  rintro ⟨c, -, hmem⟩
  unfold attributeChar at hmem
  split at hmem
  · exact absurd hmem (by decide)
  · next hc => exact hc (List.mem_singleton.mp hmem).symm

/-- Quoting writes what an entity stands for as the entity. -/
theorem quoted_readQuoteChars (cs : List Char) : quoted (readQuoteChars cs) = quoted cs := by
  induction cs using entityInduction with
  | nil => rfl
  | entity rest ih =>
      rw [readQuoteChars_entity, quoted_cons, ih]
      rfl
  | other c rest h ih => rw [readQuoteChars_other h, quoted_cons, quoted_cons, ih]

/-- Quoting puts nothing at the front of a text that could be the rest of an entity. -/
theorem prefix_of_prefix_quoted {front cs : List Char} (hmark : '&' ∉ front)
    (h : front <+: quoted cs) : front <+: cs := by
  induction front generalizing cs with
  | nil => exact List.nil_prefix
  | cons a front ih =>
      rw [List.mem_cons, not_or] at hmark
      cases cs with
      | nil => simp [quoted] at h
      | cons c rest =>
          rw [quoted_cons, attributeChar] at h
          split at h
          · exact absurd (List.cons_prefix_cons.mp h).1.symm hmark.1
          · obtain ⟨hc, hrest⟩ := List.cons_prefix_cons.mp h
            exact List.cons_prefix_cons.mpr ⟨hc, ih hmark.2 hrest⟩

theorem readQuoteChars_quoted (cs : List Char) :
    readQuoteChars (quoted cs) = readQuoteChars cs := by
  induction cs using entityInduction with
  | nil => rfl
  | entity rest ih => rw [quoted_entity, readQuoteChars_entity, readQuoteChars_entity, ih]
  | other c rest h ih =>
      rw [readQuoteChars_other h, quoted_cons, attributeChar]
      split
      · next hc =>
          rw [hc, ← ih]
          exact readQuoteChars_entity (quoted rest)
      · rw [List.singleton_append, readQuoteChars_other, ih]
        intro hfront
        obtain ⟨hc, hrest⟩ := List.cons_prefix_cons.mp hfront
        exact h (List.cons_prefix_cons.mpr ⟨hc, prefix_of_prefix_quoted (by decide) hrest⟩)

/-- Texts are quoted alike just if they are alike with their entities read. -/
theorem quoted_eq_iff {cs ds : List Char} :
    quoted cs = quoted ds ↔ readQuoteChars cs = readQuoteChars ds := by
  constructor
  · intro h
    rw [← readQuoteChars_quoted cs, h, readQuoteChars_quoted]
  · intro h
    rw [← quoted_readQuoteChars cs, h, quoted_readQuoteChars]

/-- Reading entities leaves a text alone just if it has none. -/
theorem readQuoteChars_eq_self_iff (cs : List Char) :
    readQuoteChars cs = cs ↔ ¬ quoteEntity <:+: cs := by
  induction cs using entityInduction with
  | nil => decide
  | entity rest ih =>
      refine iff_of_false ?_ (not_not_intro ⟨[], rest, rfl⟩)
      rw [readQuoteChars_entity]
      intro h
      cases h
  | other c rest h ih =>
      rw [readQuoteChars_other h, List.infix_cons_iff, not_or, List.cons_inj_right, ih]
      exact ⟨fun hrest => ⟨h, hrest⟩, fun hboth => hboth.2⟩

/-! ## Attributes -/

theorem toList_attributeText (name : String) (v : Json) :
    (attributeText name v).toList =
      name.toList ++ '=' :: '"' :: (quoted v.plain.toList ++ ['"']) := by
  rw [attributeText]
  simp only [String.toList_append, String.toList_ofList]
  simp [quoted]

theorem attributeText_eq_iff {name v w : String} :
    attributeText name (.str v) = attributeText name (.str w) ↔ readQuotes v = readQuotes w := by
  rw [← String.toList_inj, toList_attributeText, toList_attributeText, List.append_cancel_left_eq,
    List.cons_inj_right, List.cons_inj_right, List.append_cancel_right_eq, quoted_eq_iff,
    readQuotes, readQuotes, String.ofList_inj]
  rfl

/-- How an attribute in double quotes begins, with the space in front of it. -/
def attributeFront (name : String) : List Char :=
  ' ' :: (name.toList ++ ['=', '"'])

/-- The attribute in double quotes that a text may begin with: its value with the entities read, and
the text behind it. -/
def takeAttribute (name : String) (text : List Char) : Option String × List Char :=
  if attributeFront name <+: text then
    let inside := text.drop (attributeFront name).length
    (some (readQuotes (String.ofList (inside.takeWhile (· ≠ '"')))),
      (inside.dropWhile (· ≠ '"')).drop 1)
  else (none, text)

/-- The attributes in double quotes that a text may begin with, one after the other. -/
def takeAttributes : List String → List Char → List (Option String)
  | [], _ => []
  | name :: names, text =>
    (takeAttribute name text).1 :: takeAttributes names (takeAttribute name text).2

/-- Attributes with a space in front of each. -/
def spaced (as : List String) : List Char :=
  as.flatMap fun a => ' ' :: a.toList

/-- An attribute that is there if there is a value for it. -/
def optionalAttribute (name : String) (v : Option Json) : List Char :=
  spaced (v.map (attributeText name)).toList

theorem optionalAttribute_some (name : String) (v : Json) (rest : List Char) :
    optionalAttribute name (some v) ++ rest =
      attributeFront name ++ (quoted v.plain.toList ++ '"' :: rest) := by
  simp [optionalAttribute, spaced, attributeFront, toList_attributeText]

/-- An attribute is not mistaken for one of another name. -/
theorem not_front_optional {name other : String} {rest : List Char} (hname : '=' ∉ name.toList)
    (hother : '=' ∉ other.toList) (hne : name ≠ other) (h : ¬ attributeFront name <+: rest)
    (v : Option Json) : ¬ attributeFront name <+: optionalAttribute other v ++ rest := by
  cases v with
  | none => exact h
  | some v =>
      intro hfront
      rw [optionalAttribute_some, attributeFront, attributeFront, List.cons_append,
        List.append_assoc] at hfront
      have hnames := (List.cons_prefix_cons.mp hfront).2
      exact hne (String.toList_inj.mp (Text.eq_of_prefix_separated hname hother hnames))

theorem takeAttribute_optional {name : String} {rest : List Char}
    (h : ¬ attributeFront name <+: rest) (v : Option Json) :
    takeAttribute name (optionalAttribute name v ++ rest) =
      (v.map fun v => readQuotes v.plain, rest) := by
  cases v with
  | none => exact if_neg h
  | some v =>
      have hinside : ∀ c ∈ quoted v.plain.toList, decide (c ≠ '"') = true := by
        intro c hc
        rw [decide_eq_true_iff]
        rintro rfl
        exact not_mem_quoted _ hc
      rw [optionalAttribute_some, takeAttribute, if_pos (List.prefix_append _ _), List.drop_left]
      simp only [List.takeWhile_append_of_pos hinside, List.dropWhile_append_of_pos hinside]
      simp [readQuotes, readQuoteChars_quoted]

/-! ## Widgets -/

/-- The props that a kind of widget shows in attributes in double quotes, in their order. -/
def quotedProps : Option WidgetKind → List String
  | some .textInput => ["placeholder"]
  | some .image => ["src", "alt"]
  | _ => []

/-- What stands between the identifier and these attributes. -/
def beforeProps : Option WidgetKind → List Char
  | some .textInput => spaced [expression "onChange" "handleTextChange"]
  | _ => []

/-- A prop, if it says anything. -/
def shownProp? (props : Keyed Json) (name : String) : Option Json :=
  (props.get? name).filter Json.isTruthy

def shownId? (id : Option String) : Option Json :=
  (id.filter (· ≠ "")).map Json.str

variable (r : Registry) (depth : Nat) (n : Node)

/-- The identifier of a widget and its props in double quotes, each as text if it is shown. -/
def quotedValues : List (Option String) :=
  ((shownId? n.id).map Json.plain) ::
    (quotedProps ((r.resolve n.type true).map Entry.kind)).map fun name =>
      (shownProp? n.props name).map Json.plain

/-- The identifier and the props in double quotes, read off the markup of a widget of a type. -/
def readValues (type : String) (text : List Char) : List (Option String) :=
  let kind := (r.resolve type true).map Entry.kind
  let behindTag := text.drop ((indentation depth).length + 1 + (r.tagFor type).length)
  let (id, rest) := takeAttribute "id" behindTag
  id :: takeAttributes (quotedProps kind) (rest.drop (beforeProps kind).length)

theorem spaced_append (as bs : List String) : spaced (as ++ bs) = spaced as ++ spaced bs :=
  List.flatMap_append

theorem spaced_idAttributes (id : Option String) :
    spaced (idAttributes id) = optionalAttribute "id" (shownId? id) := by
  unfold idAttributes shownId?
  cases id with
  | none => rfl
  | some id => by_cases h : id = "" <;> simp [h, optionalAttribute, Option.filter_some]

theorem spaced_propAttributes (props : Keyed Json) (name : String) :
    spaced (propAttributes props name) = optionalAttribute name (shownProp? props name) := by
  unfold propAttributes shownProp?
  cases props.get? name with
  | none => rfl
  | some v => by_cases h : v.isTruthy = true <;> simp [h, optionalAttribute, Option.filter_some]

/-- The end of an element that is opened: the style, the class and what stands behind them. -/
def tagEnd (n : Node) (tail : List Char) : List Char :=
  spaced (styleAttributes n.style) ++
    (spaced [attributeText "className" (.str (cssClass n.type))] ++ tail)

theorem not_front_tagEnd {name : String} (h : name ∈ ["id", "placeholder", "src", "alt"])
    (tail : List Char) : ¬ attributeFront name <+: tagEnd n tail := by
  unfold tagEnd styleAttributes
  simp only [List.mem_cons, List.not_mem_nil, or_false] at h
  cases inlineStyle? n.style with
  | none =>
      obtain rfl | rfl | rfl | rfl := h <;>
        simp [spaced, attributeFront, toList_attributeText]
  | some literal =>
      obtain rfl | rfl | rfl | rfl := h <;>
        simp [spaced, attributeFront, expression]

/-- No attribute that a kind of widget adds begins like the identifier. -/
theorem not_front_id (props : Keyed Json) (kind : Option WidgetKind) (tail : List Char) :
    ¬ attributeFront "id" <+: spaced (kindAttributes props kind) ++ tagEnd n tail := by
  have hend : ¬ attributeFront "id" <+: tagEnd n tail := not_front_tagEnd n (by decide) tail
  unfold kindAttributes
  split
  · rw [spaced_append]
    unfold disabledAttributes
    split <;> simp [spaced, attributeFront, expression]
  · simp [spaced, attributeFront, expression]
  · rw [spaced_append, spaced_propAttributes, spaced_propAttributes, List.append_assoc]
    exact not_front_optional (by decide) (by decide) (by decide)
      (not_front_optional (by decide) (by decide) (by decide) hend _) _
  · exact hend

/-- Behind the identifier stand the props in double quotes, each in its place. -/
theorem takeAttributes_props (props : Keyed Json) (kind : Option WidgetKind) (tail : List Char) :
    takeAttributes (quotedProps kind)
        ((spaced (kindAttributes props kind) ++ tagEnd n tail).drop (beforeProps kind).length) =
      (quotedProps kind).map fun name =>
        (shownProp? props name).map fun v => readQuotes v.plain := by
  unfold quotedProps
  split
  · have hplaceholder : ¬ attributeFront "placeholder" <+: tagEnd n tail :=
      not_front_tagEnd n (by decide) tail
    have hkind : spaced (kindAttributes props (some .textInput)) =
        beforeProps (some .textInput) ++ spaced (propAttributes props "placeholder") :=
      spaced_append [_] _
    rw [hkind, List.append_assoc, List.drop_left, spaced_propAttributes]
    simp only [takeAttributes, takeAttribute_optional hplaceholder, List.map_cons, List.map_nil]
  · have hkind : spaced (kindAttributes props (some .image)) =
        spaced (propAttributes props "src") ++ spaced (propAttributes props "alt") :=
      spaced_append _ _
    have hbefore : beforeProps (some .image) = [] := rfl
    have halt : ¬ attributeFront "alt" <+: tagEnd n tail := not_front_tagEnd n (by decide) tail
    -- A source that is not there is not mistaken for the text in its place.
    have hsrc : ¬ attributeFront "src" <+:
        optionalAttribute "alt" (shownProp? props "alt") ++ tagEnd n tail :=
      not_front_optional (by decide) (by decide) (by decide) (not_front_tagEnd n (by decide) tail) _
    rw [hkind, hbefore, List.append_assoc, spaced_propAttributes, spaced_propAttributes]
    simp only [List.length_nil, List.drop_zero, takeAttributes, takeAttribute_optional hsrc,
      takeAttribute_optional halt, List.map_cons, List.map_nil]
  · rfl

theorem toList_markup : ∃ tail, (markup r depth n).toList =
    (indentation depth).toList ++ '<' :: ((r.tagFor n.type).toList ++
      (spaced (attributes r n) ++ tail)) := by
  have hopening (more : String) : (opening r depth n ++ more).toList =
      (indentation depth).toList ++ '<' :: ((r.tagFor n.type).toList ++
        (spaced (attributes r n) ++ more.toList)) := by
    rw [opening, String.toList_append, String.toList_append, toList_openingTag]
    simp [spaced]
  rw [markup_eq]
  split
  · exact ⟨_, hopening _⟩
  · rw [String.append_assoc, String.append_assoc]
    exact ⟨_, hopening _⟩

/-- The values are read off the markup of a widget with their entities read. -/
theorem readValues_markup : readValues r depth n.type (markup r depth n).toList =
    (quotedValues r n).map (Option.map readQuotes) := by
  obtain ⟨tail, htext⟩ := toList_markup r depth n
  have hparts (kind : Option WidgetKind) :
      spaced (idAttributes n.id ++ kindAttributes n.props kind ++ styleAttributes n.style ++
        [attributeText "className" (.str (cssClass n.type))]) ++ tail =
      optionalAttribute "id" (shownId? n.id) ++
        (spaced (kindAttributes n.props kind) ++ tagEnd n tail) := by
    simp only [spaced_append, spaced_idAttributes, tagEnd, List.append_assoc]
  have hlength : (indentation depth).length + 1 + (r.tagFor n.type).length =
      ((indentation depth).toList ++ '<' :: (r.tagFor n.type).toList).length := by
    rw [← String.length_toList, ← String.length_toList, List.length_append, List.length_cons]
    omega
  rw [htext, readValues]
  simp only [hlength]
  rw [← List.cons_append, ← List.append_assoc, List.drop_left, attributes, hparts,
    takeAttribute_optional (not_front_id n _ _ _), takeAttributes_props]
  simp [quotedValues, Function.comp_def]

/-- No double quote is left inside a quoted attribute. Two values are written alike just if they
are alike once the entities in them are read, which changes just those values that have one; and the
identifier, the placeholder, the source and the alternative text of a widget are read off its markup
but for that. -/
theorem quoted_attributes (name v w : String) (r : Registry) (depth : Nat) (n : Node) :
    (∃ inside, attributeText name (.str v) = name ++ "=\"" ++ inside ++ "\"" ∧
      '"' ∉ inside.toList) ∧
    (attributeText name (.str v) = attributeText name (.str w) ↔ readQuotes v = readQuotes w) ∧
    (readQuotes v = v ↔ ¬ quoteEntity <:+: v.toList) ∧
    readValues r depth n.type (markup r depth n).toList =
      (quotedValues r n).map (Option.map readQuotes) := by
  refine ⟨⟨String.ofList (quoted v.toList), rfl, ?_⟩, attributeText_eq_iff, ?_,
    readValues_markup r depth n⟩
  · rw [String.toList_ofList]
    exact not_mem_quoted _
  · rw [← readQuoteChars_eq_self_iff, ← String.toList_inj, readQuotes, String.toList_ofList]

/-- A double quote and its entity, as the alternative texts of two images. -/
theorem not_told_apart_entity :
    attributeText "alt" (.str "\"") = attributeText "alt" (.str "&quot;") ∧ "\"" ≠ "&quot;" := by
  decide

end ScreenBridge.Source
