import ScreenBridge.Mapping.Entry

/-!
# The registry of mappings

Entries under the widget types that they are for, in the order in which they were registered. A
type is registered once; a second entry for it is refused and changes nothing. Types are looked
up by their exact name, and an entry that is not for runtime is found only by those that ask for
markup.
-/

namespace ScreenBridge.Mapping

/-- The tag of an element whose widget has no entry. -/
def fallbackTag : String := "div"

/-- Entries, no two of which are for the same type. -/
structure Registry where
  entries : List Entry
  distinct : (entries.map Entry.sourceType).Nodup

/-- A type that is registered already. -/
structure DuplicateMapping where
  sourceType : String
  deriving DecidableEq, Repr

def DuplicateMapping.message (e : DuplicateMapping) : String :=
  "Widget type already mapped: " ++ e.sourceType

namespace Registry

def empty : Registry := ⟨[], List.nodup_nil⟩

instance : Inhabited Registry := ⟨empty⟩

def types (r : Registry) : List String :=
  r.entries.map Entry.sourceType

def size (r : Registry) : Nat :=
  r.entries.length

def contains (r : Registry) (type : String) : Bool :=
  r.types.contains type

/-- One more entry, unless there is one for its type. -/
def register (r : Registry) (e : Entry) : Except DuplicateMapping Registry :=
  if h : e.sourceType ∈ r.entries.map Entry.sourceType then .error ⟨e.sourceType⟩
  else
    .ok ⟨r.entries ++ [e], by
      rw [List.map_append]
      refine List.nodup_append.2 ⟨r.distinct, by simp, ?_⟩
      intro a ha b hb hab
      simp only [List.map_cons, List.map_nil, List.mem_singleton] at hb
      exact h (hb ▸ hab ▸ ha)⟩

/-- Some entries registered one after the other. -/
def registerAll (r : Registry) : List Entry → Except DuplicateMapping Registry
  | [] => .ok r
  | e :: rest =>
    match r.register e with
    | .ok r => r.registerAll rest
    | .error e => .error e

def ofList (entries : List Entry) : Except DuplicateMapping Registry :=
  empty.registerAll entries

/-- The entry for a type, whoever may see it. -/
def find? (r : Registry) (type : String) : Option Entry :=
  r.entries.find? fun e => e.sourceType = type

/-- The entry for a type; one that is not for runtime only where markup is asked for. -/
def resolve (r : Registry) (type : String) (markup : Bool) : Option Entry :=
  (r.find? type).filter fun e => e.runtime || markup

/-- The tag that markup uses for a type. -/
def tagFor (r : Registry) (type : String) : String :=
  match r.resolve type true with
  | some e => e.targetTag
  | none => fallbackTag

end Registry

end ScreenBridge.Mapping
