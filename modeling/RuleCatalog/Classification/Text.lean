import RuleCatalog.Classification.Entry
import RuleCatalog.Json.Value

/-! # Texts of classifications

A classification as the compact JSON record of its fields, and reading one from a record or from
a list of its fields in their order. A field that is named twice is refused.
Main statement: `ofText?_text`. -/
namespace RuleCatalog.Classification
open Json

/-- The names of the fields in their order. -/
def fieldNames : List String := ["component", "layer", "componentFrom", "layerFrom"]

/-- The fields in their order. -/
def fields (c : Classification) : List (Option String) :=
  [c.component, c.layer, c.componentFrom, c.layerFrom]

/-- The fields that are there, with their names. -/
def members (c : Classification) : List (String × String) :=
  (fieldNames.zip c.fields).filterMap fun p => p.2.map (p.1, ·)

def text (c : Classification) : String :=
  .ofList (recordText (c.members.map fun m => (m.1, quoted m.2)))

/-- A field without a value, or with a text. -/
def fieldOf? : Value → Option (Option String)
  | .null => some none
  | .string (some s) => some (some s)
  | _ => none

/-- The field of a name: nothing where the name is missing. -/
def field? (name : String) (members : List (Option String × Value)) : Option (Option String) :=
  match members.filter (·.1 == some name) with
  | [] => some none
  | [m] => fieldOf? m.2
  | _ => none

/-- A field by its place in a list. -/
def item? (items : List Value) (place : Nat) : Option (Option String) :=
  match items[place]? with
  | none => some none
  | some v => fieldOf? v

def ofValue? : Value → Option Classification
  | .object members => do
    if members.any (·.1.isNone) then none
    return ⟨← field? "component" members, ← field? "layer" members,
      ← field? "componentFrom" members, ← field? "layerFrom" members⟩
  | .array items => do
    if fieldNames.length < items.length then none
    return ⟨← item? items 0, ← item? items 1, ← item? items 2, ← item? items 3⟩
  | _ => none

def ofText? (text : String) : Option Classification := (Value.read? text).bind ofValue?

theorem ofText?_text (c : Classification) : ofText? c.text = some c := by
  obtain ⟨component, layer, componentFrom, layerFrom⟩ := c
  rw [ofText?, text, read?_recordText]
  cases component <;> cases layer <;> cases componentFrom <;> cases layerFrom <;> rfl

end RuleCatalog.Classification
