import RuleCatalog.Json.Value
import RuleCatalog.Relabel.Entry
import RuleCatalog.Text.Blank
import RuleCatalog.Text.Utf8
import RuleCatalog.Yaml.Field

/-! # Payloads of relabel entries

Relabel entries as a secret holds them: a YAML list of records. Blank bytes and a document that
says that nothing is there hold no entries. Entries are written as a compact JSON list, which is
such a document too. Main statement: `ofPayload?_of_blank`. -/
namespace RuleCatalog
open Yaml

/-- An action by its name, or as a mapping from its name to nothing. A tag that names an action
would have to stand before nothing, which no text is. -/
def RelabelAction.ofYaml (d : Document) (n : Node) : Reading RelabelAction := do
  match ← d.resolve n with
  | .scalar s tag =>
    if tag.any fun t => t.handle == "!" && (ofText? t.suffix).isSome then failure
    ofText? s.text
  | .mapping [(.scalar s _, value)] =>
    d.unit value
    ofText? s.text
  | _ => failure

namespace RelabelEntry

/-- The names of the fields of an entry. -/
def fieldNames : List String :=
  ["source_labels", "separator", "regex", "target_label", "replacement", "action"]

def ofYaml (d : Document) (n : Node) : Reading RelabelEntry := do
  let fields ← d.record fieldNames n
  return {
    sources := ← fields.field "source_labels" default.sources (d.list d.string)
    separator := ← fields.field "separator" default.separator d.string
    regex := ← fields.field "regex" default.regex d.string
    target := ← fields.field "target_label" default.target d.string
    replacement := ← fields.field "replacement" default.replacement d.string
    action := ← fields.field "action" default.action (RelabelAction.ofYaml d) }

/-- The entries that a payload holds; nothing where it is no such list. -/
def ofPayload? (payload : List UInt8) : Option (List RelabelEntry) :=
  if payload.all fun b => Text.isAsciiBlank b.toNat then some []
  else do
    let d ← Document.read? (← (Utf8.ofBytes payload).toOption)
    return (← d.decode? (d.optional (d.list (ofYaml d)))).getD []

/-- The record of an entry, without sources and target where they are empty. -/
def text (e : RelabelEntry) : List Char :=
  Json.recordText <|
    (if e.sources = [] then [] else [("source_labels", Json.listText (e.sources.map Json.quoted))])
      ++ [("separator", Json.quoted e.separator), ("regex", Json.quoted e.regex)]
      ++ (if e.target = "" then [] else [("target_label", Json.quoted e.target)])
      ++ [("replacement", Json.quoted e.replacement), ("action", Json.quoted e.action.text)]

/-- The bytes that hold some entries. -/
def payload (es : List RelabelEntry) : List UInt8 :=
  Utf8.bytes (.ofList (Json.listText (es.map text)))

theorem ofPayload?_of_blank {payload : List UInt8}
    (h : ∀ b ∈ payload, Text.isAsciiBlank b.toNat = true) : ofPayload? payload = some [] := by
  simp_all [ofPayload?]

/-- The bytes of a text that is not blank hold what the text does. -/
theorem ofPayload?_bytes {text : String}
    (h : ((Utf8.bytes text).all fun b => Text.isAsciiBlank b.toNat) = false) :
    ofPayload? (Utf8.bytes text) = do
      let d ← Document.read? text
      return (← d.decode? (d.optional (d.list (ofYaml d)))).getD [] := by
  unfold ofPayload?
  rw [h, Utf8.ofBytes_bytes]
  rfl

end RelabelEntry

end RuleCatalog
