import RuleCatalog.Rule.Label

/-! # Relabel entries

One step of a relabel program. Its pattern is tested against the joined values of its source
labels, and its action says what becomes of the label set. -/
namespace RuleCatalog

inductive RelabelAction where
  | replace | keep | drop
  /-- Accepted and without effect, as are the three after it. -/
  | hashmod
  | labelmap | labeldrop | labelkeep
  deriving DecidableEq, Repr

namespace RelabelAction

def all : List RelabelAction :=
  [.replace, .keep, .drop, .hashmod, .labelmap, .labeldrop, .labelkeep]

def text : RelabelAction → String
  | .replace => "replace"
  | .keep => "keep"
  | .drop => "drop"
  | .hashmod => "hashmod"
  | .labelmap => "labelmap"
  | .labeldrop => "labeldrop"
  | .labelkeep => "labelkeep"

def ofText? (s : String) : Option RelabelAction := all.find? fun a => a.text == s

theorem ofText?_text (a : RelabelAction) : ofText? a.text = some a := by cases a <;> rfl

end RelabelAction

structure RelabelEntry where
  sources : List String
  separator : String
  regex : String
  target : String
  replacement : String
  action : RelabelAction
  deriving DecidableEq, Repr

/-- An entry copies the values of its source labels, unless it says otherwise. -/
def RelabelEntry.default : RelabelEntry where
  sources := []
  separator := ";"
  regex := "(.*)"
  target := ""
  replacement := "$1"
  action := .replace

instance : Inhabited RelabelEntry := ⟨.default⟩

end RuleCatalog
