import RuleCatalog.Rule.Label
import RuleCatalog.Rule.Error
import RuleCatalog.Text.Blank

/-! # Rules

An alerting or recording rule as its owning resource states it. A rule with both names is an
alert; one with neither cannot be tracked. -/
namespace RuleCatalog

inductive RuleKind where
  | alert | record
  deriving DecidableEq, Repr

def RuleKind.text : RuleKind → String
  | .alert => "alert"
  | .record => "record"

structure Rule where
  alert : Option String
  record : Option String
  expr : String
  /-- How long the condition has to hold. -/
  hold : Option String
  labels : Labels
  annotations : Labels
  deriving DecidableEq, Repr

instance : Inhabited Rule := ⟨⟨none, none, "", none, ∅, ∅⟩⟩

/-- A text that is there and not empty. -/
def nonempty? (s : Option String) : Option String := s.filter (· != "")

namespace Rule

/-- The name of the alert, or else of the recorded series. -/
def name? (r : Rule) : Option String := (nonempty? r.alert).or (nonempty? r.record)

def kind (r : Rule) : RuleKind := if (nonempty? r.alert).isSome then .alert else .record

/-- Refuses rules that cannot be tracked or evaluated. -/
def validate (r : Rule) : Except ValidationError Unit :=
  if r.name?.isNone then .error .missingName
  else if Text.trimmed r.expr = "" then .error .emptyExpression
  else match r.labels.keys.find? (fun k => !Label.isName k) with
    | some k => .error (.invalidLabelName k)
    | none => .ok ()

/-- The rule without the labels of the system. -/
def withoutSystemLabels (r : Rule) : Rule := { r with labels := r.labels.business }

end Rule

/-- Who may change the rules of a namespace. -/
inductive Trust where
  /-- A namespace of the platform: labels change by overrides alone. -/
  | platformManaged
  /-- A namespace of its users: rules are edited in place. -/
  | userDefined
  deriving DecidableEq, Repr

def Trust.text : Trust → String
  | .platformManaged => "platform-managed"
  | .userDefined => "user-defined"

end RuleCatalog
