import RuleCatalog.Text.Quoted

/-! # Refused input

What is wrong with a rule, a label, a classification or a key, before anything is stored. -/
namespace RuleCatalog

inductive ValidationError where
  | invalidLabelName (name : String)
  | protectedLabel (name : String)
  | invalidLayer (given : String)
  | invalidComponent (given : String)
  | missingName
  | emptyExpression
  | invalidKey (reason : String)
  deriving DecidableEq, Repr

def ValidationError.message : ValidationError → String
  | .invalidLabelName n => s!"Invalid label name: {Text.quote n}"
  | .protectedLabel n => s!"Label {n} is reserved and cannot be overridden"
  | .invalidLayer g => s!"Invalid layer {Text.quote g}: expected one of cluster, namespace"
  | .invalidComponent g =>
    s!"Invalid component {Text.quote g}: must be a label value of at most 63 characters"
  | .missingName => "Rule has neither an alert nor a record name"
  | .emptyExpression => "Rule expression is empty"
  | .invalidKey r => s!"Invalid classification key: {r}"

end RuleCatalog
