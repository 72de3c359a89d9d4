import RuleCatalog.SortedMap

/-! # Labels

Label sets, the labels that the catalog stamps itself, and the business labels that remain. -/
namespace RuleCatalog

/-- The labels or annotations of a rule. -/
abbrev Labels := SortedMap String String

namespace Label

/-- The label with the name of an alert. -/
def alertName : String := "alertname"

/-- The label with the namespace of a rule's series. -/
def namespaceLabel : String := "namespace"

/-- What the names of all labels begin with that the catalog owns. -/
def systemStart : String := "openshift_io_"

def ruleId : String := "openshift_io_alert_rule_id"
def ownerNamespace : String := "openshift_io_prometheus_rule_namespace"
def ownerName : String := "openshift_io_prometheus_rule_name"
def ruleManagedBy : String := "openshift_io_rule_managed_by"
def overrideManagedBy : String := "openshift_io_relabel_config_managed_by"

/-- Whether a label is no part of a rule's business content. -/
def isSystem (name : String) : Bool :=
  name == alertName || systemStart.toList.isPrefixOf name.toList

/-- Whether a text is a name: a letter or underscore, then letters, digits and underscores. -/
def isName (name : String) : Bool :=
  match name.toList with
  | [] => false
  | c :: cs => (c.isAlpha || c == '_') && cs.all fun d => d.isAlphanum || d == '_'

end Label

/-- The labels without those of the system. -/
def Labels.business (labels : Labels) : Labels := labels.filter fun k _ => !Label.isSystem k

end RuleCatalog
