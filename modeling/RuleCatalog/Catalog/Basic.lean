import RuleCatalog.Resource.Kinds
import RuleCatalog.Rule.Identity
import RuleCatalog.Rule.Match

/-! # The catalog

The rules of all resources under their identities, as the whole system sees them, and the
questions that are answered from them. A catalog does not change: a sync puts a new one in its
place. -/
namespace RuleCatalog

/-- A rule with where it comes from. -/
structure CatalogRule where
  identity : Identity
  /-- The rule as it is evaluated, with the labels of the system. -/
  rule : Rule
  /-- The rule as its resource states it. -/
  stated : Rule
  source : ObjectKey
  trust : Trust
  managedBy : Option Manager
  /-- Who manages the resource with its overrides. -/
  overrideManagedBy : Option Manager
  deriving DecidableEq, Repr

structure Catalog where
  rules : SortedMap Identity CatalogRule
  /-- Platform rules that are silenced, kept so that they can be restored. -/
  dropped : SortedMap Identity CatalogRule
  /-- The identities of the rules by name. -/
  byName : SortedMap String (List Identity)
  /-- The relabel entries of the whole system. -/
  entries : List RelabelEntry
  /-- Whether the catalog comes from a sync. -/
  isSynced : Bool
  deriving DecidableEq, Repr

namespace Catalog

def empty : Catalog := ⟨∅, ∅, ∅, [], false⟩

instance : Inhabited Catalog := ⟨.empty⟩

def get? (c : Catalog) (id : Identity) : Option CatalogRule := c.rules.get? id

/-- A rule, silenced or not. -/
def lookup? (c : Catalog) (id : Identity) : Option CatalogRule :=
  (c.rules.get? id).or (c.dropped.get? id)

/-- Whether a rule is there, silenced or not. -/
def contains (c : Catalog) (id : Identity) : Bool := (c.lookup? id).isSome

/-- The rules with a name. -/
def named (c : Catalog) (name : String) : List CatalogRule :=
  ((c.byName.get? name).getD []).filterMap c.get?

/-- The rule that a running system reports; nothing where several may be meant. -/
def matching? (c : Catalog) (q : ReportedRule) : Option CatalogRule :=
  (q.findAmong (·.rule) (c.named q.name)).found?

/-- The identities of rules by their names, in order. -/
def namesOf (rules : SortedMap Identity CatalogRule) : SortedMap String (List Identity) :=
  rules.toList.foldl (fun names p =>
    match p.2.rule.name? with
    | some name => names.insert name ((names.get? name).getD [] ++ [p.1])
    | none => names) ∅

end Catalog

end RuleCatalog
