import RuleCatalog.Catalog.Basic
import RuleCatalog.Config.Basic
import RuleCatalog.Rule.Group
import RuleCatalog.Service.Store

/-! # Requests for rules of users

Rules in the namespaces of users are created, changed and deleted in the resources that define
them. The labels of the system are never written into a resource, and rules of the platform are
refused. Main statement: `userRule_eq_ok_iff`, which rules may be edited. -/
namespace RuleCatalog

/-- A request to the store of rule resources. -/
abbrev RuleRequest (ρ : Type) : Type := StoreRequest RuleResource ρ

namespace RuleRequest

def unknownRule (id : Identity) : ServiceError := .notFound s!"alert rule {id.text}"

/-- The rule of a user under an identity. -/
def userRule (catalog : Catalog) (id : Identity) : Except ServiceError CatalogRule :=
  match catalog.get? id with
  | none => .error (unknownRule id)
  | some rule =>
    match rule.trust with
    | .userDefined => .ok rule
    | .platformManaged =>
      .error (.notAllowed s!"rule {id.text} is platform-managed; use label overrides instead")

/-- Refuses an identity that the catalog has already. -/
def checkNew (catalog : Catalog) (id : Identity) : Except ServiceError Unit :=
  if (catalog.get? id).isSome then .error (.conflict s!"rule {id.text} already exists") else .ok ()

/-- Adds a rule to a resource, which is created if it is not there. -/
def createOnce (key : ObjectKey) (group : String) (rule : Rule) : RuleRequest Unit := do
  match ← StoreRequest.get? key with
  | some r =>
    if r.contains (Identity.ofRule rule) then
      throw (.conflict s!"rule {(Identity.ofRule rule).text} already exists in {key.text}")
    let _ ← StoreRequest.update (r.add group rule)
    return ()
  | none =>
    let fresh : RuleResource := ⟨.fresh key, []⟩
    let _ ← StoreRequest.create (fresh.add group rule)
    return ()

/-- Adds a rule to a group of a resource, and answers its identity. -/
def create (c : Config) (catalog : Catalog) (key : ObjectKey) (group : String) (rule : Rule) :
    RuleRequest Identity := do
  let rule := rule.withoutSystemLabels
  Request.ofCheck rule.validate
  if c.isPlatform key.space then throw (.notAllowed s!"namespace {key.space} is platform-managed")
  Request.ofReply (checkNew catalog (Identity.ofRule rule))
  Request.retry c.writeAttempts "create rule" (createOnce key group rule)
  return Identity.ofRule rule

/-- Edits the resource that defines a rule. -/
def editSource (source : ObjectKey) (id : Identity) (f : RuleResource → Option RuleResource) :
    RuleRequest Unit := do
  match ← StoreRequest.get? source with
  | none => throw (.notFound s!"PrometheusRule {source.text}")
  | some r =>
    match f r with
    | none => throw (unknownRule id)
    | some edited =>
      let _ ← StoreRequest.update edited
      return ()

/-- Puts a rule in the place of another, and answers its identity. -/
def update (c : Config) (catalog : Catalog) (id : Identity) (rule : Rule) :
    RuleRequest Identity := do
  let rule := rule.withoutSystemLabels
  Request.ofCheck rule.validate
  let current ← Request.ofReply (userRule catalog id)
  let new := Identity.ofRule rule
  if new = id then return new
  Request.ofReply (checkNew catalog new)
  Request.retry c.writeAttempts "update rule"
    (editSource current.source id (·.replace? id rule))
  return new

def delete (c : Config) (catalog : Catalog) (id : Identity) : RuleRequest Unit := do
  let current ← Request.ofReply (userRule catalog id)
  Request.retry c.writeAttempts "delete rule" (editSource current.source id (·.remove? id))

theorem userRule_eq_ok_iff {catalog : Catalog} {id : Identity} {rule : CatalogRule} :
    userRule catalog id = .ok rule
      ↔ catalog.get? id = some rule ∧ rule.trust = .userDefined := by
  unfold userRule
  cases h : catalog.get? id with
  | none => simp
  | some r => cases ht : r.trust <;> simp only [ht] <;> grind

end RuleRequest

end RuleCatalog
