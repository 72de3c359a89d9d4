import RuleCatalog.Catalog.Basic
import RuleCatalog.Config.Basic
import RuleCatalog.Override.Edit
import RuleCatalog.Override.ResourceName
import RuleCatalog.Service.Store

/-! # Requests for overrides

The labels of platform rules are overridden, and the rules silenced and restored, by writing the
override resource of the rule. A resource that a deployment tool manages is left alone.
Main statement: `platformRule_eq_ok_iff`, which rules may have overrides. -/
namespace RuleCatalog

/-- What became of an override resource. -/
inductive OverrideOutcome where
  | unchanged | created | updated | deleted
  deriving DecidableEq, Repr

/-- A request to the store of override resources. -/
abbrev OverrideRequest (ρ : Type) : Type := StoreRequest OverrideResource ρ

namespace OverrideRequest
open Override

/-- The annotation with the identity of the rule that a resource is for. -/
def ruleNote : String := "monitoring.openshift.io/alert-rule-id"

/-- Who manages the override resources that requests create. -/
def managerName : String := "alert-management"

/-- The rule that an action is for; `action` names what users cannot do to their own rules. -/
def platformRule (catalog : Catalog) (id : Identity) (action : String) :
    Except ServiceError CatalogRule :=
  match catalog.lookup? id with
  | none => .error (.notFound s!"alert rule {id.text}")
  | some rule =>
    match rule.trust with
    | .platformManaged => .ok rule
    | .userDefined => .error (.notAllowed (s!"{action} is not available for user-defined rule "
      ++ s!"{id.text}; edit its PrometheusRule instead"))

/-- The name that a rule's instances carry. -/
def alertName (rule : CatalogRule) : String := rule.stated.name?.getD rule.identity.ruleName

/-- Where the override resource of a rule is. -/
def key (c : Config) (id : Identity) : ObjectKey := ⟨c.overrideSpace, resourceName id⟩

/-- The override resource of a rule, if there is one and it may be written. -/
def fetch (c : Config) (id : Identity) : OverrideRequest (Option OverrideResource) := do
  match ← StoreRequest.get? (key c id) with
  | none => return none
  | some r =>
    if r.metadata.managedBy? = some .gitops then
      throw (.notAllowed s!"override resource {r.metadata.key.text} is managed by GitOps")
    else return some r

/-- A new override resource. -/
def fresh (c : Config) (id : Identity) (entries : List RelabelEntry) : OverrideResource where
  metadata := { Metadata.fresh (key c id) with
    labels := .ofList [(Metadata.managerLabel, managerName)]
    annotations := .ofList [(ruleNote, id.text)] }
  entries := entries

/-- Carries out an edit of the entries of a resource. One that is gone already is deleted. -/
def write (c : Config) (id : Identity) (existing : Option OverrideResource) (edit : Edit) :
    OverrideRequest OverrideOutcome :=
  match edit, existing with
  | .unchanged, _ | .delete, none => return .unchanged
  | .write es, some r => do
    let _ ← StoreRequest.update { r with entries := es }
    return .updated
  | .write es, none => do
    let _ ← StoreRequest.create (fresh c id es)
    return .created
  | .delete, some r =>
    tryCatch (do StoreRequest.delete r.metadata.key; return .deleted) fun e =>
      match e with
      | .store (.notFound _) => return .deleted
      | e => throw e

/-- Reads the entries of a rule, edits them and writes them back. -/
def edit (c : Config) (id : Identity) (operation : String)
    (f : List RelabelEntry → Except ValidationError Edit) : OverrideRequest OverrideOutcome :=
  Request.retry c.writeAttempts operation do
    let existing ← fetch c id
    let edit ← Request.ofCheck (f ((existing.map (·.entries)).getD []))
    write c id existing edit

/-- Overrides labels of a rule. -/
def update (c : Config) (catalog : Catalog) (id : Identity) (delta : Labels) :
    OverrideRequest OverrideOutcome := do
  let rule ← Request.ofReply (platformRule catalog id "label overrides")
  edit c id "update labels" fun es =>
    Override.update id (alertName rule) rule.stated.labels es delta

/-- Silences a rule. -/
def drop (c : Config) (catalog : Catalog) (id : Identity) : OverrideRequest OverrideOutcome := do
  let rule ← Request.ofReply (platformRule catalog id "drop")
  edit c id "drop rule" fun es =>
    .ok (Override.drop id (alertName rule) rule.stated.labels es)

/-- Ends the silence of a rule. -/
def restore (c : Config) (catalog : Catalog) (id : Identity) :
    OverrideRequest OverrideOutcome := do
  let _ ← Request.ofReply (platformRule catalog id "restore")
  edit c id "restore rule" fun es => .ok (Override.restore id es)

/-- The overrides of a rule, whoever manages them. -/
def current (c : Config) (id : Identity) : OverrideRequest Labels := do
  let existing ← StoreRequest.get? (key c id)
  return (existing.map fun r => Override.current id r.entries).getD ∅

theorem platformRule_eq_ok_iff {catalog : Catalog} {id : Identity} {action : String}
    {rule : CatalogRule} : platformRule catalog id action = .ok rule
      ↔ catalog.lookup? id = some rule ∧ rule.trust = .platformManaged := by
  unfold platformRule
  cases h : catalog.lookup? id with
  | none => simp
  | some r => cases ht : r.trust <;> simp only [ht] <;> grind

end OverrideRequest

end RuleCatalog
