import RuleCatalog.Catalog.Basic
import RuleCatalog.Config.Basic
import RuleCatalog.Override.ResourceName
import RuleCatalog.Relabel.Run
import RuleCatalog.Rule.Group

/-! # Building the catalog

The catalog of given resources. Rules are taken in the order of their resources and groups, and
of several definitions with one identity the first one counts; resources that are being deleted
and rules without a name do not count. Only rules of the platform are relabeled.
Main statement: `contains_add`, that every identity of a definition is in the catalog once. -/
namespace RuleCatalog

/-- The labels that a running system sees, without those that the catalog adds. -/
def Rule.reportedLabels (r : Rule) : Labels :=
  match r.kind, r.name? with
  | .alert, some name => r.labels.business.insert Label.alertName name
  | _, _ => r.labels.business

/-- How many rules a sync has found, by what became of them. -/
structure SyncStats where
  rules : Nat
  /-- The silenced ones. -/
  dropped : Nat
  /-- Those of resources that are being deleted, without a name, or defined before. -/
  skipped : Nat
  deriving DecidableEq, Repr

/-- What a catalog is built with, besides the definitions. -/
structure Surroundings where
  isPlatform : String → Bool
  entries : List RelabelEntry
  /-- The managers of the override resources by their names. -/
  overrideManagers : SortedMap String (Option Manager)

namespace Surroundings

/-- The managers of the override resources of a namespace. -/
def managersOf (space : String) (overrides : List OverrideResource) :
    SortedMap String (Option Manager) :=
  .ofList ((overrides.filter (·.metadata.space == space)).map fun o =>
    (o.metadata.name, o.metadata.managedBy?))

/-- Who manages the overrides of a rule. -/
def overrideManager? (s : Surroundings) (id : Identity) : Option Manager :=
  ((s.overrideManagers.get? (Override.resourceName id)).getD none)

end Surroundings

/-- A rule with the resource that defines it. -/
structure Definition where
  owner : Metadata
  rule : Rule
  deriving DecidableEq, Repr

namespace Definition

/-- The definitions of a resource, in order. -/
def ofResource (r : RuleResource) : List Definition := r.rules.map fun p => ⟨r.metadata, p.2⟩

/-- What relabeling makes of a rule; the rules of users are left as they are. -/
def outcome (d : Definition) (s : Surroundings) : RelabelOutcome :=
  if s.isPlatform d.owner.space then relabel s.entries d.rule.reportedLabels
  else .keep d.rule.reportedLabels

/-- Adds the labels that say where a rule comes from. -/
def stamp (labels : Labels) (id : Identity) (source : ObjectKey)
    (managedBy overrideManagedBy : Option Manager) : Labels :=
  let labels := labels.insert Label.ruleId id.text
  let labels := labels.insert Label.ownerNamespace source.space
  let labels := labels.insert Label.ownerName source.name
  let labels := match managedBy with
    | some m => labels.insert Label.ruleManagedBy m.text
    | none => labels
  match overrideManagedBy with
  | some m => labels.insert Label.overrideManagedBy m.text
  | none => labels

/-- The rule of the catalog under an identity, with given labels. -/
def toCatalogRule (d : Definition) (s : Surroundings) (id : Identity) (labels : Labels) :
    CatalogRule where
  identity := id
  rule := { d.rule with
    labels := stamp labels id d.owner.key d.owner.managedBy? (s.overrideManager? id) }
  stated := d.rule
  source := d.owner.key
  trust := .of s.isPlatform d.owner.space
  managedBy := d.owner.managedBy?
  overrideManagedBy := s.overrideManager? id

end Definition

/-- A catalog that is being built. -/
structure Draft where
  rules : SortedMap Identity CatalogRule
  dropped : SortedMap Identity CatalogRule
  skipped : Nat

namespace Draft

def contains (b : Draft) (id : Identity) : Bool := b.rules.contains id || b.dropped.contains id

/-- Puts a definition under an identity. -/
def put (s : Surroundings) (b : Draft) (d : Definition) (id : Identity) : Draft :=
  match d.outcome s with
  | .keep labels => { b with rules := b.rules.insert id (d.toCatalogRule s id labels) }
  | .drop =>
    { b with dropped := b.dropped.insert id (d.toCatalogRule s id d.rule.reportedLabels) }

/-- Takes a definition in, unless its identity is empty or there already. -/
def add (s : Surroundings) (b : Draft) (d : Definition) : Draft :=
  let id := Identity.ofRule d.rule
  if id.isEmpty || b.contains id then { b with skipped := b.skipped + 1 } else b.put s d id

theorem contains_put (s : Surroundings) (b : Draft) (d : Definition) (id id' : Identity) :
    (b.put s d id).contains id' = (b.contains id' || id' == id) := by
  unfold put contains SortedMap.contains
  by_cases h : id' = id
  · subst h
    cases d.outcome s <;> simp
  · have hne : compare id' id ≠ .eq := fun e => h (Std.LawfulEqOrd.eq_of_compare e)
    cases d.outcome s <;> simp [SortedMap.get?_insert, hne, h]

theorem contains_add (s : Surroundings) (b : Draft) (d : Definition) (id : Identity) :
    (b.add s d).contains id
      = (b.contains id || (id == Identity.ofRule d.rule && !id.isEmpty)) := by
  unfold add
  dsimp only
  split
  · rename_i h
    by_cases hid : id = Identity.ofRule d.rule
    · subst hid
      rcases Bool.or_eq_true_iff.1 h with he | hc
      · simp [he, contains]
      · simp only [contains] at hc ⊢
        simp [hc]
    · simp [hid, contains]
  · rename_i h
    rw [contains_put]
    by_cases hid : id = Identity.ofRule d.rule
    · subst hid
      have he : (Identity.ofRule d.rule).isEmpty = false :=
        Bool.eq_false_iff.2 fun he => h (by rw [he, Bool.true_or])
      rw [he, Bool.not_false, Bool.and_true]
    · simp [beq_eq_false_iff_ne.2 hid]

end Draft

namespace Catalog

/-- The catalog of the resources, and what became of their rules. -/
def build (s : Surroundings) (resources : List RuleResource) : Catalog × SyncStats :=
  let (deleting, live) := resources.partition (·.metadata.isDeleting)
  let gone := (deleting.flatMap Definition.ofResource).length
  let b := (live.flatMap Definition.ofResource).foldl (Draft.add s) ⟨∅, ∅, gone⟩
  (⟨b.rules, b.dropped, namesOf b.rules, s.entries, true⟩,
    ⟨b.rules.size, b.dropped.size, b.skipped⟩)

end Catalog

end RuleCatalog
