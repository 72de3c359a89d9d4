import RuleCatalog.Rule.Label
import RuleCatalog.Resource.Timestamp

/-! # Metadata of resources

Where a resource lives, who owns it and which of its writes is the last one, and the tool or
controller that keeps it in its shape. -/
namespace RuleCatalog

/-- The address of a resource. -/
structure ObjectKey where
  space : String
  name : String
  deriving DecidableEq, Repr, Inhabited

namespace ObjectKey

def text (k : ObjectKey) : String := k.space ++ "/" ++ k.name

instance : Ord ObjectKey := ⟨compareLex (compareOn space) (compareOn name)⟩

instance : Std.TransOrd ObjectKey :=
  inferInstanceAs (Std.TransCmp (compareLex (compareOn space) (compareOn name)))

instance : Std.LawfulEqOrd ObjectKey where
  compare_self {a} := by
    show (compare a.space a.space).then (compare a.name a.name) = .eq
    simp [Std.ReflCmp.compare_self]
  eq_of_compare {a b} h := by
    have h : (compare a.space b.space).then (compare a.name b.name) = .eq := h
    rw [Ordering.then_eq_eq] at h
    have h1 : a.space = b.space := Std.LawfulEqOrd.eq_of_compare h.1
    have h2 : a.name = b.name := Std.LawfulEqOrd.eq_of_compare h.2
    cases a; cases b; simp_all

end ObjectKey

structure OwnerReference where
  apiVersion : String
  kind : String
  name : String
  controller : Bool
  deriving DecidableEq, Repr

structure Metadata where
  space : String
  name : String
  labels : Labels
  annotations : Labels
  owners : List OwnerReference
  /-- Stamped by the store on every write; nothing before the first one. -/
  version : Option String
  /-- Set once deletion has been asked for. -/
  deletion : Option Timestamp
  deriving DecidableEq, Repr

/-- Who keeps a resource in its current shape. -/
inductive Manager where
  | gitops | operator
  deriving DecidableEq, Repr

def Manager.text : Manager → String
  | .gitops => "gitops"
  | .operator => "operator"

namespace Metadata

/-- The metadata of a new resource. -/
def fresh (key : ObjectKey) : Metadata := ⟨key.space, key.name, ∅, ∅, [], none, none⟩

def key (m : Metadata) : ObjectKey := ⟨m.space, m.name⟩

def isDeleting (m : Metadata) : Bool := m.deletion.isSome

/-- What the label and annotation keys of deployment tools begin with. -/
def trackingStarts : List String :=
  ["argocd.argoproj.io/", "kustomize.toolkit.fluxcd.io/", "helm.toolkit.fluxcd.io/"]

/-- The label that names the manager of a resource. -/
def managerLabel : String := "app.kubernetes.io/managed-by"

/-- The names of deployment tools as managers, in lower case. -/
def deploymentTools : List String := ["argocd", "argo-cd", "flux", "fluxcd"]

def isTracked (m : Metadata) : Bool :=
  (m.labels.keys ++ m.annotations.keys).any fun k =>
    trackingStarts.any fun s => s.toList.isPrefixOf k.toList

/-- The manager of a resource. The marks of a deployment tool come before an owner, since such
a tool may deploy what a controller owns. -/
def managedBy? (m : Metadata) : Option Manager :=
  let named := (m.labels.get? managerLabel).map fun v =>
    String.ofList (v.toList.map Char.toLower)
  if m.isTracked || named.any (deploymentTools.contains ·) then some .gitops
  else if m.owners.any (·.controller) then some .operator
  else none

end Metadata

end RuleCatalog
