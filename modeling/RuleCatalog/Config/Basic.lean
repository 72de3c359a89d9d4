import RuleCatalog.Resource.Metadata
import RuleCatalog.Rule.Basic

/-! # Configuration

Where the catalog finds what it reads and writes, how long it waits, and which namespaces belong
to the platform. All times are in milliseconds. -/
namespace RuleCatalog

/-- A value inside a secret. -/
structure SecretLocation where
  space : String
  name : String
  key : String
  deriving DecidableEq, Repr

namespace SecretLocation

def text (l : SecretLocation) : String := l.space ++ "/" ++ l.name ++ "[" ++ l.key ++ "]"

/-- The secret that holds the value. -/
def secret (l : SecretLocation) : ObjectKey := ⟨l.space, l.name⟩

def default : SecretLocation := ⟨"openshift-monitoring", "alert-relabel-configs", "config.yaml"⟩

instance : Inhabited SecretLocation := ⟨.default⟩

end SecretLocation

structure Config where
  /-- The time between two periodic syncs. -/
  resyncInterval : Nat
  /-- How long a change waits for further ones before it triggers a sync. -/
  debounce : Nat
  /-- The delay after a first failed sync. -/
  backoffMin : Nat
  /-- The longest delay after failed syncs. -/
  backoffMax : Nat
  /-- Where the relabel entries of the whole system are. -/
  relabelSecret : SecretLocation
  overrideSpace : String
  classificationSpace : String
  /-- What the names of platform namespaces begin with. -/
  platformStarts : List String
  platformSpaces : List String
  /-- The longest that a request may take. -/
  requestTimeout : Nat
  /-- How often a write is tried while others interfere. -/
  writeAttempts : Nat
  deriving DecidableEq, Repr

namespace Config

def second : Nat := 1000

def default : Config where
  resyncInterval := 900 * second
  debounce := 500
  backoffMin := 1 * second
  backoffMax := 300 * second
  relabelSecret := .default
  overrideSpace := "openshift-monitoring"
  classificationSpace := "openshift-monitoring"
  platformStarts := ["openshift-", "kube-"]
  platformSpaces := ["default"]
  requestTimeout := 30 * second
  writeAttempts := 3

instance : Inhabited Config := ⟨.default⟩

/-- Whether a namespace belongs to the platform, by its name or by how the name begins. -/
def isPlatform (c : Config) (space : String) : Bool :=
  c.platformSpaces.contains space
    || c.platformStarts.any fun s => s.toList.isPrefixOf space.toList

end Config

/-- Who may change the rules of a namespace, given which ones belong to the platform. -/
def Trust.of (isPlatform : String → Bool) (space : String) : Trust :=
  if isPlatform space then .platformManaged else .userDefined

theorem Trust.of_eq_platformManaged_iff {isPlatform : String → Bool} {space : String} :
    Trust.of isPlatform space = .platformManaged ↔ isPlatform space = true := by
  simp [Trust.of]

end RuleCatalog
