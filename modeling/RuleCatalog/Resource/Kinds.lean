import RuleCatalog.Resource.Metadata
import RuleCatalog.Rule.Basic
import RuleCatalog.Relabel.Entry

/-! # Kinds of resources

Resources with rules, with label overrides, with texts and with secret bytes. -/
namespace RuleCatalog

/-- A kind of resource, with metadata that a store reads and stamps. -/
class Resource (α : Type) where
  metadata : α → Metadata
  withMetadata : α → Metadata → α
  metadata_withMetadata : ∀ a m, metadata (withMetadata a m) = m

namespace Resource
variable {α : Type} [Resource α]

def key (a : α) : ObjectKey := (metadata a).key

def version? (a : α) : Option String := (metadata a).version

/-- The resource with a version stamped on it. -/
def stamped (a : α) (version : Nat) : α :=
  withMetadata a { metadata a with version := some (toString version) }

@[simp] theorem key_stamped (a : α) (n : Nat) : key (stamped a n) = key a := by
  simp [key, stamped, metadata_withMetadata, Metadata.key]

@[simp] theorem version?_stamped (a : α) (n : Nat) :
    version? (stamped a n) = some (toString n) := by
  simp [version?, stamped, metadata_withMetadata]

end Resource

structure RuleGroup where
  name : String
  interval : Option String
  rules : List Rule
  deriving DecidableEq, Repr

/-- A resource that defines rules. -/
structure RuleResource where
  metadata : Metadata
  groups : List RuleGroup
  deriving DecidableEq, Repr

/-- The relabel entries by which the labels of one rule are overridden. -/
structure OverrideResource where
  metadata : Metadata
  entries : List RelabelEntry
  deriving DecidableEq, Repr

/-- Texts under keys. -/
structure Container where
  metadata : Metadata
  data : SortedMap String String
  deriving DecidableEq, Repr

/-- Bytes under keys. -/
structure Secret where
  metadata : Metadata
  data : SortedMap String (List UInt8)
  deriving DecidableEq, Repr

instance : Resource RuleResource :=
  ⟨(·.metadata), fun a m => { a with metadata := m }, fun _ _ => rfl⟩
instance : Resource OverrideResource :=
  ⟨(·.metadata), fun a m => { a with metadata := m }, fun _ _ => rfl⟩
instance : Resource Container :=
  ⟨(·.metadata), fun a m => { a with metadata := m }, fun _ _ => rfl⟩
instance : Resource Secret := ⟨(·.metadata), fun a m => { a with metadata := m }, fun _ _ => rfl⟩

end RuleCatalog
