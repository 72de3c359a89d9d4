import RuleCatalog.Resource.Kinds

/-! # Stores of resources

A store keeps the resources of one kind by their keys and stamps a new version on every write,
so that an update of something that has changed in the meantime is refused. Each operation
answers with the store after it and with the change that it made.
Main statements: `get?_upsert`, and `version_update` for what an update does when it succeeds. -/
namespace RuleCatalog

/-- Why a store refuses an operation. -/
inductive StoreError where
  | notFound (what : String)
  | conflict (what : String)
  | alreadyExists (what : String)
  | backend (reason : String)
  deriving DecidableEq, Repr

namespace StoreError

def message : StoreError → String
  | .notFound w => s!"{w} not found"
  | .conflict w => s!"Conflict writing {w}: object was modified"
  | .alreadyExists w => s!"{w} already exists"
  | .backend r => s!"Store backend error: {r}"

/-- Whether another attempt after a fresh read may succeed. -/
def isRetryable : StoreError → Bool
  | .conflict _ | .alreadyExists _ => true
  | _ => false

end StoreError

/-- A change of what is stored. -/
inductive Change (α : Type) where
  | added (new : α)
  | updated (old new : α)
  | deleted (old : α)
  deriving DecidableEq, Repr

/-- The resource after a change, or the last one before its deletion. -/
def Change.latest {α : Type} : Change α → α
  | .added a | .updated _ a | .deleted a => a

/-- The change in terms of what a function keeps of the resources. -/
def Change.map {α β : Type} (f : α → β) : Change α → Change β
  | .added a => .added (f a)
  | .updated a b => .updated (f a) (f b)
  | .deleted a => .deleted (f a)

structure Store (α : Type) where
  objects : SortedMap ObjectKey α
  /-- The version of the last write; each write has a version of its own. A counter of 64 bits would
  start over after `2 ^ 64` writes, which is left out. -/
  version : Nat
  /-- How many reads there have been, and how many writes were tried. -/
  reads : Nat
  writes : Nat
  /-- How many of the next listings fail. -/
  failingLists : Nat
  /-- How many of the next updates are refused as conflicts. -/
  failingUpdates : Nat
  /-- How long every call takes. -/
  latency : Nat
  deriving DecidableEq, Repr

/-- A store after an operation, with the reply and the change that it made. -/
structure Answer (α ρ : Type) where
  store : Store α
  reply : ρ
  change : Option (Change α)
  deriving DecidableEq, Repr

namespace Store
variable {α : Type} [Resource α]

def empty : Store α := ⟨∅, 0, 0, 0, 0, 0, 0⟩

instance : Inhabited (Store α) := ⟨.empty⟩

def get? (s : Store α) (key : ObjectKey) : Option α := s.objects.get? key

/-- All resources in the order of their keys. -/
def list (s : Store α) : List α := s.objects.values

/-- The resource as the next write stamps it. -/
def next (s : Store α) (a : α) : α := Resource.stamped a (s.version + 1)

/-- Puts a resource in its place under a version of its own. -/
def write (s : Store α) (a : α) : Store α :=
  { s with objects := s.objects.insert (Resource.key a) (s.next a), version := s.version + 1 }

def discard (s : Store α) (key : ObjectKey) : Store α :=
  { s with objects := s.objects.erase key }

/-! ## Direct changes -/

/-- Stores a resource whatever is there. -/
def upsert (s : Store α) (a : α) : Answer α α :=
  ⟨s.write a, s.next a, some <| match s.get? (Resource.key a) with
    | some old => .updated old (s.next a)
    | none => .added (s.next a)⟩

def remove (s : Store α) (key : ObjectKey) : Answer α (Option α) :=
  ⟨s.discard key, s.get? key, (s.get? key).map .deleted⟩

/-! ## Calls -/

def countRead (s : Store α) : Store α := { s with reads := s.reads + 1 }

def countWrite (s : Store α) : Store α := { s with writes := s.writes + 1 }

def read (s : Store α) (key : ObjectKey) : Answer α (Option α) :=
  ⟨s.countRead, s.get? key, none⟩

/-- Lists the resources of a namespace, or all of them. -/
def readAll (s : Store α) (space : Option String) : Answer α (Except StoreError (List α)) :=
  match s.failingLists with
  | n + 1 =>
    ⟨{ s.countRead with failingLists := n }, .error (.backend "injected list failure"), none⟩
  | 0 => ⟨s.countRead, .ok (s.list.filter fun a => space.all (· == (Resource.key a).space)), none⟩

def create (s : Store α) (a : α) : Answer α (Except StoreError α) :=
  if s.objects.contains (Resource.key a) then
    ⟨s.countWrite, .error (.alreadyExists (Resource.key a).text), none⟩
  else ⟨s.countWrite.write a, .ok (s.next a), some (.added (s.next a))⟩

/-- Replaces a resource, if the version of the new one is that of the stored one. -/
def update (s : Store α) (a : α) : Answer α (Except StoreError α) :=
  match s.failingUpdates with
  | n + 1 =>
    ⟨{ s.countWrite with failingUpdates := n }, .error (.conflict (Resource.key a).text), none⟩
  | 0 =>
    match s.get? (Resource.key a) with
    | none => ⟨s.countWrite, .error (.notFound (Resource.key a).text), none⟩
    | some old =>
      if Resource.version? old = Resource.version? a then
        ⟨s.countWrite.write a, .ok (s.next a), some (.updated old (s.next a))⟩
      else ⟨s.countWrite, .error (.conflict (Resource.key a).text), none⟩

def delete (s : Store α) (key : ObjectKey) : Answer α (Except StoreError Unit) :=
  match s.get? key with
  | none => ⟨s.countWrite, .error (.notFound key.text), none⟩
  | some old => ⟨s.countWrite.discard key, .ok (), some (.deleted old)⟩

/-! ## What the operations do to the stored resources -/

theorem get?_write (s : Store α) (a : α) (key : ObjectKey) :
    (s.write a).get? key = if compare key (Resource.key a) = .eq then some (s.next a)
      else s.get? key := SortedMap.get?_insert ..

omit [Resource α] in
theorem get?_discard (s : Store α) (key key' : ObjectKey) :
    (s.discard key).get? key' = if compare key key' = .eq then none else s.get? key' :=
  SortedMap.get?_erase ..

theorem get?_upsert (s : Store α) (a : α) (key : ObjectKey) :
    (s.upsert a).store.get? key = if compare key (Resource.key a) = .eq then some (s.next a)
      else s.get? key := get?_write s a key

theorem objects_readAll (s : Store α) (space : Option String) :
    (s.readAll space).store.objects = s.objects := by
  unfold readAll
  split <;> rfl

theorem version_create {s : Store α} {a b : α} (h : (s.create a).reply = .ok b) :
    (s.create a).store.version = s.version + 1 ∧ b = s.next a := by
  unfold create at h ⊢
  split at h
  · simp at h
  · rename_i hc
    rw [if_neg hc]
    exact ⟨rfl, (Except.ok.inj h).symm⟩

theorem version_update {s : Store α} {a b : α} (h : (s.update a).reply = .ok b) :
    (s.update a).store.version = s.version + 1 ∧ b = s.next a
      ∧ ∃ old, s.get? (Resource.key a) = some old
        ∧ Resource.version? old = Resource.version? a := by
  unfold update at h ⊢
  cases hf : s.failingUpdates with
  | succ n => simp [hf] at h
  | zero =>
    cases hg : s.get? (Resource.key a) with
    | none => simp [hf, hg] at h
    | some old =>
      by_cases hv : Resource.version? old = Resource.version? a
      · simp only [hf, hg, hv, if_true, Except.ok.injEq] at h ⊢
        exact ⟨rfl, h.symm, old, rfl, hv⟩
      · simp [hf, hg, hv] at h

end Store

end RuleCatalog
