import RuleCatalog.Catalog.Call
import RuleCatalog.Config.Basic
import RuleCatalog.WorkQueue

/-! # The world of the programs

Everything that the programs of a catalog share: the stores, the current catalog, the queue of
syncs and a clock. A call takes place at one moment; a change of what the catalog is built from
asks for a sync, once a worker listens.
Main statements: `store_absorb`, that a store is left as the call to it leaves it, and
`catalog_perform`, that the catalog changes by `install` alone. -/
namespace RuleCatalog

/-- The four stores. -/
inductive Place where
  | rules | secrets | overrides | containers
  deriving DecidableEq, Repr

def Place.text : Place → String
  | .rules => "rules"
  | .secrets => "secrets"
  | .overrides => "overrides"
  | .containers => "containers"

/-- A change of a store, as a record of changes keeps it. -/
structure Event where
  place : Place
  change : Change Metadata
  deriving DecidableEq, Repr

namespace Event

/-- The version of a resource, empty before its first write. -/
def versionText (m : Metadata) : String := m.version.getD ""

def text (e : Event) : String :=
  e.place.text ++ match e.change with
    | .added m => s!" add {m.key.text}"
    | .updated m n => s!" update {n.key.text} {versionText m}->{versionText n}"
    | .deleted m => s!" delete {m.key.text}"

end Event

/-- A store with the number of records that are kept of its changes. -/
structure Watched (α : Type) where
  store : Store α
  recorders : Nat
  deriving DecidableEq, Repr

def Watched.empty {α : Type} : Watched α := ⟨.empty, 0⟩

/-- What workers do. -/
inductive Job where
  | sync
  deriving DecidableEq, Repr

structure Stores where
  rules : Watched RuleResource
  secrets : Watched Secret
  overrides : Watched OverrideResource
  containers : Watched Container

def Stores.empty : Stores := ⟨.empty, .empty, .empty, .empty⟩

structure World where
  config : Config
  now : Nat
  stores : Stores
  catalog : Catalog
  queue : WorkQueue Job
  /-- Whether a worker listens to the stores. -/
  isListening : Bool
  /-- How often the right to sync has been asked for, and how often it was given back. -/
  issued : Nat
  served : Nat
  /-- The recorded changes, in order. -/
  events : List Event

namespace World

def empty (c : Config) : World where
  config := c
  now := 0
  stores := .empty
  catalog := .empty
  queue := .empty true c.backoffMin c.backoffMax
  isListening := false
  issued := 0
  served := 0
  events := []

instance : Inhabited World := ⟨.empty .default⟩

end World

/-- A kind of resource with its store. -/
class Stored (α : Type) extends Resource α where
  place : Place
  watched : Stores → Watched α
  withWatched : Stores → Watched α → Stores
  watched_withWatched : ∀ s a, watched (withWatched s a) = a
  call : StoreCall α → Call
  reply : ∀ c, (call c).Reply → c.Reply

instance : Stored RuleResource where
  place := .rules
  watched s := s.rules
  withWatched s a := { s with rules := a }
  watched_withWatched _ _ := rfl
  call := .rules
  reply _ := id

instance : Stored Secret where
  place := .secrets
  watched s := s.secrets
  withWatched s a := { s with secrets := a }
  watched_withWatched _ _ := rfl
  call := .secrets
  reply _ := id

instance : Stored OverrideResource where
  place := .overrides
  watched s := s.overrides
  withWatched s a := { s with overrides := a }
  watched_withWatched _ _ := rfl
  call := .overrides
  reply _ := id

instance : Stored Container where
  place := .containers
  watched s := s.containers
  withWatched s a := { s with containers := a }
  watched_withWatched _ _ := rfl
  call := .containers
  reply _ := id

/-- A script of calls to one store as a program. -/
def Program.ofStore {α ρ : Type} [Stored α] (s : Script (@StoreCall.Reply α) ρ) : Program ρ :=
  s.lift Stored.call Stored.reply

namespace World
variable {α ρ : Type} [Stored α]

def watched (w : World) : Watched α := Stored.watched w.stores

def withWatched (w : World) (a : Watched α) : World :=
  { w with stores := Stored.withWatched w.stores a }

def store (w : World) : Store α := w.watched.store

def withStore (w : World) (s : Store α) : World :=
  w.withWatched { w.watched (α := α) with store := s }

/-- Asks for a sync after the time in which further changes are awaited. -/
def requestSync (w : World) : World :=
  { w with queue := w.queue.addAfter w.now .sync w.config.debounce }

/-- Whether the catalog is built from a resource. -/
def concernsCatalog (c : Config) (key : ObjectKey) : Place → Bool
  | .rules | .overrides => true
  | .secrets => key == c.relabelSecret.secret
  | .containers => false

/-- Tells those who watch a store of a change. -/
def notify (w : World) (change : Change α) : World :=
  let event : Event := ⟨Stored.place α, change.map Resource.metadata⟩
  let w := { w with
    events := w.events ++ List.replicate (w.watched (α := α)).recorders event }
  if w.isListening && concernsCatalog w.config (Resource.key change.latest) (Stored.place α) then
    w.requestSync
  else w

/-- The reply of a store, and the world after its change. -/
def absorb (w : World) (a : Answer α ρ) : ρ × World :=
  let w := w.withStore a.store
  (a.reply, match a.change with
    | some change => w.notify change
    | none => w)

/-- What happens when a call takes place. -/
def perform (w : World) : (c : Call) → c.Reply × World
  | .rules c => w.absorb (w.store.perform c)
  | .secrets c => w.absorb (w.store.perform c)
  | .overrides c => w.absorb (w.store.perform c)
  | .containers c => w.absorb (w.store.perform c)
  | .sleep _ | .rest | .acquire => ((), w)
  | .install catalog => ((), { w with catalog := catalog })
  | .release => ((), { w with served := w.served + 1 })

/-- How long a call takes before it takes place. -/
def delayOf (w : World) : Call → Nat
  | .rules _ => w.stores.rules.store.latency
  | .secrets _ => w.stores.secrets.store.latency
  | .overrides _ => w.stores.overrides.store.latency
  | .containers _ => w.stores.containers.store.latency
  | .sleep ms => ms
  | _ => 0

theorem stores_notify (w : World) (change : Change α) : (w.notify change).stores = w.stores := by
  unfold notify
  dsimp only
  split <;> rfl

theorem catalog_notify (w : World) (change : Change α) :
    (w.notify change).catalog = w.catalog := by
  unfold notify
  dsimp only
  split <;> rfl

theorem store_absorb (w : World) (a : Answer α ρ) : (w.absorb a).2.store = a.store := by
  unfold absorb
  cases a.change <;>
    simp [store, watched, withStore, withWatched, stores_notify, Stored.watched_withWatched]

theorem catalog_absorb (w : World) (a : Answer α ρ) : (w.absorb a).2.catalog = w.catalog := by
  unfold absorb
  cases a.change <;> simp [catalog_notify, withStore, withWatched]

theorem catalog_perform (w : World) (c : Call) : (w.perform c).2.catalog
    = match c with
      | .install catalog => catalog
      | _ => w.catalog := by
  cases c with
  | rules c => exact w.catalog_absorb _
  | secrets c => exact w.catalog_absorb _
  | overrides c => exact w.catalog_absorb _
  | containers c => exact w.catalog_absorb _
  | _ => rfl

end World

end RuleCatalog
