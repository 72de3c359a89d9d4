import RuleCatalog.Cluster.Basic
import RuleCatalog.Service.Classification
import RuleCatalog.Service.Override
import RuleCatalog.Service.Rule

/-! # Activities

What can be done to a cluster: changes of its stores from outside, requests of its users, syncs,
and the life of its workers. A request has to be answered before its time is up. -/
namespace RuleCatalog

namespace Activity
variable {ρ ρ' : Type} {α : Type} [Stored α]

/-- Something that is done at once. -/
def atOnce (f : World → ρ × World) : Activity ρ := fun c =>
  let (r, w) := f c.world
  (.ofResult fun _ => r, { c with world := w })

/-- A look at the world that leaves it as it is. -/
def look (f : World → ρ) : Activity ρ := atOnce fun w => (f w, w)

/-- A program that may depend on the world at its beginning. -/
def ofProgram (p : World → Program ρ) : Activity ρ := fun c =>
  (.ofProgram ((fun r _ => r) <$> p c.world), c)

/-- A request without a limit. -/
def ofCalls (r : StoreRequest α ρ) : Activity (Except ServiceError ρ) :=
  ofProgram fun _ => .ofStore r

/-- A program with a limit on how long it may take. -/
def withLimit (limit : Nat) (p : Program (Except ServiceError ρ)) :
    Activity (Except ServiceError ρ) := fun c =>
  (⟨(fun r _ => r) <$> p, none, some (c.world.now + limit, fun _ => .error (.timeout limit))⟩, c)

/-- A request that has to be answered before its time is up. -/
def ofRequest (r : Config → Catalog → StoreRequest α ρ) : Activity (Except ServiceError ρ) :=
  fun c => withLimit c.world.config.requestTimeout
    (.ofStore (r c.world.config c.world.catalog)) c

def map (f : ρ → ρ') (a : Activity ρ) : Activity ρ' := fun c =>
  let (t, c) := a c
  (⟨(f ∘ ·) <$> t.program, t.wait, t.limit.map fun l => (l.1, f ∘ l.2)⟩, c)

/-! ## Stores -/

def upsert (a : α) : Activity α := atOnce fun w => w.absorb (w.store.upsert a)

def remove (key : ObjectKey) : Activity (Option α) := atOnce fun w => w.absorb (w.store.remove key)

/-- Changes how a store behaves. -/
def configure (f : Store α → Store α) : Activity Unit :=
  atOnce fun w => ((), w.withStore (f w.store))

/-- Keeps a record of the changes of the store of a kind. -/
def watch (α : Type) [Stored α] : Activity Unit := atOnce fun w =>
  let watched : Watched α := w.watched
  ((), w.withWatched { watched with recorders := watched.recorders + 1 })

/-- The changes that were recorded since the last time. -/
def takeEvents : Activity (List Event) := atOnce fun w => (w.events, { w with events := [] })

/-! ## Relabel entries of the whole system -/

/-- Replaces the secret with the relabel entries. -/
def setPayload (payload : World → List UInt8) : Activity Unit := atOnce fun w =>
  let l := w.config.relabelSecret
  let secret : Secret := ⟨.fresh l.secret, .ofList [(l.key, payload w)]⟩
  ((), (w.absorb (w.store.upsert secret)).2)

/-- The entries of all override resources. -/
def overrideEntries (w : World) : List RelabelEntry :=
  (w.store : Store OverrideResource).list.flatMap (·.entries)

/-- Puts the entries of all override resources into the secret, and answers how many they are. -/
def publishOverrides : Activity Nat := fun c =>
  let n := (overrideEntries c.world).length
  map (fun _ => n) (setPayload fun w => RelabelEntry.payload (overrideEntries w)) c

/-! ## The catalog -/

def sync : Activity (Except SyncError SyncStats) := ofProgram fun w => Catalog.sync w.config

/-- Asks for a sync, which a worker carries out. -/
def requestSync : Activity Unit := atOnce fun w => ((), w.requestSync)

/-! ## Workers -/

/-- Lets a time pass, and then all that is due. -/
def advance (ms : Nat) : Activity Unit :=
  ofProgram fun _ => .call (.sleep ms) fun _ => .call .rest .done

/-- Lets all others go on, and then gives an answer. -/
def afterOthers (answer : Cluster → ρ) (c : Cluster) : ActiveProgram (Cluster → ρ) × Cluster :=
  (.ofProgram (.call .rest fun _ => .done answer), c)

/-- Starts a worker, with a first sync and one after each interval. A worker of before is told to
finish, and the queue stays closed for the new one. -/
def startWorker : Activity Unit := fun c =>
  let c := if c.workers.isEmpty then c else c.close
  let period := c.world.config.resyncInterval
  let ticks := if period = 0 || c.world.queue.isClosed then []
    else [⟨c.world.now + period, period⟩]
  let world := { c.world with queue := c.world.queue.add .sync, isListening := true }
  afterOthers (fun _ => ()) ⟨world, c.workers ++ [.idle], ticks⟩

/-- Tells the worker to finish, and answers whether it has, if there is one. -/
def stopWorker : Activity (Option Bool) := fun c =>
  let c := if c.workers.isEmpty then c else c.close
  afterOthers (fun c => c.workers.getLast?.map (·.isFinished)) c

end Activity

end RuleCatalog
