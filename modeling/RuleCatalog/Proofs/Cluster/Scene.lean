import RuleCatalog.Cluster.Worker
import RuleCatalog.Proofs.Cluster.SyncPhase
import RuleCatalog.Proofs.WorkQueue

/-! # Interleavings

A scene is a world with all that is under way in it: the worker, the syncs that users have asked
for, and the changes that those who watch the stores have not been told of yet. `Step` is one
step of any of them, in any order; `Scene.Reachable` is what such steps lead to, from empty
stores on. No step closes the queue. -/
namespace RuleCatalog

/-- What others do to one of the stores. -/
inductive Deed where
  | rules (a : StoreAction RuleResource)
  | secrets (a : StoreAction Secret)
  | overrides (a : StoreAction OverrideResource)
  | containers (a : StoreAction Container)

/-- A change that has been made. -/
inductive Notice where
  | rules (c : Change RuleResource)
  | secrets (c : Change Secret)
  | overrides (c : Change OverrideResource)
  | containers (c : Change Container)

namespace Notice

/-- Whether the catalog is built from the resource of a change. -/
def concerns (c : Config) : Notice → Bool
  | rules a => World.concernsCatalog c (Resource.key a.latest) (Stored.place RuleResource)
  | secrets a => World.concernsCatalog c (Resource.key a.latest) (Stored.place Secret)
  | overrides a => World.concernsCatalog c (Resource.key a.latest) (Stored.place OverrideResource)
  | containers a => World.concernsCatalog c (Resource.key a.latest) (Stored.place Container)

end Notice

namespace World

/-- A world after a deed, with the change that it made. Nobody has been told yet. -/
def act (w : World) : Deed → World × Option Notice
  | .rules a => (w.withStore (w.store.act a).1, (w.store.act a).2.map .rules)
  | .secrets a => (w.withStore (w.store.act a).1, (w.store.act a).2.map .secrets)
  | .overrides a => (w.withStore (w.store.act a).1, (w.store.act a).2.map .overrides)
  | .containers a => (w.withStore (w.store.act a).1, (w.store.act a).2.map .containers)

/-- Tells those who watch. -/
def tell (w : World) : Notice → World
  | .rules c => w.notify c
  | .secrets c => w.notify c
  | .overrides c => w.notify c
  | .containers c => w.notify c

/-- A world in which a worker listens and the first sync has been asked for. -/
def listening (w : World) : World :=
  { w with queue := w.queue.add .sync, isListening := true }

end World

structure Scene where
  world : World
  /-- The worker, once it has been started. -/
  worker : Option Worker
  /-- The syncs that users have asked for. -/
  syncs : List (ActiveProgram (Except SyncError SyncStats))
  /-- The changes that nobody has been told of yet. -/
  notices : List Notice

namespace Scene

def empty (c : Config) : Scene := ⟨.empty c, none, [], []⟩

inductive Step : Scene → Scene → Prop
  /-- Somebody does something to a store. -/
  | act (s : Scene) (d : Deed) : Step s { s with
      world := (s.world.act d).1, notices := s.notices ++ (s.world.act d).2.toList }
  /-- Those who watch are told of a change. -/
  | tell (s : Scene) {l r : List Notice} {n : Notice} (h : s.notices = l ++ n :: r) :
      Step s { s with world := s.world.tell n, notices := l ++ r }
  /-- The worker is started. -/
  | start (s : Scene) (h : s.worker = none) :
      Step s { s with world := s.world.listening, worker := some .idle }
  /-- The periodic sync is due. -/
  | tick (s : Scene) : Step s { s with
      world := { s.world with queue := s.world.queue.add .sync } }
  | request (s : Scene) : Step s { s with world := s.world.requestSync }
  /-- A delayed add is due. -/
  | fire (s : Scene) {d : DelayedAdd Job} (h : d ∈ s.world.queue.delayed) : Step s { s with
      world := { s.world with queue := s.world.queue.fireOne d } }
  | pass (s : Scene) (ms : Nat) : Step s { s with
      world := { s.world with now := s.world.now + ms } }
  /-- A user asks for a sync. -/
  | ask (s : Scene) : Step s { s with
      syncs := s.syncs ++ [.ofProgram (Catalog.sync s.world.config)] }
  /-- A sync of a user goes on by a step. -/
  | move (s : Scene) {l r : List (ActiveProgram (Except SyncError SyncStats))}
      {t t' : ActiveProgram (Except SyncError SyncStats)} {w : World}
      (h : s.syncs = l ++ t :: r) (hm : t.move? s.world = some (t', w)) :
      Step s { s with world := w, syncs := l ++ t' :: r }
  /-- The worker takes a job. -/
  | take (s : Scene) {q : WorkQueue Job} (h : s.worker = some .idle)
      (ht : s.world.queue.take = (.key .sync, q)) : Step s { s with
        world := { s.world with queue := q }
        worker := some (.busy (.ofProgram (Catalog.sync s.world.config))) }
  /-- The worker finds no job. -/
  | look (s : Scene) {q : WorkQueue Job} (h : s.worker = some .idle)
      (ht : s.world.queue.take = (.nothing, q)) :
      Step s { s with world := { s.world with queue := q } }
  /-- The worker's sync goes on by a step. -/
  | work (s : Scene) {t t' : ActiveProgram (Except SyncError SyncStats)} {w : World}
      (h : s.worker = some (.busy t)) (hm : t.move? s.world = some (t', w)) :
      Step s { s with world := w, worker := some (.busy t') }
  /-- The worker gives a job back that succeeded. -/
  | succeed (s : Scene) {t : ActiveProgram (Except SyncError SyncStats)} {stats : SyncStats}
      (h : s.worker = some (.busy t)) (hr : t.result? = some (.ok stats)) : Step s { s with
        world := { s.world with queue := (s.world.queue.forget .sync).done .sync }
        worker := some .idle }
  /-- The worker gives a job back that failed; any jitter may be added to its delay. -/
  | fail (s : Scene) {t : ActiveProgram (Except SyncError SyncStats)} {e : SyncError}
      (jitter : Nat) (h : s.worker = some (.busy t)) (hr : t.result? = some (.error e)) :
      Step s { s with
        world := { s.world with
          queue := (s.world.queue.addRateLimited s.world.now .sync jitter).2.done .sync }
        worker := some .idle }

inductive Reachable (c : Config) : Scene → Prop
  | empty : Reachable c (.empty c)
  | step {s s' : Scene} (h : Reachable c s) (hs : Step s s') : Reachable c s'

namespace Reachable
variable {c : Config} {s : Scene} {w : World}
  {t t' : ActiveProgram (Except SyncError SyncStats)}

/-- The worker's sync may go on by any number of steps. -/
theorem work (h : Reachable c s) (hs : s.worker = some (.busy t))
    (hm : ActiveProgram.Moves (t, s.world) (t', w)) :
    Reachable c { s with world := w, worker := some (.busy t') } := by
  have hall : ∀ a : ActiveProgram (Except SyncError SyncStats) × World,
      ActiveProgram.Moves (t, s.world) a →
      Reachable c { s with world := a.2, worker := some (.busy a.1) } := by
    intro a ha
    induction ha with
    | refl => rwa [← hs]
    | tail _ hstep ih => exact ih.step (.work _ rfl hstep)
  exact hall _ hm

/-- A sync of a user may go on by any number of steps. -/
theorem move (h : Reachable c s) {l r : List (ActiveProgram (Except SyncError SyncStats))}
    (hs : s.syncs = l ++ t :: r) (hm : ActiveProgram.Moves (t, s.world) (t', w)) :
    Reachable c { s with world := w, syncs := l ++ t' :: r } := by
  have hall : ∀ a : ActiveProgram (Except SyncError SyncStats) × World,
      ActiveProgram.Moves (t, s.world) a →
      Reachable c { s with world := a.2, syncs := l ++ a.1 :: r } := by
    intro a ha
    induction ha with
    | refl => rwa [← hs]
    | tail _ hstep ih => exact ih.step (.move _ rfl hstep)
  exact hall _ hm

end Reachable

end Scene

/-! ## What deeds and notices do to a world -/

namespace World
variable {w : World}

/-- Whether what a sync reads is stored under its own keys. -/
structure IsKeyed (w : World) : Prop where
  rules : w.stores.rules.store.IsKeyed
  secrets : w.stores.secrets.store.IsKeyed
  overrides : w.stores.overrides.store.IsKeyed

theorem isKeyed_act (hk : w.IsKeyed) (d : Deed) : (w.act d).1.IsKeyed := by
  cases d with
  | rules a => exact { hk with rules := Store.isKeyed_act hk.rules a }
  | secrets a => exact { hk with secrets := Store.isKeyed_act hk.secrets a }
  | overrides a => exact { hk with overrides := Store.isKeyed_act hk.overrides a }
  | containers a => exact { hk with }

theorem Alike.isKeyed {w' : World} (h : w.Alike w') (hk : w.IsKeyed) : w'.IsKeyed where
  rules := Store.isKeyed_of_objects h.rules hk.rules
  secrets := Store.isKeyed_of_objects h.secrets hk.secrets
  overrides := Store.isKeyed_of_objects h.overrides hk.overrides

/-- A deed changes what a sync reads only by a change that the catalog is concerned with. -/
theorem sources_act (hk : w.IsKeyed) (d : Deed) : (w.act d).1.sources = w.sources
    ∨ ∃ n, (w.act d).2 = some n ∧ n.concerns w.config = true := by
  cases d with
  | rules a =>
    have htells := Store.tells_act hk.rules a
    cases hc : (w.stores.rules.store.act a).2 with
    | none =>
      rw [hc] at htells
      exact .inl (Sources.ext rfl (congrArg SortedMap.values htells) rfl)
    | some c => exact .inr ⟨.rules c, congrArg (Option.map Notice.rules) hc, rfl⟩
  | secrets a =>
    have htells := Store.tells_act hk.secrets a
    cases hc : (w.stores.secrets.store.act a).2 with
    | none =>
      rw [hc] at htells
      exact .inl (Sources.ext (Store.get?_eq_of_objects htells _) rfl rfl)
    | some c =>
      rw [hc] at htells
      by_cases hkey : w.config.relabelSecret.secret = Resource.key c.latest
      · refine .inr ⟨.secrets c, congrArg (Option.map Notice.secrets) hc, ?_⟩
        show (Resource.key c.latest == w.config.relabelSecret.secret) = true
        rw [hkey, beq_self_eq_true]
      · exact .inl (Sources.ext (htells _ hkey) rfl rfl)
  | overrides a =>
    have htells := Store.tells_act hk.overrides a
    cases hc : (w.stores.overrides.store.act a).2 with
    | none =>
      rw [hc] at htells
      exact .inl (Sources.ext rfl rfl (congrArg SortedMap.values htells))
    | some c => exact .inr ⟨.overrides c, congrArg (Option.map Notice.overrides) hc, rfl⟩
  | containers a => exact .inl rfl

end World

end RuleCatalog
