import RuleCatalog.Proofs.Cluster.Schedule

/-! # Quiescence

When nothing asks for a sync any more, the catalog is the one that a sync would build, and as long
as something does, somebody goes on. Main statement: `Scene.Reachable.quiescent_consistency`. -/
namespace RuleCatalog
open SyncPhase

/-- A world in which no listing is going to fail that a sync makes. -/
def World.reliable (w : World) : World :=
  let rules := { w.stores.rules with store.failingLists := 0 }
  let overrides := { w.stores.overrides with store.failingLists := 0 }
  { w with stores := { w.stores with rules, overrides } }

namespace Scene

/-- Whether nothing is on its way to a sync: all have been told of every change that matters, and
the queue has no sync in it. A store tells of a change before the call or the direct change that
makes it is over. -/
structure IsQuiet (s : Scene) : Prop where
  notices : ∀ n ∈ s.notices, n.concerns s.world.config = false
  waiting : .sync ∉ s.world.queue.waiting
  queued : .sync ∉ s.world.queue.queued
  dirty : .sync ∉ s.world.queue.dirty
  processing : .sync ∉ s.world.queue.processing

/-- What brings about a sync: a step of somebody that can be made at once, or that the clock
makes. -/
inductive GoesOn (s : Scene) : Prop
  | tell {n : Notice} (h : n ∈ s.notices) (hn : n.concerns s.world.config = true)
  | fire {d : DelayedAdd Job} (h : d ∈ s.world.queue.delayed) (hd : d.key = .sync)
  | take {q : WorkQueue Job} (h : s.worker = some .idle)
    (ht : s.world.queue.take = (.key .sync, q))
  | work {t : ActiveProgram (Except SyncError SyncStats)} (h : s.worker = some (.busy t))

namespace Coherent
variable {c : Config} {s : Scene} {g : Progress}

/-- A scene that is quiet has nothing pending. -/
theorem built_of_isQuiet (h : Coherent c s g) (hstarted : s.worker.isSome) (hquiet : s.IsQuiet) :
    ∃ stats, s.world.built = .ok (s.world.catalog, stats) := by
  have hnone : g.worker = none := by
    have hp := h.processing.not.1 hquiet.processing
    simpa using hp
  rcases h.noneMissed hstarted with hpending | hu
  · cases hpending with
    | notice hn hconcerns =>
      rw [hquiet.notices _ hn] at hconcerns
      cases hconcerns
    | queue hq => exact (hq.elim hquiet.waiting hquiet.dirty).elim
    | worker hp =>
      rw [hnone] at hp
      cases hp
  · refine hu.built.resolve_left ?_
    rintro ⟨p, hp, -⟩
    rw [hnone] at hp
    cases hp

theorem goesOn_of_mem_processing (h : Coherent c s g)
    (hp : Job.sync ∈ s.world.queue.processing) : s.GoesOn := by
  have hg := h.processing.1 hp
  have hf := h.follows
  cases hs : s.worker with
  | none =>
    rw [hs] at hf
    cases hgw : g.worker with
    | none => rw [hgw] at hg; cases hg
    | some p => rw [hgw] at hf; exact hf.elim
  | some worker =>
    rw [hs] at hf
    cases worker with
    | busy t => exact .work hs
    | idle =>
      cases hgw : g.worker with
      | none => rw [hgw] at hg; cases hg
      | some p => rw [hgw] at hf; exact hf.elim
    | finished => cases hgw : g.worker <;> rw [hgw] at hf <;> exact hf.elim

/-- What is queued can be taken: there is one kind of job only, and the worker does not have it. -/
theorem goesOn_of_mem_queued (h : Coherent c s g) (hstarted : s.worker.isSome)
    (hq : Job.sync ∈ s.world.queue.queued) : s.GoesOn := by
  have hp := ((h.sound.mem_queued _).1 hq).2
  have hnone : g.worker = none := by
    have hn := h.processing.not.1 hp
    simpa using hn
  have hf := h.follows
  rw [hnone] at hf
  obtain ⟨worker, hs⟩ := Option.isSome_iff_exists.1 hstarted
  rw [hs] at hf
  cases worker with
  | busy t => exact hf.elim
  | finished => exact hf.elim
  | idle =>
    cases hqueue : s.world.queue.queued with
    | nil => rw [hqueue] at hq; cases hq
    | cons k ks =>
      cases k
      refine .take hs (q := s.world.queue.take.2) ?_
      unfold WorkQueue.take
      simp [h.isOpen, hqueue]

/-- A scene that is not quiet goes on: no sync is asked for in vain. -/
theorem goesOn_of_not_isQuiet (h : Coherent c s g) (hstarted : s.worker.isSome)
    (hbusy : ¬ s.IsQuiet) : s.GoesOn := by
  by_contra hstuck
  have hprocessing : Job.sync ∉ s.world.queue.processing :=
    fun hp => hstuck (h.goesOn_of_mem_processing hp)
  have hqueued : Job.sync ∉ s.world.queue.queued :=
    fun hq => hstuck (h.goesOn_of_mem_queued hstarted hq)
  refine hbusy ⟨fun n hn => ?_, fun hw => ?_, hqueued, fun hd => ?_, hprocessing⟩
  · exact Bool.eq_false_iff.2 fun hconcerns => hstuck (.tell hn hconcerns)
  · obtain ⟨d, hd, hkey⟩ := List.mem_map.1 ((h.sound.mem_waiting _).1 hw)
    exact hstuck (.fire hd hkey)
  · exact hqueued ((h.sound.mem_queued _).2 ⟨hd, hprocessing⟩)

end Coherent

/-- In every run of a worker among others who change the stores and ask for syncs: when the queue
has no sync in it, the catalog is the one that a sync of what is stored leads to, and otherwise
the next sync is on its way. -/
theorem Reachable.quiescent_consistency {c : Config} {s : Scene} (h : Reachable c s)
    (hstarted : s.worker.isSome) :
    (s.IsQuiet → ∃ stats w, (Catalog.sync c).run World.perform s.world.reliable = (.ok stats, w)
        ∧ w.catalog = s.world.catalog)
      ∧ (¬ s.IsQuiet → s.GoesOn) := by
  obtain ⟨g, hg⟩ := h.coherent
  refine ⟨fun hquiet => ?_, hg.goesOn_of_not_isQuiet hstarted⟩
  obtain ⟨stats, hbuilt⟩ := hg.built_of_isQuiet hstarted hquiet
  have hreliable : s.world.reliable.built = .ok (s.world.catalog, stats) := hbuilt
  have hconfig : s.world.reliable.config = c := hg.config
  obtain ⟨hreply, hcatalog⟩ := run_sync (w := s.world.reliable) ⟨rfl, rfl⟩
  rw [hreliable, hconfig] at hreply hcatalog
  exact ⟨stats, _, Prod.ext hreply rfl, hcatalog⟩

/-- A worker's second sync, after a change of the rules. -/
theorem quiescent_after_change : ∃ s, Reachable .default s ∧ s.worker.isSome ∧ s.IsQuiet
    ∧ s.world.stores.rules.store.list ≠ []
    ∧ ∃ stats w, (Catalog.sync .default).run World.perform s.world.reliable = (.ok stats, w)
      ∧ w.catalog = s.world.catalog := by
  obtain ⟨s, h, hs, hquiet, hne⟩ : ∃ s, Reachable .default s ∧ s.worker.isSome ∧ s.IsQuiet
      ∧ s.world.stores.rules.store.list ≠ [] := by
    have hstart := (Reachable.empty (c := .default)).step (.start _ rfl)
    have hfirst := (hstart.workerStep rfl).workerStep rfl
    have hchange := hfirst.carryOut
      (.rules (.upsert ⟨⟨"web", "alerts", ∅, ∅, [], none, none⟩, []⟩))
    have hlater := (hchange.step (.pass _ 500)).fireDue
    have hsecond := (hlater.workerStep rfl).workerStep rfl
    refine ⟨_, hsecond, rfl, ⟨?_, ?_, ?_, ?_, ?_⟩, ?_⟩
    · exact fun n hn => nomatch hn
    all_goals decide +kernel
  exact ⟨s, h, hs, hquiet, hne, (h.quiescent_consistency hs).1 hquiet⟩

end Scene

end RuleCatalog
