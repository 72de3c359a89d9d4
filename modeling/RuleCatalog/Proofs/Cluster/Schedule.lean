import RuleCatalog.Cluster.Basic
import RuleCatalog.Proofs.Cluster.Coherence

/-! # Schedules

A cluster lets its activities and its worker go on in an order of its own. Whatever it does is a
run of single steps, so that what holds of all interleavings holds of it. Main statement:
`Scene.Reachable.settleFor`, for all that a cluster with one worker does at one moment. -/
namespace RuleCatalog

namespace WorkQueue
variable {κ : Type} [DecidableEq κ]

/-- Adds that are due may be carried out one after another. -/
theorem foldl_fireOne (ds rest : List (DelayedAdd κ)) {q : WorkQueue κ}
    (h : q.delayed = ds ++ rest) : ds.foldl fireOne q
      = ds.foldl (fun q d => q.fire d.key) { q with delayed := rest } := by
  induction ds generalizing q with
  | nil =>
    rw [List.nil_append] at h
    rw [← h]
    rfl
  | cons d ds ih =>
    have hdelayed : (q.fireOne d).delayed = ds ++ rest := by
      rw [fireOne_eq, delayed_add, h, List.cons_append, List.erase_cons_head]
    have hfire : { q.fireOne d with delayed := rest } = { q with delayed := rest }.fire d.key := by
      unfold fireOne fire add
      dsimp only
      split
      · rfl
      · split <;> rfl
    rw [List.foldl_cons, List.foldl_cons, ih hdelayed, hfire]

theorem fireDue_eq (q : WorkQueue κ) (now : Nat) :
    q.fireDue now = (q.delayed.takeWhile (·.due ≤ now)).foldl fireOne q :=
  (foldl_fireOne _ _ List.takeWhile_append_dropWhile.symm).symm

end WorkQueue

namespace World
variable {α ρ : Type} [Stored α]

/-- A world after a deed that everybody is told of at once. -/
def carryOut (w : World) (d : Deed) : World :=
  (w.act d).2.elim (w.act d).1 (w.act d).1.tell

theorem snd_absorb (w : World) (a : Answer α ρ) : (w.absorb a).2
    = a.change.elim (w.withStore a.store) (w.withStore a.store).notify := by
  unfold absorb
  cases a.change <;> rfl

end World

/-- What a call does to a store, if it is one to a store. -/
def Call.deed? : Call → Option Deed
  | .rules c => some (.rules (.call c))
  | .secrets c => some (.secrets (.call c))
  | .overrides c => some (.overrides (.call c))
  | .containers c => some (.containers (.call c))
  | _ => none

/-- A call to a store is a deed that everybody is told of at once. -/
theorem World.perform_of_deed? (w : World) {c : Call} {d : Deed} (h : c.deed? = some d) :
    (w.perform c).2 = w.carryOut d := by
  cases c <;> cases h <;> unfold perform <;> dsimp only <;>
    rw [snd_absorb, carryOut, World.act, Option.elim_map] <;> rfl

namespace Scene.Reachable
variable {c : Config} {s : Scene}

theorem carryOut (h : Reachable c s) (d : Deed) :
    Reachable c { s with world := s.world.carryOut d } := by
  have hact := h.step (.act s d)
  unfold World.carryOut
  cases hn : (s.world.act d).2 with
  | none =>
    rw [hn] at hact
    simpa using hact
  | some n =>
    rw [hn] at hact
    have htell := hact.step (.tell _ (l := s.notices) (r := []) rfl)
    simpa using htell

/-- The work of a request that uses the stores, call by call. -/
theorem perform (h : Reachable c s) {call : Call} {d : Deed} (hd : call.deed? = some d) :
    Reachable c { s with world := (s.world.perform call).2 } := by
  rw [s.world.perform_of_deed? hd]
  exact h.carryOut d

theorem fireDue (h : Reachable c s) : Reachable c { s with
    world := { s.world with queue := s.world.queue.fireDue s.world.now } } := by
  have hall : ∀ (ds rest : List (DelayedAdd Job)) (s : Scene), Reachable c s →
      s.world.queue.delayed = ds ++ rest → Reachable c { s with
        world := { s.world with queue := ds.foldl WorkQueue.fireOne s.world.queue } } := by
    intro ds rest
    induction ds with
    | nil => exact fun s h _ => h
    | cons d ds ih =>
      intro s h hdelayed
      refine ih _ (h.step (.fire s (d := d) (by simp [hdelayed]))) ?_
      show (s.world.queue.fireOne d).delayed = ds ++ rest
      rw [WorkQueue.fireOne_eq, WorkQueue.delayed_add, hdelayed, List.cons_append,
        List.erase_cons_head]
  rw [WorkQueue.fireDue_eq]
  exact hall _ _ s h List.takeWhile_append_dropWhile.symm

/-- The worker's sync has no limit on how long it may take. -/
theorem limit_eq_none (h : Reachable c s) {t : ActiveProgram (Except SyncError SyncStats)}
    (hs : s.worker = some (.busy t)) : t.limit = none := by
  induction h generalizing t with
  | empty => cases hs
  | step _ hstep ih =>
    cases hstep with
    | start => cases hs
    | take =>
      cases hs
      rfl
    | work hbusy hm =>
      cases hs
      rw [ActiveProgram.limit_of_move? hm]
      exact ih hbusy
    | succeed => cases hs
    | fail => cases hs
    | _ => exact ih hs

/-- What a worker does in one go is a run of single steps. -/
theorem workerStep (h : Reachable c s) {worker : Worker} (hs : s.worker = some worker) :
    Reachable c { s with
      world := (worker.step s.world).2, worker := some (worker.step s.world).1 } := by
  obtain ⟨g, hg⟩ := h.coherent
  cases worker with
  | finished =>
    have hf := hg.follows
    rw [hs] at hf
    cases hw : g.worker <;> rw [hw] at hf <;> exact hf.elim
  | idle =>
    unfold Worker.step
    cases ht : s.world.queue.take with
    | mk handout q =>
      cases handout with
      | key k =>
        cases k
        exact h.step (.take s hs ht)
      | nothing =>
        have hlook := h.step (.look s hs ht)
        rwa [hs] at hlook
      | closed =>
        unfold WorkQueue.take at ht
        dsimp only at ht
        rw [hg.isOpen] at ht
        split at ht
        · rename_i hclosed
          cases hclosed
        · split at ht <;> cases ht
  | busy t =>
    have hreport : ∀ {t' w' r}, Reachable c { s with world := w', worker := some (.busy t') } →
        t'.result? = some r →
        Reachable c { s with world := Worker.report w' r, worker := some .idle } := by
      intro t' w' r h hr
      cases r with
      | ok stats => exact h.step (.succeed _ rfl hr)
      | error e => exact h.step (.fail _ 0 rfl hr)
    cases hr : t.result? with
    | some r =>
      have hresult : (t.poll s.world).1.result? = some r := by
        rw [ActiveProgram.poll_of_result? hr]
        exact hr
      have hworld : (t.poll s.world).2 = s.world := by
        rw [ActiveProgram.poll_of_result? hr]
      simp only [Worker.step, hresult, hworld]
      exact hreport (by rwa [← hs]) hr
    | none =>
      have hwork := h.work hs (ActiveProgram.moves_poll (h.limit_eq_none hs) hr s.world)
      unfold Worker.step
      dsimp only
      split
      · rename_i r hresult
        exact hreport hwork hresult
      · exact hwork

/-- A cluster that lets its only worker go on until it waits makes a run of single steps. -/
theorem settleFor {cluster : Cluster} {syncs : List (ActiveProgram (Except SyncError SyncStats))}
    {notices : List Notice} {worker : Worker} (hworkers : cluster.workers = [worker])
    (h : Reachable c ⟨cluster.world, some worker, syncs, notices⟩) (n : Nat) :
    ∃ worker', (cluster.settleFor n).workers = [worker']
      ∧ Reachable c ⟨(cluster.settleFor n).world, some worker', syncs, notices⟩ := by
  induction n generalizing cluster worker with
  | zero => exact ⟨worker, hworkers, h⟩
  | succ n ih =>
    rw [Cluster.settleFor]
    split
    · have hstep := h.workerStep rfl
      simp only [hworkers, Cluster.stepWorkers]
      exact ih rfl hstep
    · exact ⟨worker, hworkers, h⟩

end Scene.Reachable

end RuleCatalog
