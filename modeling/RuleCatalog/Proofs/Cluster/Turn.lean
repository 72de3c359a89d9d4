import RuleCatalog.Proofs.Cluster.SyncPhase

/-! # The right to sync

Syncs ask for the right to sync by tickets, which are served in order. `Turns` is the invariant
of all syncs under way: at most one has the right, and the tickets of those that wait come after
it. Main statement: `Turns.holders_of_acquire`, that nobody has the right when it is acquired. -/
namespace RuleCatalog
open SyncPhase
variable {w w' : World} {p p' : SyncPhase} {ps qs : List SyncPhase}

/-- The tickets of the syncs that wait for the right to sync. -/
def tickets (ps : List SyncPhase) : List Nat := ps.filterMap ticket?

/-- How many syncs have the right to sync. -/
def holders (ps : List SyncPhase) : Nat := ps.countP isHolding

theorem tickets_cons_of_none (h : p.ticket? = none) : tickets (p :: ps) = tickets ps := by
  simp [tickets, h]

theorem ticket?_of_isHolding (h : p.isHolding = true) : p.ticket? = none := by
  cases p <;> first | rfl | cases h

theorem holders_cons_of_holding (h : p.isHolding = true) :
    holders (p :: ps) = holders ps + 1 := by
  simp [holders, h]

theorem holders_cons_of_not_holding (h : p.isHolding = false) :
    holders (p :: ps) = holders ps := by
  simp [holders, h]

theorem not_isHolding_of_holders (h : holders ps = 0) : ∀ q ∈ ps, q.isHolding = false := by
  intro q hq
  simpa using List.countP_eq_zero.1 h q hq

/-- How tickets and syncs hang together. -/
structure Turns (w : World) (ps : List SyncPhase) : Prop where
  nodup : (tickets ps).Nodup
  /-- A ticket is served after all that have been given back and the one that is in use. -/
  bounds : ∀ n ∈ tickets ps, w.served + holders ps ≤ n ∧ n < w.issued
  le_issued : w.served + holders ps ≤ w.issued
  holders_le_one : holders ps ≤ 1

namespace Turns

theorem perm (h : Turns w ps) (hp : ps.Perm qs) : Turns w qs := by
  have ht : (tickets ps).Perm (tickets qs) := hp.filterMap _
  have hh : holders ps = holders qs := hp.countP_eq _
  refine ⟨ht.nodup_iff.1 h.nodup, fun n hn => ?_, hh ▸ h.le_issued, hh ▸ h.holders_le_one⟩
  rw [← hh]
  exact h.bounds n (ht.mem_iff.2 hn)

/-- The turns depend on the tickets, the number of holders and what has been served. -/
theorem congr (h : Turns w ps) (ht : tickets qs = tickets ps) (hh : holders qs = holders ps)
    (hs : w'.served = w.served) (hi : w'.issued = w.issued) : Turns w' qs := by
  refine ⟨ht ▸ h.nodup, fun n hn => ?_, ?_, hh ▸ h.holders_le_one⟩
  · rw [hs, hi, hh]
    exact h.bounds n (ht ▸ hn)
  · rw [hs, hi, hh]
    exact h.le_issued

theorem nil (hs : w.served = 0) : Turns w [] :=
  ⟨by simp [tickets], by simp [tickets], by simp [holders, hs], by simp [holders]⟩

/-- A sync that has not asked yet and one that has ended have no part in the turns. -/
theorem cons_iff (ht : p.ticket? = none) (hh : p.isHolding = false) :
    Turns w (p :: ps) ↔ Turns w ps := by
  have htickets : tickets (p :: ps) = tickets ps := tickets_cons_of_none ht
  have hholders : holders (p :: ps) = holders ps := holders_cons_of_not_holding hh
  exact ⟨fun h => h.congr htickets.symm hholders.symm rfl rfl,
    fun h => h.congr htickets hholders rfl rfl⟩

/-- Nobody has the right to sync when a sync acquires it. -/
theorem holders_of_acquire {n : Nat} (h : Turns w (queued n :: ps)) (hn : n ≤ w.served) :
    holders ps = 0 := by
  have hb := (h.bounds n (by simp [tickets, ticket?])).1
  rw [holders_cons_of_not_holding rfl] at hb
  omega

theorem ask (h : Turns w (fresh :: ps)) :
    Turns { w with issued := w.issued + 1 } (queued w.issued :: ps) := by
  obtain ⟨hn, hb, hi, ho⟩ := (cons_iff rfl rfl).1 h
  have htickets : tickets (queued w.issued :: ps) = w.issued :: tickets ps := rfl
  have hholders : holders (queued w.issued :: ps) = holders ps := holders_cons_of_not_holding rfl
  refine ⟨?_, fun n hmem => ?_, ?_, hholders ▸ ho⟩
  · rw [htickets, List.nodup_cons]
    exact ⟨fun hmem => absurd (hb _ hmem).2 (Nat.lt_irrefl _), hn⟩
  · rw [htickets, List.mem_cons] at hmem
    rw [hholders]
    rcases hmem with rfl | hmem
    · exact ⟨hi, Nat.lt_succ_self _⟩
    · exact ⟨(hb n hmem).1, Nat.lt_succ_of_lt (hb n hmem).2⟩
  · rw [hholders]
    exact Nat.le_succ_of_le hi

theorem acquire {n : Nat} (h : Turns w (queued n :: ps)) (hle : n ≤ w.served) :
    Turns w (reading :: ps) := by
  have hfree := h.holders_of_acquire hle
  obtain ⟨hn, hb, hi, ho⟩ := h
  have htickets : tickets (queued n :: ps) = n :: tickets ps := rfl
  rw [htickets] at hn hb
  rw [holders_cons_of_not_holding rfl, hfree] at hb hi
  have hholders : holders (reading :: ps) = 1 := by rw [holders_cons_of_holding rfl, hfree]
  have hticket := hb n List.mem_cons_self
  refine ⟨(List.nodup_cons.1 hn).2, fun m hmem => ?_, by omega, by omega⟩
  have hm := hb m (List.mem_cons_of_mem _ hmem)
  -- The served ticket is the one of the sync itself, so all others come later.
  have hne : m ≠ n := fun e => (List.nodup_cons.1 hn).1 (e ▸ hmem)
  omega

theorem release {answer : Except SyncError SyncStats} (h : Turns w (ending answer :: ps)) :
    Turns { w with served := w.served + 1 } (ended answer :: ps) := by
  obtain ⟨hn, hb, hi, ho⟩ := h
  rw [cons_iff rfl rfl]
  rw [holders_cons_of_holding rfl] at hb hi ho
  refine ⟨hn, fun n hmem => ?_, ?_, by omega⟩
  · have := hb n hmem
    dsimp only
    omega
  · dsimp only
    omega

/-- A step of a sync keeps the turns in order. -/
theorem step (h : Turns w (p :: ps)) (hs : PhaseStep w p p' w') : Turns w' (p' :: ps) := by
  cases hs with
  | begin => exact h
  | ask => exact h.ask
  | acquire hle => exact h.acquire hle
  | read hp hp' halike =>
    refine h.congr ?_ ?_ halike.served halike.issued
    · rw [tickets_cons_of_none (ticket?_of_isHolding hp),
        tickets_cons_of_none (ticket?_of_isHolding hp')]
    · rw [holders_cons_of_holding hp, holders_cons_of_holding hp']
  | install => exact h.congr rfl rfl rfl rfl
  | release => exact h.release

end Turns

end RuleCatalog
