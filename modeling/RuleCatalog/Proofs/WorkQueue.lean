import RuleCatalog.WorkQueue

/-! # What a work queue keeps

`Sound` says how the parts of a queue hang together: what is queued is what is dirty and not with
a worker, and what waits has a delayed add that will fire. `Awaits` says that a key will be
handed out (again): once it holds it holds until the key is handed out, so no add is lost. -/
namespace RuleCatalog.WorkQueue
variable {κ : Type} [DecidableEq κ] {q : WorkQueue κ}

/-- Whether a key was added, or is going to be, and has not been handed out since. -/
def Awaits (q : WorkQueue κ) (k : κ) : Prop := k ∈ q.waiting ∨ k ∈ q.dirty

/-- Carries out one delayed add. -/
def fireOne (q : WorkQueue κ) (d : DelayedAdd κ) : WorkQueue κ :=
  { q with delayed := q.delayed.erase d }.fire d.key

theorem fireOne_eq (q : WorkQueue κ) (d : DelayedAdd κ) : q.fireOne d = { q with
    delayed := q.delayed.erase d, waiting := q.waiting.filter (· != d.key) }.add d.key := rfl

/-! ## Parts that an operation leaves alone -/

@[simp] theorem processing_add (q : WorkQueue κ) (k : κ) :
    (q.add k).processing = q.processing := by
  unfold add
  split
  · rfl
  · split <;> rfl

@[simp] theorem waiting_add (q : WorkQueue κ) (k : κ) : (q.add k).waiting = q.waiting := by
  unfold add
  split
  · rfl
  · split <;> rfl

@[simp] theorem delayed_add (q : WorkQueue κ) (k : κ) : (q.add k).delayed = q.delayed := by
  unfold add
  split
  · rfl
  · split <;> rfl

@[simp] theorem isClosed_add (q : WorkQueue κ) (k : κ) : (q.add k).isClosed = q.isClosed := by
  unfold add
  split
  · rfl
  · split <;> rfl

@[simp] theorem processing_addAfter (q : WorkQueue κ) (now : Nat) (k : κ) (delay : Nat) :
    (q.addAfter now k delay).processing = q.processing := by
  unfold addAfter
  split
  · simp
  · split
    · rfl
    · split <;> simp

@[simp] theorem isClosed_addAfter (q : WorkQueue κ) (now : Nat) (k : κ) (delay : Nat) :
    (q.addAfter now k delay).isClosed = q.isClosed := by
  unfold addAfter
  split
  · simp
  · split
    · rfl
    · split <;> simp

@[simp] theorem processing_addRateLimited (q : WorkQueue κ) (now : Nat) (k : κ) (jitter : Nat) :
    (q.addRateLimited now k jitter).2.processing = q.processing := by
  simp [addRateLimited, fail]

@[simp] theorem isClosed_addRateLimited (q : WorkQueue κ) (now : Nat) (k : κ) (jitter : Nat) :
    (q.addRateLimited now k jitter).2.isClosed = q.isClosed := by
  simp [addRateLimited, fail]

@[simp] theorem processing_fireOne (q : WorkQueue κ) (d : DelayedAdd κ) :
    (q.fireOne d).processing = q.processing := by
  simp [fireOne, fire]

@[simp] theorem isClosed_fireOne (q : WorkQueue κ) (d : DelayedAdd κ) :
    (q.fireOne d).isClosed = q.isClosed := by
  simp [fireOne, fire]

@[simp] theorem waiting_done (q : WorkQueue κ) (k : κ) : (q.done k).waiting = q.waiting := by
  unfold done
  dsimp only
  split <;> rfl

@[simp] theorem dirty_done (q : WorkQueue κ) (k : κ) : (q.done k).dirty = q.dirty := by
  unfold done
  dsimp only
  split <;> rfl

@[simp] theorem delayed_done (q : WorkQueue κ) (k : κ) : (q.done k).delayed = q.delayed := by
  unfold done
  dsimp only
  split <;> rfl

@[simp] theorem isClosed_done (q : WorkQueue κ) (k : κ) : (q.done k).isClosed = q.isClosed := by
  unfold done
  dsimp only
  split <;> rfl

@[simp] theorem processing_done (q : WorkQueue κ) (k : κ) :
    (q.done k).processing = q.processing.filter (· != k) := by
  unfold done
  dsimp only
  split <;> rfl

/-- What a handout does to the queue. -/
theorem take_eq_key {k : κ} {q' : WorkQueue κ} (h : q.take = (.key k, q')) :
    ∃ ks, q.isClosed = false ∧ q.queued = k :: ks ∧ q' = { q with
      hasClock := true, queued := ks, dirty := q.dirty.filter (· != k)
      processing := q.processing.insert k } := by
  unfold take at h
  dsimp only at h
  split at h
  · simp at h
  · rename_i hopen
    split at h
    · simp at h
    · rename_i k' ks hq
      obtain ⟨hk, rfl⟩ := Prod.mk.inj h
      obtain rfl := Handout.key.inj hk
      exact ⟨ks, by simpa using hopen, hq, rfl⟩

/-- A worker that finds nothing leaves all as it is, but for the clock that it brings along. -/
theorem take_eq_nothing {q' : WorkQueue κ} (h : q.take = (.nothing, q')) :
    q.queued = [] ∧ q' = { q with hasClock := true } := by
  unfold take at h
  dsimp only at h
  split at h
  · simp at h
  · split at h
    · rename_i hq
      exact ⟨hq, (Prod.mk.inj h).2.symm⟩
    · simp at h

/-! ## No add is lost -/

theorem awaits_add {k k' : κ} (h : q.Awaits k') : (q.add k).Awaits k' := by
  rcases h with h | h
  · exact .inl (by simpa using h)
  · exact .inr (dirty_subset_add q k h)

theorem awaits_add_self (hopen : q.isClosed = false) (k : κ) : (q.add k).Awaits k :=
  .inr (mem_dirty_add hopen k)

theorem awaits_addAfter {k k' : κ} (now delay : Nat) (h : q.Awaits k') :
    (q.addAfter now k delay).Awaits k' := by
  unfold addAfter
  split
  · exact awaits_add h
  · split
    · exact h
    · split
      · exact h.imp (List.mem_cons_of_mem _) id
      · exact awaits_add h

theorem awaits_addAfter_self (hopen : q.isClosed = false) (now : Nat) (k : κ) (delay : Nat) :
    (q.addAfter now k delay).Awaits k := by
  unfold addAfter
  split
  · exact awaits_add_self hopen k
  · split
    · rename_i h
      exact .inl (by simpa [hopen] using h)
    · split
      · exact .inl List.mem_cons_self
      · exact awaits_add_self hopen k

theorem awaits_addRateLimited_self (hopen : q.isClosed = false) (now : Nat) (k : κ)
    (jitter : Nat) : (q.addRateLimited now k jitter).2.Awaits k :=
  awaits_addAfter_self (q := q.fail k) hopen _ _ _

theorem awaits_fireOne {k : κ} (hopen : q.isClosed = false) (d : DelayedAdd κ)
    (h : q.Awaits k) : (q.fireOne d).Awaits k := by
  rw [fireOne_eq]
  by_cases hk : k = d.key
  · rw [hk]
    exact awaits_add_self (by simpa using hopen) d.key
  · refine awaits_add (h.imp (fun hw => ?_) id)
    simpa [hk] using hw

theorem awaits_done {k k' : κ} (h : q.Awaits k') : (q.done k).Awaits k' := by
  simpa [Awaits] using h

theorem awaits_forget {k k' : κ} (h : q.Awaits k') : (q.forget k).Awaits k' := h

/-! ## How the parts hang together -/

/-- What waits has a delayed add, and one only. -/
structure IsTimed (q : WorkQueue κ) : Prop where
  mem_waiting : ∀ k, k ∈ q.waiting ↔ k ∈ q.delayed.map (·.key)
  nodup_delayed : (q.delayed.map (·.key)).Nodup

namespace IsTimed

theorem add (h : q.IsTimed) (k : κ) : (q.add k).IsTimed :=
  ⟨by simpa using h.mem_waiting, by simpa using h.nodup_delayed⟩

omit [DecidableEq κ] in
theorem schedule (h : q.IsTimed) (d : DelayedAdd κ) (hd : d.key ∉ q.waiting) :
    IsTimed { q with
      waiting := d.key :: q.waiting, delayed := WorkQueue.schedule d q.delayed } := by
  have hperm := (schedule_perm d q.delayed).map (·.key)
  refine ⟨fun k => ?_, ?_⟩
  · simp [hperm.mem_iff, h.mem_waiting k]
  · refine hperm.nodup_iff.2 (List.nodup_cons.2 ⟨?_, h.nodup_delayed⟩)
    rwa [← h.mem_waiting]

theorem erase (h : q.IsTimed) {d : DelayedAdd κ} (hd : d ∈ q.delayed) :
    IsTimed { q with
      delayed := q.delayed.erase d, waiting := q.waiting.filter (· != d.key) } := by
  refine ⟨fun k => ?_, h.nodup_delayed.sublist ((List.erase_sublist ..).map _)⟩
  -- No other delayed add has the key of `d`.
  have hperm := (List.perm_cons_erase hd).map (·.key)
  have hnodup := hperm.nodup_iff.1 h.nodup_delayed
  rw [List.map_cons, List.nodup_cons] at hnodup
  have hmem := hperm.mem_iff (a := k)
  simp only [List.map_cons, List.mem_cons] at hmem
  simp only [List.mem_filter, bne_iff_ne, h.mem_waiting, hmem]
  constructor
  · rintro ⟨hk | hk, hne⟩
    · exact absurd hk hne
    · exact hk
  · intro hk
    exact ⟨.inr hk, fun e => hnodup.1 (e ▸ hk)⟩

theorem addAfter (h : q.IsTimed) (now : Nat) (k : κ) (delay : Nat) :
    (q.addAfter now k delay).IsTimed := by
  unfold WorkQueue.addAfter
  split
  · exact h.add k
  · split
    · exact h
    · split
      · exact h.schedule ⟨now + delay, k⟩ (by simp_all)
      · exact h.add k

theorem done (h : q.IsTimed) (k : κ) : (q.done k).IsTimed :=
  ⟨by simpa using h.mem_waiting, by simpa using h.nodup_delayed⟩

end IsTimed

structure Sound (q : WorkQueue κ) : Prop extends IsTimed q where
  /-- What is queued is what is dirty and not with a worker. -/
  mem_queued : ∀ k, k ∈ q.queued ↔ k ∈ q.dirty ∧ k ∉ q.processing
  nodup_queued : q.queued.Nodup

omit [DecidableEq κ] in
theorem sound_empty (hasClock : Bool) (backoffMin backoffMax : Nat) :
    Sound (.empty hasClock backoffMin backoffMax : WorkQueue κ) := by
  refine ⟨⟨fun k => ?_, ?_⟩, fun k => ?_, ?_⟩ <;> simp [empty]

namespace Sound

theorem add (h : q.Sound) (k : κ) : (q.add k).Sound := by
  refine ⟨h.toIsTimed.add k, ?_, ?_⟩
  · intro k'
    have hq := h.mem_queued k'
    unfold WorkQueue.add
    split
    · exact hq
    · split
      · rename_i hp
        have hp : k ∈ q.processing := by simpa using hp
        by_cases hk : k' = k
        · subst hk
          simp [hq, hp]
        · simp [hq, hk]
      · rename_i hp
        have hp : k ∉ q.processing := by simpa using hp
        by_cases hk : k' = k
        · subst hk
          simp [hp]
        · simp [hq, hk]
  · unfold WorkQueue.add
    split
    · exact h.nodup_queued
    · rename_i hd
      split
      · exact h.nodup_queued
      · have hk : k ∉ q.queued := fun hk => by
          have := ((h.mem_queued k).1 hk).1
          simp [this] at hd
        exact List.nodup_append.2 ⟨h.nodup_queued, by simp, by
          rintro a ha b hb rfl
          rw [List.mem_singleton] at hb
          exact hk (hb ▸ ha)⟩

omit [DecidableEq κ] in
theorem retime (h : q.Sound) {waiting : List κ} {delayed : List (DelayedAdd κ)}
    (ht : IsTimed { q with waiting, delayed }) : Sound { q with waiting, delayed } :=
  ⟨ht, h.mem_queued, h.nodup_queued⟩

theorem addAfter (h : q.Sound) (now : Nat) (k : κ) (delay : Nat) :
    (q.addAfter now k delay).Sound := by
  unfold WorkQueue.addAfter
  split
  · exact h.add k
  · split
    · exact h
    · split
      · exact h.retime (h.toIsTimed.schedule ⟨now + delay, k⟩ (by simp_all))
      · exact h.add k

theorem fail (h : q.Sound) (k : κ) : (q.fail k).Sound :=
  ⟨⟨h.mem_waiting, h.nodup_delayed⟩, h.mem_queued, h.nodup_queued⟩

theorem addRateLimited (h : q.Sound) (now : Nat) (k : κ) (jitter : Nat) :
    (q.addRateLimited now k jitter).2.Sound :=
  (h.fail k).addAfter _ _ _

theorem forget (h : q.Sound) (k : κ) : (q.forget k).Sound :=
  ⟨⟨h.mem_waiting, h.nodup_delayed⟩, h.mem_queued, h.nodup_queued⟩

theorem fireOne (h : q.Sound) {d : DelayedAdd κ} (hd : d ∈ q.delayed) : (q.fireOne d).Sound := by
  rw [fireOne_eq]
  exact (h.retime (h.toIsTimed.erase hd)).add d.key

theorem take (h : q.Sound) {k : κ} {q' : WorkQueue κ} (ht : q.take = (.key k, q')) :
    q'.Sound ∧ k ∉ q.processing := by
  obtain ⟨ks, -, hq, rfl⟩ := take_eq_key ht
  have hnodup := h.nodup_queued
  rw [hq, List.nodup_cons] at hnodup
  have hp : k ∉ q.processing := ((h.mem_queued k).1 (hq ▸ List.mem_cons_self)).2
  refine ⟨⟨⟨h.mem_waiting, h.nodup_delayed⟩, fun k' => ?_, hnodup.2⟩, hp⟩
  have hmem := h.mem_queued k'
  rw [hq, List.mem_cons] at hmem
  simp only [List.mem_filter, bne_iff_ne, List.mem_insert_iff, not_or]
  by_cases hk : k' = k
  · subst hk
    simp [hnodup.1]
  · simp only [hk, false_or] at hmem
    simp [hmem, hk]

theorem take_nothing (h : q.Sound) {q' : WorkQueue κ} (ht : q.take = (.nothing, q')) :
    q'.Sound := by
  obtain ⟨-, rfl⟩ := take_eq_nothing ht
  exact ⟨⟨h.mem_waiting, h.nodup_delayed⟩, h.mem_queued, h.nodup_queued⟩

theorem done (h : q.Sound) {k : κ} (hopen : q.isClosed = false) (hk : k ∈ q.processing) :
    (q.done k).Sound := by
  refine ⟨h.toIsTimed.done k, fun k' => ?_, ?_⟩
  · have hmem := h.mem_queued k'
    simp only [dirty_done, processing_done, List.mem_filter, bne_iff_ne]
    unfold WorkQueue.done
    dsimp only
    split
    · rename_i hd
      have hd : k ∈ q.dirty := by simp_all
      by_cases hkk : k' = k
      · subst hkk
        simp [hd]
      · simp [hmem, hkk]
    · rename_i hd
      have hd : k ∉ q.dirty := by simp_all
      by_cases hkk : k' = k
      · subst hkk
        simp [hmem, hd]
      · simp [hmem, hkk]
  · unfold WorkQueue.done
    dsimp only
    split
    · have hq : k ∉ q.queued := fun hq => ((h.mem_queued k).1 hq).2 hk
      exact List.nodup_append.2 ⟨h.nodup_queued, by simp, by
        rintro a ha b hb rfl
        rw [List.mem_singleton] at hb
        exact hq (hb ▸ ha)⟩
    · exact h.nodup_queued

end Sound

end RuleCatalog.WorkQueue
