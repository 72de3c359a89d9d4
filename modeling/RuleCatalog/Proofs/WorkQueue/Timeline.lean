import RuleCatalog.Proofs.WorkQueue

/-! # The history of a work queue

A timeline is a queue with the clock that it reads and the list of what has happened to its keys.
Anybody may add keys, at once or after a delay, timers may fire in any order, and any number of
workers take keys and give them back. `Reflects` says what such a history and the queue that it
leads to have to do with each other. Main statement: `isSafe_after`, that no such run queues a key
twice, hands one out while a worker has it, loses an add or hands out more than was added. -/
namespace RuleCatalog.WorkQueue

/-! ## Histories -/

inductive QueueEvent (κ : Type) where
  /-- A key was added, other than by a delayed add that fired. -/
  | added (k : κ)
  | fired (k : κ)
  | handed (k : κ)
  /-- A worker was done with a key. -/
  | returned (k : κ)
  deriving DecidableEq, Repr

structure Occurrence (κ : Type) where
  moment : Nat
  event : QueueEvent κ
  /-- The keys that are dirty right after it. -/
  dirty : List κ
  deriving DecidableEq, Repr

variable {κ : Type}

/-- Whether an event makes a key one that has to be handed out. -/
def QueueEvent.Adds (e : QueueEvent κ) (k : κ) : Prop := e = .added k ∨ e = .fired k

/-- Whether a key was added and has not been handed out since. -/
def Pending (past : List (Occurrence κ)) (k : κ) : Prop :=
  ∃ l o r, past = l ++ o :: r ∧ o.event.Adds k ∧ ∀ o' ∈ r, o'.event ≠ .handed k

theorem not_pending_nil (k : κ) : ¬ Pending [] k := by
  rintro ⟨l, o, r, h, -⟩
  simp at h

/-- The last occurrence settles it, unless it is about something else. -/
theorem pending_append_singleton (past : List (Occurrence κ)) (o : Occurrence κ) (k : κ) :
    Pending (past ++ [o]) k ↔ o.event.Adds k ∨ o.event ≠ .handed k ∧ Pending past k := by
  constructor
  · rintro ⟨l, a, r, h, hadds, hr⟩
    rcases List.eq_nil_or_concat r with rfl | ⟨r, b, rfl⟩
    · obtain ⟨-, rfl⟩ := List.append_inj' h rfl |>.imp_right List.singleton_inj.1
      exact .inl hadds
    · rw [List.concat_eq_append, ← List.cons_append, ← List.append_assoc] at h
      obtain ⟨rfl, rfl⟩ := List.append_inj' h rfl |>.imp_right List.singleton_inj.1
      exact .inr ⟨hr o (by simp), l, a, r, rfl, hadds, fun o' ho' => hr o' (by simp [ho'])⟩
  · rintro (hadds | ⟨hne, l, a, r, rfl, hadds, hr⟩)
    · exact ⟨past, o, [], rfl, hadds, by simp⟩
    · refine ⟨l, a, r ++ [o], by simp, hadds, fun o' ho' => ?_⟩
      rcases List.mem_append.1 ho' with ho' | ho'
      · exact hr o' ho'
      · rwa [List.mem_singleton.1 ho']

variable [DecidableEq κ]

instance (e : QueueEvent κ) (k : κ) : Decidable (e.Adds k) :=
  inferInstanceAs (Decidable (_ ∨ _))

/-- How often an event has happened. -/
def tally (past : List (Occurrence κ)) (e : QueueEvent κ) : Nat := past.countP (·.event = e)

/-- Whether a worker has a key. -/
def IsHeld (past : List (Occurrence κ)) (k : κ) : Prop :=
  tally past (.returned k) < tally past (.handed k)

instance (past : List (Occurrence κ)) (k : κ) : Decidable (IsHeld past k) :=
  inferInstanceAs (Decidable (_ < _))

@[simp] theorem tally_append_singleton (past : List (Occurrence κ)) (o : Occurrence κ)
    (e : QueueEvent κ) :
    tally (past ++ [o]) e = tally past e + if o.event = e then 1 else 0 := by
  simp [tally, List.countP_append, List.countP_singleton]

/-! ## Runs -/

/-- What may happen next. -/
inductive QueueMove (κ : Type) where
  | add (k : κ)
  | addAfter (k : κ) (delay : Nat)
  | addRateLimited (k : κ) (jitter : Nat)
  | forget (k : κ)
  | get
  | done (k : κ)
  | fire (d : DelayedAdd κ)
  /-- Time passes. -/
  | pass (ms : Nat)

structure Timeline (κ : Type) where
  now : Nat
  queue : WorkQueue κ
  past : List (Occurrence κ)

/-- Whether a delayed add happens at once: it has no delay, or there is no clock to wait by. -/
def addsAtOnce (q : WorkQueue κ) (k : κ) (delay : Nat) : Bool :=
  delay = 0 || !q.waiting.contains k && !q.hasClock

namespace Timeline

def start (hasClock : Bool) (backoffMin backoffMax : Nat) : Timeline κ :=
  ⟨0, .empty hasClock backoffMin backoffMax, []⟩

def note (s : Timeline κ) (e : QueueEvent κ) : Timeline κ :=
  { s with past := s.past ++ [⟨s.now, e, s.queue.dirty⟩] }

/-- A delayed add that leads to a queue. It is an add if it happens at once. -/
def delayed (s : Timeline κ) (k : κ) (delay : Nat) (queue : WorkQueue κ) : Timeline κ :=
  if s.queue.addsAtOnce k delay then { s with queue }.note (.added k) else { s with queue }

def move (s : Timeline κ) : QueueMove κ → Timeline κ
  | .add k => { s with queue := s.queue.add k }.note (.added k)
  | .addAfter k delay => s.delayed k delay (s.queue.addAfter s.now k delay)
  | .addRateLimited k jitter =>
    let (delay, queue) := s.queue.addRateLimited s.now k jitter
    s.delayed k delay queue
  | .forget k => { s with queue := s.queue.forget k }
  | .get => match s.queue.take with
    | (.key k, q) => { s with queue := q }.note (.handed k)
    | (_, q) => { s with queue := q }
  | .done k => { s with queue := s.queue.done k }.note (.returned k)
  | .fire d => { s with queue := s.queue.fireOne d }.note (.fired d.key)
  | .pass ms => { s with now := s.now + ms }

/-- Workers give back what they have, and a timer that has not been set does not fire. -/
def Permits (s : Timeline κ) : QueueMove κ → Prop
  | .done k => IsHeld s.past k
  | .fire d => d ∈ s.queue.delayed
  | _ => True

instance (s : Timeline κ) : (m : QueueMove κ) → Decidable (s.Permits m)
  | .done k => inferInstanceAs (Decidable (IsHeld s.past k))
  | .fire d => inferInstanceAs (Decidable (d ∈ s.queue.delayed))
  | .add _ | .addAfter _ _ | .addRateLimited _ _ | .forget _ | .get | .pass _ => isTrue trivial

/-- The timeline after some moves. What the rules forbid does not happen. -/
def run (allows : Timeline κ → QueueMove κ → Prop) [∀ s m, Decidable (allows s m)]
    (s : Timeline κ) (ms : List (QueueMove κ)) : Timeline κ :=
  ms.foldl (fun s m => if allows s m then s.move m else s) s

/-- What every move keeps that the rules allow, a run keeps. -/
theorem run_induction {allows : Timeline κ → QueueMove κ → Prop} [∀ s m, Decidable (allows s m)]
    {P : Timeline κ → Prop} (hmove : ∀ s m, allows s m → P s → P (s.move m))
    (ms : List (QueueMove κ)) {s : Timeline κ} (h : P s) : P (run allows s ms) := by
  induction ms generalizing s with
  | nil => exact h
  | cons m ms ih =>
    refine ih ?_
    dsimp only
    split
    · exact hmove s m ‹_› h
    · exact h

theorem run_append_cons {allows : Timeline κ → QueueMove κ → Prop}
    [∀ s m, Decidable (allows s m)] {s : Timeline κ} {ms ms' : List (QueueMove κ)}
    {m : QueueMove κ} (hm : allows (run allows s ms) m) :
    run allows s (ms ++ m :: ms') = run allows ((run allows s ms).move m) ms' := by
  unfold run at hm ⊢
  rw [List.foldl_append, List.foldl_cons, if_pos hm]

end Timeline

/-! ## The queue that a history leads to -/

theorem mem_dirty_add_iff {q : WorkQueue κ} (hopen : q.isClosed = false) (k k' : κ) :
    k' ∈ (q.add k).dirty ↔ k' = k ∨ k' ∈ q.dirty := by
  constructor
  · unfold add
    split
    · exact .inr
    · split <;> exact List.mem_cons.1
  · rintro (rfl | h)
    · exact mem_dirty_add hopen k'
    · exact dirty_subset_add q k h

theorem addAfter_of_addsAtOnce {q : WorkQueue κ} {k : κ} {delay : Nat}
    (hopen : q.isClosed = false) (h : q.addsAtOnce k delay) (now : Nat) :
    q.addAfter now k delay = q.add k := by
  unfold addsAtOnce at h
  unfold addAfter
  by_cases hdelay : delay = 0 <;> simp_all

/-- A delayed add that does not happen at once leaves the queued keys alone. -/
theorem dirty_addAfter {q : WorkQueue κ} {k : κ} {delay : Nat}
    (h : ¬ q.addsAtOnce k delay) (now : Nat) : (q.addAfter now k delay).dirty = q.dirty := by
  unfold addsAtOnce at h
  unfold addAfter
  by_cases hdelay : delay = 0
  · simp [hdelay] at h
  · rw [if_neg hdelay]
    split
    · rfl
    · rw [if_pos (by simp_all)]

theorem isClosed_of_take {q q' : WorkQueue κ} (h : q.take = (.closed, q')) :
    q.isClosed = true := by
  unfold take at h
  dsimp only at h
  split at h
  · assumption
  · split at h <;> simp at h

/-- What a queue has to do with its history. -/
structure Reflects (q : WorkQueue κ) (past : List (Occurrence κ)) : Prop where
  isOpen : q.isClosed = false
  sound : q.Sound
  mem_dirty : ∀ k, k ∈ q.dirty ↔ Pending past k
  handed_eq : ∀ k, tally past (.handed k)
    = tally past (.returned k) + if k ∈ q.processing then 1 else 0
  /-- Every add is good for one handout, and a dirty key has one coming. -/
  handed_le : ∀ k, tally past (.handed k) + (if k ∈ q.dirty then 1 else 0)
    ≤ tally past (.added k) + tally past (.fired k)

theorem reflects_empty (hasClock : Bool) (backoffMin backoffMax : Nat) :
    Reflects (.empty hasClock backoffMin backoffMax : WorkQueue κ) [] where
  isOpen := rfl
  sound := sound_empty _ _ _
  mem_dirty k := by simp [empty, not_pending_nil]
  handed_eq k := by simp [empty, tally]
  handed_le k := by simp [empty, tally]

namespace Reflects
variable {q q' : WorkQueue κ} {past : List (Occurrence κ)}

theorem mem_processing (h : Reflects q past) (k : κ) : k ∈ q.processing ↔ IsHeld past k := by
  have := h.handed_eq k
  unfold IsHeld
  split at this <;> simp_all

/-- A change that the workers do not see needs no mention. -/
theorem of_eq (h : Reflects q past) (hopen : q'.isClosed = q.isClosed) (hsound : q'.Sound)
    (hdirty : ∀ k, k ∈ q'.dirty ↔ k ∈ q.dirty) (hprocessing : q'.processing = q.processing) :
    Reflects q' past where
  isOpen := hopen.trans h.isOpen
  sound := hsound
  mem_dirty k := (hdirty k).trans (h.mem_dirty k)
  handed_eq := hprocessing ▸ h.handed_eq
  handed_le k := by simpa only [hdirty] using h.handed_le k

theorem fail (h : Reflects q past) (k : κ) : Reflects (q.fail k) past :=
  h.of_eq rfl (h.sound.fail k) (fun _ => .rfl) rfl

theorem add (h : Reflects q past) {k : κ} {o : Occurrence κ} (ho : o.event.Adds k) :
    Reflects (q.add k) (past ++ [o]) where
  isOpen := by simpa using h.isOpen
  sound := h.sound.add k
  mem_dirty k' := by
    have hself : o.event.Adds k' ↔ k' = k := by
      rcases ho with ho | ho <;> simp [QueueEvent.Adds, ho, eq_comm]
    have hne : o.event ≠ .handed k' := by rcases ho with ho | ho <;> simp [ho]
    rw [mem_dirty_add_iff h.isOpen, pending_append_singleton, h.mem_dirty k', hself]
    simp only [ne_eq, hne, not_false_eq_true, true_and]
  handed_eq k' := by
    have := h.handed_eq k'
    rcases ho with ho | ho <;> simpa [ho] using this
  handed_le k' := by
    have := h.handed_le k'
    simp only [mem_dirty_add_iff h.isOpen]
    by_cases hk : k' = k
    · subst hk
      rcases ho with ho | ho <;> simp [ho] <;> split at this <;> omega
    · rcases ho with ho | ho <;> simpa [ho, hk, Ne.symm hk] using this

theorem fireOne (h : Reflects q past) {d : DelayedAdd κ} (hd : d ∈ q.delayed)
    {o : Occurrence κ} (ho : o.event = .fired d.key) :
    Reflects (q.fireOne d) (past ++ [o]) := by
  -- To all but the timers, a delayed add that fires is an add.
  have hdirty : ∀ k, k ∈ (q.fireOne d).dirty ↔ k ∈ (q.add d.key).dirty := fun k => by
    rw [fireOne_eq, mem_dirty_add_iff (by exact h.isOpen), mem_dirty_add_iff h.isOpen]
  have hadd := h.add (k := d.key) (.inr ho)
  exact hadd.of_eq (by simp) (h.sound.fireOne hd) hdirty (by simp)

theorem take (h : Reflects q past) {k : κ} (ht : q.take = (.key k, q')) {o : Occurrence κ}
    (ho : o.event = .handed k) : Reflects q' (past ++ [o]) := by
  obtain ⟨hsound, hnot⟩ := h.sound.take ht
  obtain ⟨ks, -, hq, rfl⟩ := take_eq_key ht
  have hdirty : k ∈ q.dirty := ((h.sound.mem_queued k).1 (hq ▸ List.mem_cons_self)).1
  refine ⟨h.isOpen, hsound, fun k' => ?_, fun k' => ?_, fun k' => ?_⟩
  · rw [pending_append_singleton, ← h.mem_dirty k']
    simp only [List.mem_filter, bne_iff_ne, ho, QueueEvent.Adds, reduceCtorEq, false_or, ne_eq,
      QueueEvent.handed.injEq]
    exact ⟨fun ⟨hd, hne⟩ => ⟨Ne.symm hne, hd⟩, fun ⟨hne, hd⟩ => ⟨hd, Ne.symm hne⟩⟩
  · have := h.handed_eq k'
    by_cases hk : k' = k
    · subst hk
      simpa [ho, hnot] using this
    · simpa [ho, hk, Ne.symm hk] using this
  · have := h.handed_le k'
    by_cases hk : k' = k
    · subst hk
      simpa [ho, hdirty] using this
    · simpa [ho, hk, Ne.symm hk] using this

theorem done (h : Reflects q past) {k : κ} (hk : IsHeld past k) {o : Occurrence κ}
    (ho : o.event = .returned k) : Reflects (q.done k) (past ++ [o]) := by
  have hp : k ∈ q.processing := (h.mem_processing k).2 hk
  refine ⟨by simpa using h.isOpen, h.sound.done h.isOpen hp, fun k' => ?_, fun k' => ?_,
    fun k' => ?_⟩
  · rw [pending_append_singleton, dirty_done, h.mem_dirty k']
    simp [ho, QueueEvent.Adds]
  · have := h.handed_eq k'
    by_cases hk' : k' = k
    · subst hk'
      simpa [ho, hp] using this
    · simpa [ho, hk', Ne.symm hk'] using this
  · simpa [ho] using h.handed_le k'

end Reflects

namespace Timeline

/-- A key that has failed is added after a delay as any other. -/
theorem move_addRateLimited (s : Timeline κ) (k : κ) (jitter : Nat) :
    s.move (.addRateLimited k jitter)
      = { s with queue := s.queue.fail k }.move
        (.addAfter k (s.queue.addRateLimited s.now k jitter).1) := rfl

theorem reflects_addAfter {s : Timeline κ} (h : Reflects s.queue s.past) (k : κ) (delay : Nat) :
    Reflects (s.move (.addAfter k delay)).queue (s.move (.addAfter k delay)).past := by
  unfold move delayed
  dsimp only
  split
  · rename_i honce
    rw [addAfter_of_addsAtOnce h.isOpen honce]
    exact h.add (.inl rfl)
  · rename_i hwaits
    exact h.of_eq (isClosed_addAfter ..) (h.sound.addAfter ..)
      (by simp [dirty_addAfter hwaits]) (processing_addAfter ..)

theorem reflects_move {s : Timeline κ} {m : QueueMove κ} (hm : s.Permits m)
    (h : Reflects s.queue s.past) : Reflects (s.move m).queue (s.move m).past := by
  cases m with
  | add k => exact h.add (.inl rfl)
  | addAfter k delay => exact reflects_addAfter h k delay
  | addRateLimited k jitter =>
    rw [move_addRateLimited]
    exact reflects_addAfter (h.fail k) k _
  | forget k => exact h.of_eq rfl (h.sound.forget k) (fun _ => .rfl) rfl
  | get =>
    rcases ht : s.queue.take with ⟨handout, q⟩
    cases handout with
    | key k =>
      simp only [move, ht]
      exact h.take ht rfl
    | nothing =>
      have hsound := h.sound.take_nothing ht
      obtain ⟨-, rfl⟩ := take_eq_nothing ht
      simp only [move, ht]
      exact h.of_eq rfl hsound (fun _ => .rfl) rfl
    | closed => exact absurd (isClosed_of_take ht) (by simp [h.isOpen])
  | done k => exact h.done hm rfl
  | fire d => exact h.fireOne hm rfl
  | pass ms => exact h

/-- The timeline after some moves, from an empty queue on. -/
def after (hasClock : Bool) (backoffMin backoffMax : Nat) (ms : List (QueueMove κ)) :
    Timeline κ :=
  run Permits (start hasClock backoffMin backoffMax) ms

/-- What workers may rely on. -/
structure IsSafe (s : Timeline κ) : Prop where
  nodup_queued : s.queue.queued.Nodup
  not_isHeld_of_mem_queued : ∀ k ∈ s.queue.queued, ¬ IsHeld s.past k
  not_isHeld_of_take : ∀ k, s.queue.take.1 = .key k → ¬ IsHeld s.past k
  mem_processing : ∀ k, k ∈ s.queue.processing ↔ IsHeld s.past k
  mem_queued : ∀ k, k ∈ s.queue.queued ↔ k ∈ s.queue.dirty ∧ k ∉ s.queue.processing
  /-- From an add on a key is dirty, until it is handed out. -/
  mem_dirty : ∀ k, k ∈ s.queue.dirty ↔ Pending s.past k
  handed_le : ∀ k, tally s.past (.handed k) ≤ tally s.past (.added k) + tally s.past (.fired k)

theorem isSafe_after (hasClock : Bool) (backoffMin backoffMax : Nat)
    (ms : List (QueueMove κ)) : (after hasClock backoffMin backoffMax ms).IsSafe := by
  have h : Reflects (after hasClock backoffMin backoffMax ms).queue
      (after hasClock backoffMin backoffMax ms).past :=
    run_induction (P := fun s => Reflects s.queue s.past) (fun _ _ => reflects_move) ms
      (reflects_empty ..)
  generalize after hasClock backoffMin backoffMax ms = s at h
  constructor
  · exact h.sound.nodup_queued
  · intro k hk
    rw [← h.mem_processing]
    exact ((h.sound.mem_queued k).1 hk).2
  · intro k hk
    rw [← h.mem_processing]
    have ht : s.queue.take = (.key k, s.queue.take.2) := Prod.ext hk rfl
    exact (h.sound.take ht).2
  · exact h.mem_processing
  · exact h.sound.mem_queued
  · exact h.mem_dirty
  · intro k
    exact Nat.le_trans (Nat.le_add_right _ _) (h.handed_le k)

/-- What is added while a worker has it is queued again when the worker is done. -/
example : (after true 1 1 [.add (), .get, .add (), .done ()]).queue.queued = [()] := by decide

end Timeline

end RuleCatalog.WorkQueue
