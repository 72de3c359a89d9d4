import RuleCatalog.Proofs.WorkQueue.Timeline

/-! # Deadlines of delayed adds

On a punctual timeline timers fire at the moment they are set for. A delayed add of a key that is
waiting already is absorbed, so it is carried out when the one that waits is: earlier than it was
asked for, or later. Main statement: `exists_adds_of_asks`, that a delayed add happens by every
moment by which it, and what waits already, is due. A watcher's request for a sync is such an
add. -/
namespace RuleCatalog.WorkQueue.Timeline
variable {κ : Type} [DecidableEq κ]

/-- Timers fire when they are due, and no time passes before they have. -/
def KeepsTime (s : Timeline κ) : QueueMove κ → Prop
  | .fire d => d ∈ s.queue.delayed ∧ d.due ≤ s.now
  | .pass ms => ∀ d ∈ s.queue.delayed, s.now + ms ≤ d.due
  | _ => True

instance (s : Timeline κ) : (m : QueueMove κ) → Decidable (s.KeepsTime m)
  | .fire d => inferInstanceAs (Decidable (d ∈ s.queue.delayed ∧ d.due ≤ s.now))
  | .pass ms => inferInstanceAs (Decidable (∀ d ∈ s.queue.delayed, s.now + ms ≤ d.due))
  | .add _ | .addAfter _ _ | .addRateLimited _ _ | .forget _ | .get | .done _ => isTrue trivial

/-- The timeline after some moves when timers fire in time, from an empty queue on. -/
def punctual (hasClock : Bool) (backoffMin backoffMax : Nat) (ms : List (QueueMove κ)) :
    Timeline κ :=
  run KeepsTime (start hasClock backoffMin backoffMax) ms

/-- Whether a move asks for a delayed add. -/
def Asks (s : Timeline κ) (k : κ) (delay : Nat) : QueueMove κ → Prop
  | .addAfter k' delay' => k' = k ∧ delay' = delay
  | .addRateLimited k' jitter =>
    k' = k ∧ (s.queue.addRateLimited s.now k' jitter).1 = delay
  | _ => False

/-- Whether a key has become dirty by an add between two states of a timeline, by some moment. -/
def AddsBy (s s' : Timeline κ) (k : κ) (due : Nat) : Prop :=
  ∃ o ∈ s'.past.drop s.past.length,
    o.event.Adds k ∧ k ∈ o.dirty ∧ s.now ≤ o.moment ∧ o.moment ≤ due

instance (s s' : Timeline κ) (k : κ) (due : Nat) : Decidable (AddsBy s s' k due) :=
  inferInstanceAs (Decidable (∃ o ∈ _, _))

theorem keepsTime_of_asks {s : Timeline κ} {k : κ} {delay : Nat} {m : QueueMove κ}
    (h : s.Asks k delay m) : s.KeepsTime m := by
  cases m with
  | addAfter | addRateLimited => trivial
  | _ => exact h.elim

/-! ## What a move does to the timers -/

theorem mem_delayed_addAfter {q : WorkQueue κ} {now delay : Nat} {k : κ} {d : DelayedAdd κ}
    (h : d ∈ (q.addAfter now k delay).delayed) : d ∈ q.delayed ∨ d.due = now + delay := by
  unfold WorkQueue.addAfter at h
  split at h
  · exact .inl (by simpa using h)
  · split at h
    · exact .inl h
    · split at h
      · rcases List.mem_cons.1 ((schedule_perm _ _).mem_iff.1 h) with rfl | h
        · exact .inr rfl
        · exact .inl h
      · exact .inl (by simpa using h)

theorem delayed_subset_addAfter (q : WorkQueue κ) (now delay : Nat) (k : κ) :
    q.delayed ⊆ (q.addAfter now k delay).delayed := by
  intro d hd
  unfold WorkQueue.addAfter
  split
  · simpa using hd
  · split
    · exact hd
    · split
      · exact (schedule_perm _ _).mem_iff.2 (List.mem_cons_of_mem _ hd)
      · simpa using hd

theorem move_addAfter (s : Timeline κ) (k : κ) (delay : Nat) :
    (s.move (.addAfter k delay)).now = s.now
      ∧ (s.move (.addAfter k delay)).queue = s.queue.addAfter s.now k delay
      ∧ s.past <+: (s.move (.addAfter k delay)).past := by
  unfold move delayed
  dsimp only
  split
  · exact ⟨rfl, rfl, List.prefix_append _ _⟩
  · exact ⟨rfl, rfl, List.prefix_rfl⟩

/-- A worker that asks leaves the timers alone. -/
theorem parts_take (q : WorkQueue κ) : q.take.2.isClosed = q.isClosed
    ∧ q.take.2.waiting = q.waiting ∧ q.take.2.delayed = q.delayed := by
  unfold take
  dsimp only
  split
  · exact ⟨rfl, rfl, rfl⟩
  · split <;> exact ⟨rfl, rfl, rfl⟩

theorem move_get (s : Timeline κ) : (s.move .get).now = s.now
    ∧ (s.move .get).queue = s.queue.take.2 ∧ s.past <+: (s.move .get).past := by
  unfold move
  dsimp only
  split <;> simp_all [note]

/-- Time goes on, and what has happened stays. -/
theorem prefix_move (s : Timeline κ) (m : QueueMove κ) :
    s.now ≤ (s.move m).now ∧ s.past <+: (s.move m).past := by
  cases m with
  | addAfter k delay =>
    obtain ⟨hnow, -, hpast⟩ := s.move_addAfter k delay
    exact ⟨Nat.le_of_eq hnow.symm, hpast⟩
  | addRateLimited k jitter =>
    rw [move_addRateLimited]
    obtain ⟨hnow, -, hpast⟩ := move_addAfter { s with queue := s.queue.fail k } k
      (s.queue.addRateLimited s.now k jitter).1
    exact ⟨Nat.le_of_eq hnow.symm, hpast⟩
  | get =>
    obtain ⟨hnow, -, hpast⟩ := s.move_get
    exact ⟨Nat.le_of_eq hnow.symm, hpast⟩
  | add | done | fire => exact ⟨Nat.le_refl _, List.prefix_append _ _⟩
  | forget k => exact ⟨Nat.le_refl _, List.prefix_rfl⟩
  | pass ms => exact ⟨Nat.le_add_right _ _, List.prefix_rfl⟩

/-- The queue is open, its timers are in order, and none is set for a moment that is over. -/
structure IsPunctual (s : Timeline κ) : Prop where
  isOpen : s.queue.isClosed = false
  isTimed : s.queue.IsTimed
  now_le : ∀ d ∈ s.queue.delayed, s.now ≤ d.due

omit [DecidableEq κ] in
theorem IsPunctual.of_eq {s s' : Timeline κ} (h : s.IsPunctual)
    (hopen : s'.queue.isClosed = s.queue.isClosed) (hwaiting : s'.queue.waiting = s.queue.waiting)
    (hdelayed : s'.queue.delayed = s.queue.delayed) (hnow : s'.now = s.now) : s'.IsPunctual where
  isOpen := hopen.trans h.isOpen
  isTimed := ⟨by simpa [hwaiting, hdelayed] using h.isTimed.mem_waiting,
    hdelayed ▸ h.isTimed.nodup_delayed⟩
  now_le := by simpa [hdelayed, hnow] using h.now_le

theorem IsPunctual.addAfter {s : Timeline κ} (h : s.IsPunctual) (k : κ) (delay : Nat) :
    (s.move (.addAfter k delay)).IsPunctual := by
  obtain ⟨hnow, hqueue, -⟩ := s.move_addAfter k delay
  refine ⟨?_, ?_, fun d hd => ?_⟩
  · rw [hqueue, isClosed_addAfter]
    exact h.isOpen
  · rw [hqueue]
    exact h.isTimed.addAfter ..
  · rw [hnow]
    rw [hqueue] at hd
    rcases mem_delayed_addAfter hd with hd | hd
    · exact h.now_le d hd
    · omega

theorem IsPunctual.fail {s : Timeline κ} (h : s.IsPunctual) (k : κ) :
    IsPunctual { s with queue := s.queue.fail k } :=
  h.of_eq rfl rfl rfl rfl

theorem IsPunctual.move {s : Timeline κ} (h : s.IsPunctual) {m : QueueMove κ}
    (hm : s.KeepsTime m) : (s.move m).IsPunctual := by
  cases m with
  | addAfter k delay => exact h.addAfter k delay
  | addRateLimited k jitter =>
    rw [move_addRateLimited]
    exact (h.fail k).addAfter k _
  | get =>
    obtain ⟨hnow, hqueue, -⟩ := s.move_get
    obtain ⟨hopen, hwaiting, hdelayed⟩ := parts_take s.queue
    exact h.of_eq (by rw [hqueue, hopen]) (by rw [hqueue, hwaiting]) (by rw [hqueue, hdelayed])
      hnow
  | fire e =>
    refine ⟨by simpa [Timeline.move, note] using h.isOpen, ?_, fun d hd => ?_⟩
    · simp only [Timeline.move, note, fireOne_eq]
      exact (h.isTimed.erase hm.1).add e.key
    · simp only [Timeline.move, note, fireOne_eq, delayed_add] at hd
      exact h.now_le d (List.mem_of_mem_erase hd)
  | pass ms => exact ⟨h.isOpen, h.isTimed, hm⟩
  | add | done =>
    exact h.of_eq (by simp [Timeline.move, note]) (by simp [Timeline.move, note])
      (by simp [Timeline.move, note]) rfl
  | forget k => exact h.of_eq rfl rfl rfl rfl

/-- A timer stays set until it fires. -/
theorem mem_delayed_move {s : Timeline κ} {d : DelayedAdd κ} (hd : d ∈ s.queue.delayed)
    {m : QueueMove κ} (hm : m ≠ .fire d) : d ∈ (s.move m).queue.delayed := by
  cases m with
  | addAfter k delay =>
    rw [(s.move_addAfter k delay).2.1]
    exact delayed_subset_addAfter _ _ _ _ hd
  | addRateLimited k jitter =>
    rw [move_addRateLimited, (move_addAfter _ k _).2.1]
    exact delayed_subset_addAfter (s.queue.fail k) _ _ _ hd
  | get =>
    rw [s.move_get.2.1, (parts_take s.queue).2.2]
    exact hd
  | fire e =>
    have hne : d ≠ e := fun h => hm (by rw [h])
    simpa [move, note, fireOne_eq] using (List.mem_erase_of_ne hne).2 hd
  | add | done => simpa [move, note] using hd
  | forget | pass => exact hd

/-! ## A delayed add comes -/

/-- Whether a key has been added since some state, by some moment, or is going to be. -/
structure Expects (s s' : Timeline κ) (k : κ) (due : Nat) : Prop where
  now_le : s.now ≤ s'.now
  isPrefix : s.past <+: s'.past
  comes : AddsBy s s' k due ∨ ∃ d ∈ s'.queue.delayed, d.key = k ∧ d.due ≤ due

omit [DecidableEq κ] in
theorem AddsBy.of_prefix {s s' s'' : Timeline κ} {k : κ} {due : Nat} (h : AddsBy s s' k due)
    (hs : s'.past <+: s''.past) : AddsBy s s'' k due := by
  obtain ⟨o, ho, hadds⟩ := h
  obtain ⟨later, hlater⟩ := hs
  refine ⟨o, ?_, hadds⟩
  rw [← hlater, List.drop_append]
  exact List.mem_append_left _ ho

omit [DecidableEq κ] in
theorem addsBy_note {s s' s'' : Timeline κ} {k : κ} {due : Nat} {e : QueueEvent κ}
    (hadds : e.Adds k) (hdirty : k ∈ s''.queue.dirty) (hnow : s.now ≤ s''.now)
    (hdue : s''.now ≤ due) (hbegins : s.past <+: s'.past)
    (hs : s''.past = s'.past ++ [⟨s''.now, e, s''.queue.dirty⟩]) : AddsBy s s'' k due := by
  refine ⟨⟨s''.now, e, s''.queue.dirty⟩, ?_, hadds, hdirty, hnow, hdue⟩
  rw [hs, List.drop_append_of_le_length hbegins.length_le]
  simp

theorem mem_dirty_fire {s : Timeline κ} (hopen : s.queue.isClosed = false) (d : DelayedAdd κ) :
    d.key ∈ (s.move (.fire d)).queue.dirty := by
  simp only [move, note, fireOne_eq]
  exact mem_dirty_add (by exact hopen) d.key

theorem Expects.move {s s' : Timeline κ} {k : κ} {due : Nat} {m : QueueMove κ}
    (h : Expects s s' k due) (hs : s'.IsPunctual) : Expects s (s'.move m) k due := by
  obtain ⟨hnow, hbegins⟩ := s'.prefix_move m
  refine ⟨Nat.le_trans h.now_le hnow, h.isPrefix.trans hbegins, ?_⟩
  rcases h.comes with hadds | ⟨d, hd, hkey, hdue⟩
  · exact .inl (hadds.of_prefix hbegins)
  · by_cases hm : m = .fire d
    · -- The timer fires now, and it has not been due before.
      subst hm
      have hdirty := mem_dirty_fire hs.isOpen d
      exact .inl (addsBy_note (.inr (by rw [hkey])) (hkey ▸ hdirty) h.now_le
        (Nat.le_trans (hs.now_le d hd) hdue) h.isPrefix rfl)
    · exact .inr ⟨d, mem_delayed_move hd hm, hkey, hdue⟩

theorem expects_addAfter {s : Timeline κ} (h : s.IsPunctual) {k : κ} {delay due : Nat}
    (hdue : s.now + delay ≤ due)
    (hwait : ∀ d ∈ s.queue.delayed, d.key = k → d.due ≤ due) :
    Expects s (s.move (.addAfter k delay)) k due := by
  obtain ⟨hnow, hqueue, hpast⟩ := s.move_addAfter k delay
  refine ⟨Nat.le_of_eq hnow.symm, hpast, ?_⟩
  by_cases honce : s.queue.addsAtOnce k delay
  · have hdirty : k ∈ (s.move (.addAfter k delay)).queue.dirty := by
      rw [hqueue, addAfter_of_addsAtOnce h.isOpen honce]
      exact mem_dirty_add h.isOpen k
    refine .inl (addsBy_note (.inl rfl) hdirty (by omega) (by omega) List.prefix_rfl ?_)
    simp [move, delayed, honce, note]
  · right
    rw [hqueue]
    by_cases hk : k ∈ s.queue.waiting
    · -- It is absorbed by the one that waits.
      obtain ⟨d, hd, rfl⟩ := List.mem_map.1 ((h.isTimed.mem_waiting k).1 hk)
      exact ⟨d, delayed_subset_addAfter _ _ _ _ hd, rfl, hwait d hd rfl⟩
    · refine ⟨⟨s.now + delay, k⟩, ?_, rfl, hdue⟩
      have hclock : s.queue.hasClock = true ∧ delay ≠ 0 := by
        simp_all [addsAtOnce]
      simp only [addAfter, if_neg hclock.2, h.isOpen, hclock.1, if_true]
      rw [if_neg (by simpa using hk)]
      exact (schedule_perm _ _).mem_iff.2 List.mem_cons_self

theorem expects_of_asks {s : Timeline κ} (h : s.IsPunctual) {k : κ} {delay due : Nat}
    {m : QueueMove κ} (hasks : s.Asks k delay m) (hdue : s.now + delay ≤ due)
    (hwait : ∀ d ∈ s.queue.delayed, d.key = k → d.due ≤ due) :
    Expects s (s.move m) k due := by
  cases m with
  | addAfter k' delay' =>
    obtain ⟨rfl, rfl⟩ := hasks
    exact expects_addAfter h hdue hwait
  | addRateLimited k' jitter =>
    obtain ⟨rfl, rfl⟩ := hasks
    rw [move_addRateLimited]
    have hexpects := expects_addAfter (h.fail k') hdue hwait
    exact ⟨hexpects.now_le, hexpects.isPrefix, hexpects.comes⟩
  | _ => exact hasks.elim

section
variable (hasClock : Bool) (backoffMin backoffMax : Nat)

theorem isPunctual_punctual (ms : List (QueueMove κ)) :
    (punctual hasClock backoffMin backoffMax ms).IsPunctual := by
  refine run_induction (fun _ _ hm h => h.move hm) ms ⟨rfl, ?_, ?_⟩
  · exact (sound_empty ..).toIsTimed
  · simp [start, empty]

/-- A delayed add that was asked for happens by any moment by which it is due and by which the
timer of its key has fired that may have been set before. -/
theorem exists_adds_of_asks (before since : List (QueueMove κ)) {m : QueueMove κ} {k : κ}
    {delay due : Nat} (hasks : (punctual hasClock backoffMin backoffMax before).Asks k delay m)
    (hdue : (punctual hasClock backoffMin backoffMax before).now + delay ≤ due)
    (hwait : ∀ d ∈ (punctual hasClock backoffMin backoffMax before).queue.delayed,
      d.key = k → d.due ≤ due)
    (hfired : ∀ d ∈ (punctual hasClock backoffMin backoffMax (before ++ m :: since)).queue.delayed,
      due < d.due) :
    AddsBy (punctual hasClock backoffMin backoffMax before)
      (punctual hasClock backoffMin backoffMax (before ++ m :: since)) k due := by
  have hs := isPunctual_punctual hasClock backoffMin backoffMax before
  have hrun : punctual hasClock backoffMin backoffMax (before ++ m :: since)
      = run KeepsTime ((punctual hasClock backoffMin backoffMax before).move m) since :=
    run_append_cons (keepsTime_of_asks hasks)
  rw [hrun] at hfired ⊢
  generalize punctual hasClock backoffMin backoffMax before = s at *
  have hmove := expects_of_asks hs hasks hdue hwait
  have hend : Expects s (run KeepsTime (s.move m) since) k due ∧
      (run KeepsTime (s.move m) since).IsPunctual :=
    run_induction (P := fun s' => Expects s s' k due ∧ s'.IsPunctual)
      (fun _ _ hm h => ⟨h.1.move h.2, h.2.move hm⟩) since
      ⟨hmove, hs.move (keepsTime_of_asks hasks)⟩
  rcases hend.1.comes with hadds | ⟨d, hd, -, hle⟩
  · exact hadds
  · exact absurd hle (Nat.not_le.2 (hfired d hd))

end

/-- A job that has failed once and waits for a minute. -/
def failedOnce : List (QueueMove Unit) :=
  [.add (), .get, .addRateLimited () 0, .done (), .pass 100]

theorem asks_failedOnce :
    Asks (punctual true 60000 300000 failedOnce) () 500 (.addAfter () 500) := ⟨rfl, rfl⟩

/-- It is added again when the minute is over, and what is asked for in between with it. -/
theorem exists_adds_of_asks_failedOnce : AddsBy (punctual true 60000 300000 failedOnce)
    (punctual true 60000 300000
      (failedOnce ++ .addAfter () 500 :: [.pass 59900, .fire ⟨60000, ()⟩])) () 60000 :=
  exists_adds_of_asks true 60000 300000 failedOnce [.pass 59900, .fire ⟨60000, ()⟩]
    asks_failedOnce (by decide) (by decide) (by decide)

/-- What is asked for while the job waits is not done when it is due. -/
theorem not_addsBy_failedOnce :
    (punctual true 60000 300000 failedOnce).now = 100 ∧
    Asks (punctual true 60000 300000 failedOnce) () 500 (.addAfter () 500) ∧
    (∀ d ∈ (punctual true 60000 300000
      (failedOnce ++ .addAfter () 500 :: [.pass 500])).queue.delayed, 100 + 500 < d.due) ∧
    (punctual true 60000 300000 (failedOnce ++ .addAfter () 500 :: [.pass 500])).now
      = 100 + 500 ∧
    ¬ AddsBy (punctual true 60000 300000 failedOnce)
      (punctual true 60000 300000 (failedOnce ++ .addAfter () 500 :: [.pass 500])) ()
      (100 + 500) :=
  ⟨by decide, asks_failedOnce, by decide, by decide, by decide⟩

end RuleCatalog.WorkQueue.Timeline
