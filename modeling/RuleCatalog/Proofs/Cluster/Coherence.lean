import Mathlib.Data.List.Forall2
import RuleCatalog.Proofs.Cluster.Scene
import RuleCatalog.Proofs.Cluster.Turn

/-! # Coherent scenes

The invariant of interleavings. Whenever a worker has been started, either a sync is still to come
that is going to read everything (`Pending`), or all that has been read so far is what there is,
and either the worker is about to build a catalog of it or the catalog is built of it already
(`UpToDate`). Main statement: `Scene.Reachable.coherent`. -/
namespace RuleCatalog
open SyncPhase

/-- How far the syncs of a scene are. -/
structure Progress where
  /-- The sync of the worker, if it has a job. -/
  worker : Option SyncPhase
  syncs : List SyncPhase

namespace Progress

def all (g : Progress) : List SyncPhase := g.worker.toList ++ g.syncs

theorem perm_all_of_syncs {g : Progress} {l r : List SyncPhase} {p : SyncPhase}
    (h : g.syncs = l ++ p :: r) : g.all.Perm (p :: (g.worker.toList ++ l ++ r)) := by
  unfold all
  rw [h, ← List.append_assoc]
  exact List.perm_middle

end Progress

/-- Whether a sync is as far with a job as the worker is. -/
def Worker.Follows (c : Config) : Option Worker → Option SyncPhase → Prop
  | none, none | some .idle, none => True
  | some (.busy t), some p => p.Describes c t
  | _, _ => False

namespace Scene

/-- Whether a sync is to come that is going to read everything. -/
inductive Pending (s : Scene) (g : Progress) : Prop
  | notice {n : Notice} (h : n ∈ s.notices) (hn : n.concerns s.world.config = true)
  | queue (h : s.world.queue.Awaits .sync)
  | worker {p : SyncPhase} (h : g.worker = some p) (hp : p.isWaiting = true)

/-- Whether nothing that has been read, or built, is out of date. -/
structure UpToDate (w : World) (g : Progress) : Prop where
  isCurrent : ∀ p ∈ g.all, p.IsCurrent w
  built : (∃ p, g.worker = some p ∧ p.isSuccess = false)
    ∨ ∃ stats, w.built = .ok (w.catalog, stats)

structure Coherent (c : Config) (s : Scene) (g : Progress) : Prop where
  config : s.world.config = c
  isKeyed : s.world.IsKeyed
  follows : Worker.Follows c s.worker g.worker
  syncs : List.Forall₂ (Describes c) g.syncs s.syncs
  turns : Turns s.world g.all
  sound : s.world.queue.Sound
  isOpen : s.world.queue.isClosed = false
  /-- The worker has a job as long as the queue says so. -/
  processing : Job.sync ∈ s.world.queue.processing ↔ g.worker.isSome
  isListening : s.worker.isSome → s.world.isListening = true
  /-- No change is missed. -/
  noneMissed : s.worker.isSome → Pending s g ∨ UpToDate s.world g

end Scene

/-- Whether a world differs from another in its clock, its record and its queue only, and the
queue has no less to do. -/
structure World.Busier (w w' : World) : Prop where
  config : w'.config = w.config
  stores : w'.stores = w.stores
  catalog : w'.catalog = w.catalog
  isListening : w'.isListening = w.isListening
  issued : w'.issued = w.issued
  served : w'.served = w.served
  sound : w.queue.Sound → w'.queue.Sound
  isClosed : w'.queue.isClosed = w.queue.isClosed
  processing : w'.queue.processing = w.queue.processing
  awaits : w.queue.isClosed = false → w.queue.Awaits .sync → w'.queue.Awaits .sync

namespace World.Busier
variable {w w' : World}

theorem sources (h : w.Busier w') : w'.sources = w.sources := by
  unfold World.sources
  rw [h.stores, h.config]

theorem isKeyed (h : w.Busier w') (hk : w.IsKeyed) : w'.IsKeyed :=
  ⟨h.stores ▸ hk.rules, h.stores ▸ hk.secrets, h.stores ▸ hk.overrides⟩

theorem add (w : World) : w.Busier { w with queue := w.queue.add .sync } :=
  ⟨rfl, rfl, rfl, rfl, rfl, rfl, fun h => h.add _, by simp, by simp,
    fun _ h => WorkQueue.awaits_add h⟩

theorem requestSync (w : World) : w.Busier w.requestSync :=
  ⟨rfl, rfl, rfl, rfl, rfl, rfl, fun h => h.addAfter _ _ _, by simp [World.requestSync],
    by simp [World.requestSync], fun _ h => WorkQueue.awaits_addAfter _ _ h⟩

theorem fire {d : DelayedAdd Job} (h : d ∈ w.queue.delayed) :
    w.Busier { w with queue := w.queue.fireOne d } :=
  ⟨rfl, rfl, rfl, rfl, rfl, rfl, fun hs => hs.fireOne h, by simp, by simp,
    fun hopen h => WorkQueue.awaits_fireOne hopen d h⟩

theorem pass (w : World) (ms : Nat) : w.Busier { w with now := w.now + ms } :=
  ⟨rfl, rfl, rfl, rfl, rfl, rfl, id, rfl, rfl, fun _ => id⟩

theorem look {q : WorkQueue Job} (h : w.queue.take = (.nothing, q)) :
    w.Busier { w with queue := q } := by
  have hsound := fun hs : w.queue.Sound => hs.take_nothing h
  obtain ⟨-, rfl⟩ := WorkQueue.take_eq_nothing h
  exact ⟨rfl, rfl, rfl, rfl, rfl, rfl, hsound, rfl, rfl, fun _ => id⟩

theorem record (w : World) (es : List Event) : w.Busier { w with events := es } :=
  ⟨rfl, rfl, rfl, rfl, rfl, rfl, id, rfl, rfl, fun _ => id⟩

theorem trans {w'' : World} (h : w.Busier w') (h' : w'.Busier w'') : w.Busier w'' where
  config := h'.config.trans h.config
  stores := h'.stores.trans h.stores
  catalog := h'.catalog.trans h.catalog
  isListening := h'.isListening.trans h.isListening
  issued := h'.issued.trans h.issued
  served := h'.served.trans h.served
  sound hs := h'.sound (h.sound hs)
  isClosed := h'.isClosed.trans h.isClosed
  processing := h'.processing.trans h.processing
  awaits hopen ha := h'.awaits (h.isClosed.trans hopen) (h.awaits hopen ha)

theorem notify {α : Type} [Stored α] (w : World) (c : Change α) : w.Busier (w.notify c) := by
  unfold World.notify
  dsimp only
  split
  · exact (record w _).trans (requestSync _)
  · exact record w _

theorem tell (w : World) (n : Notice) : w.Busier (w.tell n) := by
  cases n <;> exact notify w _

end World.Busier

namespace World
variable {w : World}

/-- Those who listen ask for a sync when they are told of a change that concerns them. -/
theorem awaits_notify {α : Type} [Stored α] {c : Change α} (hl : w.isListening = true)
    (hc : concernsCatalog w.config (Resource.key c.latest) (Stored.place α) = true)
    (hopen : w.queue.isClosed = false) : (w.notify c).queue.Awaits .sync := by
  unfold notify
  dsimp only
  rw [if_pos (by simp [hl, hc])]
  exact WorkQueue.awaits_addAfter_self hopen _ _ _

theorem awaits_tell {n : Notice} (hl : w.isListening = true)
    (hn : n.concerns w.config = true) (hopen : w.queue.isClosed = false) :
    (w.tell n).queue.Awaits .sync := by
  cases n <;> exact awaits_notify hl hn hopen

/-- A deed changes the stores only. -/
theorem exists_act_eq (w : World) (d : Deed) : ∃ stores, (w.act d).1 = { w with stores } := by
  cases d <;> exact ⟨_, rfl⟩

end World

theorem SyncPhase.PhaseStep.isKeyed {w w' : World} {p p' : SyncPhase}
    (h : PhaseStep w p p' w') (hk : w.IsKeyed) : w'.IsKeyed := by
  cases h with
  | read _ _ halike => exact halike.isKeyed hk
  | _ => exact ⟨hk.rules, hk.secrets, hk.overrides⟩

namespace Scene

theorem UpToDate.congr {w w' : World} {g : Progress} (h : UpToDate w g)
    (hs : w'.sources = w.sources) (hc : w'.config = w.config)
    (hcatalog : w'.catalog = w.catalog) : UpToDate w' g where
  isCurrent p hp := isCurrent_congr hs hc (h.isCurrent p hp)
  built := h.built.imp id fun ⟨stats, hb⟩ => ⟨stats, by
    unfold World.built at hb ⊢
    rw [hs, hc, hcatalog, hb]⟩

namespace Coherent
variable {c : Config} {s : Scene} {g : Progress}

theorem empty (c : Config) : Coherent c (.empty c) ⟨none, []⟩ where
  config := rfl
  isKeyed := ⟨Store.isKeyed_empty, Store.isKeyed_empty, Store.isKeyed_empty⟩
  follows := trivial
  syncs := .nil
  turns := .nil rfl
  sound := WorkQueue.sound_empty _ _ _
  isOpen := rfl
  processing := by simp [Scene.empty, World.empty, WorkQueue.empty]
  isListening h := by cases h
  noneMissed h := by cases h

/-- A frame rule: it is enough that a sync is asked for when a notice is delivered. -/
theorem of_busier (h : Coherent c s g) {w : World} (hw : s.world.Busier w) {ns : List Notice}
    (hns : s.worker.isSome → ∀ n ∈ s.notices, n.concerns s.world.config = true →
      n ∈ ns ∨ w.queue.Awaits .sync) :
    Coherent c { s with world := w, notices := ns } g where
  config := hw.config.trans h.config
  isKeyed := hw.isKeyed h.isKeyed
  follows := h.follows
  syncs := h.syncs
  turns := h.turns.congr rfl rfl hw.served hw.issued
  sound := hw.sound h.sound
  isOpen := hw.isClosed.trans h.isOpen
  processing := by
    rw [hw.processing]
    exact h.processing
  isListening hsome := hw.isListening.trans (h.isListening hsome)
  noneMissed hsome := by
    rcases h.noneMissed hsome with hp | hu
    · left
      cases hp with
      | notice hn hconcerns =>
        rcases hns hsome _ hn hconcerns with hn | hq
        · exact .notice hn (hw.config ▸ hconcerns)
        · exact .queue hq
      | queue hq => exact .queue (hw.awaits h.isOpen hq)
      | worker hp hwait => exact .worker hp hwait
    · exact .inr (hu.congr hw.sources hw.config hw.catalog)

theorem act (h : Coherent c s g) (d : Deed) : Coherent c { s with
    world := (s.world.act d).1, notices := s.notices ++ (s.world.act d).2.toList } g := by
  obtain ⟨stores, hact⟩ := s.world.exists_act_eq d
  have hkeyed := World.isKeyed_act h.isKeyed d
  have hsources := World.sources_act h.isKeyed d
  rw [hact] at hkeyed hsources ⊢
  refine ⟨h.config, hkeyed, h.follows, h.syncs, h.turns.congr rfl rfl rfl rfl, h.sound, h.isOpen,
    h.processing, h.isListening, fun hsome => ?_⟩
  rcases hsources with hsame | ⟨n, hn, hconcerns⟩
  · rcases h.noneMissed hsome with hp | hu
    · left
      cases hp with
      | notice hn hconcerns => exact .notice (List.mem_append_left _ hn) hconcerns
      | queue hq => exact .queue hq
      | worker hp hwait => exact .worker hp hwait
    · exact .inr (hu.congr hsame rfl rfl)
  · exact .inl (.notice (List.mem_append_right _ (by simp [hn])) hconcerns)

theorem tell (h : Coherent c s g) {l r : List Notice} {n : Notice}
    (hn : s.notices = l ++ n :: r) :
    Coherent c { s with world := s.world.tell n, notices := l ++ r } g := by
  refine h.of_busier (.tell s.world n) fun hsome n' hn' hconcerns => ?_
  rw [hn, List.mem_append, List.mem_cons] at hn'
  rcases hn' with hl | rfl | hr
  · exact .inl (List.mem_append_left _ hl)
  · exact .inr (World.awaits_tell (h.isListening hsome) hconcerns h.isOpen)
  · exact .inl (List.mem_append_right _ hr)

/-- The worker asks for the first sync when it is started. -/
theorem start (h : Coherent c s g) (hs : s.worker = none) :
    Coherent c { s with world := s.world.listening, worker := some .idle } g where
  config := h.config
  isKeyed := ⟨h.isKeyed.rules, h.isKeyed.secrets, h.isKeyed.overrides⟩
  follows := by
    have hf := h.follows
    rw [hs] at hf
    cases hg : g.worker with
    | none => trivial
    | some p => rw [hg] at hf; exact hf
  syncs := h.syncs
  turns := h.turns.congr rfl rfl rfl rfl
  sound := h.sound.add _
  isOpen := (WorkQueue.isClosed_add _ _).trans h.isOpen
  processing := by
    show Job.sync ∈ (s.world.queue.add .sync).processing ↔ _
    rw [WorkQueue.processing_add]
    exact h.processing
  isListening _ := rfl
  noneMissed _ := .inl (.queue (WorkQueue.awaits_add_self h.isOpen _))

theorem ask (h : Coherent c s g) :
    Coherent c { s with syncs := s.syncs ++ [.ofProgram (Catalog.sync s.world.config)] }
      { g with syncs := g.syncs ++ [fresh] } := by
  have hall : ({ g with syncs := g.syncs ++ [fresh] } : Progress).all = g.all ++ [fresh] :=
    (List.append_assoc _ _ _).symm
  refine ⟨h.config, h.isKeyed, h.follows, ?_, ?_, h.sound, h.isOpen, h.processing,
    h.isListening, fun hsome => ?_⟩
  · exact List.rel_append h.syncs (.cons ⟨by rw [← h.config]; rfl, rfl⟩ .nil)
  · rw [hall]
    exact ((Turns.cons_iff rfl rfl).2 h.turns).perm (List.perm_append_singleton fresh g.all).symm
  · rcases h.noneMissed hsome with hp | hu
    · left
      cases hp with
      | notice hn hconcerns => exact .notice hn hconcerns
      | queue hq => exact .queue hq
      | worker hp hwait => exact .worker hp hwait
    · refine .inr ⟨fun p hp => ?_, hu.built⟩
      rw [hall, List.mem_append, List.mem_singleton] at hp
      rcases hp with hp | rfl
      · exact hu.isCurrent p hp
      · trivial

/-- A job that is handed out is a sync that is going to read everything. -/
theorem take (h : Coherent c s g) {q : WorkQueue Job} (hs : s.worker = some .idle)
    (ht : s.world.queue.take = (.key .sync, q)) :
    Coherent c { s with
      world := { s.world with queue := q }
      worker := some (.busy (.ofProgram (Catalog.sync s.world.config))) }
      { g with worker := some fresh } := by
  have hnone : g.worker = none := by
    have hf := h.follows
    rw [hs] at hf
    cases hg : g.worker with
    | none => rfl
    | some p => rw [hg] at hf; exact hf.elim
  have hsound := (h.sound.take ht).1
  obtain ⟨ks, hopen, -, rfl⟩ := WorkQueue.take_eq_key ht
  refine ⟨h.config, ⟨h.isKeyed.rules, h.isKeyed.secrets, h.isKeyed.overrides⟩,
    ⟨by rw [← h.config]; rfl, rfl⟩, h.syncs, ?_, hsound, hopen, by simp, fun _ => ?_,
    fun _ => .inl (.worker rfl rfl)⟩
  · have hturns := h.turns
    rw [Progress.all, hnone] at hturns
    exact ((Turns.cons_iff rfl rfl).2 hturns).congr rfl rfl rfl rfl
  · exact h.isListening (by rw [hs]; rfl)

theorem exists_phase (h : Coherent c s g) {t : ActiveProgram (Except SyncError SyncStats)}
    (hs : s.worker = some (.busy t)) : ∃ p, g.worker = some p ∧ p.Describes c t := by
  have hf := h.follows
  rw [hs] at hf
  cases hg : g.worker with
  | none => rw [hg] at hf; exact hf.elim
  | some p => rw [hg] at hf; exact ⟨p, rfl, hf⟩

theorem mem_processing (h : Coherent c s g) {t : ActiveProgram (Except SyncError SyncStats)}
    (hs : s.worker = some (.busy t)) : Job.sync ∈ s.world.queue.processing := by
  obtain ⟨p, hg, -⟩ := h.exists_phase hs
  exact h.processing.2 (by rw [hg]; rfl)

/-- What a step of a sync does to the syncs and to what they have read, whoever asked for the
sync. -/
theorem phaseStep (h : Coherent c s g) {w : World} {p p' : SyncPhase} {ps : List SyncPhase}
    (hall : g.all.Perm (p :: ps)) (hs : PhaseStep s.world p p' w) :
    Turns w (p' :: ps) ∧ ((∀ q ∈ g.all, q.IsCurrent s.world) → ∀ q ∈ p' :: ps, q.IsCurrent w) := by
  refine ⟨(h.turns.perm hall).step hs, fun hcurrent q hq => ?_⟩
  rcases List.mem_cons.1 hq with rfl | hq
  · exact hs.isCurrent (hcurrent p (hall.mem_iff.2 List.mem_cons_self))
  · exact isCurrent_congr hs.sources hs.config
      (hcurrent q (hall.mem_iff.2 (List.mem_cons_of_mem _ hq)))

theorem move (h : Coherent c s g) {l r : List (ActiveProgram (Except SyncError SyncStats))}
    {t t' : ActiveProgram (Except SyncError SyncStats)} {w : World}
    (hs : s.syncs = l ++ t :: r) (hm : t.move? s.world = some (t', w)) :
    ∃ g', Coherent c { s with world := w, syncs := l ++ t' :: r } g' := by
  have hsyncs := h.syncs
  rw [hs] at hsyncs
  obtain ⟨p, gr, hp, hgr, hdrop⟩ :=
    List.forall₂_cons_right_iff.1 (List.forall₂_drop_append _ _ _ hsyncs)
  have hgl := List.forall₂_take_append _ _ _ hsyncs
  have hsplit : g.syncs = g.syncs.take l.length ++ p :: gr := by
    rw [← hdrop, List.take_append_drop]
  generalize g.syncs.take l.length = gl at hgl hsplit
  rw [← h.config] at hp
  obtain ⟨p', hp', hstep⟩ := exists_phaseStep hp hm
  rw [h.config] at hp'
  have hall := Progress.perm_all_of_syncs hsplit
  let g' : Progress := ⟨g.worker, gl ++ p' :: gr⟩
  have hall' : g'.all.Perm (p' :: (g.worker.toList ++ gl ++ gr)) :=
    Progress.perm_all_of_syncs (g := g') rfl
  obtain ⟨hturns, hcurrent⟩ := h.phaseStep hall hstep
  have hqueue := hstep.queue
  refine ⟨g', hstep.config.trans h.config, hstep.isKeyed h.isKeyed, h.follows,
    List.rel_append hgl (.cons hp' hgr), hturns.perm hall'.symm, hqueue ▸ h.sound,
    hqueue ▸ h.isOpen, hqueue ▸ h.processing,
    fun hsome => hstep.isListening.trans (h.isListening hsome), fun hsome => ?_⟩
  rcases h.noneMissed hsome with hpending | hu
  · left
    cases hpending with
    | notice hn hconcerns => exact .notice hn (hstep.config ▸ hconcerns)
    | queue hq => exact .queue (hqueue ▸ hq)
    | worker hp hwait => exact .worker hp hwait
  · refine .inr ⟨fun q hq => hcurrent hu.isCurrent q (hall'.mem_iff.1 hq), ?_⟩
    rcases hstep.isSuccess_or_catalog
        (hu.isCurrent p (hall.mem_iff.2 List.mem_cons_self)) with hbuilt | ⟨hcatalog, -⟩
    · exact .inr hbuilt
    · refine hu.built.imp id fun ⟨stats, hb⟩ => ⟨stats, ?_⟩
      rw [hstep.built, hb, hcatalog]

/-- The worker's sync. When it acquires the right to sync nobody else has read anything, so from
then on all that is read is current. -/
theorem work (h : Coherent c s g) {t t' : ActiveProgram (Except SyncError SyncStats)} {w : World}
    (hs : s.worker = some (.busy t)) (hm : t.move? s.world = some (t', w)) :
    ∃ g', Coherent c { s with world := w, worker := some (.busy t') } g' := by
  obtain ⟨p, hg, hp⟩ := h.exists_phase hs
  rw [← h.config] at hp
  obtain ⟨p', hp', hstep⟩ := exists_phaseStep hp hm
  rw [h.config] at hp'
  have hall : g.all = p :: g.syncs := by rw [Progress.all, hg]; rfl
  obtain ⟨hturns, hcurrent⟩ := h.phaseStep (.of_eq hall) hstep
  have hqueue := hstep.queue
  have hlistening := h.isListening (by rw [hs]; rfl)
  refine ⟨⟨some p', g.syncs⟩, hstep.config.trans h.config, hstep.isKeyed h.isKeyed, hp', h.syncs,
    hturns, hqueue ▸ h.sound, hqueue ▸ h.isOpen, ?_, fun _ => hstep.isListening.trans hlistening,
    fun _ => ?_⟩
  · have hprocessing := h.processing
    rw [hg] at hprocessing
    exact hqueue ▸ hprocessing
  rcases h.noneMissed (by rw [hs]; rfl) with hpending | hu
  · cases hpending with
    | notice hn hconcerns => exact .inl (.notice hn (hstep.config ▸ hconcerns))
    | queue hq => exact .inl (.queue (hqueue ▸ hq))
    | worker hp hwait =>
      obtain rfl : _ = p := Option.some.inj (hp.symm.trans hg)
      rcases hstep.isWaiting_or_acquire hwait with hwait | ⟨n, rfl, hn, rfl, rfl⟩
      · exact .inl (.worker rfl hwait)
      · have hfree := (hall ▸ h.turns).holders_of_acquire hn
        refine .inr ⟨fun q hq => ?_, .inl ⟨reading, rfl, rfl⟩⟩
        rcases List.mem_cons.1 hq with rfl | hq
        · trivial
        · exact isCurrent_of_not_isHolding _ (not_isHolding_of_holders hfree q hq)
  · refine .inr ⟨hcurrent hu.isCurrent, ?_⟩
    rcases hstep.isSuccess_or_catalog
        (hu.isCurrent p (hall ▸ List.mem_cons_self)) with hbuilt | ⟨hcatalog, hsuccess⟩
    · exact .inr hbuilt
    · rcases hu.built with ⟨q, hq, hfalse⟩ | ⟨stats, hb⟩
      · obtain rfl : q = p := Option.some.inj (hq.symm.trans hg)
        refine .inl ⟨p', rfl, Bool.eq_false_iff.2 fun htrue => ?_⟩
        rw [hsuccess htrue] at hfalse
        cases hfalse
      · exact .inr ⟨stats, by rw [hstep.built, hb, hcatalog]⟩

/-- A job may be given back when it has succeeded or has been asked for again. -/
theorem giveBack (h : Coherent c s g) {t : ActiveProgram (Except SyncError SyncStats)}
    {r : Except SyncError SyncStats} {q : WorkQueue Job} (hs : s.worker = some (.busy t))
    (hr : t.result? = some r) (hsound : q.Sound) (hopen : q.isClosed = false)
    (hprocessing : .sync ∉ q.processing)
    (hawaits : s.world.queue.Awaits .sync → q.Awaits .sync)
    (hanswer : (∃ stats, r = .ok stats) ∨ q.Awaits .sync) :
    Coherent c { s with world := { s.world with queue := q }, worker := some .idle }
      { g with worker := none } := by
  obtain ⟨p, hg, hp⟩ := h.exists_phase hs
  obtain rfl := eq_ended_of_result? hp hr
  have hall : g.all = ended r :: g.syncs := by rw [Progress.all, hg]; rfl
  have hlistening := h.isListening (by rw [hs]; rfl)
  refine ⟨h.config, ⟨h.isKeyed.rules, h.isKeyed.secrets, h.isKeyed.overrides⟩, trivial, h.syncs,
    ?_, hsound, hopen, by simpa using hprocessing, fun _ => hlistening, fun _ => ?_⟩
  · have hturns := h.turns
    rw [hall, Turns.cons_iff rfl rfl] at hturns
    exact hturns.congr rfl rfl rfl rfl
  rcases h.noneMissed (by rw [hs]; rfl) with hpending | hu
  · left
    cases hpending with
    | notice hn hconcerns => exact .notice hn hconcerns
    | queue hq => exact .queue (hawaits hq)
    | worker hp hwait =>
      rw [hg] at hp
      obtain rfl := Option.some.inj hp
      cases hwait
  · rcases hanswer with ⟨stats, rfl⟩ | hq
    · refine .inr ⟨fun p hp => hu.isCurrent p ?_, .inr ?_⟩
      · rw [hall]
        exact List.mem_cons_of_mem _ hp
      rcases hu.built with ⟨p, hp, hfalse⟩ | hbuilt
      · rw [hg] at hp
        obtain rfl := Option.some.inj hp
        cases hfalse
      · exact hbuilt
    · exact .inl (.queue hq)

theorem succeed (h : Coherent c s g) {t : ActiveProgram (Except SyncError SyncStats)}
    {stats : SyncStats} (hs : s.worker = some (.busy t)) (hr : t.result? = some (.ok stats)) :
    Coherent c { s with
      world := { s.world with queue := (s.world.queue.forget .sync).done .sync }
      worker := some .idle } { g with worker := none } := by
  refine h.giveBack hs hr ((h.sound.forget _).done h.isOpen (h.mem_processing hs))
    ((WorkQueue.isClosed_done _ _).trans h.isOpen) (by simp)
    (fun hq => WorkQueue.awaits_done (WorkQueue.awaits_forget hq)) (.inl ⟨stats, rfl⟩)

theorem fail (h : Coherent c s g) {t : ActiveProgram (Except SyncError SyncStats)}
    {e : SyncError} (jitter : Nat) (hs : s.worker = some (.busy t))
    (hr : t.result? = some (.error e)) :
    Coherent c { s with
      world := { s.world with
        queue := (s.world.queue.addRateLimited s.world.now .sync jitter).2.done .sync }
      worker := some .idle } { g with worker := none } := by
  have hopen : (s.world.queue.addRateLimited s.world.now .sync jitter).2.isClosed = false :=
    (WorkQueue.isClosed_addRateLimited _ _ _ _).trans h.isOpen
  have hself := WorkQueue.awaits_addRateLimited_self h.isOpen s.world.now Job.sync jitter
  refine h.giveBack hs hr ((h.sound.addRateLimited _ _ _).done hopen ?_)
    ((WorkQueue.isClosed_done _ _).trans hopen) (by simp) (fun _ => WorkQueue.awaits_done hself)
    (.inr (WorkQueue.awaits_done hself))
  rw [WorkQueue.processing_addRateLimited]
  exact h.mem_processing hs

/-- Every step keeps a scene coherent. -/
theorem step (h : Coherent c s g) {s' : Scene} (hs : Step s s') : ∃ g', Coherent c s' g' := by
  cases hs with
  | act d => exact ⟨g, h.act d⟩
  | tell hn => exact ⟨g, h.tell hn⟩
  | start hnone => exact ⟨g, h.start hnone⟩
  | tick => exact ⟨g, h.of_busier (.add _) fun _ _ hn _ => .inl hn⟩
  | request => exact ⟨g, h.of_busier (.requestSync _) fun _ _ hn _ => .inl hn⟩
  | fire hd => exact ⟨g, h.of_busier (.fire hd) fun _ _ hn _ => .inl hn⟩
  | pass ms => exact ⟨g, h.of_busier (.pass _ ms) fun _ _ hn _ => .inl hn⟩
  | ask => exact ⟨_, h.ask⟩
  | move ht hm => exact h.move ht hm
  | take hidle ht => exact ⟨_, h.take hidle ht⟩
  | look _ ht => exact ⟨g, h.of_busier (.look ht) fun _ _ hn _ => .inl hn⟩
  | work hbusy hm => exact h.work hbusy hm
  | succeed hbusy hr => exact ⟨_, h.succeed hbusy hr⟩
  | fail jitter hbusy hr => exact ⟨_, h.fail jitter hbusy hr⟩

end Coherent

theorem Reachable.coherent {c : Config} {s : Scene} (h : Reachable c s) :
    ∃ g, Coherent c s g := by
  induction h with
  | empty => exact ⟨_, .empty c⟩
  | step _ hs ih =>
    obtain ⟨g, hg⟩ := ih
    exact hg.step hs

end Scene

end RuleCatalog
