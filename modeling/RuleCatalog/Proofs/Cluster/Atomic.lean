import RuleCatalog.Cluster.Activity
import RuleCatalog.Proofs.Service.Amendment
import RuleCatalog.Proofs.Service.Commit

/-! # Activities that take effect at once or not at all

A program is atomic if its first effect is its last and leads to its success: whatever the world
answers, nothing changes before, and nothing that can fail or has to wait comes after. Such a
program may be given up at any moment at which it waits; run alone, it is all or nothing.
Main statement: `Cluster.content_runAll_of_isAtomic`. -/
namespace RuleCatalog

/-! ## Effects -/

/-- What a store holds, with the version of its last write, and who is told of its changes. -/
def Watched.content {α : Type} (a : Watched α) := (a.store.content, a.recorders)

/-- What all stores hold, with the versions of the last writes. -/
def Stores.content (s : Stores) :=
  (s.rules.content, s.secrets.content, s.overrides.content, s.containers.content)

/-- What the stores hold, the catalog, and all changes that have been told. -/
def World.content (w : World) := (w.stores.content, w.catalog, w.events)

/-- Whether an effect is one on the content of a world. -/
structure IsEffect (E : World → World → Prop) : Prop where
  of_content {w₀ w w' w₁ : World} :
    w.content = w₀.content → E w w' → w₁.content = w'.content → E w₀ w₁

variable {ρ ρ' : Type} {E : World → World → Prop} {ok : ρ → Prop} {ok' : ρ' → Prop}

namespace Program

/-- Whether nothing is left of a program but to give back the right to sync, and it ends well. -/
def Concludes (ok : ρ → Prop) : Program ρ → Prop
  | .done r => ok r
  | .call c next => c = .release ∧ ∀ reply, Concludes ok (next reply)

/-- Whether each call of a program has no effect, or is the end of the program but for a conclusion
and has the effect. -/
def IsAtomic (E : World → World → Prop) (ok : ρ → Prop) : Program ρ → Prop
  | .done _ => True
  | .call c next => ∀ w : World,
    ((w.perform c).2.content = w.content ∧ IsAtomic E ok (next (w.perform c).1))
      ∨ (E w (w.perform c).2 ∧ Concludes ok (next (w.perform c).1))

theorem Concludes.map {p : Program ρ} (h : Concludes ok p) {g : ρ → ρ'}
    (hg : ∀ r, ok r → ok' (g r)) : Concludes ok' (g <$> p) := by
  induction p with
  | done r => exact hg r h
  | call c next ih => exact ⟨h.1, fun reply => ih reply (h.2 reply)⟩

theorem IsAtomic.map {p : Program ρ} (h : IsAtomic E ok p) {g : ρ → ρ'}
    (hg : ∀ r, ok r → ok' (g r)) : IsAtomic E ok' (g <$> p) := by
  induction p with
  | done r => trivial
  | call c next ih =>
    intro w
    rcases h w with ⟨hcontent, hnext⟩ | ⟨heffect, hnext⟩
    · exact .inl ⟨hcontent, ih _ hnext⟩
    · exact .inr ⟨heffect, hnext.map hg⟩

end Program

namespace World
open Program
variable {p : Program ρ} {w w' w₀ : World}

theorem content_begin (w : World) (c : Call) : (w.begin c).2.content = w.content := by
  cases c <;> rfl

theorem advance_of_concludes (h : Concludes ok p) (w : World) :
    ∃ r w', w.advance p = ((.done r, none), w') ∧ ok r ∧ w'.content = w.content := by
  induction p generalizing w with
  | done r => exact ⟨r, w, rfl, h, rfl⟩
  | call c next ih =>
    obtain ⟨rfl, hnext⟩ := h
    obtain ⟨r, w', hadvance, hr, hcontent⟩ := ih () (hnext ()) (w.perform .release).2
    have hover : (w.begin .release).2.isOver (w.begin .release).1 = true := by
      simp [begin, isOver, delayOf]
    refine ⟨r, w', ?_, hr, hcontent⟩
    simp only [advance]
    rw [if_pos hover]
    exact hadvance

/-- How far an atomic program can have come from a world. -/
inductive Reaches (E : World → World → Prop) (ok : ρ → Prop) (w₀ w : World) : Program ρ → Prop
  | before {p : Program ρ} (content : w.content = w₀.content) (rest : IsAtomic E ok p) :
    Reaches E ok w₀ w p
  | after (r : ρ) (good : ok r) (effect : E w₀ w) : Reaches E ok w₀ w (.done r)

/-- A call has no effect, or the program comes to its end. -/
theorem reaches_of_call (hE : IsEffect E) (hw : w.content = w₀.content)
    (h : (w'.content = w.content ∧ IsAtomic E ok p) ∨ (E w w' ∧ Concludes ok p))
    (hbefore : IsAtomic E ok p → w'.content = w₀.content →
      Reaches E ok w₀ (w'.advance p).2 (w'.advance p).1.1) :
    Reaches E ok w₀ (w'.advance p).2 (w'.advance p).1.1 := by
  rcases h with ⟨hcontent, hp⟩ | ⟨heffect, hp⟩
  · exact hbefore hp (hcontent.trans hw)
  · obtain ⟨r, w'', hadvance, hr, hcontent⟩ := advance_of_concludes hp w'
    rw [hadvance]
    exact .after r hr (hE.of_content hw heffect hcontent)

theorem reaches_advance (hE : IsEffect E) (h : IsAtomic E ok p) (hw : w.content = w₀.content) :
    Reaches E ok w₀ (w.advance p).2 (w.advance p).1.1 := by
  induction p generalizing w with
  | done r => exact .before hw trivial
  | call c next ih =>
    have hbegin : (w.begin c).2.content = w₀.content := (w.content_begin c).trans hw
    simp only [advance]
    split
    · exact reaches_of_call hE hbegin (h _) (ih _)
    · exact .before hbegin h

theorem reaches_resume (hE : IsEffect E) (h : IsAtomic E ok p) (hw : w.content = w₀.content)
    (wait : Wait) : Reaches E ok w₀ (w.resume wait p).2 (w.resume wait p).1.1 := by
  cases p with
  | done r => exact .before hw trivial
  | call c next =>
    simp only [resume]
    split
    · exact reaches_of_call hE hw (h w) (reaches_advance hE)
    · exact .before hw h

theorem Reaches.of_content (hE : IsEffect E) (h : Reaches E ok w₀ w p)
    (hw : w'.content = w.content) : Reaches E ok w₀ w' p := by
  cases h with
  | before content rest => exact .before (hw.trans content) rest
  | after r good effect => exact .after r good (hE.of_content rfl effect hw)

/-- A program that is given up has had no effect. -/
theorem Reaches.expire {t : ActiveProgram ρ} (h : Reaches E ok w₀ w t.program) :
    Reaches E ok w₀ w (ActiveProgram.expire w t).program := by
  unfold ActiveProgram.expire
  split
  · rename_i hcall _
    split
    · rw [hcall] at h
      cases h with
      | before content => exact .before content trivial
    · exact h
  · exact h

theorem Reaches.poll (hE : IsEffect E) {t : ActiveProgram ρ} (h : Reaches E ok w₀ w t.program) :
    Reaches E ok w₀ (t.poll w).2 (t.poll w).1.program := by
  obtain ⟨p, wait, limit⟩ := t
  cases h with
  | before content rest =>
    cases wait with
    | none => exact (reaches_advance hE rest content).expire (t := ⟨_, _, limit⟩)
    | some wait => exact (reaches_resume hE rest content wait).expire (t := ⟨_, _, limit⟩)
  | after r good effect => cases wait <;> exact .after r good effect

end World

/-! ## Activities that run alone -/

/-- Whether an answer is a good one, whatever cluster it is read off. -/
def Activity.Answers (ok : ρ → Prop) (answer : Cluster → ρ) : Prop := ∀ c, ok (answer c)

/-- Whether an activity is an atomic program, with nothing done before. -/
def Activity.IsAtomic (E : World → World → Prop) (ok : ρ → Prop) (a : Activity ρ) : Prop :=
  ∀ c, (a c).2 = c ∧ Program.IsAtomic E (Answers ok) (a c).1.program

/-- How far an atomic activity can have come from a world. -/
def Stage.Reaches (E : World → World → Prop) (ok : ρ → Prop) (w₀ : World) (c : Cluster) :
    Stage ρ → Prop
  | waiting a => c.world.content = w₀.content ∧ a.IsAtomic E ok
  | begun t => c.world.content = w₀.content ∧ Program.IsAtomic E (Activity.Answers ok) t.program
  | done r => c.world.content = w₀.content ∨ ok r ∧ E w₀ c.world

namespace Stage
variable {c c' : Cluster} {w₀ : World} {s : Stage ρ}

theorem Reaches.of_content (hE : IsEffect E) (h : s.Reaches E ok w₀ c)
    (hw : c'.world.content = c.world.content) : s.Reaches E ok w₀ c' := by
  cases s with
  | waiting a => exact ⟨hw.trans h.1, h.2⟩
  | begun t => exact ⟨hw.trans h.1, h.2⟩
  | done r => exact h.imp hw.trans fun ⟨hr, heffect⟩ => ⟨hr, hE.of_content rfl heffect hw⟩

theorem workers_pollProgram (t : ActiveProgram (Cluster → ρ)) (c : Cluster) :
    (pollProgram t c).2.workers = c.workers := by
  unfold pollProgram
  dsimp only
  cases (t.poll c.world).1.result? <;> rfl

theorem reaches_pollProgram (hE : IsEffect E) {t : ActiveProgram (Cluster → ρ)}
    (hw : c.world.content = w₀.content)
    (ht : Program.IsAtomic E (Activity.Answers ok) t.program) :
    (pollProgram t c).1.Reaches E ok w₀ (pollProgram t c).2 := by
  have hpoll := World.Reaches.poll (w := c.world) hE (.before hw ht)
  unfold pollProgram ActiveProgram.result?
  dsimp only
  cases hprogram : (t.poll c.world).1.program with
  | call call next =>
    rw [hprogram] at hpoll
    -- a program that is not done has had no effect yet
    cases hpoll with
    | before content rest => exact ⟨content, hprogram ▸ rest⟩
  | done answer =>
    rw [hprogram] at hpoll
    cases hpoll with
    | before content => exact .inl content
    | after _ good effect => exact .inr ⟨good _, effect⟩

/-- What the next step of an atomic activity does. -/
theorem reaches_poll (hE : IsEffect E) (h : s.Reaches E ok w₀ c) :
    (s.poll c).1.Reaches E ok w₀ (s.poll c).2 ∧ (s.poll c).2.workers = c.workers := by
  cases s with
  | waiting a =>
    obtain ⟨hsame, hatomic⟩ := h.2 c
    have hw : (a c).2.world.content = w₀.content := by
      rw [hsame]
      exact h.1
    have hworkers : (pollProgram (a c).1 (a c).2).2.workers = c.workers := by
      rw [workers_pollProgram, hsame]
    exact ⟨reaches_pollProgram hE hw hatomic, hworkers⟩
  | begun t => exact ⟨reaches_pollProgram hE h.1 h.2, workers_pollProgram t c⟩
  | done r => exact ⟨h, rfl⟩

end Stage

namespace Cluster
variable {c : Cluster} {w₀ : World} {s : Stage ρ}

theorem settleFor_of_workers (h : c.workers = []) (n : Nat) : settleFor n c = c := by
  cases n with
  | zero => rfl
  | succ n => simp [settleFor, h]

theorem settle_of_workers (h : c.workers = []) : c.settle = c.fireDue :=
  settleFor_of_workers (c := c.fireDue) h patience

/-- A run of one atomic activity without workers keeps to what the activity may have reached. -/
theorem reaches_runFor (hE : IsEffect E) (hw : c.workers = []) (h : s.Reaches E ok w₀ c)
    (n : Nat) : ∃ s' c', runFor n c [s] = ([s'], c') ∧ s'.Reaches E ok w₀ c' := by
  -- on the rounds that are left; neither timers nor the clock change any content
  induction n generalizing c s with
  | zero => exact ⟨s, c, rfl, h⟩
  | succ n ih =>
    obtain ⟨hpoll, hworkers⟩ := Stage.reaches_poll hE h
    have hsettle : (s.poll c).2.settle = (s.poll c).2.fireDue :=
      settle_of_workers (hworkers.trans hw)
    have hidle : (s.poll c).2.fireDue.workers = [] := hworkers.trans hw
    have hdue : (s.poll c).1.Reaches E ok w₀ (s.poll c).2.fireDue := hpoll.of_content hE rfl
    simp only [runFor, pollAll, hsettle]
    by_cases hdone : [(s.poll c).1].all (·.answer?.isSome) = true
    · rw [if_pos hdone]
      exact ⟨_, _, rfl, hpoll⟩
    rw [if_neg hdone]
    by_cases hgo : [(s.poll c).1].any (·.canGoOn (s.poll c).2.fireDue) = true
    · rw [if_pos hgo]
      exact ih hidle hdue
    rw [if_neg hgo]
    cases (s.poll c).2.fireDue.nextMoment? [(s.poll c).1] with
    | none => exact ⟨_, _, rfl, hdue⟩
    | some moment =>
      exact ih (c := (s.poll c).2.fireDue.moveTo moment) hidle (hdue.of_content hE rfl)

/-- An atomic activity that runs alone leaves all content as it is, or it is answered well and has
had its effect. -/
theorem content_runAll_of_isAtomic (hE : IsEffect E) {a : Activity ρ} (ha : a.IsAtomic E ok)
    (hw : c.workers = []) :
    (c.runAll [a]).2.world.content = c.world.content
      ∨ (∃ r, (c.runAll [a]).1 = [r] ∧ ok r) ∧ E c.world (c.runAll [a]).2.world := by
  obtain ⟨s', c', hrun, hs'⟩ := reaches_runFor (s := .waiting a) hE hw ⟨rfl, ha⟩ patience
  have hall : c.runAll [a] = ([s'].filterMap (·.answer?), c') := by
    unfold runAll
    rw [List.map_singleton, hrun]
  rw [hall]
  cases s' with
  | waiting a => exact .inl hs'.1
  | begun t => exact .inl hs'.1
  | done r => exact hs'.imp_right fun ⟨hr, heffect⟩ => ⟨⟨r, rfl, hr⟩, heffect⟩

end Cluster

end RuleCatalog
