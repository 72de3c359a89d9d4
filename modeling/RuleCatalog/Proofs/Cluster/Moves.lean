import Mathlib.Logic.Relation
import RuleCatalog.Cluster.ActiveProgram

/-! # Single steps of a program

A program under way moves in single steps: its next call begins, and later takes place. Whoever
lets it go on as far as it can lets it make some of these steps (`moves_poll`), so that a run of
programs that take turns is one of single steps. -/
namespace RuleCatalog.ActiveProgram
variable {ρ : Type}

/-- The next step of a program: its first call begins, or takes place when its wait is over. -/
def move? (t : ActiveProgram ρ) (w : World) : Option (ActiveProgram ρ × World) :=
  match t.program, t.wait with
  | .done _, _ => none
  | .call c _, none => some ({ t with wait := some (w.begin c).1 }, (w.begin c).2)
  | .call c next, some wait =>
    if w.canResume wait then
      some ({ t with program := next (w.perform c).1, wait := none }, (w.perform c).2)
    else none

/-- Whether a program and its world come to be what they are by single steps. -/
def Moves : ActiveProgram ρ × World → ActiveProgram ρ × World → Prop :=
  Relation.ReflTransGen fun a b => a.1.move? a.2 = some b

theorem limit_of_move? {t t' : ActiveProgram ρ} {w w' : World}
    (h : t.move? w = some (t', w')) : t'.limit = t.limit := by
  unfold move? at h
  split at h
  · cases h
  · obtain ⟨rfl, -⟩ := Prod.mk.inj (Option.some.inj h)
    rfl
  · split at h
    · obtain ⟨rfl, -⟩ := Prod.mk.inj (Option.some.inj h)
      rfl
    · cases h

/-- A call begins, or its wait is over and it takes place. -/
theorem cases_of_move?_call {t' : ActiveProgram ρ} {w w' : World} {c : Call}
    {next : c.Reply → Program ρ} {wait : Option Wait} {limit : Option (Nat × ρ)}
    (h : (⟨.call c next, wait, limit⟩ : ActiveProgram ρ).move? w = some (t', w')) :
    t' = ⟨.call c next, some (w.begin c).1, limit⟩ ∧ w' = (w.begin c).2
    ∨ (∀ x ∈ wait, w.canResume x = true) ∧ t' = ⟨next (w.perform c).1, none, limit⟩
      ∧ w' = (w.perform c).2 := by
  cases wait with
  | none =>
    obtain ⟨rfl, rfl⟩ := Prod.mk.inj (Option.some.inj h)
    exact .inl ⟨rfl, rfl⟩
  | some wait =>
    unfold move? at h
    dsimp only at h
    split at h
    · rename_i hwait
      obtain ⟨rfl, rfl⟩ := Prod.mk.inj (Option.some.inj h)
      exact .inr ⟨fun x hx => Option.some.inj hx ▸ hwait, rfl, rfl⟩
    · cases h

theorem moves_advance (p : Program ρ) (limit : Option (Nat × ρ)) (w : World) :
    Moves (⟨p, none, limit⟩, w)
      (⟨(w.advance p).1.1, (w.advance p).1.2, limit⟩, (w.advance p).2) := by
  induction p generalizing w with
  | done r => exact .refl
  | call c next ih =>
    have hbegin : (⟨.call c next, none, limit⟩ : ActiveProgram ρ).move? w
        = some (⟨.call c next, some (w.begin c).1, limit⟩, (w.begin c).2) := rfl
    refine .head hbegin ?_
    simp only [World.advance]
    split
    · rename_i hover
      refine .head ?_ (ih _ _)
      simp [move?, World.canResume, hover]
    · exact .refl

theorem moves_resume (c : Call) (next : c.Reply → Program ρ) (wait : Wait)
    (limit : Option (Nat × ρ)) (w : World) :
    Moves (⟨.call c next, some wait, limit⟩, w) (⟨(w.resume wait (.call c next)).1.1,
      (w.resume wait (.call c next)).1.2, limit⟩, (w.resume wait (.call c next)).2) := by
  simp only [World.resume]
  split
  · rename_i hresume
    refine .head ?_ (moves_advance _ _ _)
    simp [move?, hresume]
  · exact .refl

theorem expire_of_limit {t : ActiveProgram ρ} (h : t.limit = none) (w : World) :
    expire w t = t := by
  unfold expire
  rw [h]
  cases t.program <;> rfl

theorem poll_of_result? {t : ActiveProgram ρ} {r : ρ} (h : t.result? = some r) (w : World) :
    t.poll w = ({ t with wait := none }, w) := by
  obtain ⟨program, wait, limit⟩ := t
  cases program with
  | done r => cases wait <;> rfl
  | call c next => cases h

/-- A program without a limit goes on by single steps. -/
theorem moves_poll {t : ActiveProgram ρ} (hlimit : t.limit = none) (hresult : t.result? = none)
    (w : World) : Moves (t, w) (t.poll w) := by
  obtain ⟨program, wait, limit⟩ := t
  obtain rfl : limit = none := hlimit
  cases program with
  | done r => cases hresult
  | call c next =>
    cases wait with
    | none =>
      show Moves _ (expire _ _, _)
      rw [expire_of_limit rfl]
      exact moves_advance _ _ _
    | some wait =>
      show Moves _ (expire _ _, _)
      rw [expire_of_limit rfl]
      exact moves_resume _ _ _ _ _

end RuleCatalog.ActiveProgram
