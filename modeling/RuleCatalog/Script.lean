/-! # Scripts

A script is a program that makes calls, one after another, and goes on with their replies. It
says nothing about when a call takes place or who answers it, so that scripts of several
requests can be interleaved call by call.
Main statements: the monad laws, and `run_bind`. -/
namespace RuleCatalog

inductive Script {Call : Type} (Reply : Call → Type) (ρ : Type) : Type where
  | done (result : ρ)
  | call (c : Call) (next : Reply c → Script Reply ρ)

namespace Script
variable {Call Call' : Type} {Reply : Call → Type} {Reply' : Call' → Type} {ρ ρ' ρ'' : Type}

/-- Goes on with the result of a script. -/
def bind : Script Reply ρ → (ρ → Script Reply ρ') → Script Reply ρ'
  | done r, f => f r
  | call c next, f => call c fun a => (next a).bind f

instance : Monad (Script Reply) where
  pure := done
  bind := bind

/-- The script of a single call. -/
def ask (c : Call) : Script Reply (Reply c) := call c done

theorem bind_done (s : Script Reply ρ) : s.bind done = s := by
  induction s with
  | done r => rfl
  | call c next ih => simp [bind, ih]

theorem bind_assoc (s : Script Reply ρ) (f : ρ → Script Reply ρ') (g : ρ' → Script Reply ρ'') :
    (s.bind f).bind g = s.bind fun r => (f r).bind g := by
  induction s with
  | done r => rfl
  | call c next ih => simp [bind, ih]

instance : LawfulMonad (Script Reply) :=
  LawfulMonad.mk' (Script Reply)
    (fun s => bind_done s)
    (fun _ _ => rfl)
    (fun s f g => bind_assoc s f g)

/-- The same script for surroundings whose calls include those of the script. -/
def lift (call' : Call → Call') (reply : ∀ c, Reply' (call' c) → Reply c) :
    Script Reply ρ → Script Reply' ρ
  | done r => done r
  | call c next => call (call' c) fun a => (next (reply c a)).lift call' reply

/-- Runs a script alone, with replies that depend on a state. -/
def run {σ : Type} (answer : σ → (c : Call) → Reply c × σ) : Script Reply ρ → σ → ρ × σ
  | done r, s => (r, s)
  | call c next, s => (next (answer s c).1).run answer (answer s c).2

theorem run_bind {σ : Type} (answer : σ → (c : Call) → Reply c × σ) (s : Script Reply ρ)
    (f : ρ → Script Reply ρ') (state : σ) :
    (s.bind f).run answer state =
      (f (s.run answer state).1).run answer (s.run answer state).2 := by
  induction s generalizing state with
  | done r => rfl
  | call c next ih => simp [bind, run, ih]

end Script

end RuleCatalog
