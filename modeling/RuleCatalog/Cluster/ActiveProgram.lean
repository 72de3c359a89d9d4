import RuleCatalog.Cluster.World

/-! # Programs under way

A program goes on, call by call, until it is done or has to wait: for a moment, for its turn to
sync, or for all others to go on. A program with a limit is given up when it is not done at the
limit, right where it waits. Main statements: `advance_bind`, that a sequence of programs is run
in sequence, and `not_isOver_of_advance`, that nothing waits for what is there. -/
namespace RuleCatalog

/-- What a program waits for. -/
inductive Wait where
  | until (moment : Nat)
  /-- All others that can go on. -/
  | others
  /-- A place in the order of those who ask for the right to sync. -/
  | ticket (n : Nat)
  deriving DecidableEq, Repr

namespace World
variable {ρ ρ' : Type}

/-- What a call has to wait for when it begins. -/
def begin (w : World) : Call → Wait × World
  | .acquire => (.ticket w.issued, { w with issued := w.issued + 1 })
  | .rest => (.others, w)
  | c => (.until (w.now + w.delayOf c), w)

/-- Whether a wait that has just begun is over. -/
def isOver (w : World) : Wait → Bool
  | .until moment => moment ≤ w.now
  | .others => false
  | .ticket n => n ≤ w.served

/-- Whether a wait of before is over: the others have gone on in the meantime. -/
def canResume (w : World) (wait : Wait) : Bool := wait == .others || w.isOver wait

/-- Goes on with a program as far as possible; answers what is left of it and what that waits
for. -/
def advance (w : World) : Program ρ → (Program ρ × Option Wait) × World
  | .done r => ((.done r, none), w)
  | .call c next =>
    let (wait, w) := w.begin c
    if w.isOver wait then
      let (reply, w) := w.perform c
      w.advance (next reply)
    else ((.call c next, some wait), w)

/-- Goes on with a program whose first call has been waiting. -/
def resume (w : World) (wait : Wait) : Program ρ → (Program ρ × Option Wait) × World
  | .done r => ((.done r, none), w)
  | .call c next =>
    if w.canResume wait then
      let (reply, w) := w.perform c
      w.advance (next reply)
    else ((.call c next, some wait), w)

theorem advance_bind (w : World) (p : Program ρ) (f : ρ → Program ρ') :
    w.advance (p.bind f) =
      match w.advance p with
      | ((.done r, _), w) => w.advance (f r)
      | ((.call c next, wait), w) => ((.call c fun a => (next a).bind f, wait), w) := by
  induction p generalizing w with
  | done r => rfl
  | call c next ih =>
    simp only [Script.bind, advance]
    split
    · exact ih _ _
    · rfl

theorem not_isOver_of_advance {w w' : World} {p q : Program ρ} {wait : Wait}
    (h : w.advance p = ((q, some wait), w')) : w'.isOver wait = false := by
  induction p generalizing w with
  | done r => simp [advance] at h
  | call c next ih =>
    simp only [advance] at h
    split at h
    · exact ih _ h
    · rename_i hover
      simp only [Prod.mk.injEq, Option.some.injEq] at h
      obtain ⟨⟨-, rfl⟩, rfl⟩ := h
      exact Bool.eq_false_iff.2 hover

end World

/-- A program under way. -/
structure ActiveProgram (ρ : Type) where
  program : Program ρ
  /-- What the first call waits for; nothing before the program has begun. -/
  wait : Option Wait
  /-- When the program is given up, and what is answered then. -/
  limit : Option (Nat × ρ)

namespace ActiveProgram
variable {ρ : Type}

def ofProgram (p : Program ρ) : ActiveProgram ρ := ⟨p, none, none⟩

/-- What is done already. -/
def ofResult (r : ρ) : ActiveProgram ρ := .ofProgram (.done r)

def result? (t : ActiveProgram ρ) : Option ρ :=
  match t.program with
  | .done r => some r
  | .call _ _ => none

def isPastLimit (w : World) (t : ActiveProgram ρ) : Bool := t.limit.any (·.1 ≤ w.now)

/-- Gives the program up if it is past its limit and not done. -/
def expire (w : World) (t : ActiveProgram ρ) : ActiveProgram ρ :=
  match t.program, t.limit with
  | .call _ _, some (moment, r) => if moment ≤ w.now then .ofResult r else t
  | _, _ => t

/-- Lets the program go on as far as it can. -/
def poll (t : ActiveProgram ρ) (w : World) : ActiveProgram ρ × World :=
  let ((program, wait), w) := match t.wait with
    | none => w.advance t.program
    | some wait => w.resume wait t.program
  (expire w { t with program := program, wait := wait }, w)

/-- Whether the program can go on, or be given up. -/
def canGoOn (w : World) (t : ActiveProgram ρ) : Bool :=
  t.result?.isNone && (t.wait.all w.canResume || t.isPastLimit w)

/-- When the program can go on by the clock alone. -/
def wake? (t : ActiveProgram ρ) : Option Nat :=
  let moment? := match t.wait with
    | some (.until moment) => some moment
    | _ => none
  if t.result?.isSome then none
  else match moment?, t.limit with
    | some m, some (n, _) => some (min m n)
    | some m, none => some m
    | none, limit => limit.map (·.1)

end ActiveProgram

end RuleCatalog
