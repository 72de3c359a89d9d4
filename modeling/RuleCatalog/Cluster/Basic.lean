import RuleCatalog.Cluster.Worker

/-! # Clusters

A world with its workers. Activities run together: each goes on, in the order of the list, until
it has to wait; then the workers go on, until all of them wait; and when nobody can go on, the
clock moves to the next moment for which somebody waits. Main statement: `pollAll_append`. -/
namespace RuleCatalog

/-- A sync that is asked for again and again. -/
structure Tick where
  next : Nat
  period : Nat
  deriving DecidableEq, Repr

namespace Tick

def isDue (now : Nat) (t : Tick) : Bool := t.next ≤ now

/-- The tick after all moments up to now. -/
def after (now : Nat) (t : Tick) : Tick :=
  if t.isDue now then { t with next := t.next + ((now - t.next) / t.period + 1) * t.period } else t

end Tick

structure Cluster where
  world : World
  /-- All workers, the latest last. -/
  workers : List Worker
  ticks : List Tick

namespace Cluster

def empty (c : Config) : Cluster := ⟨.empty c, [], []⟩

instance : Inhabited Cluster := ⟨.empty .default⟩

/-! ## Workers -/

/-- Carries out all that is due by the clock. -/
def fireDue (c : Cluster) : Cluster :=
  let queue := c.world.queue.fireDue c.world.now
  let queue := if c.ticks.any (·.isDue c.world.now) then queue.add .sync else queue
  { c with
    world := { c.world with queue := queue }
    ticks := c.ticks.map (·.after c.world.now) }

/-- Lets each worker go on, one after another. -/
def stepWorkers (w : World) : List Worker → List Worker × World
  | [] => ([], w)
  | worker :: workers =>
    let (worker, w) := worker.step w
    let (workers, w) := stepWorkers w workers
    (worker :: workers, w)

/-- Lets the workers go on until all of them wait, for at most so many rounds. -/
def settleFor : Nat → Cluster → Cluster
  | 0, c => c
  | n + 1, c =>
    if c.workers.any (·.canGoOn c.world) then
      let (workers, world) := stepWorkers c.world c.workers
      settleFor n { c with workers := workers, world := world }
    else c

/-- Closes the queue for good: each worker finishes what it has. -/
def close (c : Cluster) : Cluster :=
  { c with world := { c.world with queue := c.world.queue.close }, ticks := [] }

/-- More rounds than any run has. -/
def patience : Nat := 2 ^ 60

/-- Lets all that is due take place at the moment that the clock shows. -/
def settle (c : Cluster) : Cluster := settleFor patience c.fireDue

end Cluster

/-! ## Activities -/

/-- What is done to a cluster: something at once, and then a program, with an answer that is read
off the cluster when the program is done. -/
def Activity (ρ : Type) : Type := Cluster → ActiveProgram (Cluster → ρ) × Cluster

/-- How far an activity is. -/
inductive Stage (ρ : Type) where
  | waiting (a : Activity ρ)
  | begun (t : ActiveProgram (Cluster → ρ))
  | done (answer : ρ)

namespace Stage
variable {ρ : Type}

def answer? : Stage ρ → Option ρ
  | done r => some r
  | _ => none

/-- Lets the program of an activity go on. -/
def pollProgram (t : ActiveProgram (Cluster → ρ)) (c : Cluster) : Stage ρ × Cluster :=
  let (t, w) := t.poll c.world
  let c := { c with world := w }
  match t.result? with
  | some answer => (done (answer c), c)
  | none => (begun t, c)

/-- Lets an activity begin or go on. -/
def poll (c : Cluster) : Stage ρ → Stage ρ × Cluster
  | waiting a => pollProgram (a c).1 (a c).2
  | begun t => pollProgram t c
  | done r => (done r, c)

def canGoOn (c : Cluster) : Stage ρ → Bool
  | waiting _ => true
  | begun t => t.canGoOn c.world
  | done _ => false

def wake? : Stage ρ → Option Nat
  | begun t => t.wake?
  | _ => none

end Stage

namespace Cluster
variable {ρ : Type}

/-- Lets all activities go on that are not done, in order. -/
def pollAll (c : Cluster) : List (Stage ρ) → List (Stage ρ) × Cluster
  | [] => ([], c)
  | s :: ss =>
    let (s, c) := s.poll c
    let (ss, c) := c.pollAll ss
    (s :: ss, c)

/-- The next moment for which somebody waits. -/
def nextMoment? (c : Cluster) (ss : List (Stage ρ)) : Option Nat :=
  (ss.filterMap (·.wake?) ++ c.workers.filterMap (·.wake?) ++ c.world.queue.nextDue?.toList
    ++ c.ticks.map (·.next)).min?

/-- Lets the clock move to a moment that is not past. -/
def moveTo (c : Cluster) (moment : Nat) : Cluster :=
  { c with world := { c.world with now := max c.world.now moment } }

/-- Runs activities until all are done, for at most so many rounds. -/
def runFor : Nat → Cluster → List (Stage ρ) → List (Stage ρ) × Cluster
  | 0, c, ss => (ss, c)
  | n + 1, c, ss =>
    let (ss, c) := c.pollAll ss
    if ss.all (·.answer?.isSome) then (ss, c)
    else
      let c := c.settle
      if ss.any (·.canGoOn c) then runFor n c ss
      else match c.nextMoment? ss with
        | none => (ss, c)
        | some moment => runFor n (c.moveTo moment) ss

/-- Runs activities together, and gives their answers in order. -/
def runAll (c : Cluster) (activities : List (Activity ρ)) : List ρ × Cluster :=
  let (ss, c) := runFor patience c (activities.map .waiting)
  (ss.filterMap (·.answer?), c)

theorem pollAll_append (c : Cluster) (ss ts : List (Stage ρ)) :
    c.pollAll (ss ++ ts) =
      (((c.pollAll ss).1 ++ ((c.pollAll ss).2.pollAll ts).1), ((c.pollAll ss).2.pollAll ts).2) := by
  induction ss generalizing c with
  | nil => rfl
  | cons s ss ih => simp [pollAll, ih]

end Cluster

end RuleCatalog
