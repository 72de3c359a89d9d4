import RuleCatalog.Pattern.Syntax

/-! # Programs of patterns

A pattern written out as numbered steps. A fork lists its ways on in the order in which they
are tried, which makes the first match of a program the first match of its pattern. -/
namespace RuleCatalog.Pattern

inductive Step where
  /-- Takes a character of a set. -/
  | take (chars : Text.Ranges) (next : Nat)
  | look (l : Look) (next : Nat)
  | fork (ways : List Nat)
  /-- Keeps the place as an end of a group. -/
  | mark (slot next : Nat)
  | accept
  deriving DecidableEq, Repr

/-- The number of ways on from a step. -/
def Step.width : Step → Nat
  | .fork ws => ws.length
  | .accept => 0
  | _ => 1

abbrev Program := Array Step

namespace Program

/-- Adds a step and answers its number. -/
def add (p : Program) (s : Step) : Nat × Program := (p.size, p.push s)

/-- A fork between going on and leaving, in the order that greed asks for. -/
def forked (greedy : Bool) (on leave : Nat) : Step :=
  .fork (if greedy then [on, leave] else [leave, on])

/-- Adds steps that pass a number of times through what `body` adds, each to lead to the next,
the last to `next`. -/
def times (body : Nat → Program → Nat × Program) : Nat → Nat → Program → Nat × Program
  | 0, next, p => (next, p)
  | n + 1, next, p =>
    let (last, p) := body next p
    times body n last p

/-- Adds steps that pass at most a number of times through what `body` adds, and lead to
`next` after the last time; each time they may also leave. -/
def upTo (body : Nat → Program → Nat × Program) (greedy : Bool) (leave : Nat) :
    Nat → Nat → Program → Nat × Program
  | 0, next, p => (next, p)
  | n + 1, next, p =>
    let (start, p) := body next p
    let (more, p) := p.add (forked greedy start leave)
    upTo body greedy leave n more p

/-- Adds the steps of a pattern that lead to the step `next`, and answers the first of them.
A loop whose body can match nothing runs its body before it forks; so a turn that takes no
character ends the loop. -/
def build : Pattern → Nat → Program → Nat × Program
  | .empty, next, p => (next, p)
  | .text cs, next, p =>
    cs.foldr (fun c r => r.2.add (.take [(c.toNat, c.toNat)] r.1)) (next, p)
  | .set r, next, p => p.add (.take r next)
  | .look l, next, p => p.add (.look l next)
  | .cat a b, next, p =>
    let (middle, p) := build b next p
    build a middle p
  | .alt a b, next, p =>
    let (second, p) := build b next p
    let (first, p) := build a next p
    p.add (.fork [first, second])
  | .group i a, next, p =>
    let (stop, p) := p.add (.mark (2 * i + 1) next)
    let (body, p) := build a stop p
    p.add (.mark (2 * i) body)
  | .loop a min (some max) greedy, next, p =>
    let (rest, p) := upTo (build a) greedy next (max - min) next p
    times (build a) min rest p
  | .loop a 0 none greedy, next, p =>
    let (again, p) := p.add (.fork [])
    let (start, p) := build a again p
    let p := p.setIfInBounds again (forked greedy start next)
    if a.isNullable then add p (forked greedy start next) else (again, p)
  | .loop a (min + 1) none greedy, next, p =>
    let (again, p) := p.add (.fork [])
    let (start, p) := build a again p
    let p := p.setIfInBounds again (forked greedy start next)
    times (build a) min start p

end Program

/-- A program with the number of its first step. -/
structure Compiled where
  steps : Program
  start : Nat
  deriving DecidableEq, Repr

/-- The program of a pattern; the whole match is kept as group zero. -/
def compile (p : Pattern) : Compiled :=
  let (start, steps) := Program.build (.group 0 p) 0 #[.accept]
  ⟨steps, start⟩

end RuleCatalog.Pattern
