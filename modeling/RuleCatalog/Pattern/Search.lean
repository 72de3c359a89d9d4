import RuleCatalog.Pattern.Read
import RuleCatalog.Pattern.Program

/-! # Searching with patterns

Looks for the first match of a pattern in a text: of the earliest start, by the first way that
leads to an end. No step is tried twice at one place, since its first try failed. -/
namespace RuleCatalog

namespace Pattern

/-- Where the marks of a match lie, by slot. -/
abbrev Slots := List (Option Nat)

/-- A try that waits: a step, a place in the text, and the marks set so far. -/
structure Try where
  step : Nat
  place : Nat
  slots : Slots

/-- What a step leads to at a place. -/
inductive Outcome where
  | found (slots : Slots)
  | ways (tries : List Try)

namespace Compiled

/-- What a try leads to in a text. -/
def follow (c : Compiled) (text : Array Char) (t : Try) : Outcome :=
  match c.steps[t.step]? with
  | none => .ways []
  | some .accept => .found t.slots
  | some (.take r next) =>
    match text[t.place]? with
    | some ch =>
      .ways (if r.contains ch.toNat then [{ t with step := next, place := t.place + 1 }] else [])
    | none => .ways []
  | some (.look l next) =>
    let before := if t.place = 0 then none else text[t.place - 1]?
    .ways (if l.holds before text[t.place]? then [{ t with step := next }] else [])
  | some (.fork ws) => .ways (ws.map fun w => { t with step := w })
  | some (.mark slot next) =>
    .ways [{ t with step := next, slots := t.slots.set slot (some t.place) }]

/-- Follows tries in order. `seen` has a mark for every step and place that was tried; the first
argument bounds the number of tries. -/
def run (c : Compiled) (text : Array Char) : Nat → Array Bool → List Try → Option Slots
  | 0, _, _ => none
  | _ + 1, _, [] => none
  | n + 1, seen, t :: ts =>
    let i := t.place * c.steps.size + t.step
    if seen.getD i true then run c text n seen ts
    else match c.follow text t with
      | .found slots => some slots
      | .ways more => run c text n (seen.setIfInBounds i true) (more ++ ts)

/-- The marks of the first match. -/
def search (c : Compiled) (groups : Nat) (text : Array Char) : Option Slots :=
  let places := text.size + 1
  let ways := c.steps.foldl (fun n s => n + s.width) 0
  let slots := List.replicate (2 * (groups + 1)) none
  c.run text (places * (ways + 1) + 1) (Array.replicate (places * c.steps.size) false)
    ((List.range places).map fun i => ⟨c.start, i, slots⟩)

end Compiled

end Pattern

/-- The first match of a regular expression: the texts of its groups, by number and name. -/
structure Captures where
  groups : List (Option String)
  names : List (String × Nat)
  deriving DecidableEq, Repr

namespace Captures

/-- The text of a group, empty for one that took no part or that is not there. -/
def group (c : Captures) (i : Nat) : String := ((c.groups[i]?).join).getD ""

/-- The number of a named group. -/
def number? (c : Captures) (name : String) : Option Nat := c.names.lookup name

end Captures

/-- A regular expression made ready to search: its pattern as a program. -/
structure Matcher where
  program : Pattern.Compiled
  groups : Nat
  names : List (String × Nat)
  deriving DecidableEq, Repr

def Regex.matcher (r : Regex) : Matcher := ⟨Pattern.compile r.pattern, r.groups, r.names⟩

namespace Matcher

/-- The texts between the marks of groups. -/
def groupTexts (text : Array Char) : Pattern.Slots → List (Option String)
  | some a :: some b :: rest =>
    some (.ofList ((text.toList.drop a).take (b - a))) :: groupTexts text rest
  | _ :: _ :: rest => none :: groupTexts text rest
  | _ => []

/-- The first match in a text. -/
def find? (m : Matcher) (text : String) : Option Captures :=
  let cs := text.toList.toArray
  (m.program.search m.groups cs).map fun slots => ⟨groupTexts cs slots, m.names⟩

end Matcher

end RuleCatalog
