import RuleCatalog.Pattern.Syntax

/-! # Patterns in simple form

How patterns are put together. Texts that stand side by side become one text, alternatives of
single characters one set, a front that all alternatives share stands once before them, and a
loop goes round once at most where nothing is taken. -/
namespace RuleCatalog.Pattern
open Text

/-- The characters among code points, without the code points that are no characters. -/
def scalars (r : Ranges) : Ranges :=
  r.filterMap fun p =>
    let low := if 0xD800 ≤ p.1 ∧ p.1 ≤ 0xDFFF then 0xE000 else p.1
    let high := if 0xD800 ≤ p.2 ∧ p.2 ≤ 0xDFFF then 0xD7FF else p.2
    if low ≤ high then some (low, high) else none

/-- One character of a set; a set of one is that character. -/
def ofSet (r : Ranges) : Pattern :=
  match (scalars r).normal with
  | [(low, high)] => if low = high then text [Char.ofNat low] else set [(low, high)]
  | r => set r

/-- The patterns that a pattern puts one after another. -/
def parts : Pattern → List Pattern
  | empty => []
  | cat p q => p :: q.parts
  | p => [p]

/-- The alternatives of a pattern. -/
def branches : Pattern → List Pattern
  | alt p q => p :: q.branches
  | p => [p]

/-- Joins texts that stand side by side. -/
def joinTexts : List Pattern → List Pattern
  | text cs :: rest =>
    match joinTexts rest with
    | text ds :: rest => text (cs ++ ds) :: rest
    | rest => text cs :: rest
  | p :: rest => p :: joinTexts rest
  | [] => []

/-- The patterns of a list one after another. -/
def chain : List Pattern → Pattern
  | [] => empty
  | [p] => p
  | p :: ps => cat p (chain ps)

/-- One of the patterns of a list. -/
def fork : List Pattern → Pattern
  | [] => set []
  | [p] => p
  | p :: ps => alt p (fork ps)

/-- The patterns of a list one after another, in simple form. -/
def sequence (ps : List Pattern) : Pattern := chain (joinTexts (ps.flatMap parts))

def asChar? : Pattern → Option (Nat × Nat)
  | text [c] => some (c.toNat, c.toNat)
  | _ => none

def asSet? : Pattern → Option Ranges
  | set r => some r
  | _ => none

/-- Alternatives that are one pattern: a single one, or single characters, or sets. -/
def single? : List Pattern → Option Pattern
  | [p] => some p
  | ps => ((ps.mapM asChar?).map ofSet).or ((ps.mapM asSet?).map fun rs => ofSet rs.flatten)

/-- What two lists begin with. -/
def sharedList : List Pattern → List Pattern → List Pattern
  | p :: ps, q :: qs => if p = q then p :: sharedList ps qs else []
  | _, _ => []

/-- What all alternatives begin with, of those that consist of several parts. -/
def sharedFront : List Pattern → List Pattern
  | [] => []
  | [cat p q] => (cat p q).parts
  | cat p q :: rest => sharedList (cat p q).parts (sharedFront rest)
  | _ => []

/-- One of the patterns of a list, in simple form. -/
def choice (ps : List Pattern) : Pattern :=
  let ps := ps.flatMap branches
  (single? ps).getD <|
    match sharedFront ps with
    | [] => fork ps
    | front =>
      let rests := (ps.map fun p => sequence (p.parts.drop front.length)).flatMap branches
      sequence (front ++ [(single? rests).getD (fork rests)])

/-- A pattern a number of times, in simple form. -/
def repeated (p : Pattern) (min : Nat) (max : Option Nat) (greedy : Bool) : Pattern :=
  let min := if p.takesNone then Nat.min min 1 else min
  let max := if p.takesNone then some ((max.map (Nat.min 1)).getD 1) else max
  if max = some 0 then empty
  else if min = 1 ∧ max = some 1 then p
  else loop p min max greedy

end RuleCatalog.Pattern
