import RuleCatalog.Text.Ascii

/-! # Sets of code points

A set of characters as a list of ranges of code points, with a compact written form:
hexadecimal numbers and ranges, separated by single spaces. -/
namespace RuleCatalog.Text

/-- Closed ranges of code points. -/
abbrev Ranges := List (Nat × Nat)

namespace Ranges

def contains (r : Ranges) (n : Nat) : Bool := r.any fun p => p.1 ≤ n && n ≤ p.2

/-- Reads one number or range; text without a dash is a range of one. -/
def readRange (cs : List Char) : Nat × Nat :=
  match cs.span (· != '-') with
  | (lo, _ :: hi) => (ofDigits 16 lo, ofDigits 16 hi)
  | (lo, []) => (ofDigits 16 lo, ofDigits 16 lo)

/-- The set that a written form names. -/
def ofText (s : String) : Ranges := (s.toList.splitOn ' ').map readRange

def ofLines (ls : List String) : Ranges := ls.flatMap ofText

/-- The ranges in order, with overlapping and touching ones joined. -/
def normal (r : Ranges) : Ranges :=
  (r.mergeSort fun a b => decide (a.1 < b.1) || (a.1 == b.1 && decide (a.2 ≤ b.2))).foldr join []
where
  join (p : Nat × Nat) : Ranges → Ranges
    | q :: rest => if q.1 ≤ p.2 + 1 then absorb p (q :: rest) else p :: q :: rest
    | [] => [p]
  absorb (p : Nat × Nat) : Ranges → Ranges
    | q :: rest => if q.1 ≤ p.2 + 1 then absorb (p.1, max p.2 q.2) rest else p :: q :: rest
    | [] => [p]

/-- What ranges in order leave out between two bounds. -/
def gaps (low high : Nat) : Ranges → Ranges
  | [] => if low ≤ high then [(low, high)] else []
  | p :: rest => (if low < p.1 then [(low, p.1 - 1)] else []) ++ gaps (max low (p.2 + 1)) high rest

/-- The code points up to a bound that are not in a set. -/
def complement (high : Nat) (r : Ranges) : Ranges := gaps 0 high r.normal

/-- The code points that two sets share. -/
def intersect (high : Nat) (r s : Ranges) : Ranges :=
  complement high (complement high r ++ complement high s)

/-- A set but for what another one holds. -/
def without (r s : Ranges) : Ranges := complement 0x10FFFF (complement 0x10FFFF r ++ s)

theorem contains_append (r s : Ranges) (n : Nat) :
    contains (r ++ s) n = (contains r n || contains s n) := by
  simp [contains]

end Ranges

end RuleCatalog.Text
