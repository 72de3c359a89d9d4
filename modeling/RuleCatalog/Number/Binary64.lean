import RuleCatalog.Number.Decimal

/-! # Double precision numbers

The finite non-negative doubles as whole numbers of units in the last place, the double nearest
to a decimal, and the decimal of fewest digits that reads back as a double.
Main statement: whatever `shortest` finds on a grid reads back as its double. -/
namespace RuleCatalog

/-- The double `significand * 2 ^ exponent`. -/
structure Binary64 where
  significand : Nat
  exponent : Int
  deriving DecidableEq, Repr

namespace Binary64

/-- The exponent of the last place of the smallest doubles. -/
def minExponent : Int := -1074

/-- A quotient rounded to the nearest whole number, a half going to the even neighbour. -/
def roundDiv (n d : Nat) : Nat :=
  let q := n / d
  let r := n % d
  if d < 2 * r || (2 * r == d && q % 2 == 1) then q + 1 else q

/-- The quotient `n / d` as a fraction of `base ^ e`. -/
def scale (base n d : Nat) : Int → Nat × Nat
  | .ofNat e => (n, d * Nat.pow base e)
  | .negSucc e => (n * Nat.pow base (e + 1), d)

/-- The largest `k` with `2 ^ k ≤ n / d`, for positive `n` and `d`. -/
def floorLog2 (n d : Nat) : Int :=
  let k : Int := (n.log2 : Int) - d.log2
  let (n', d') := scale 2 n d k
  if d' ≤ n' then k else k - 1

/-- The number of digits before the point of `n / d`, negative where zeros follow the point. -/
def magnitude (n d : Nat) : Int :=
  let k : Int := ((Nat.toDigits 10 n).length : Int) - (Nat.toDigits 10 d).length
  let (n', d') := scale 10 n d k
  if d' ≤ n' then k + 1 else k

/-- The double nearest to `n / d`; nothing where it would be beyond the largest one. -/
def ofFraction? (n d : Nat) : Option Binary64 :=
  if n = 0 then some ⟨0, minExponent⟩ else
    let q := max (floorLog2 n d - 52) minExponent
    let (n', d') := scale 2 n d q
    let m := roundDiv n' d'
    let (m, q) := if m = 2 ^ 53 then (2 ^ 52, q + 1) else (m, q)
    if 971 < q then none else some ⟨m, q⟩

/-- A power of ten times a number, as a fraction. -/
def fraction (digits : Nat) : Int → Nat × Nat
  | .ofNat e => (digits * Nat.pow 10 e, 1)
  | .negSucc e => (digits, Nat.pow 10 (e + 1))

/-- The double nearest to a decimal. A number of more than 310 digits is beyond the largest
double, and one with more than 330 zeros after the point is nearest to zero. -/
def ofDecimal? (d : Decimal) : Option Binary64 :=
  let places : Int := (Nat.toDigits 10 d.digits).length + d.exponent
  if d.digits = 0 || places < -330 then some ⟨0, minExponent⟩
  else if 310 < places then none
  else
    let (n, m) := fraction d.digits d.exponent
    ofFraction? n m

/-- The value of a double as a fraction. -/
def toFraction (x : Binary64) : Nat × Nat :=
  match x.exponent with
  | .ofNat e => (x.significand * Nat.pow 2 e, 1)
  | .negSucc e => (x.significand, Nat.pow 2 (e + 1))

/-- The decimal that is exactly a double. -/
def exact (x : Binary64) : Decimal :=
  match x.exponent with
  | .ofNat e => ⟨x.significand * Nat.pow 2 e, 0⟩
  | .negSucc e => ⟨x.significand * Nat.pow 5 (e + 1), .negSucc e⟩

/-- The neighbour of a double on the grid of units `10 ^ g` that reads back as the double; of
two the nearer, and of two equally near the larger. -/
def onGrid? (x : Binary64) (g : Int) : Option Decimal :=
  let (n, d) := x.toFraction
  let (n', d') := scale 10 n d g
  let below : Decimal := ⟨n' / d', g⟩
  let above : Decimal := ⟨n' / d' + 1, g⟩
  let isAbove := ofDecimal? above = some x
  if ofDecimal? below = some x then
    some (if isAbove && d' ≤ 2 * (n' % d') then above else below)
  else if isAbove then some above
  else none

/-- The first of the grids below a magnitude that holds a decimal for a double. -/
def firstGrid? (x : Binary64) (k : Int) : Nat → Nat → Option Decimal
  | 0, _ => none
  | left + 1, n => (onGrid? x (k - n)).or (firstGrid? x k left (n + 1))

/-- A decimal of fewest digits that reads back as the double. -/
def shortest (x : Binary64) : Decimal :=
  if x.significand = 0 then ⟨0, 0⟩ else
    let (n, d) := x.toFraction
    (firstGrid? x (magnitude n d) 17 1).getD x.exact

theorem ofDecimal?_onGrid {x : Binary64} {g : Int} {d : Decimal} (h : onGrid? x g = some d) :
    ofDecimal? d = some x := by
  simp only [onGrid?] at h
  split at h
  · split at h <;> simp_all
  · split at h <;> simp_all

end Binary64

end RuleCatalog
