import RuleCatalog.Text.Ascii

/-! # Decimal numbers

A decimal is a whole number of units `10 ^ exponent`. It is read from digits with an optional
point and exponent, and written positionally, without an exponent and without a point where no
fraction is left. -/
namespace RuleCatalog

/-- The number `digits * 10 ^ exponent`. -/
structure Decimal where
  digits : Nat
  exponent : Int
  deriving DecidableEq, Repr

namespace Decimal
open Text

/-- Reads an exponent part: nothing, or `e`, an optional sign and digits up to the end. -/
def readExponent? : List Char → Option Int
  | [] => some 0
  | e :: cs =>
    if e != 'e' && e != 'E' then none else
    match cs with
    | '-' :: ds => (decimalDigits? ds).map fun n => -n
    | '+' :: ds => decimalDigits? ds
    | ds => decimalDigits? ds
where
  decimalDigits? (ds : List Char) : Option Int :=
    if ds.isEmpty || !ds.all Char.isDigit then none else some (ofDigits 10 ds)

/-- Reads an unsigned decimal; a digit is needed before or after the point. -/
def read? (cs : List Char) : Option Decimal :=
  let whole := cs.takeWhile Char.isDigit
  let (fraction, rest) := match cs.dropWhile Char.isDigit with
    | '.' :: r => (r.takeWhile Char.isDigit, r.dropWhile Char.isDigit)
    | r => ([], r)
  if whole.isEmpty && fraction.isEmpty then none else
    (readExponent? rest).map fun e =>
      ⟨ofDigits 10 (whole ++ fraction), e - fraction.length⟩

/-- The digits of a fraction without the zeros at its end. -/
def dropZeros (ds : List Char) : List Char := (ds.reverse.dropWhile (· == '0')).reverse

/-- The positional text. -/
def text (d : Decimal) : List Char :=
  let ds := Nat.toDigits 10 d.digits
  match d.exponent with
  | .ofNat e => if d.digits = 0 then ['0'] else ds ++ List.replicate e '0'
  | .negSucc e =>
    let padded := List.replicate (e + 2 - ds.length) '0' ++ ds
    let whole := padded.take (padded.length - (e + 1))
    match dropZeros (padded.drop (padded.length - (e + 1))) with
    | [] => whole
    | fraction => whole ++ '.' :: fraction

end Decimal

end RuleCatalog
