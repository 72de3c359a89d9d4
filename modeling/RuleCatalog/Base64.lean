import RuleCatalog.Text.Utf8

/-! # URL-safe base64

Bytes as texts over `A-Z a-z 0-9 - _`, six bits a character and without padding. Reading
refuses every other character, a lone last character and unused bits that are set; a padded
last group is accepted. -/
namespace RuleCatalog.Base64

inductive Fault where
  /-- The length leaves a single character over, which holds no whole byte. -/
  | remainder
  | byte (b : UInt8) (offset : Nat)
  /-- The last character has bits set that belong to no byte. -/
  | lastSymbol (b : UInt8) (offset : Nat)
  deriving DecidableEq, Repr

def Fault.message : Fault → String
  | .remainder => "Encoded text cannot have a 6-bit remainder."
  | .byte b o => s!"Invalid byte {b}, offset {o}."
  | .lastSymbol b o => s!"Invalid last symbol {b}, offset {o}."

/-- The character of a six-bit number. -/
def symbol (n : Nat) : Char :=
  if n < 26 then Char.ofNat ('A'.toNat + n)
  else if n < 52 then Char.ofNat ('a'.toNat + (n - 26))
  else if n < 62 then Char.ofNat ('0'.toNat + (n - 52))
  else if n = 62 then '-'
  else '_'

/-- The six-bit number of a byte of written text. -/
def value? (b : UInt8) : Option Nat :=
  let n := b.toNat
  if 65 ≤ n ∧ n ≤ 90 then some (n - 65)
  else if 97 ≤ n ∧ n ≤ 122 then some (n - 97 + 26)
  else if 48 ≤ n ∧ n ≤ 57 then some (n - 48 + 52)
  else if n = 45 then some 62
  else if n = 95 then some 63
  else none

/-- The six-bit numbers of a list of bytes; the last one is filled up with zero bits. -/
def split : List UInt8 → List Nat
  | [] => []
  | [a] => [a.toNat / 4, a.toNat % 4 * 16]
  | [a, b] => [a.toNat / 4, a.toNat % 4 * 16 + b.toNat / 16, b.toNat % 16 * 4]
  | a :: b :: c :: rest =>
    a.toNat / 4 :: (a.toNat % 4 * 16 + b.toNat / 16) :: (b.toNat % 16 * 4 + c.toNat / 64)
      :: c.toNat % 64 :: split rest

/-- The bytes of a list of six-bit numbers, and the bits that are left over. -/
def join : List Nat → List UInt8 × Nat
  | [] => ([], 0)
  | [p] => ([], p)
  | [p, q] => ([.ofNat (p * 4 + q / 16)], q % 16)
  | [p, q, r] => ([.ofNat (p * 4 + q / 16), .ofNat (q % 16 * 16 + r / 4)], r % 4)
  | p :: q :: r :: s :: rest =>
    let (bs, left) := join rest
    (.ofNat (p * 4 + q / 16) :: .ofNat (q % 16 * 16 + r / 4) :: .ofNat (r % 4 * 64 + s) :: bs, left)

def encode (bs : List UInt8) : String := .ofList ((split bs).map symbol)

/-- The padding character, `=`. -/
def padding : UInt8 := 61

/-- The six-bit numbers of a text from the offset `i` on. `pad` is the offset of the first
padding character so far; it has to stand in the second half of a group of four, with only
padding after it. -/
def readSymbols (pad : Option Nat) (i : Nat) : List UInt8 → Except Fault (List Nat)
  | [] => .ok []
  | b :: bs =>
    if b = padding then
      if i % 4 < 2 then .error (.byte b (pad.getD i))
      else readSymbols (some (pad.getD i)) (i + 1) bs
    else
      match pad, value? b with
      | some p, _ => .error (.byte padding p)
      | none, none => .error (.byte b i)
      | none, some n => (readSymbols none (i + 1) bs).map (n :: ·)

/-- The last byte of a text without its padding. -/
def lastSymbol (text : List UInt8) : UInt8 :=
  ((text.filter (· != padding)).getLast?).getD 0

def decode (text : List UInt8) : Except Fault (List UInt8) := do
  if text.length % 4 = 1 then
    let last := text.getLast?.getD 0
    if last != padding && (value? last).isNone then throw (.byte last (text.length - 1))
    throw .remainder
  let symbols ← readSymbols none 0 text
  let (bs, left) := join symbols
  if left = 0 then return bs
  throw (.lastSymbol (lastSymbol text) (symbols.length - 1))

end RuleCatalog.Base64
