import RuleCatalog.Text.Ranges

/-! # Sets of characters as sets of bytes

The UTF-8 forms of the characters of a range, as rows of ranges of bytes: a form belongs to the
range if each of its bytes lies in the range of its place in one of the rows. -/
namespace RuleCatalog.Text

/-- Ranges for the bytes of a form, from the first byte on. -/
abbrev ByteRow := List (Nat × Nat)

namespace ByteRow

/-- Any byte after the first. -/
def tail : Nat × Nat := (0x80, 0xBF)

/-- The rows for the numbers from `low` to `high` that are written with a first byte, counted
from `lead` on, and `n` bytes of six bits after it. -/
def ofBits (lead : Nat) : Nat → Nat → Nat → List ByteRow
  | 0, low, high => [[(lead + low, lead + high)]]
  | n + 1, low, high =>
    let block := 64 ^ (n + 1)
    let first := low / block
    let last := high / block
    if first = last then
      (ofBits 0x80 n (low % block) (high % block)).map ((lead + first, lead + first) :: ·)
    else
      let before :=
        if low % block = 0 then []
        else (ofBits 0x80 n (low % block) (block - 1)).map ((lead + first, lead + first) :: ·)
      let after :=
        if high % block = block - 1 then []
        else (ofBits 0x80 n 0 (high % block)).map ((lead + last, lead + last) :: ·)
      let start := if low % block = 0 then first else first + 1
      let stop := if high % block = block - 1 then last + 1 else last
      let whole :=
        if stop ≤ start then []
        else [(lead + start, lead + stop - 1) :: List.replicate (n + 1) tail]
      before ++ whole ++ after

/-- The ranges of code points whose forms are of one kind: the ends of each range, where its
first bytes are counted from, and how many bytes follow them. -/
def kinds : List (Nat × Nat × Nat × Nat) :=
  [(0, 0x7F, 0, 0), (0x80, 0x7FF, 0xC0, 1), (0x800, 0xD7FF, 0xE0, 2), (0xE000, 0xFFFF, 0xE0, 2),
   (0x10000, 0x10FFFF, 0xF0, 3)]

/-- The rows for the characters of a range. -/
def ofRange (r : Nat × Nat) : List ByteRow :=
  kinds.flatMap fun (low, high, lead, n) =>
    let low := max low r.1
    let high := min high r.2
    if low ≤ high then ofBits lead n low high else []

/-- The rows for the characters of a set. -/
def ofRanges (r : Ranges) : List ByteRow := r.flatMap ofRange

end ByteRow

end RuleCatalog.Text
