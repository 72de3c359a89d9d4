import RuleCatalog.Text.Ascii

/-! # UTF-8

The bytes of a text, and the text of bytes. Where bytes are no UTF-8, `Fault` says where the
first faulty sequence begins and how long it is. Main statement: `ofBytes (bytes s) = .ok s`. -/
namespace RuleCatalog.Utf8

/-- The first faulty sequence of bytes: where it begins, and its length unless it is cut off by
the end of the bytes. -/
structure Fault where
  start : Nat
  length : Option Nat
  deriving DecidableEq, Repr

def Fault.message (f : Fault) : String :=
  match f.length with
  | some n => s!"invalid utf-8 sequence of {n} bytes from index {f.start}"
  | none => s!"incomplete utf-8 byte sequence from index {f.start}"

def isTail (b : UInt8) : Bool := 0x80 ≤ b && b ≤ 0xBF

/-- The bytes that a first byte requires after it; the second one has a range of its own. -/
def tails (b : UInt8) : Option (List (UInt8 → Bool)) :=
  if b < 0x80 then some []
  else if 0xC2 ≤ b && b ≤ 0xDF then some [isTail]
  else if b == 0xE0 then some [fun c => 0xA0 ≤ c && c ≤ 0xBF, isTail]
  else if b == 0xED then some [fun c => 0x80 ≤ c && c ≤ 0x9F, isTail]
  else if 0xE1 ≤ b && b ≤ 0xEF then some [isTail, isTail]
  else if b == 0xF0 then some [fun c => 0x90 ≤ c && c ≤ 0xBF, isTail, isTail]
  else if 0xF1 ≤ b && b ≤ 0xF3 then some [isTail, isTail, isTail]
  else if b == 0xF4 then some [fun c => 0x80 ≤ c && c ≤ 0x8F, isTail, isTail]
  else none

/-- Looks for the first fault. `start` is where the current sequence begins, `seen` the bytes
read of it, and `due` the tests that its next bytes have to pass. -/
def scan (start seen : Nat) : List (UInt8 → Bool) → List UInt8 → Option Fault
  | [], [] => none
  | _ :: _, [] => some ⟨start, none⟩
  | p :: ps, b :: bs => if p b then scan start (seen + 1) ps bs else some ⟨start, some seen⟩
  | [], b :: bs =>
    match tails b with
    | some ps => scan (start + seen) 1 ps bs
    | none => some ⟨start + seen, some 1⟩

def firstFault? (bs : List UInt8) : Option Fault := scan 0 0 [] bs

def bytes (s : String) : List UInt8 := s.toByteArray.data.toList

/-- The text of a list of bytes. -/
def ofBytes (bs : List UInt8) : Except Fault String :=
  match String.fromUTF8? ⟨bs.toArray⟩ with
  | some s => .ok s
  | none => .error ((firstFault? bs).getD ⟨0, none⟩)

theorem ofBytes_bytes (s : String) : ofBytes (bytes s) = .ok s := by
  have h : (⟨(bytes s).toArray⟩ : ByteArray) = s.toByteArray := by simp [bytes]
  simp only [ofBytes, h, String.fromUTF8?, s.isValidUTF8, dite_true]
  rfl

end RuleCatalog.Utf8
