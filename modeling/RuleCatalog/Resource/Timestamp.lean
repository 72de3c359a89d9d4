import RuleCatalog.Text.Ascii
import RuleCatalog.Text.Blank

/-! # Moments in time

A moment in universal time, read from RFC 3339 text with any offset and written with `Z`; the
fraction of a second has no, three, six or nine digits, whichever are needed. -/
namespace RuleCatalog

/-- Seconds since 1970-01-01T00:00:00Z, and nanoseconds after that second. -/
structure Timestamp where
  seconds : Int
  nanos : Nat
  deriving DecidableEq, Repr

namespace Timestamp
open Text

/-- Days from 1970-01-01 to a day of the Gregorian calendar. -/
def daysFrom (year : Int) (month day : Nat) : Int :=
  let y := if month ≤ 2 then year - 1 else year
  let era := y.fdiv 400
  let yearOfEra := y - era * 400
  let monthFromMarch : Int := (month + 9) % 12
  let dayOfYear := (153 * monthFromMarch + 2) / 5 + day - 1
  era * 146097 + (yearOfEra * 365 + yearOfEra / 4 - yearOfEra / 100 + dayOfYear) - 719468

/-- The year, month and day of a number of days since 1970-01-01. -/
def civilFrom (days : Int) : Int × Int × Int :=
  let z := days + 719468
  let era := z.fdiv 146097
  let dayOfEra := z - era * 146097
  let yearOfEra :=
    (dayOfEra - dayOfEra / 1460 + dayOfEra / 36524 - dayOfEra / 146096) / 365
  let dayOfYear := dayOfEra - (365 * yearOfEra + yearOfEra / 4 - yearOfEra / 100)
  let m := (5 * dayOfYear + 2) / 153
  let month := if m < 10 then m + 3 else m - 9
  let year := yearOfEra + era * 400
  (if month ≤ 2 then year + 1 else year, month, dayOfYear - (153 * m + 2) / 5 + 1)

def isLeap (year : Int) : Bool := year % 4 == 0 && (year % 100 != 0 || year % 400 == 0)

def daysIn (year : Int) (month : Nat) : Nat :=
  if month == 2 then if isLeap year then 29 else 28
  else if month == 4 || month == 6 || month == 9 || month == 11 then 30 else 31

/-! ## Reading

Fields may have fewer digits than usual, and blanks may stand between them. -/

/-- A number of at least one digit and not too many, and the text after it. -/
def takeDigits? (most : Nat) (cs : List Char) : Option (Nat × List Char) :=
  let ds := (cs.take most).takeWhile Char.isDigit
  if ds.isEmpty then none else some (ofDigits 10 ds, cs.drop ds.length)

/-- A field of at most two digits, after blanks. -/
def takeField? (cs : List Char) : Option (Nat × List Char) := takeDigits? 2 (trimStart cs)

/-- A year of at most four digits, or of any number of digits after a sign. -/
def takeYear? (cs : List Char) : Option (Int × List Char) :=
  match trimStart cs with
  | '-' :: cs => (takeDigits? cs.length cs).map fun p => (-p.1, p.2)
  | '+' :: cs => (takeDigits? cs.length cs).map fun p => (p.1, p.2)
  | cs => (takeDigits? 4 cs).map fun p => (p.1, p.2)

def takeChar? (ok : Char → Bool) : List Char → Option (List Char)
  | c :: cs => if ok c then some cs else none
  | [] => none

/-- A mark between two fields, after blanks. -/
def takeMark? (mark : Char) (cs : List Char) : Option (List Char) :=
  takeChar? (· == mark) (trimStart cs)

/-- The fraction of a second in nanoseconds; digits after the ninth do not count. -/
def takeFraction? : List Char → Option (Nat × List Char)
  | '.' :: cs =>
    let ds := cs.takeWhile Char.isDigit
    if ds.isEmpty then none
    else some (ofDigits 10 ((ds ++ List.replicate 9 '0').take 9), cs.dropWhile Char.isDigit)
  | cs => some (0, cs)

def isDateEnd (c : Char) : Bool := c == 'T' || c == 't' || c == ' '

/-- The sign of an offset; the minus sign may be the one of mathematics. -/
def sign? (c : Char) : Option Int :=
  if c == '+' then some 1 else if c == '-' || c == '\u2212' then some (-1) else none

/-- Exactly two digits. -/
def takePair? (cs : List Char) : Option (Nat × List Char) :=
  if (cs.take 2).length = 2 && (cs.take 2).all Char.isDigit then takeDigits? 2 cs else none

/-- An offset from universal time in seconds, and the text after it. -/
def takeOffset? (cs : List Char) : Option (Int × List Char) :=
  if lower (.ofList (cs.take 1)) == "z" then some (0, cs.drop 1)
  else if lower (.ofList (cs.take 3)) == "utc" then some (0, cs.drop 3)
  else do
    let sign ← cs.head?.bind sign?
    let (h, cs) ← takePair? (cs.drop 1)
    let (m, cs) ← takePair? (cs.dropWhile fun c => c == ':' || isBlank c)
    if h < 24 && m < 60 then some (sign * (h * 3600 + m * 60 : Nat), cs) else none

/-- Whether a day lies between the first and the last one that can be told apart. -/
def isDay (days : Int) : Bool := daysFrom (-262143) 1 1 ≤ days && days ≤ daysFrom 262142 12 31

def read? (text : String) : Option Timestamp := do
  let (year, cs) ← takeYear? text.toList
  let (month, cs) ← takeField? (← takeMark? '-' cs)
  let (day, cs) ← takeField? (← takeMark? '-' cs)
  let (hour, cs) ← takeField? (← takeChar? isDateEnd cs)
  let (minute, cs) ← takeField? (← takeMark? ':' cs)
  let (second, cs) ← takeField? (← takeMark? ':' cs)
  let (nanos, cs) ← takeFraction? cs
  let (offset, cs) ← takeOffset? (trimStart cs)
  if (trimStart cs).isEmpty && 1 ≤ month && month ≤ 12 && 1 ≤ day && day ≤ daysIn year month
      && hour < 24 && minute < 60 && second ≤ 60 then
    let days := daysFrom year month day
    let clock : Int := (hour * 3600 + minute * 60 + min second 59 : Nat)
    let seconds := days * 86400 + clock - offset
    if isDay days && isDay (seconds.fdiv 86400) then
      some ⟨seconds, if second = 60 then nanos + 1000000000 else nanos⟩
    else none
  else none

/-! ## Writing -/

/-- A number with leading zeros up to a width. -/
def padded (width n : Nat) : String :=
  let ds := Nat.toDigits 10 n
  .ofList (List.replicate (width - ds.length) '0' ++ ds)

def fractionText (nanos : Nat) : String :=
  if nanos = 0 then ""
  else if nanos % 1000000 = 0 then "." ++ padded 3 (nanos / 1000000)
  else if nanos % 1000 = 0 then "." ++ padded 6 (nanos / 1000)
  else "." ++ padded 9 nanos

def yearText (year : Int) : String :=
  if 0 ≤ year && year ≤ 9999 then padded 4 year.toNat
  else if 0 ≤ year then "+" ++ padded 5 year.toNat
  else "-" ++ padded 4 (-year).toNat

/-- A leap second is kept as a sixtieth second. -/
def text (t : Timestamp) : String :=
  let days := t.seconds.fdiv 86400
  let clock := (t.seconds - days * 86400).toNat
  let (year, month, day) := civilFrom days
  let leap := if 1000000000 ≤ t.nanos then 1 else 0
  s!"{yearText year}-{padded 2 month.toNat}-{padded 2 day.toNat}"
    ++ s!"T{padded 2 (clock / 3600)}:{padded 2 (clock / 60 % 60)}:{padded 2 (clock % 60 + leap)}"
    ++ fractionText (t.nanos % 1000000000) ++ "Z"

end Timestamp

end RuleCatalog
