import RuleCatalog.Text.Age
import RuleCatalog.Text.Blank
import RuleCatalog.Text.Break
import RuleCatalog.Text.Fold
import RuleCatalog.Text.Property.Binary
import RuleCatalog.Text.Script.Shared

/-! # Classes of characters in patterns

The sets that escapes, properties and names in brackets stand for, and the settings under
which they are read. -/
namespace RuleCatalog.Pattern
open Text

/-- The settings of a pattern, switched on and off by letters within it. -/
structure Settings where
  ignoreCase : Bool
  multiLine : Bool
  dotAll : Bool
  swapGreed : Bool
  crlf : Bool
  /-- Whether classes and case are those of ASCII. -/
  ascii : Bool
  /-- Whether blanks and comments in the pattern mean nothing. -/
  spaced : Bool
  deriving DecidableEq, Repr

def Settings.initial : Settings := ⟨false, false, false, false, false, false, false⟩

/-- The largest code point, or the largest byte in an ASCII class. -/
def Settings.top (s : Settings) : Nat := if s.ascii then 0xFF else 0x10FFFF

namespace Class

def fold (s : Settings) (r : Ranges) : Ranges :=
  if !s.ignoreCase then r else if s.ascii then Fold.closeAscii r else Fold.close r

/-- A set that stands on its own in a pattern; one of bytes that are no characters is refused. -/
def checked (s : Settings) (r : Ranges) : Option Ranges :=
  if s.ascii && r.any (fun p => 0x80 ≤ p.2) then none else some r

/-- A set, or all that is not in it. Case is folded first, so that neither case of a letter is
in a set that leaves the letter out. -/
def closed? (s : Settings) (negated : Bool) (r : Ranges) : Option Ranges :=
  checked s (if negated then (fold s r).complement s.top else fold s r)

def digits (s : Settings) : Ranges := if s.ascii then .ofText "30-39" else Category.nd
def blanks (s : Settings) : Ranges := if s.ascii then .ofText "9-d 20" else Property.whiteSpace
def words (s : Settings) : Ranges :=
  if s.ascii then .ofText "30-39 41-5a 5f 61-7a" else Property.word

/-- The set of a letter after a backslash. -/
def ofEscape? (s : Settings) (c : Char) : Option Ranges :=
  match c with
  | 'd' => some (digits s)
  | 'D' => some ((digits s).complement s.top)
  | 's' => some (blanks s)
  | 'S' => some ((blanks s).complement s.top)
  | 'w' => some (words s)
  | 'W' => some ((words s).complement s.top)
  | _ => none

/-- The sets that names between colons stand for. -/
def posix : List (String × String) :=
  [("alnum", "30-39 41-5a 61-7a"), ("alpha", "41-5a 61-7a"), ("ascii", "0-7f"),
   ("blank", "9 20"), ("cntrl", "0-1f 7f"), ("digit", "30-39"), ("graph", "21-7e"),
   ("lower", "61-7a"), ("print", "20-7e"), ("punct", "21-2f 3a-40 5b-60 7b-7e"),
   ("space", "9-d 20"), ("upper", "41-5a"), ("word", "30-39 41-5a 5f 61-7a"),
   ("xdigit", "30-39 41-46 61-66")]

def ofPosix? (name : List Char) : Option Ranges :=
  (posix.lookup (.ofList name)).map Ranges.ofText

/-- A name of a property in lower case, without spaces, dashes, underscores and an `is` in front. -/
def plainName (name : List Char) : String :=
  let (isCut, rest) := match name with
    | i :: s :: rest => if i.toLower = 'i' ∧ s.toLower = 's' then (true, rest) else (false, name)
    | _ => (false, name)
  let cs := (rest.filter fun c => c.toNat < 0x80 && c != ' ' && c != '-' && c != '_').map
    Char.toLower
  .ofList (if isCut && cs = ['c'] then ['i', 's', 'c'] else cs)

def category? (name : String) : Option Ranges :=
  match Category.named.find? fun e => e.1 == name || e.2.1 == name with
  | some e => some e.2.2
  | none => match name with
    | "any" => some Property.any
    | "ascii" => some Property.ascii
    | "assigned" => some (Category.cn.complement 0x10FFFF)
    | "l" | "letter" => some (Category.starting 'l')
    | "lc" | "casedletter" => some (Category.lu ++ Category.ll ++ Category.lt)
    | "m" | "mark" | "combiningmark" => some (Category.starting 'm')
    | "n" | "number" => some (Category.starting 'n')
    | "p" | "punctuation" | "punct" => some (Category.starting 'p')
    | "s" | "symbol" => some (Category.starting 's')
    | "z" | "separator" => some (Category.starting 'z')
    | "c" | "other" => some (Category.starting 'c' ++ [(0xD800, 0xDFFF)])
    | "digit" => some Category.nd
    | "cntrl" => some Category.cc
    | _ => none

/-- The texts before and after the first place where a mark stands. -/
def splitAt? (mark : List Char) : List Char → Option (List Char × List Char)
  | [] => none
  | c :: cs =>
    if mark.isPrefixOf (c :: cs) then some ([], (c :: cs).drop mark.length)
    else (splitAt? mark cs).map fun r => (c :: r.1, r.2)

/-- What a property escape asks for: the characters that a name tells, or the ones for which a
property has a value. -/
structure Query where
  /-- Whether it asks for all other characters. -/
  differs : Bool
  name : String
  value : Option String

/-- Reads the text between the braces of a property escape. -/
def Query.ofText (text : List Char) : Query :=
  match splitAt? ['!', '='] text with
  | some (name, value) => ⟨true, plainName name, some (plainName value)⟩
  | none =>
    match (splitAt? [':'] text).or (splitAt? ['='] text) with
    | some (name, value) => ⟨false, plainName name, some (plainName value)⟩
    | none => ⟨false, plainName text, none⟩

/-- The set that a query names, before it is negated; none where there is no such set. -/
def Query.set? (q : Query) : Option Ranges :=
  match q.value with
  | none => ((Property.binary? q.name).or (category? q.name)).or (Script.named? q.name)
  | some value =>
    match q.name with
    | "generalcategory" | "gc" => category? value
    | "script" | "sc" => Script.named? value
    | "scriptextensions" | "scx" => Script.users? value
    | "age" => Age.upTo? value
    | "graphemeclusterbreak" | "gcb" => Break.grapheme? value
    | "wordbreak" | "wb" => Break.word? value
    | "sentencebreak" | "sb" => Break.sentence? value
    | _ => none

end Class

end RuleCatalog.Pattern
