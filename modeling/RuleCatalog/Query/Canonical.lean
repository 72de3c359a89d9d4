import RuleCatalog.Query.Expr.Read
import RuleCatalog.Query.Expr.Print

/-! # Canonical queries

Queries that differ in layout, or in the order of lists whose order carries no meaning, have
one canonical text. A text that is no query keeps its words; only its blanks are evened out. -/
namespace RuleCatalog.Query
open Text

/-- The mark that opens a string, if a character is one. -/
def quoteMark? (c : Char) : Option Char :=
  if c = '"' ∨ c = '\'' ∨ c = '\x60' then some c else none

/-- Evens out blanks: a run of them outside strings becomes one space. `open?` is the mark of
the string that the text is in, `escaped` whether its last character was a backslash, and
`pending` whether blanks came before. -/
def evenBlanks (open? : Option Char) (escaped pending : Bool) : List Char → List Char
  | [] => []
  | c :: cs =>
    match open? with
    | some q =>
      c :: if escaped then evenBlanks (some q) false pending cs
        else if c = '\\' ∧ q ≠ '\x60' then evenBlanks (some q) true pending cs
        else evenBlanks (if c = q then none else some q) false pending cs
    | none =>
      if isBlank c then evenBlanks none false true cs
      else (if pending then [' '] else []) ++ c :: evenBlanks (quoteMark? c) false false cs

/-- A text without blanks at its ends and with single spaces between its words. -/
def normalizeBlanks (query : String) : String :=
  .ofList (evenBlanks none false false (trim query.toList))

/-- The text by which queries are compared. -/
def canonicalize (query : String) : String :=
  match Expr.parse query with
  | .ok e => e.sort.text
  | .error _ => normalizeBlanks query

end RuleCatalog.Query
