import RuleCatalog.Query.Expr
import RuleCatalog.Number.Binary64

/-! # Writing expressions

The one layout of an expression: single blanks around binary operators and after commas,
groupings before the operands, strings in double quotes, numbers as short decimals. -/
namespace RuleCatalog.Query

/-- A character inside double quotes. -/
def stringChar (c : Char) : List Char :=
  match c with
  | '\\' => ['\\', '\\']
  | '"' => ['\\', '"']
  | '\n' => ['\\', 'n']
  | '\t' => ['\\', 't']
  | '\r' => ['\\', 'r']
  | c => [c]

def writeString (v : String) : List Char := '"' :: v.toList.flatMap stringChar ++ ['"']

/-- The number that a hexadecimal text writes, if it fits into 64 bits. -/
def hexNumber? : List Char → Option Nat
  | '0' :: 'x' :: ds => (Text.readDigits? 16 ds).filter (· < 2 ^ 64)
  | _ => none

/-- Writes a number by its value; a text whose value is not a finite double stands as it is. No
number that is read has a sign of its own, so an infinity with one is only in trees made by hand. -/
def writeNumber (text : String) : List Char :=
  let cs := text.toList
  let lower := cs.map Char.toLower
  match hexNumber? lower with
  | some n => Nat.toDigits 10 n
  | none =>
    if lower = "inf".toList ∨ lower = "+inf".toList then "+Inf".toList
    else if lower = "nan".toList then "NaN".toList
    else match (Decimal.read? cs).bind Binary64.ofDecimal? with
      | some x => x.shortest.text
      | none => cs

def writeLabels (ls : List String) : List Char :=
  '(' :: List.intercalate ", ".toList (ls.map String.toList) ++ [')']

def Modifiers.write (m : Modifiers) : List Char :=
  (match m.offset with
    | some o => " offset ".toList ++ o.toList
    | none => []) ++
  match m.time with
  | some t => " @ ".toList ++ t.toList
  | none => []

def LabelMatcher.write (m : LabelMatcher) : List Char :=
  m.name.toList ++ m.op.text.toList ++ writeString m.value

def Grouping.write (g : Grouping) : List Char :=
  (if g.without then " without " else " by ").toList ++ writeLabels g.labels ++ [' ']

def MatchClause.write (c : MatchClause) : List Char :=
  (if c.on then " on" else " ignoring").toList ++ writeLabels c.labels

def writeGroup (side : GroupSide) (labels : List String) : List Char :=
  (match side with
    | .left => " group_left"
    | .right => " group_right").toList ++ writeLabels labels

def VectorMatching.write (m : VectorMatching) : List Char :=
  (m.clause.map MatchClause.write).getD [] ++
    (m.group.map fun g => writeGroup g.1 g.2).getD []

def writeSelector (name : Option String) (ms : List LabelMatcher) : List Char :=
  ((name.map String.toList).getD []) ++
    if ms.isEmpty && name.isSome then []
    else '{' :: List.intercalate ", ".toList (ms.map LabelMatcher.write) ++ ['}']

def writeRange : Option String → List Char
  | some r => '[' :: r.toList ++ [']']
  | none => []

mutual

/-- The text of an expression. -/
def Expr.write : Expr → List Char
  | .number t => writeNumber t
  | .string v => writeString v
  | .selector name ms range mods => writeSelector name ms ++ writeRange range ++ mods.write
  | .call f args => f.toList ++ '(' :: Expr.writeAll args ++ [')']
  | .aggregate op param body grouping =>
    op.toList ++ (grouping.map Grouping.write).getD [] ++ '(' :: Expr.writeParam param
      ++ body.write ++ [')']
  | .binary op l r returnBool matching =>
    l.write ++ ' ' :: op.text.toList ++ (if returnBool then " bool".toList else [])
      ++ (matching.map VectorMatching.write).getD [] ++ ' ' :: r.write
  | .unary s e => s.text.toList ++ e.write
  | .paren e => '(' :: e.write ++ [')']
  | .subquery e range step mods =>
    e.write ++ '[' :: range.toList ++ ':' :: (step.map String.toList).getD [] ++ [']']
      ++ mods.write

/-- Arguments with commas between them. -/
def Expr.writeAll : List Expr → List Char
  | [] => []
  | [e] => e.write
  | e :: es => e.write ++ ", ".toList ++ Expr.writeAll es

/-- The parameter of an aggregation, with the comma after it. -/
def Expr.writeParam : Option Expr → List Char
  | none => []
  | some e => e.write ++ ", ".toList

end

def Expr.text (e : Expr) : String := .ofList e.write

end RuleCatalog.Query
