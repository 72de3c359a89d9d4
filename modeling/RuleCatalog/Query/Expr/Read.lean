import RuleCatalog.Query.Expr
import RuleCatalog.Query.Token.Scan

/-! # Reading expressions

Precedence climbing over the tokens of a query. Each reader takes tokens off the front of a
list and answers with what they mean and the tokens that are left. Expressions that contain
expressions are read by `sub`, the reader one level deeper; `exprAt` closes the circle and
refuses to go deeper than its level. -/
namespace RuleCatalog.Query

/-- What a reader answers. -/
abbrev Parsed := Except ParseError

/-- A reader of expressions whose operators all bind at least as tightly as a bound. -/
abbrev ExprReader := Nat → List Token → Parsed (Expr × List Token)

def expect (t : Token) : List Token → Except ParseError (List Token)
  | [] => .error .unexpectedEnd
  | u :: ts => if u = t then .ok ts else .error (.expectedToken t u)

/-- The word at the front of the tokens, in lower case. -/
def keyword? : List Token → Option String
  | .ident n :: _ => some (Text.lower n)
  | _ => none

/-- Takes a keyword off the tokens where it stands at their front. -/
def takeKeyword? (w : String) (ts : List Token) : Option (List Token) :=
  if keyword? ts = some w then some ts.tail else none

/-- The names of a label list after its opening parenthesis. -/
def readLabels : List Token → Parsed (List String × List Token)
  | [] => .error .unexpectedEnd
  | .rightParen :: ts => .ok ([], ts)
  | .ident n :: ts =>
    match ts with
    | [] => .error .unexpectedEnd
    | .comma :: ts => do
      let (ns, ts) ← readLabels ts
      return (n :: ns, ts)
    | .rightParen :: ts => .ok ([n], ts)
    | t :: _ => .error (.expectedLabelListEnd t)
  | t :: _ => .error (.expectedLabelName t)

def readLabelList (ts : List Token) : Parsed (List String × List Token) := do
  readLabels (← expect .leftParen ts)

def matchOp? : Token → Option MatchOp
  | .symbol .assign => some .equal
  | .symbol .notEqual => some .notEqual
  | .symbol .matches => some .matches
  | .symbol .notMatches => some .notMatches
  | _ => none

/-- The name of a label in a selector, which may be quoted. -/
def labelName? : Token → Option String
  | .ident n => some n
  | .string n => some n
  | _ => none

/-- The matchers of a selector after its opening brace. -/
def readMatchers : List Token → Parsed (List LabelMatcher × List Token)
  | [] => .error .unexpectedEnd
  | .rightBrace :: ts => .ok ([], ts)
  | t :: ts =>
    match labelName? t with
    | none => .error (.expectedLabelName t)
    | some name =>
      match ts with
      | [] => .error .unexpectedEnd
      | t :: ts =>
        match matchOp? t with
        | none => .error (.expectedMatchOperator t)
        | some op =>
          match ts with
          | [] => .error .unexpectedEnd
          | .string value :: ts =>
            match ts with
            | [] => .error .unexpectedEnd
            | .comma :: ts => do
              let (ms, ts) ← readMatchers ts
              return (⟨name, op, value⟩ :: ms, ts)
            | .rightBrace :: ts => .ok ([⟨name, op, value⟩], ts)
            | t :: _ => .error (.expectedSelectorEnd t)
          | t :: _ => .error (.expectedMatchValue t)

/-- The operator at the front of the tokens, with the tokens after it. -/
def binaryOp? : List Token → Option (BinaryOp × List Token)
  | .symbol s :: ts =>
    match s with
    | .equal => some (.equal, ts)
    | .notEqual => some (.notEqual, ts)
    | .greater => some (.greater, ts)
    | .less => some (.less, ts)
    | .greaterEqual => some (.greaterEqual, ts)
    | .lessEqual => some (.lessEqual, ts)
    | .plus => some (.plus, ts)
    | .minus => some (.minus, ts)
    | .times => some (.times, ts)
    | .divide => some (.divide, ts)
    | .modulo => some (.modulo, ts)
    | .power => some (.power, ts)
    | .assign | .matches | .notMatches => none
  | .ident n :: ts =>
    match Text.lower n with
    | "or" => some (.or, ts)
    | "and" => some (.and, ts)
    | "unless" => some (.unless, ts)
    | "atan2" => some (.atan2, ts)
    | _ => none
  | _ => none

/-- How tightly the operators of a right operand have to bind. -/
def BinaryOp.rightBound (op : BinaryOp) : Nat :=
  if op = .power then op.precedence else op.precedence + 1

/-- The labels after `on` or `ignoring`. -/
def readMatchClause (ts : List Token) : Parsed (Option MatchClause × List Token) :=
  match takeKeyword? "on" ts with
  | some ts => (readLabelList ts).map fun r => (some ⟨true, r.1⟩, r.2)
  | none =>
    match takeKeyword? "ignoring" ts with
    | some ts => (readLabelList ts).map fun r => (some ⟨false, r.1⟩, r.2)
    | none => .ok (none, ts)

/-- The labels after `group_left` or `group_right`; the list may be absent. -/
def readGroup (ts : List Token) : Parsed (Option (GroupSide × List String) × List Token) :=
  match takeKeyword? "group_left" ts with
  | some ts => groupLabels .left ts
  | none =>
    match takeKeyword? "group_right" ts with
    | some ts => groupLabels .right ts
    | none => .ok (none, ts)
where
  groupLabels (side : GroupSide) (ts : List Token) :
      Parsed (Option (GroupSide × List String) × List Token) :=
    match ts with
    | .leftParen :: ts => (readLabels ts).map fun r => (some (side, r.1), r.2)
    | ts => .ok (some (side, []), ts)

def readMatching (ts : List Token) : Parsed (Option VectorMatching × List Token) := do
  let (clause, ts) ← readMatchClause ts
  let (group, ts) ← readGroup ts
  return (if clause.isNone && group.isNone then none else some ⟨clause, group⟩, ts)

/-- Restricts an expression to a range of time. -/
def Expr.ranged (range : String) : Expr → Except ParseError Expr
  | .selector n ms none ⟨none, none⟩ => .ok (.selector n ms (some range) .empty)
  | _ => .error .rangeOnNonSelector

def Expr.mapModifiers (f : Modifiers → Modifiers) : Expr → Except ParseError Expr
  | .selector n ms r mods => .ok (.selector n ms r (f mods))
  | .subquery e r s mods => .ok (.subquery e r s (f mods))
  | _ => .error .modifierOnNonSelector

/-- Reads what may follow a primary expression: ranges, offsets and times. -/
def readSuffixes (e : Expr) : List Token → Parsed (Expr × List Token)
  | .leftBracket :: ts =>
    match ts with
    | [] => .error .unexpectedEnd
    | .duration range :: ts =>
      match ts with
      | [] => .error .unexpectedEnd
      | .colon :: .duration step :: .rightBracket :: ts =>
        readSuffixes (.subquery e range (some step) .empty) ts
      | .colon :: .duration _ :: t :: _ => .error (.expectedToken .rightBracket t)
      | .colon :: .duration _ :: [] => .error .unexpectedEnd
      | .colon :: .rightBracket :: ts => readSuffixes (.subquery e range none .empty) ts
      | .colon :: t :: _ => .error (.expectedToken .rightBracket t)
      | .colon :: [] => .error .unexpectedEnd
      | .rightBracket :: ts => do readSuffixes (← e.ranged range) ts
      | t :: _ => .error (.expectedToken .rightBracket t)
    | t :: _ => .error (.expectedDuration t)
  | .ident n :: ts =>
    if Text.lower n = "offset" then
      match ts with
      | .symbol .minus :: .duration d :: ts => do
        readSuffixes (← e.mapModifiers ({ · with offset := some ("-" ++ d) })) ts
      | .duration d :: ts => do
        readSuffixes (← e.mapModifiers ({ · with offset := some d })) ts
      | .symbol .minus :: t :: _ => .error (.expectedDuration t)
      | .symbol .minus :: [] => .error .unexpectedEnd
      | t :: _ => .error (.expectedDuration t)
      | [] => .error .unexpectedEnd
    else .ok (e, .ident n :: ts)
  | .at :: ts =>
    match ts with
    | .number t :: ts => do readSuffixes (← e.mapModifiers ({ · with time := some t })) ts
    | .ident n :: .leftParen :: ts =>
      if n = "start" ∨ n = "end" then
        match ts with
        | .rightParen :: ts => do
          readSuffixes (← e.mapModifiers ({ · with time := some (n ++ "()") })) ts
        | t :: _ => .error (.expectedToken .rightParen t)
        | [] => .error .unexpectedEnd
      else .error (.invalidTime (.ident n))
    | t :: _ => .error (.invalidTime t)
    | [] => .error .unexpectedEnd
  | ts => .ok (e, ts)

/-- The names of the aggregations, which may have a grouping clause. -/
def aggregations : List String :=
  ["sum", "avg", "count", "min", "max", "group", "stddev", "stdvar", "topk", "bottomk",
    "quantile", "count_values", "limitk", "limit_ratio"]

def readGrouping (ts : List Token) : Parsed (Option Grouping × List Token) :=
  match takeKeyword? "by" ts with
  | some ts => (readLabelList ts).map fun r => (some ⟨false, r.1⟩, r.2)
  | none =>
    match takeKeyword? "without" ts with
    | some ts => (readLabelList ts).map fun r => (some ⟨true, r.1⟩, r.2)
    | none => .ok (none, ts)

/-- Reads an aggregation after its name; the grouping may stand before or after the operands. -/
def readAggregate (sub : ExprReader) (op : String) (ts : List Token) :
    Parsed (Expr × List Token) := do
  let (before, ts) ← readGrouping ts
  let ts ← expect .leftParen ts
  let (first, ts) ← sub 0 ts
  let (param, body, ts) ← match ts with
    | .comma :: ts => do
      let (second, ts) ← sub 0 ts
      pure (some first, second, ts)
    | ts => pure (none, first, ts)
  let ts ← expect .rightParen ts
  match before with
  | some g => return (.aggregate op param body (some g), ts)
  | none =>
    let (after, ts) ← readGrouping ts
    return (.aggregate op param body after, ts)

/-- Reads the arguments of a call, of which there is at least one. The first argument bounds
their number; no argument is without a token. -/
def readArguments (sub : ExprReader) (func : String) :
    Nat → List Token → Parsed (List Expr × List Token)
  | 0, _ => .error .unexpectedEnd
  | n + 1, ts => do
    let (e, ts) ← sub 0 ts
    match ts with
    | [] => .error .unexpectedEnd
    | .comma :: ts => do
      let (es, ts) ← readArguments sub func n ts
      return (e :: es, ts)
    | .rightParen :: ts => return ([e], ts)
    | t :: _ => .error (.expectedArgumentEnd func t)

/-- Reads the expression that starts with a name. -/
def readNamed (sub : ExprReader) (name : String) (ts : List Token) : Parsed (Expr × List Token) :=
  let lower := Text.lower name
  let isGrouped := keyword? ts = some "by" ∨ keyword? ts = some "without"
  if lower ∈ aggregations ∧ (isGrouped ∨ ts.head? = some .leftParen) then
    readAggregate sub lower ts
  else match ts with
    | .leftParen :: .rightParen :: ts => .ok (.call name [], ts)
    | .leftParen :: ts => do
      let (args, ts) ← readArguments sub name (ts.length + 1) ts
      return (.call name args, ts)
    | ts =>
      if lower = "inf" ∨ lower = "nan" then .ok (.number name, ts)
      else match ts with
        | .leftBrace :: ts => do
          let (ms, ts) ← readMatchers ts
          return (.selector (some name) ms none .empty, ts)
        | ts => .ok (.selector (some name) [] none .empty, ts)

def readPrimary (sub : ExprReader) : List Token → Parsed (Expr × List Token)
  | [] => .error .unexpectedEnd
  | .number n :: ts => .ok (.number n, ts)
  | .duration d :: ts => .ok (.number d, ts)
  | .string v :: ts => .ok (.string v, ts)
  | .leftParen :: ts => do
    let (e, ts) ← sub 0 ts
    let ts ← expect .rightParen ts
    return (.paren e, ts)
  | .leftBrace :: ts => do
    let (ms, ts) ← readMatchers ts
    if ms.isEmpty then throw .emptySelector
    return (.selector none ms none .empty, ts)
  | .ident n :: ts => readNamed sub n ts
  | t :: _ => .error (.unexpectedToken t)

/-- Reads an operand: a sign binds looser than a power, and tighter than all else. -/
def readUnary (sub : ExprReader) : List Token → Parsed (Expr × List Token)
  | .symbol .minus :: ts => do
    let (e, ts) ← sub BinaryOp.power.precedence ts
    return (.unary .minus e, ts)
  | .symbol .plus :: ts => do
    let (e, ts) ← sub BinaryOp.power.precedence ts
    return (.unary .plus e, ts)
  | ts => do
    let (e, ts) ← readPrimary sub ts
    readSuffixes e ts

/-- Reads operators and right operands onto a left operand, as long as they bind tightly
enough. The number of tokens bounds the number of operators. -/
def readOperators (sub : ExprReader) (bound : Nat) :
    Nat → Expr → List Token → Parsed (Expr × List Token)
  | 0, lhs, ts => .ok (lhs, ts)
  | n + 1, lhs, ts =>
    match binaryOp? ts with
    | none => .ok (lhs, ts)
    | some (op, rest) =>
      if op.precedence < bound then .ok (lhs, ts) else do
        let (returnBool, rest) := match takeKeyword? "bool" rest with
          | some rest => (true, rest)
          | none => (false, rest)
        let (matching, rest) ← readMatching rest
        let (rhs, rest) ← sub op.rightBound rest
        readOperators sub bound n (.binary op lhs rhs returnBool matching) rest

def readBinary (sub : ExprReader) (bound : Nat) (ts : List Token) : Parsed (Expr × List Token) := do
  let (lhs, ts) ← readUnary sub ts
  readOperators sub bound ts.length lhs ts

/-- Reads expressions that contain one another to at most the given depth. -/
def exprAt : (levels : Nat) → ExprReader
  | 0 => fun _ _ => .error .nestedTooDeep
  | n + 1 => fun bound ts => readBinary (exprAt n) bound ts

/-- Reads a row of tokens as one expression. -/
def readTokens (ts : List Token) : Except ParseError Expr := do
  if ts.isEmpty then throw .emptyExpression
  if ts.length > maxTokens then throw (.tooManyTokens ts.length)
  let (e, rest) ← exprAt maxNesting 0 ts
  match rest with
  | [] => return e
  | t :: _ => throw (.trailingToken t)

/-- The expression that a text writes. -/
def Expr.parse (query : String) : Except ParseError Expr := do
  readTokens (← scan query.toList)

end RuleCatalog.Query
