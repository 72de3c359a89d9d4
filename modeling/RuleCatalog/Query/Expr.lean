import RuleCatalog.Query.Token

/-! # Query expressions

The tree of a query, which keeps what its printed form needs, and the order of the lists whose
order carries no meaning. -/
namespace RuleCatalog.Query

/-- How a selector compares the value of a label. -/
inductive MatchOp where
  | equal | notEqual | matches | notMatches
  deriving DecidableEq, Repr

def MatchOp.text : MatchOp → String
  | .equal => "="
  | .notEqual => "!="
  | .matches => "=~"
  | .notMatches => "!~"

structure LabelMatcher where
  name : String
  op : MatchOp
  value : String
  deriving DecidableEq, Repr

/-- The labels that an aggregation keeps, or with `without` those it drops. -/
structure Grouping where
  without : Bool
  labels : List String
  deriving DecidableEq, Repr

inductive GroupSide where
  | left | right
  deriving DecidableEq, Repr

/-- The labels on which two operands have to agree, or which their agreement ignores. -/
structure MatchClause where
  on : Bool
  labels : List String
  deriving DecidableEq, Repr

/-- How the elements of two operands find each other; at least one part is present. -/
structure VectorMatching where
  clause : Option MatchClause
  group : Option (GroupSide × List String)
  deriving DecidableEq, Repr

/-- The shift in time of a selector or subquery. -/
structure Modifiers where
  offset : Option String
  time : Option String
  deriving DecidableEq, Repr

def Modifiers.empty : Modifiers := ⟨none, none⟩

inductive BinaryOp where
  | or | and | unless
  | equal | notEqual | greater | less | greaterEqual | lessEqual
  | plus | minus | times | divide | modulo | atan2 | power
  deriving DecidableEq, Repr

def BinaryOp.text : BinaryOp → String
  | .or => "or" | .and => "and" | .unless => "unless"
  | .equal => "==" | .notEqual => "!=" | .greater => ">" | .less => "<"
  | .greaterEqual => ">=" | .lessEqual => "<="
  | .plus => "+" | .minus => "-" | .times => "*" | .divide => "/" | .modulo => "%"
  | .atan2 => "atan2" | .power => "^"

/-- How tightly an operator binds. -/
def BinaryOp.precedence : BinaryOp → Nat
  | .or => 1
  | .and | .unless => 2
  | .equal | .notEqual | .greater | .less | .greaterEqual | .lessEqual => 3
  | .plus | .minus => 4
  | .times | .divide | .modulo | .atan2 => 5
  | .power => 6

inductive Sign where
  | plus | minus
  deriving DecidableEq, Repr

def Sign.text : Sign → String
  | .plus => "+"
  | .minus => "-"

inductive Expr where
  | number (text : String)
  | string (value : String)
  | selector (name : Option String) (matchers : List LabelMatcher) (range : Option String)
      (modifiers : Modifiers)
  | call (func : String) (args : List Expr)
  | aggregate (op : String) (param : Option Expr) (body : Expr) (grouping : Option Grouping)
  | binary (op : BinaryOp) (lhs rhs : Expr) (returnBool : Bool)
      (matching : Option VectorMatching)
  | unary (sign : Sign) (operand : Expr)
  | paren (inner : Expr)
  | subquery (body : Expr) (range : String) (step : Option String) (modifiers : Modifiers)
  deriving Repr

instance : Inhabited Expr := ⟨.number "0"⟩

/-- Matchers by name, operator and value. -/
def LabelMatcher.le (a b : LabelMatcher) : Bool :=
  ((compare a.name b.name).then
    ((compare a.op.text b.op.text).then (compare a.value b.value))).isLE

def sortMatchers (ms : List LabelMatcher) : List LabelMatcher := ms.mergeSort LabelMatcher.le

/-- Labels in order, each once. -/
def sortLabels (ls : List String) : List String :=
  (ls.mergeSort fun a b => (compare a b).isLE).eraseReps

def Grouping.sort (g : Grouping) : Grouping := { g with labels := sortLabels g.labels }

def MatchClause.sort (c : MatchClause) : MatchClause := { c with labels := sortLabels c.labels }

def VectorMatching.sort (m : VectorMatching) : VectorMatching where
  clause := m.clause.map MatchClause.sort
  group := m.group.map fun g => (g.1, sortLabels g.2)

mutual

/-- The expression with every list sorted whose order carries no meaning. -/
def Expr.sort : Expr → Expr
  | .number t => .number t
  | .string v => .string v
  | .selector n ms r mods => .selector n (sortMatchers ms) r mods
  | .call f args => .call f (Expr.sortAll args)
  | .aggregate op p b g => .aggregate op (Expr.sortOption p) b.sort (g.map Grouping.sort)
  | .binary op l r b m => .binary op l.sort r.sort b (m.map VectorMatching.sort)
  | .unary s e => .unary s e.sort
  | .paren e => .paren e.sort
  | .subquery e r s mods => .subquery e.sort r s mods

def Expr.sortAll : List Expr → List Expr
  | [] => []
  | e :: es => e.sort :: Expr.sortAll es

def Expr.sortOption : Option Expr → Option Expr
  | none => none
  | some e => some e.sort

end

theorem Expr.sortAll_eq_map (es : List Expr) : Expr.sortAll es = es.map Expr.sort := by
  induction es with
  | nil => rfl
  | cons e es ih => simp [Expr.sortAll, ih]

theorem Expr.sortOption_eq_map (e : Option Expr) : Expr.sortOption e = e.map Expr.sort := by
  cases e <;> rfl

end RuleCatalog.Query
