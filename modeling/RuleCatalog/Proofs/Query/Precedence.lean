import RuleCatalog.Proofs.Query.RoundTrip

/-! # How tightly operands bind

A tree is read without brackets of its own, so each operand has to bind as tightly as its place
asks for: operators of one precedence group to the left, powers to the right, a sign takes in
powers alone, and the range of a subquery belongs to what stands right before it.
Main statement: `respectsPrecedence_of_parse`. -/
namespace RuleCatalog.Query

/-- The operator at the root of an expression. -/
def Expr.operator? : Expr → Option BinaryOp
  | .binary op _ _ _ _ => some op
  | _ => none

/-- Whether a sign is at the root of an expression. -/
def Expr.isSigned : Expr → Bool
  | .unary _ _ => true
  | _ => false

/-- Whether an operator can have an expression on its left. -/
structure BinaryOp.TakesLeft (op : BinaryOp) (l : Expr) : Prop where
  precedence_le : ∀ o ∈ l.operator?, op.precedence ≤ o.precedence
  /-- A power on the left of a power has to be in parentheses. -/
  power_lt : op = .power → ∀ o ∈ l.operator?, op.precedence < o.precedence
  unsigned : op = .power → l.isSigned = false

/-- Whether the operands at the root of an expression bind as tightly as their places ask for. -/
def Expr.RespectsPrecedence : Expr → Prop
  | .binary op l r _ _ => op.TakesLeft l
    ∧ ∀ o ∈ r.operator?, op.precedence < o.precedence ∨ op = .power ∧ o = .power
  | .unary _ e => ∀ o ∈ e.operator?, o = .power
  | .subquery e _ _ _ => e.operator? = none ∧ e.isSigned = false
  | _ => True

variable {S : Nat → Expr → Prop} {op o : BinaryOp} {e l r : Expr} {levels bound : Nat}

theorem BinaryOp.eq_power_of_le (h : BinaryOp.power.precedence ≤ op.precedence) : op = .power := by
  cases op <;> first | rfl | exact absurd h (by decide)

theorem operator?_of_operand (h : Operand S e) : e.operator? = none := by
  cases h <;> rfl

theorem isSigned_of_operand (h : Operand S e) : e.isSigned = false := by
  cases h <;> rfl

theorem le_precedence_of_readable (h : Readable levels bound e) (ho : o ∈ e.operator?) :
    bound ≤ o.precedence := by
  cases levels with
  | zero => cases h
  | succ levels =>
    cases h with
    | operand he =>
      rw [operator?_of_operand he] at ho
      cases ho
    | unary s he => cases ho
    | binary hl hbound hedge hr hm hstart =>
      cases ho
      exact hbound

/-- An operator that would take in the right operand of an expression is not looser than its own. -/
theorem Expr.edge_le_rightBound (ho : o ∈ e.operator?) : e.edge ≤ o.rightBound := by
  cases e with
  | binary op l r b m =>
    cases ho
    exact Nat.min_le_left _ _
  | _ => cases ho

theorem Expr.edge_le_of_isSigned (h : e.isSigned = true) : e.edge ≤ BinaryOp.power.precedence := by
  cases e with
  | unary s e => exact Nat.min_le_left _ _
  | _ => cases h

theorem takesLeft_of_lt_edge (h : op.precedence < l.edge) : op.TakesLeft l where
  precedence_le o ho := by
    have hlt := Nat.lt_of_lt_of_le h (Expr.edge_le_rightBound ho)
    unfold BinaryOp.rightBound at hlt
    split at hlt <;> omega
  power_lt hpower o ho := by
    -- no operator leaves room for a power on its right but in its own operand
    subst hpower
    have hlt := Nat.lt_of_lt_of_le h (Expr.edge_le_rightBound ho)
    cases o <;> exact absurd hlt (by decide)
  unsigned hpower := by
    subst hpower
    refine Bool.eq_false_iff.2 fun hsigned => ?_
    exact absurd (Expr.edge_le_of_isSigned hsigned) (Nat.not_le.2 h)

theorem lt_or_eq_of_readable_rightBound (h : Readable levels op.rightBound r)
    (ho : o ∈ r.operator?) : op.precedence < o.precedence ∨ op = .power ∧ o = .power := by
  have hle := le_precedence_of_readable h ho
  by_cases hpower : op = .power
  · subst hpower
    exact .inr ⟨rfl, BinaryOp.eq_power_of_le hle⟩
  · rw [BinaryOp.rightBound, if_neg hpower] at hle
    exact .inl hle

theorem respectsPrecedence_of_operand (h : Operand S e) : e.RespectsPrecedence := by
  cases h with
  | subquery he hr hs hmods => exact ⟨operator?_of_operand he, isSigned_of_operand he⟩
  | _ => trivial

theorem respectsPrecedence_of_readable (h : Readable levels bound e) : e.RespectsPrecedence := by
  cases levels with
  | zero => cases h
  | succ levels =>
    cases h with
    | operand he => exact respectsPrecedence_of_operand he
    | unary s he => exact fun o ho => BinaryOp.eq_power_of_le (le_precedence_of_readable he ho)
    | binary hl hbound hedge hr hm hstart =>
      exact ⟨takesLeft_of_lt_edge hedge, fun o ho => lt_or_eq_of_readable_rightBound hr ho⟩

/-- Everywhere in a tree that is read, operands bind as tightly as their places ask for. -/
theorem respectsPrecedence_of_parse {q : String} (h : Expr.parse q = .ok e) :
    ∀ p ∈ e.parts, p.RespectsPrecedence :=
  of_mem_parts (fun _ _ _ hread => respectsPrecedence_of_readable hread) (readable_of_parse h)

/-- A power of powers under a sign, a product with a subquery, and two differences. -/
def Expr.difference : Expr :=
  joined .minus (joined .minus (.unary .minus (joined .power (series "a")
    (joined .power (series "b") (series "c")))) (joined .times (series "d")
    (.subquery (.paren (joined .minus (series "e") (series "f"))) "5m" none .empty))) (.number "1")
where
  series (name : String) : Expr := .selector (some name) [] none .empty
  joined (op : BinaryOp) (l r : Expr) : Expr := .binary op l r false none

theorem respectsPrecedence_of_parse_difference :
    Expr.parse "-a ^ b ^ c - d * (e - f)[5m:] - 1" = .ok .difference
    ∧ ∀ p ∈ Expr.difference.parts, p.RespectsPrecedence := by
  have hparse : Expr.parse "-a ^ b ^ c - d * (e - f)[5m:] - 1" = .ok .difference :=
    parse_eq_ok_iff.2 ⟨[.symbol .minus, .ident "a", .symbol .power, .ident "b", .symbol .power,
      .ident "c", .symbol .minus, .ident "d", .symbol .times, .leftParen, .ident "e",
      .symbol .minus, .ident "f", .rightParen, .leftBracket, .duration "5m", .colon, .rightBracket,
      .symbol .minus, .number "1"], by decide +kernel, by simp, by decide, by rfl⟩
  exact ⟨hparse, respectsPrecedence_of_parse hparse⟩

end RuleCatalog.Query
