import RuleCatalog.Query.Expr.Print
import RuleCatalog.Proofs.Query.Shape

/-! # The tokens of a tree

The tokens that stand for a tree in its printed form, and the tree they stand for: the one
printed, with its numbers in the spelling they are printed in. -/
namespace RuleCatalog.Query
open Text

/-! ## The tree that is printed -/

/-- A number in the spelling it is printed in. -/
def respell (t : String) : String := .ofList (writeNumber t)

theorem lower_eq_iff (t w : String) : t.toList.map Char.toLower = w.toList ↔ lower t = w := by
  rw [lower]
  constructor
  · intro h
    rw [h, String.ofList_toList]
  · rintro rfl
    rw [String.toList_ofList]

theorem writeNumber_eq (t : String) : writeNumber t =
    match hexNumber? (lower t).toList with
    | some n => Nat.toDigits 10 n
    | none =>
      if lower t = "inf" ∨ lower t = "+inf" then "+Inf".toList
      else if lower t = "nan" then "NaN".toList
      else match (Decimal.read? t.toList).bind Binary64.ofDecimal? with
        | some x => x.shortest.text
        | none => t.toList := by
  have hlist : (lower t).toList = t.toList.map Char.toLower := by
    rw [lower, String.toList_ofList]
  rw [hlist]
  unfold writeNumber
  dsimp only
  cases hexNumber? (t.toList.map Char.toLower) with
  | some n => rfl
  | none => cases (Decimal.read? t.toList).bind Binary64.ofDecimal? <;> simp only [lower_eq_iff]

theorem writeNumber_inf {t : String} (h : lower t = "inf") : writeNumber t = "+Inf".toList := by
  rw [writeNumber_eq, h]
  rfl

theorem writeNumber_nan {t : String} (h : lower t = "nan") : writeNumber t = "NaN".toList := by
  rw [writeNumber_eq, h]
  rfl

mutual

/-- The expression with every number in the spelling it is printed in. -/
def Expr.respelled : Expr → Expr
  | .number t => .number (respell t)
  | .string v => .string v
  | .selector n ms r mods => .selector n ms r mods
  | .call f args => .call f (Expr.respelledAll args)
  | .aggregate op p b g => .aggregate op (Expr.respelledOption p) b.respelled g
  | .binary op l r b m => .binary op l.respelled r.respelled b m
  | .unary s e => .unary s e.respelled
  | .paren e => .paren e.respelled
  | .subquery e r s mods => .subquery e.respelled r s mods

def Expr.respelledAll : List Expr → List Expr
  | [] => []
  | e :: es => e.respelled :: Expr.respelledAll es

def Expr.respelledOption : Option Expr → Option Expr
  | none => none
  | some e => some e.respelled

end

theorem Expr.respelledAll_eq_map (es : List Expr) :
    Expr.respelledAll es = es.map Expr.respelled := by
  induction es with
  | nil => rfl
  | cons e es ih => exact congrArg (e.respelled :: ·) ih

theorem Expr.respelledOption_eq_map (e : Option Expr) :
    Expr.respelledOption e = e.map Expr.respelled := by
  cases e <;> rfl

section
variable {t v f op d : String} {n s : Option String} {ms : List LabelMatcher} {mods : Modifiers}
  {args : List Expr} {param : Option Expr} {body e r : Expr} {g : Option Grouping}
  {bop : BinaryOp} {b : Bool} {m : Option VectorMatching} {sign : Sign}

@[simp] theorem Expr.respelled_number : (number t).respelled = number (respell t) := rfl
@[simp] theorem Expr.respelled_string : (string v).respelled = string v := rfl

@[simp] theorem Expr.respelled_selector :
    (selector n ms s mods).respelled = selector n ms s mods := rfl

@[simp] theorem Expr.respelled_call : (call f args).respelled = call f (args.map respelled) :=
  congrArg (call f) (respelledAll_eq_map args)

@[simp] theorem Expr.respelled_aggregate : (aggregate op param body g).respelled
    = aggregate op (param.map respelled) body.respelled g :=
  congrArg (aggregate op · body.respelled g) (respelledOption_eq_map param)

@[simp] theorem Expr.respelled_binary :
    (binary bop e r b m).respelled = binary bop e.respelled r.respelled b m := rfl

@[simp] theorem Expr.respelled_unary : (unary sign e).respelled = unary sign e.respelled := rfl
@[simp] theorem Expr.respelled_paren : (paren e).respelled = paren e.respelled := rfl

@[simp] theorem Expr.respelled_subquery :
    (subquery e d s mods).respelled = subquery e.respelled d s mods := rfl

end

/-! ## Its tokens -/

/-- The token of a printed number. Infinity is a sign and a name in fact, and one token here. -/
def numberToken (t : String) : Token :=
  if lower t = "nan" then .ident "NaN"
  else if isDuration (writeNumber t) then .duration (respell t)
  else .number (respell t)

def labelTokens (ls : List String) : List Token :=
  .leftParen :: List.intercalate [.comma] (ls.map fun l => [.ident l]) ++ [.rightParen]

def MatchOp.symbol : MatchOp → Symbol
  | .equal => .assign
  | .notEqual => .notEqual
  | .matches => .matches
  | .notMatches => .notMatches

def LabelMatcher.tokens (m : LabelMatcher) : List Token :=
  [.ident m.name, .symbol m.op.symbol, .string m.value]

def matcherTokens (ms : List LabelMatcher) : List Token :=
  .leftBrace :: List.intercalate [.comma] (ms.map LabelMatcher.tokens) ++ [.rightBrace]

def selectorTokens : Option String → List LabelMatcher → List Token
  | none, ms => matcherTokens ms
  | some n, [] => [.ident n]
  | some n, ms => .ident n :: matcherTokens ms

def rangeTokens : Option String → List Token
  | some r => [.leftBracket, .duration r, .rightBracket]
  | none => []

def offsetTokens (o : String) : List Token :=
  match o.toList with
  | '-' :: d => [.ident "offset", .symbol .minus, .duration (.ofList d)]
  | _ => [.ident "offset", .duration o]

def timeTokens (t : String) : List Token :=
  if t = "start()" then [.at, .ident "start", .leftParen, .rightParen]
  else if t = "end()" then [.at, .ident "end", .leftParen, .rightParen]
  else [.at, .number t]

def Modifiers.tokens (m : Modifiers) : List Token :=
  (m.offset.map offsetTokens).getD [] ++ (m.time.map timeTokens).getD []

def Grouping.tokens (g : Grouping) : List Token :=
  .ident (if g.without then "without" else "by") :: labelTokens g.labels

def MatchClause.tokens (c : MatchClause) : List Token :=
  .ident (if c.on then "on" else "ignoring") :: labelTokens c.labels

def GroupSide.word : GroupSide → String
  | .left => "group_left"
  | .right => "group_right"

def VectorMatching.tokens (m : VectorMatching) : List Token :=
  (m.clause.map MatchClause.tokens).getD [] ++
    (m.group.map fun g => .ident g.1.word :: labelTokens g.2).getD []

def BinaryOp.token : BinaryOp → Token
  | .or => .ident "or" | .and => .ident "and" | .unless => .ident "unless"
  | .atan2 => .ident "atan2"
  | .equal => .symbol .equal | .notEqual => .symbol .notEqual
  | .greater => .symbol .greater | .less => .symbol .less
  | .greaterEqual => .symbol .greaterEqual | .lessEqual => .symbol .lessEqual
  | .plus => .symbol .plus | .minus => .symbol .minus | .times => .symbol .times
  | .divide => .symbol .divide | .modulo => .symbol .modulo | .power => .symbol .power

/-- The words between an operator and its right operand. -/
def matchingTokens (returnBool : Bool) (m : Option VectorMatching) : List Token :=
  (if returnBool then [.ident "bool"] else []) ++ (m.map VectorMatching.tokens).getD []

def Sign.symbol : Sign → Symbol
  | .plus => .plus
  | .minus => .minus

mutual

/-- The tokens of a printed expression. -/
def Expr.tokens : Expr → List Token
  | .number t => [numberToken t]
  | .string v => [.string v]
  | .selector n ms r mods => selectorTokens n ms ++ rangeTokens r ++ mods.tokens
  | .call f args => .ident f :: .leftParen :: Expr.tokensAll args ++ [.rightParen]
  | .aggregate op param body g =>
    .ident op :: (g.map Grouping.tokens).getD [] ++ .leftParen :: Expr.tokensParam param
      ++ body.tokens ++ [.rightParen]
  | .binary op l r b m => l.tokens ++ op.token :: matchingTokens b m ++ r.tokens
  | .unary s e => .symbol s.symbol :: e.tokens
  | .paren e => .leftParen :: e.tokens ++ [.rightParen]
  | .subquery e r s mods =>
    e.tokens ++ .leftBracket :: .duration r :: .colon :: (s.map Token.duration).toList
      ++ .rightBracket :: mods.tokens

def Expr.tokensAll : List Expr → List Token
  | [] => []
  | [e] => e.tokens
  | e :: es => e.tokens ++ .comma :: Expr.tokensAll es

def Expr.tokensParam : Option Expr → List Token
  | none => []
  | some e => e.tokens ++ [.comma]

end

/-! ## The token in front -/

/-- What the tokens of an operand start with: a name stands for the word of the operand, and no
name reads as infinity unless it is called. -/
inductive Opens (e : Expr) : List Token → Prop
  | nan (us : List Token) : Opens e (.ident "NaN" :: us)
  | name {n : String} {us : List Token} (hword : e.word? = some (lower n))
      (hcall : lower n = "inf" → us.head? = some .leftParen) : Opens e (.ident n :: us)
  | plain {t : Token} (us : List Token) (hident : ∀ n, t ≠ .ident n) (hsymbol : ∀ s, t ≠ .symbol s)
      (hparen : t ≠ .rightParen) : Opens e (t :: us)

variable {e e' : Expr} {ts : List Token} {S : Nat → Expr → Prop}

theorem Opens.append (h : Opens e ts) (us : List Token) : Opens e (ts ++ us) := by
  cases h with
  | nan vs => exact .nan (vs ++ us)
  | @name n vs hword hcall =>
    refine .name hword fun hn => ?_
    show (vs ++ us).head? = _
    rw [List.head?_append, hcall hn]
    rfl
  | plain vs hident hsymbol hparen => exact .plain (vs ++ us) hident hsymbol hparen

theorem Opens.of_word?_eq (h : Opens e ts) (hword : e'.word? = e.word?) : Opens e' ts := by
  cases h with
  | nan us => exact .nan us
  | name hname hcall => exact .name (hword.trans hname) hcall
  | plain us hident hsymbol hparen => exact .plain us hident hsymbol hparen

theorem opens_number (t : String) : Opens (.number t) [numberToken t] := by
  unfold numberToken
  split
  · exact .nan []
  · split <;> exact .plain [] (by simp) (by simp) (by simp)

theorem lower_of_mem_aggregations {op : String} (h : op ∈ aggregations) :
    lower op = op ∧ op ≠ "inf" := by
  simp only [aggregations, List.mem_cons, List.not_mem_nil, or_false] at h
  rcases h with rfl | rfl | rfl | rfl | rfl | rfl | rfl | rfl | rfl | rfl | rfl | rfl | rfl | rfl
    <;> decide

theorem opens_of_operand (h : Operand S e) : Opens e e.tokens := by
  induction h with
  | @number t => exact opens_number t
  | string v => exact .plain [] (by simp) (by simp) (by simp)
  | @selector n ms r mods hn hms hr hmods =>
    cases n with
    | none => exact .plain _ (by simp) (by simp) (by simp)
    | some n =>
      obtain ⟨-, hinf, -⟩ := hn n rfl
      cases ms <;> exact .name rfl fun h => absurd h hinf
  | call hf hagg hargs => exact .name rfl fun _ => rfl
  | @aggregate op param body g hop =>
    obtain ⟨hlower, hinf⟩ := lower_of_mem_aggregations hop
    refine .name (by rw [hlower, Expr.word?]) fun h => absurd h ?_
    rwa [hlower]
  | paren he => exact .plain _ (by simp) (by simp) (by simp)
  | @subquery e r s mods he hr hs hmods ih =>
    rw [Expr.tokens, List.append_assoc]
    exact (ih.append _).of_word?_eq rfl

theorem opens_of_spine {bound : Nat} (h : Spine S bound e) :
    Opens e e.tokens ∨ e.word? = none ∧ ∃ s us, e.tokens = .symbol s :: us := by
  induction h with
  | operand he => exact .inl (opens_of_operand he)
  | @unary s e he => exact .inr ⟨rfl, s.symbol, e.tokens, rfl⟩
  | @binary op l r b m hl hbound hedge hr hm hstart ih =>
    rw [Expr.tokens, List.append_assoc]
    rcases ih with ih | ⟨hword, s, us, hus⟩
    · exact .inl ((ih.append _).of_word?_eq rfl)
    · exact .inr ⟨hword, s, us ++ (op.token :: matchingTokens b m ++ r.tokens), by rw [hus]; rfl⟩

theorem opens_of_readable {levels bound : Nat} (h : Readable levels bound e) :
    Opens e e.tokens ∨ e.word? = none ∧ ∃ s us, e.tokens = .symbol s :: us := by
  cases levels with
  | zero => cases h
  | succ levels => exact opens_of_spine h

theorem keyword?_tokens {levels bound : Nat} (h : Readable levels bound e) {w : String}
    (hw : w ∈ matchingWords) (hne : e.word? ≠ some w) (rest : List Token) :
    keyword? (e.tokens ++ rest) ≠ some w := by
  rcases opens_of_readable h with hopens | ⟨-, s, us, hus⟩
  · generalize e.tokens = ts at hopens
    cases hopens with
    | nan us =>
      rintro hnan
      obtain rfl := Option.some.inj hnan
      exact absurd hw (by decide)
    | name hword hcall => rwa [List.cons_append, keyword?, ← hword]
    | plain us hident hsymbol hparen =>
      rw [List.cons_append]
      unfold keyword?
      split
      · rename_i heq
        exact absurd (List.cons.inj heq).1 (hident _)
      · simp
  · rw [hus]
    simp [keyword?]

theorem head?_tokens_ne {levels bound : Nat} (h : Readable levels bound e) (rest : List Token) :
    (e.tokens ++ rest).head? ≠ some .rightParen := by
  rcases opens_of_readable h with hopens | ⟨-, s, us, hus⟩
  · generalize e.tokens = ts at hopens
    cases hopens with
    | nan us => simp
    | name hword hcall => simp
    | plain us hident hsymbol hparen => simpa using hparen
  · rw [hus]
    simp

end RuleCatalog.Query
