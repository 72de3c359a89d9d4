import Mathlib.Algebra.GroupWithZero.Nat
import RuleCatalog.Proofs.Query.Lexeme
import RuleCatalog.Query.Expr.Read

/-! # The trees that are read

Which trees the tokens of a query can make: `Operand` and `Spine` have one case for each way a
reader goes, over the trees that are read one level deeper, and `Readable` closes the circle as
`exprAt` does. No tree has brackets of its own, so a tree also has to say which operators could
follow it without becoming part of it: `edge`. -/
namespace RuleCatalog.Query
open Text

/-! ## What a tree consists of -/

mutual

/-- An expression and all those inside it. -/
def Expr.parts : Expr → List Expr
  | .number t => [.number t]
  | .string v => [.string v]
  | .selector n ms r mods => [.selector n ms r mods]
  | .call f args => .call f args :: Expr.partsAll args
  | .aggregate op param body g =>
    .aggregate op param body g :: Expr.partsOption param ++ body.parts
  | .binary op l r b m => .binary op l r b m :: l.parts ++ r.parts
  | .unary s e => .unary s e :: e.parts
  | .paren e => .paren e :: e.parts
  | .subquery e r s mods => .subquery e r s mods :: e.parts

def Expr.partsAll : List Expr → List Expr
  | [] => []
  | e :: es => e.parts ++ Expr.partsAll es

def Expr.partsOption : Option Expr → List Expr
  | none => []
  | some e => e.parts

end

/-- The texts of the numbers in an expression. -/
def Expr.numbers (e : Expr) : List String :=
  e.parts.filterMap fun
    | .number t => some t
    | _ => none

/-- The matchers of all selectors in an expression. -/
def Expr.matchers (e : Expr) : List LabelMatcher :=
  e.parts.flatMap fun
    | .selector _ ms _ _ => ms
    | _ => []

/-- How often an expression adds or has a plus sign. -/
def Expr.pluses (e : Expr) : Nat :=
  e.parts.countP fun
    | .unary .plus _ => true
    | .binary .plus _ _ _ _ => true
    | _ => false

/-- Whether a name in a matcher is printed as it could be read without quotes. -/
def LabelMatcher.IsPlain (m : LabelMatcher) : Prop := isIdent m.name.toList = true

/-- Whether all names in the matchers of an expression are plain. -/
def Expr.IsPlain (e : Expr) : Prop := ∀ m ∈ e.matchers, m.IsPlain

/-- Induction on an expression; the expressions in lists and options are among those inside. -/
@[elab_as_elim]
theorem Expr.induction {P : Expr → Prop} (number : ∀ t, P (.number t)) (string : ∀ v, P (.string v))
    (selector : ∀ n ms r mods, P (.selector n ms r mods))
    (call : ∀ f args, (∀ a ∈ args, P a) → P (.call f args))
    (aggregate : ∀ op param body g, (∀ p ∈ param, P p) → P body → P (.aggregate op param body g))
    (binary : ∀ op l r b m, P l → P r → P (.binary op l r b m))
    (unary : ∀ s e, P e → P (.unary s e)) (paren : ∀ e, P e → P (.paren e))
    (subquery : ∀ e r s mods, P e → P (.subquery e r s mods)) (e : Expr) : P e := by
  refine @Expr.rec P (fun es => ∀ a ∈ es, P a) (fun o => ∀ p ∈ o, P p) number string selector call
    (fun op param body g hparam hbody => aggregate op param body g hparam hbody)
    (fun op l r b m hl hr => binary op l r b m hl hr) unary paren subquery ?_ ?_ ?_ ?_ e
  · simp
  · intro e es he hes a ha
    rcases List.mem_cons.1 ha with rfl | ha
    · exact he
    · exact hes a ha
  · simp
  · rintro e he p ⟨⟩
    exact he

theorem Expr.partsAll_eq_flatMap (es : List Expr) : Expr.partsAll es = es.flatMap Expr.parts := by
  induction es with
  | nil => rfl
  | cons e es ih => exact congrArg (e.parts ++ ·) ih

namespace Expr
variable {t v f op r : String} {n s : Option String} {ms : List LabelMatcher} {mods : Modifiers}
  {args : List Expr} {param : Option Expr} {body e l e' : Expr} {g : Option Grouping}
  {bop : BinaryOp} {b : Bool} {m : Option VectorMatching} {sign : Sign}

@[simp] theorem parts_number : (number t).parts = [number t] := rfl
@[simp] theorem parts_string : (string v).parts = [string v] := rfl

@[simp] theorem parts_selector : (selector n ms s mods).parts = [selector n ms s mods] := rfl

@[simp] theorem parts_call : (call f args).parts = call f args :: args.flatMap parts :=
  congrArg (call f args :: ·) (partsAll_eq_flatMap args)

@[simp] theorem parts_aggregate : (aggregate op param body g).parts
    = aggregate op param body g :: (param.map parts).getD [] ++ body.parts := by
  cases param <;> rfl

@[simp] theorem parts_binary :
    (binary bop l e b m).parts = binary bop l e b m :: l.parts ++ e.parts := rfl

@[simp] theorem parts_unary : (unary sign e).parts = unary sign e :: e.parts := rfl
@[simp] theorem parts_paren : (paren e).parts = paren e :: e.parts := rfl

@[simp] theorem parts_subquery :
    (subquery e r s mods).parts = subquery e r s mods :: e.parts := rfl

@[simp] theorem pluses_number : (number t).pluses = 0 := rfl
@[simp] theorem pluses_string : (string v).pluses = 0 := rfl
@[simp] theorem pluses_selector : (selector n ms s mods).pluses = 0 := rfl

@[simp] theorem pluses_call : (call f args).pluses = (args.map pluses).sum := by
  rw [pluses, parts_call, List.countP_cons_of_neg Bool.false_ne_true, List.countP_flatMap]
  rfl

@[simp] theorem pluses_aggregate : (aggregate op param body g).pluses
    = (param.map pluses).getD 0 + body.pluses := by
  cases param <;> simp [pluses]

theorem pluses_binary : (binary bop l e b m).pluses
    = l.pluses + e.pluses + if bop = .plus then 1 else 0 := by
  cases bop <;> simp [pluses]

theorem pluses_unary : (unary sign e).pluses = e.pluses + if sign = .plus then 1 else 0 := by
  cases sign <;> simp [pluses]

@[simp] theorem numbers_number : (number t).numbers = [t] := rfl
@[simp] theorem numbers_string : (string v).numbers = [] := rfl
@[simp] theorem numbers_selector : (selector n ms s mods).numbers = [] := rfl

@[simp] theorem numbers_call : (call f args).numbers = args.flatMap numbers := by
  rw [numbers, parts_call, List.filterMap_cons_none rfl, List.filterMap_flatMap]
  rfl

@[simp] theorem numbers_aggregate : (aggregate op param body g).numbers
    = (param.map numbers).getD [] ++ body.numbers := by
  cases param <;> simp [numbers]

@[simp] theorem numbers_binary : (binary bop l e b m).numbers = l.numbers ++ e.numbers := by
  simp [numbers]

@[simp] theorem numbers_unary : (unary sign e).numbers = e.numbers := by
  simp [numbers]

@[simp] theorem numbers_paren : (paren e).numbers = e.numbers := by
  simp [numbers]

@[simp] theorem numbers_subquery : (subquery e r s mods).numbers = e.numbers := by
  simp [numbers]

@[simp] theorem matchers_number : (number t).matchers = [] := rfl
@[simp] theorem matchers_string : (string v).matchers = [] := rfl

@[simp] theorem matchers_selector : (selector n ms s mods).matchers = ms := by
  simp [matchers]

@[simp] theorem matchers_call : (call f args).matchers = args.flatMap matchers := by
  rw [matchers, parts_call, List.flatMap_cons, List.flatMap_assoc]
  rfl

@[simp] theorem matchers_aggregate : (aggregate op param body g).matchers
    = (param.map matchers).getD [] ++ body.matchers := by
  cases param <;> simp [matchers]

@[simp] theorem matchers_binary : (binary bop l e b m).matchers = l.matchers ++ e.matchers := by
  simp [matchers]

@[simp] theorem matchers_unary : (unary sign e).matchers = e.matchers := by
  simp [matchers]

@[simp] theorem matchers_paren : (paren e).matchers = e.matchers := by
  simp [matchers]

@[simp] theorem matchers_subquery : (subquery e r s mods).matchers = e.matchers := by
  simp [matchers]

@[simp] theorem pluses_paren : (paren e).pluses = e.pluses := by simp [pluses]
@[simp] theorem pluses_subquery : (subquery e r s mods).pluses = e.pluses := by
  simp [pluses]

end Expr

/-! ## What follows an expression, and what it starts with -/

/-- An operator that follows an expression becomes part of its last operand unless it binds
looser than this. -/
def Expr.edge : Expr → Nat
  | .unary _ e => min BinaryOp.power.precedence e.edge
  | .binary op _ r _ _ => min op.rightBound r.edge
  | _ => BinaryOp.power.precedence + 1

/-- The word that an expression starts with, in lower case, unless it is a number. -/
def Expr.word? : Expr → Option String
  | .selector n _ _ _ => n.map lower
  | .call f _ => some (lower f)
  | .aggregate op _ _ _ => some op
  | .binary _ l _ _ _ => l.word?
  | .subquery e _ _ _ => e.word?
  | _ => none

/-- The words that have a meaning between an operator and its right operand. -/
def matchingWords : List String := ["bool", "on", "ignoring", "group_left", "group_right"]

/-! ## Trees -/

/-- Whether a number that was read can have a text. -/
def IsNumber (t : String) : Prop :=
  LexesAs t.toList (.number t) ∨ isDuration t.toList = true ∨ lower t = "inf" ∨ lower t = "nan"

/-- Whether a shift in time is a duration, with a minus in front of it or without. -/
def IsOffset (o : String) : Prop :=
  ∃ d : String, isDuration d.toList = true ∧ (o = d ∨ o = "-" ++ d)

/-- Whether a point in time is a number or an end of the queried range. -/
def IsTime (t : String) : Prop :=
  LexesAs t.toList (.number t) ∨ t = "start()" ∨ t = "end()"

def AreLabels (ls : List String) : Prop := ∀ l ∈ ls, isIdent l.toList = true

structure Modifiers.IsRead (m : Modifiers) : Prop where
  offset : ∀ o ∈ m.offset, IsOffset o
  time : ∀ t ∈ m.time, IsTime t

structure VectorMatching.IsRead (m : VectorMatching) : Prop where
  some : m.clause.isSome = true ∨ m.group.isSome = true
  clause : ∀ c ∈ m.clause, AreLabels c.labels
  group : ∀ g ∈ m.group, AreLabels g.2

/-- Whether an operand goes on where the words after an operator end: it does not start with a
word that would still have a meaning there. -/
structure StartsAfter (returnBool : Bool) (m : Option VectorMatching) (e : Expr) : Prop where
  bool : returnBool = false → m = none → e.word? ≠ some "bool"
  clause : m = none → e.word? ≠ some "on" ∧ e.word? ≠ some "ignoring"
  group : (∀ v ∈ m, v.group = none) → e.word? ≠ some "group_left" ∧ e.word? ≠ some "group_right"

variable (S : Nat → Expr → Prop)

/-- The operands without a sign, over the expressions inside them. -/
inductive Operand : Expr → Prop
  | number {t : String} (ht : IsNumber t) : Operand (.number t)
  | string (v : String) : Operand (.string v)
  | selector {n : Option String} {ms : List LabelMatcher} {r : Option String} {mods : Modifiers}
      (hn : ∀ s ∈ n, isIdent s.toList = true ∧ lower s ≠ "inf" ∧ lower s ≠ "nan")
      (hms : n = none → ms ≠ []) (hr : ∀ d ∈ r, isDuration d.toList = true)
      (hmods : mods.IsRead) : Operand (.selector n ms r mods)
  | call {f : String} {args : List Expr} (hf : isIdent f.toList = true)
      (hagg : lower f ∉ aggregations) (hargs : ∀ a ∈ args, S 0 a) : Operand (.call f args)
  | aggregate {op : String} {param : Option Expr} {body : Expr} {g : Option Grouping}
      (hop : op ∈ aggregations) (hparam : ∀ p ∈ param, S 0 p) (hbody : S 0 body)
      (hg : ∀ c ∈ g, AreLabels c.labels) : Operand (.aggregate op param body g)
  | paren {e : Expr} (he : S 0 e) : Operand (.paren e)
  | subquery {e : Expr} {r : String} {s : Option String} {mods : Modifiers} (he : Operand e)
      (hr : isDuration r.toList = true) (hs : ∀ d ∈ s, isDuration d.toList = true)
      (hmods : mods.IsRead) : Operand (.subquery e r s mods)

/-- The expressions whose operators bind at least as tightly as a bound. -/
inductive Spine (bound : Nat) : Expr → Prop
  | operand {e : Expr} (he : Operand S e) : Spine bound e
  | unary (s : Sign) {e : Expr} (he : S BinaryOp.power.precedence e) : Spine bound (.unary s e)
  | binary {op : BinaryOp} {l r : Expr} {b : Bool} {m : Option VectorMatching}
      (hl : Spine bound l) (hbound : bound ≤ op.precedence) (hedge : op.precedence < l.edge)
      (hr : S op.rightBound r) (hm : ∀ v ∈ m, v.IsRead) (hstart : StartsAfter b m r) :
      Spine bound (.binary op l r b m)

/-- The expressions that are read with a number of levels left. -/
def Readable : (levels : Nat) → (bound : Nat) → Expr → Prop
  | 0 => fun _ _ => False
  | n + 1 => Spine (Readable n)

/-! ## The parts of a tree -/

variable {S} {e p : Expr} {levels bound : Nat}

theorem of_mem_parts_operand {Q : Expr → Prop} (hS : ∀ bound e, S bound e → ∀ p ∈ e.parts, Q p)
    (hQ : ∀ e, Operand S e → Q e) (he : Operand S e) : ∀ p ∈ e.parts, Q p := by
  induction he with
  | number ht => exact fun p hp => List.mem_singleton.1 hp ▸ hQ _ (.number ht)
  | string v => exact fun p hp => List.mem_singleton.1 hp ▸ hQ _ (.string v)
  | selector hn hms hr hmods =>
    exact fun p hp => List.mem_singleton.1 hp ▸ hQ _ (.selector hn hms hr hmods)
  | call hf hagg hargs =>
    intro p hp
    rw [Expr.parts_call] at hp
    rcases List.mem_cons.1 hp with rfl | hp
    · exact hQ _ (.call hf hagg hargs)
    · obtain ⟨a, ha, hp⟩ := List.mem_flatMap.1 hp
      exact hS _ _ (hargs a ha) p hp
  | @aggregate op param body g hop hparam hbody hg =>
    intro p hp
    rcases List.mem_append.1 hp with hp | hp
    · rcases List.mem_cons.1 hp with rfl | hp
      · exact hQ _ (.aggregate hop hparam hbody hg)
      · cases param with
        | none => cases hp
        | some e => exact hS _ _ (hparam e rfl) p hp
    · exact hS _ _ hbody p hp
  | paren he =>
    intro p hp
    rcases List.mem_cons.1 hp with rfl | hp
    · exact hQ _ (.paren he)
    · exact hS _ _ he p hp
  | subquery he hr hs hmods ih =>
    intro p hp
    rcases List.mem_cons.1 hp with rfl | hp
    · exact hQ _ (.subquery he hr hs hmods)
    · exact ih p hp

/-- What holds of every tree that could be read holds of the parts of one. -/
theorem of_mem_parts {Q : Expr → Prop} (hQ : ∀ levels bound e, Readable levels bound e → Q e)
    (h : Readable levels bound e) : ∀ p ∈ e.parts, Q p := by
  induction levels generalizing bound e with
  | zero => cases h
  | succ levels ih =>
    have hoperand := fun e => hQ (levels + 1) 0 e ∘ @Spine.operand _ 0 e
    induction h with
    | operand he => exact of_mem_parts_operand (fun _ _ he => ih he) hoperand he
    | unary s he =>
      intro p hp
      rcases List.mem_cons.1 hp with rfl | hp
      · exact hQ (levels + 1) 0 _ (.unary s he)
      · exact ih he p hp
    | @binary op l r b m hl hbound hedge hr hm hstart ihl =>
      intro p hp
      rcases List.mem_append.1 hp with hp | hp
      · rcases List.mem_cons.1 hp with rfl | hp
        · exact hQ (levels + 1) _ _ (.binary hl hbound hedge hr hm hstart)
        · exact ihl p hp
      · exact ih hr p hp

theorem isNumber_of_mem_numbers (h : Readable levels bound e) : ∀ t ∈ e.numbers, IsNumber t := by
  intro t ht
  obtain ⟨p, hp, htext⟩ := List.mem_filterMap.1 ht
  refine of_mem_parts (Q := fun p => ∀ t, p = .number t → IsNumber t) ?_ h p hp t ?_
  · rintro levels bound _ he t rfl
    cases levels with
    | zero => cases he
    | succ levels =>
      cases he with
      | operand he =>
        cases he with
        | number ht => exact ht
  · split at htext
    · cases htext
      rfl
    · cases htext

end RuleCatalog.Query
