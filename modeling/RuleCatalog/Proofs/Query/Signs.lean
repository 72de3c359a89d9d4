import RuleCatalog.Proofs.Query.Layout
import RuleCatalog.Proofs.Query.Numeral
import RuleCatalog.Proofs.Query.ReadTokens

/-! # Signs and braces among the tokens of a tree

A plus sign in a tree is one among its tokens, and so is an infinity; braces stand around its
matchers only, as they are scanned as well. Main statements: `count_plus_tokens`,
`infinityToken_mem_tokens_iff` and `braces_tokens`. -/
namespace RuleCatalog.Query
open Text

/-- Whether a token is neither a plus sign nor an infinity and opens no matchers. -/
def Token.IsInert (t : Token) : Prop := t ≠ .symbol .plus ∧ t ≠ infinityToken ∧ t ≠ .leftBrace

instance (t : Token) : Decidable t.IsInert := inferInstanceAs (Decidable (_ ∧ _))

variable {t : Token} {ts : List Token}

theorem isInert_ident (n : String) : (Token.ident n).IsInert := by simp [Token.IsInert, infinityToken]

theorem isInert_duration (d : String) : (Token.duration d).IsInert := by
  simp [Token.IsInert, infinityToken]

theorem isInert_string (v : String) : (Token.string v).IsInert := by
  simp [Token.IsInert, infinityToken]

theorem isInert_intercalate {α : Type} {tokens : α → List Token} {items : List α}
    (h : ∀ a ∈ items, ∀ t ∈ tokens a, t.IsInert) :
    ∀ t ∈ List.intercalate [.comma] (items.map tokens), t.IsInert := by
  induction items with
  | nil => simp
  | cons a items ih =>
    cases items with
    | nil =>
      rw [List.map_singleton, List.intercalate_singleton]
      exact h a List.mem_cons_self
    | cons b items =>
      have hrest := ih fun x hx => h x (List.mem_cons_of_mem a hx)
      rw [List.map_cons] at hrest ⊢
      rw [List.map_cons, List.intercalate_cons_cons]
      intro t ht
      rcases List.mem_append.1 ht with ht | ht
      · rcases List.mem_append.1 ht with ht | ht
        · exact h a List.mem_cons_self t ht
        · rw [List.mem_singleton.1 ht]
          decide
      · exact hrest t ht

theorem isInert_labelTokens (ls : List String) : ∀ t ∈ labelTokens ls, t.IsInert := by
  intro t ht
  rw [labelTokens, List.cons_append, List.mem_cons, List.mem_append, List.mem_singleton] at ht
  rcases ht with rfl | ht | rfl
  · decide
  · refine isInert_intercalate (fun l _ t ht => ?_) t ht
    rw [List.mem_singleton.1 ht]
    exact isInert_ident l
  · decide

theorem isInert_matchers (ms : List LabelMatcher) :
    ∀ t ∈ List.intercalate [.comma] (ms.map LabelMatcher.tokens), t.IsInert := by
  refine isInert_intercalate fun m _ t ht => ?_
  simp only [LabelMatcher.tokens, List.mem_cons, List.not_mem_nil, or_false] at ht
  rcases ht with rfl | rfl | rfl
  · exact isInert_ident _
  · cases m.op <;> decide
  · exact isInert_string _

theorem isInert_rangeTokens (r : Option String) : ∀ t ∈ rangeTokens r, t.IsInert := by
  intro t ht
  cases r with
  | none => cases ht
  | some d =>
    simp only [rangeTokens, List.mem_cons, List.not_mem_nil, or_false] at ht
    rcases ht with rfl | rfl | rfl
    · decide
    · exact isInert_duration d
    · decide

theorem isInert_modifierTokens {m : Modifiers} (hm : m.IsRead) : ∀ t ∈ m.tokens, t.IsInert := by
  intro t ht
  rcases List.mem_append.1 ht with ht | ht
  · cases ho : m.offset with
    | none =>
      rw [ho] at ht
      cases ht
    | some o =>
      rw [ho, Option.map_some, Option.getD_some, offsetTokens] at ht
      split at ht
      · simp only [List.mem_cons, List.not_mem_nil, or_false] at ht
        rcases ht with rfl | rfl | rfl
        · exact isInert_ident _
        · decide
        · exact isInert_duration _
      · simp only [List.mem_cons, List.not_mem_nil, or_false] at ht
        rcases ht with rfl | rfl
        · exact isInert_ident _
        · exact isInert_duration _
  · cases htime : m.time with
    | none =>
      rw [htime] at ht
      cases ht
    | some x =>
      rw [htime, Option.map_some, Option.getD_some] at ht
      rcases hm.time x htime with hx | rfl | rfl
      · rw [timeTokens_of_number hx] at ht
        simp only [List.mem_cons, List.not_mem_nil, or_false] at ht
        rcases ht with rfl | rfl
        · decide
        · exact ⟨by simp, ne_infinity_of_isLexeme hx, by simp⟩
      · have hall : ∀ t ∈ timeTokens "start()", t.IsInert := by decide
        exact hall t ht
      · have hall : ∀ t ∈ timeTokens "end()", t.IsInert := by decide
        exact hall t ht

theorem isInert_groupingTokens (g : Option Grouping) :
    ∀ t ∈ (g.map Grouping.tokens).getD [], t.IsInert := by
  intro t ht
  cases g with
  | none => cases ht
  | some g =>
    rcases List.mem_cons.1 ht with rfl | ht
    · exact isInert_ident _
    · exact isInert_labelTokens g.labels t ht

theorem isInert_matchingTokens (b : Bool) (m : Option VectorMatching) :
    ∀ t ∈ matchingTokens b m, t.IsInert := by
  intro t ht
  rcases List.mem_append.1 ht with ht | ht
  · cases b with
    | false => cases ht
    | true =>
      rw [List.mem_singleton.1 ht]
      exact isInert_ident _
  · cases m with
    | none => cases ht
    | some v =>
      obtain ⟨c, g⟩ := v
      rcases List.mem_append.1 ht with ht | ht
      · cases c with
        | none => cases ht
        | some c =>
          rcases List.mem_cons.1 ht with rfl | ht
          · exact isInert_ident _
          · exact isInert_labelTokens c.labels t ht
      · cases g with
        | none => cases ht
        | some g =>
          rcases List.mem_cons.1 ht with rfl | ht
          · exact isInert_ident _
          · exact isInert_labelTokens g.2 t ht

/-! ## Counting -/

/-- Whether only plus signs and infinities are counted. -/
def Counts (p : Token → Bool) : Prop := ∀ t : Token, t.IsInert ∨ t = .leftBrace → p t = false

/-- How many tokens of an expression are counted. -/
def weight (p : Token → Bool) (e : Expr) : Nat :=
  [Token.symbol .plus].countP p * e.pluses + e.numbers.countP fun t => p (numberToken t)

section
variable {p : Token → Bool} {S : Nat → Expr → Prop} {e : Expr}

theorem Counts.countP_eq_zero (hp : Counts p) (h : ∀ t ∈ ts, t.IsInert) : ts.countP p = 0 :=
  List.countP_eq_zero.2 fun t ht => by rw [hp t (.inl (h t ht))]; exact Bool.false_ne_true

theorem Counts.countP_cons (hp : Counts p) (h : t.IsInert) : (t :: ts).countP p = ts.countP p :=
  List.countP_cons_of_neg (by rw [hp t (.inl h)]; exact Bool.false_ne_true)

theorem countP_selectorTokens (hp : Counts p) (n : Option String) (ms : List LabelMatcher) :
    (selectorTokens n ms).countP p = 0 := by
  have hmatchers : (matcherTokens ms).countP p = 0 := by
    rw [matcherTokens, List.cons_append, List.countP_cons_of_neg (by simp [hp _ (.inr rfl)]),
      List.countP_append, hp.countP_eq_zero (isInert_matchers ms), hp.countP_eq_zero (by decide)]
  cases n with
  | none => exact hmatchers
  | some n =>
    cases ms with
    | nil => exact hp.countP_cons (isInert_ident n)
    | cons m ms => exact (hp.countP_cons (isInert_ident n)).trans hmatchers

theorem weight_call (p : Token → Bool) (f : String) (args : List Expr) :
    weight p (.call f args) = (args.map (weight p)).sum := by
  induction args with
  | nil => simp [weight]
  | cons a args ih =>
    rw [List.map_cons, List.sum_cons, ← ih]
    simp only [weight, Expr.pluses_call, Expr.numbers_call, List.map_cons, List.sum_cons,
      List.flatMap_cons, List.countP_append, Nat.mul_add]
    omega

theorem weight_aggregate (p : Token → Bool) (op : String) (param : Option Expr) (body : Expr)
    (g : Option Grouping) :
    weight p (.aggregate op param body g) = (param.map (weight p)).getD 0 + weight p body := by
  cases param with
  | none =>
    simp only [weight, Expr.pluses_aggregate, Expr.numbers_aggregate, Option.map_none,
      Option.getD_none, Nat.zero_add, List.nil_append]
  | some e =>
    simp only [weight, Expr.pluses_aggregate, Expr.numbers_aggregate, Option.map_some,
      Option.getD_some, List.countP_append, Nat.mul_add]
    omega

theorem countP_tokensAll (hp : Counts p) {args : List Expr}
    (h : ∀ a ∈ args, a.tokens.countP p = weight p a) :
    (Expr.tokensAll args).countP p = (args.map (weight p)).sum := by
  induction args with
  | nil => rfl
  | cons a args ih =>
    have ha := h a List.mem_cons_self
    have hrest := ih fun x hx => h x (List.mem_cons_of_mem a hx)
    cases args with
    | nil => simpa [Expr.tokensAll] using ha
    | cons b args =>
      rw [Expr.tokensAll, List.countP_append, ha, hp.countP_cons (by decide), hrest,
        List.map_cons (a := a), List.sum_cons]
      exact List.cons_ne_nil b args

theorem countP_operand (hp : Counts p)
    (hS : ∀ bound e, S bound e → e.tokens.countP p = weight p e) (he : Operand S e) :
    e.tokens.countP p = weight p e := by
  have hright : [Token.rightParen].countP p = 0 := hp.countP_eq_zero (by decide)
  induction he with
  | number ht => simp [Expr.tokens, weight]
  | string v =>
    rw [Expr.tokens, hp.countP_cons (isInert_string v)]
    rfl
  | @selector n ms r mods hn hms hr hmods =>
    rw [Expr.tokens, List.countP_append, List.countP_append,
      countP_selectorTokens hp, hp.countP_eq_zero (isInert_rangeTokens r),
      hp.countP_eq_zero (isInert_modifierTokens hmods)]
    rfl
  | @call f args hf hagg hargs =>
    rw [Expr.tokens, List.countP_append, hp.countP_cons (isInert_ident f),
      hp.countP_cons (by decide), hright, countP_tokensAll hp fun a ha => hS _ _ (hargs a ha),
      weight_call, Nat.add_zero]
  | @aggregate op param body g hop hparam hbody hg =>
    have hparam' : (Expr.tokensParam param).countP p = (param.map (weight p)).getD 0 := by
      cases param with
      | none => rfl
      | some e =>
        rw [Expr.tokensParam, List.countP_append, hS _ _ (hparam e rfl), hp.countP_eq_zero (by decide)]
        rfl
    rw [Expr.tokens, List.countP_append, List.countP_append, List.countP_append,
      hp.countP_cons (isInert_ident op), hp.countP_eq_zero (isInert_groupingTokens g),
      hp.countP_cons (by decide), hparam', hS _ _ hbody, hright, weight_aggregate]
    omega
  | @paren e he =>
    rw [Expr.tokens, List.countP_append, hp.countP_cons (by decide), hS _ _ he, hright, weight,
      weight, Expr.pluses_paren, Expr.numbers_paren, Nat.add_zero]
  | @subquery e r s mods he hr hs hmods ih =>
    have hstep : ((s.map Token.duration).toList).countP p = 0 := by
      apply hp.countP_eq_zero
      cases s with
      | none => simp
      | some d => simp [isInert_duration]
    rw [Expr.tokens, List.countP_append, List.countP_append, ih, hp.countP_cons (by decide),
      hp.countP_cons (isInert_duration r), hp.countP_cons (by decide), hstep,
      hp.countP_cons (by decide), hp.countP_eq_zero (isInert_modifierTokens hmods), weight, weight,
      Expr.pluses_subquery, Expr.numbers_subquery]
    rfl

theorem countP_spine (hp : Counts p)
    (hS : ∀ bound e, S bound e → e.tokens.countP p = weight p e) {bound : Nat} (he : Spine S bound e) :
    e.tokens.countP p = weight p e := by
  induction he with
  | operand he => exact countP_operand hp hS he
  | @unary s e he =>
    rw [Expr.tokens, weight, Expr.pluses_unary, Expr.numbers_unary]
    cases s with
    | minus =>
      rw [hp.countP_cons (by decide), hS _ _ he, if_neg (by decide)]
      rfl
    | plus =>
      rw [← List.singleton_append, List.countP_append, hS _ _ he, if_pos rfl, weight, Nat.mul_add]
      show [Token.symbol .plus].countP p + _ = _
      omega
  | @binary op l r b m hl hbound hedge hr hm hstart ih =>
    have hop : [op.token].countP p
        = [Token.symbol .plus].countP p * if op = .plus then 1 else 0 := by
      cases op with
      | plus => rw [if_pos rfl, Nat.mul_one, BinaryOp.token]
      | or | and | «unless» | atan2 => exact hp.countP_eq_zero (by simp [BinaryOp.token, isInert_ident])
      | _ => exact hp.countP_eq_zero (by simp only [BinaryOp.token]; decide)
    rw [Expr.tokens, ← List.singleton_append, List.countP_append, List.countP_append,
      List.countP_append, ih, hop, hp.countP_eq_zero (isInert_matchingTokens b m), hS _ _ hr, weight,
      weight, weight, Expr.pluses_binary, Expr.numbers_binary, List.countP_append, Nat.mul_add,
      Nat.mul_add]
    omega

theorem countP_tokens (hp : Counts p) {levels bound : Nat} (he : Readable levels bound e) :
    e.tokens.countP p = weight p e := by
  induction levels generalizing bound e with
  | zero => cases he
  | succ levels ih => exact countP_spine hp (fun _ _ he => ih he) he

end

variable {levels bound : Nat} {e : Expr}

theorem numberToken_ne_plus (x : String) : numberToken x ≠ .symbol .plus := by
  unfold numberToken
  split
  · simp
  · split <;> simp

theorem numberToken_of_inf {x : String} (h : lower x = "inf") : numberToken x = infinityToken := by
  rw [numberToken, h, respell, writeNumber_inf h, if_neg (by decide),
    if_neg fun hduration => (isDuration_eq_true hduration).1 rfl]
  rfl

theorem numberToken_eq_infinity_iff {x : String} (hx : IsNumber x) :
    numberToken x = infinityToken ↔ lower x = "inf" := by
  refine ⟨fun h => ?_, numberToken_of_inf⟩
  by_cases hinf : lower x = "inf"
  · exact hinf
  · exfalso
    by_cases hnan : lower x = "nan"
    · rw [numberToken, if_pos hnan] at h
      cases h
    · have hlex := lexesAs_writeNumber hx hinf hnan
      rw [numberToken, if_neg hnan] at h hlex
      split at h
      · cases h
      · rename_i hduration
        rw [if_neg hduration] at hlex
        refine ne_infinity_of_isLexeme (t := .number (respell x)) ?_ h
        rwa [Token.IsLexeme, respell, String.toList_ofList]

/-- Every plus sign of a tree is one of its tokens. -/
theorem count_plus_tokens (he : Readable levels bound e) :
    e.tokens.count (.symbol .plus) = e.pluses := by
  have hp : Counts (· == .symbol .plus) := fun t ht => beq_eq_false_iff_ne.2 <|
    ht.elim (·.1) fun h => by simp [h]
  have hnumbers : e.numbers.countP (fun x => numberToken x == .symbol .plus) = 0 :=
    List.countP_eq_zero.2 fun x _ => by simp [numberToken_ne_plus]
  rw [List.count, countP_tokens hp he, weight, hnumbers, Nat.add_zero]
  simp

/-- Infinity is a token of a tree if one of its numbers is infinite. -/
theorem infinityToken_mem_tokens_iff (he : Readable levels bound e) :
    infinityToken ∈ e.tokens ↔ ∃ x ∈ e.numbers, lower x = "inf" := by
  have hp : Counts (· == infinityToken) := fun t ht => beq_eq_false_iff_ne.2 <|
    ht.elim (·.2.1) fun h => by simp [h, infinityToken]
  have hcount : e.tokens.count infinityToken
      = e.numbers.countP fun x => numberToken x == infinityToken := by
    rw [List.count, countP_tokens hp he, weight]
    simp [infinityToken]
  rw [← List.count_pos_iff, hcount, List.countP_pos_iff]
  simp only [beq_iff_eq]
  exact exists_congr fun x => and_congr_right fun hx =>
    numberToken_eq_infinity_iff (isNumber_of_mem_numbers he x hx)

/-! ## Braces -/

section
variable {M : LabelMatcher → Prop} {rest us : List Token} {S : Nat → Expr → Prop}

theorem braces_nil : Braces M [] := by
  intro us vs heq
  cases us <;> cases heq

theorem braces_cons (ht : t ≠ .leftBrace) (h : Braces M rest) : Braces M (t :: rest) := by
  intro us vs heq
  cases us with
  | nil => exact absurd (List.cons.inj heq).1 ht
  | cons u us => exact h us vs (List.cons.inj heq).2

theorem braces_append (hus : .leftBrace ∉ us) (h : Braces M rest) : Braces M (us ++ rest) := by
  induction us with
  | nil => exact h
  | cons u us ih =>
    rw [List.mem_cons, not_or] at hus
    exact braces_cons (Ne.symm hus.1) (ih hus.2)

theorem braces_matcherTokens {ms : List LabelMatcher} (hms : ∀ m ∈ ms, M m) (h : Braces M rest) :
    Braces M (matcherTokens ms ++ rest) := by
  have hinside : Braces M (List.intercalate [.comma] (ms.map LabelMatcher.tokens)
      ++ .rightBrace :: rest) :=
    braces_append (fun hmem => (isInert_matchers ms _ hmem).2.2 rfl) (braces_cons (by simp) h)
  rw [matcherTokens, List.append_assoc, List.cons_append]
  intro us vs heq
  cases us with
  | nil =>
    obtain ⟨-, rfl⟩ := List.cons.inj heq
    intro ms' rest' hread
    rw [List.singleton_append, readMatchers_tokens] at hread
    cases hread
    exact hms
  | cons u us => exact hinside us vs (List.cons.inj heq).2

theorem scanned_of_isInert (h : ∀ t ∈ us, t.IsInert) : us.flatMap Token.scanned = us :=
  flatMap_scanned fun hmem => (h _ hmem).2.1 rfl

theorem braces_scanned (hus : ∀ t ∈ us, t.IsInert) (h : Braces M rest) :
    Braces M (us.flatMap Token.scanned ++ rest) := by
  rw [scanned_of_isInert hus]
  exact braces_append (fun hmem => (hus _ hmem).2.2 rfl) h

theorem braces_scanned_cons (ht : t ≠ .leftBrace) (h : Braces M rest) :
    Braces M (t.scanned ++ rest) := by
  unfold Token.scanned
  split
  · exact braces_cons (by simp) (braces_cons (by simp) h)
  · exact braces_cons ht h

/-- Whether the braces in an expression, as it is scanned, stand around its matchers. -/
def HasBraces (M : LabelMatcher → Prop) (e : Expr) : Prop :=
  (∀ m ∈ e.matchers, M m) → ∀ rest, Braces M rest → Braces M (e.tokens.flatMap Token.scanned ++ rest)

theorem braces_selectorTokens (n : Option String) {ms : List LabelMatcher} (hms : ∀ m ∈ ms, M m)
    (h : Braces M rest) : Braces M ((selectorTokens n ms).flatMap Token.scanned ++ rest) := by
  have hmatchers : Braces M ((matcherTokens ms).flatMap Token.scanned ++ rest) := by
    have hinert : infinityToken ∉ matcherTokens ms := by
      rw [matcherTokens, List.cons_append, List.mem_cons, not_or]
      refine ⟨by simp [infinityToken], fun hmem => ?_⟩
      rcases List.mem_append.1 hmem with hmem | hmem
      · exact (isInert_matchers ms _ hmem).2.1 rfl
      · exact absurd (List.mem_singleton.1 hmem) (by simp [infinityToken])
    rw [flatMap_scanned hinert]
    exact braces_matcherTokens hms h
  cases n with
  | none => exact hmatchers
  | some n =>
    cases ms with
    | nil =>
      have hinert : ∀ t ∈ [Token.ident n], t.IsInert := by simp [isInert_ident]
      exact braces_scanned hinert h
    | cons m ms =>
      rw [selectorTokens, List.flatMap_cons, List.append_assoc]
      · exact braces_scanned_cons (by simp) hmatchers
      · simp

theorem numberToken_ne_leftBrace (x : String) : numberToken x ≠ .leftBrace := by
  unfold numberToken
  split
  · simp
  · split <;> simp

theorem braces_tokensAll {args : List Expr} (hargs : ∀ a ∈ args, HasBraces M a)
    (hm : ∀ a ∈ args, ∀ m ∈ a.matchers, M m) (h : Braces M rest) :
    Braces M ((Expr.tokensAll args).flatMap Token.scanned ++ rest) := by
  induction args with
  | nil => exact h
  | cons a args ih =>
    have ha := hargs a List.mem_cons_self (hm a List.mem_cons_self)
    cases args with
    | nil => exact ha rest h
    | cons b args =>
      rw [Expr.tokensAll, List.flatMap_append, List.flatMap_cons, List.append_assoc,
        List.append_assoc]
      · exact ha _ (braces_scanned_cons (by simp)
          (ih (fun x hx => hargs x (List.mem_cons_of_mem a hx))
            fun x hx => hm x (List.mem_cons_of_mem a hx)))
      · simp

theorem hasBraces_operand (hS : ∀ bound e, S bound e → HasBraces M e) {e : Expr}
    (he : Operand S e) : HasBraces M e := by
  induction he with
  | @number x hx =>
    intro _ rest h
    rw [Expr.tokens, List.flatMap_singleton]
    exact braces_scanned_cons (numberToken_ne_leftBrace x) h
  | string v =>
    intro _ rest h
    have hinert : ∀ t ∈ [Token.string v], t.IsInert := by simp [isInert_string]
    exact braces_scanned hinert h
  | @selector n ms r mods hn hms hr hmods =>
    intro hm rest h
    rw [Expr.matchers_selector] at hm
    rw [Expr.tokens, List.flatMap_append, List.flatMap_append, List.append_assoc, List.append_assoc]
    exact braces_selectorTokens n hm (braces_scanned (isInert_rangeTokens r)
      (braces_scanned (isInert_modifierTokens hmods) h))
  | @call f args hf hagg hargs =>
    intro hm rest h
    rw [Expr.matchers_call] at hm
    have hright : Braces M ([Token.rightParen].flatMap Token.scanned ++ rest) :=
      braces_scanned (by decide) h
    have hall := braces_tokensAll (fun a ha => hS _ _ (hargs a ha))
      (fun a ha m hmem => hm m (List.mem_flatMap.2 ⟨a, ha, hmem⟩)) hright
    simp only [Expr.tokens, List.flatMap_append, List.flatMap_cons, List.append_assoc]
      at hall ⊢
    exact braces_scanned_cons (by simp) (braces_scanned_cons (by simp) hall)
  | @aggregate op param body g hop hparam hbody hg =>
    intro hm rest h
    rw [Expr.matchers_aggregate] at hm
    have hright : Braces M ([Token.rightParen].flatMap Token.scanned ++ rest) :=
      braces_scanned (by decide) h
    have hbody' := hS _ _ hbody (fun m hmem => hm m (List.mem_append_right _ hmem)) _ hright
    have hparam' : Braces M ((Expr.tokensParam param).flatMap Token.scanned
        ++ (body.tokens.flatMap Token.scanned ++ ([Token.rightParen].flatMap Token.scanned ++ rest))) := by
      cases param with
      | none => exact hbody'
      | some e =>
        have hmatchers : ∀ m ∈ e.matchers, M m := fun m hmem => hm m (List.mem_append_left _ hmem)
        rw [Expr.tokensParam, List.flatMap_append, List.append_assoc]
        exact hS _ _ (hparam e rfl) hmatchers _ (braces_scanned (by decide) hbody')
    simp only [Expr.tokens, List.flatMap_append, List.flatMap_cons, List.append_assoc]
      at hparam' ⊢
    exact braces_scanned_cons (by simp)
      (braces_scanned (isInert_groupingTokens g) (braces_scanned_cons (by simp) hparam'))
  | @paren e he =>
    intro hm rest h
    rw [Expr.matchers_paren] at hm
    have hright : Braces M ([Token.rightParen].flatMap Token.scanned ++ rest) :=
      braces_scanned (by decide) h
    rw [Expr.tokens, List.cons_append, List.flatMap_cons, List.flatMap_append, List.append_assoc,
      List.append_assoc]
    exact braces_scanned_cons (by simp) (hS _ _ he hm _ hright)
  | @subquery e r s mods he hr hs hmods ih =>
    intro hm rest h
    rw [Expr.matchers_subquery] at hm
    have hstep : ∀ t ∈ (s.map Token.duration).toList, t.IsInert := by
      cases s with
      | none => simp
      | some d => simp [isInert_duration]
    have hmods' : Braces M (mods.tokens.flatMap Token.scanned ++ rest) :=
      braces_scanned (isInert_modifierTokens hmods) h
    simp only [Expr.tokens, List.flatMap_append, List.flatMap_cons, List.append_assoc]
    exact ih hm _ (braces_scanned_cons (by simp) (braces_scanned_cons (by simp)
      (braces_scanned_cons (by simp) (braces_scanned hstep (braces_scanned_cons (by simp) hmods')))))

theorem hasBraces_spine (hS : ∀ bound e, S bound e → HasBraces M e) {bound : Nat} {e : Expr}
    (he : Spine S bound e) : HasBraces M e := by
  induction he with
  | operand he => exact hasBraces_operand hS he
  | @unary s e he =>
    intro hm rest h
    rw [Expr.matchers_unary] at hm
    rw [Expr.tokens, List.flatMap_cons, List.append_assoc]
    exact braces_scanned_cons (by simp) (hS _ _ he hm rest h)
  | @binary op l r b m hl hbound hedge hr hm hstart ih =>
    intro hall rest h
    rw [Expr.matchers_binary] at hall
    have hop : op.token ≠ .leftBrace := by cases op <;> simp [BinaryOp.token]
    have hright := hS _ _ hr (fun k hk => hall k (List.mem_append_right _ hk)) rest h
    simp only [Expr.tokens, List.flatMap_append, List.flatMap_cons, List.append_assoc]
    exact ih (fun k hk => hall k (List.mem_append_left _ hk)) _
      (braces_scanned_cons hop (braces_scanned (isInert_matchingTokens b m) hright))

theorem hasBraces_of_readable (he : Readable levels bound e) : HasBraces M e := by
  induction levels generalizing bound e with
  | zero => cases he
  | succ levels ih => exact hasBraces_spine (fun _ _ he => ih he) he

end

end RuleCatalog.Query
