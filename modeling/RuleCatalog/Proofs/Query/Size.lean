import RuleCatalog.Proofs.Query.RoundTrip

/-! # How large trees are

Each expression in a tree that is read has a token of its own, so the limit on the tokens of a
query bounds the number of expressions and how deep they contain one another. The limit on
nesting alone does not: rows of operators and of subqueries make a tree deeper without it.
Main statement: `size_and_height_le_of_parse`. -/
namespace RuleCatalog.Query

/-! ## Numbers of expressions -/

/-- The number of expressions in a tree. -/
def Expr.size (e : Expr) : Nat := e.parts.length

mutual

/-- The number of expressions on a longest way down a tree. -/
def Expr.height : Expr → Nat
  | .number _ => 1
  | .string _ => 1
  | .selector _ _ _ _ => 1
  | .call _ args => Expr.heightAll args + 1
  | .aggregate _ param body _ => max (Expr.heightOption param) body.height + 1
  | .binary _ l r _ _ => max l.height r.height + 1
  | .unary _ e => e.height + 1
  | .paren e => e.height + 1
  | .subquery e _ _ _ => e.height + 1

def Expr.heightAll : List Expr → Nat
  | [] => 0
  | e :: es => max e.height (Expr.heightAll es)

def Expr.heightOption : Option Expr → Nat
  | none => 0
  | some e => e.height

end

namespace Expr
variable {t v f op r : String} {n s : Option String} {ms : List LabelMatcher} {mods : Modifiers}
  {args : List Expr} {param : Option Expr} {body e l : Expr} {g : Option Grouping}
  {bop : BinaryOp} {b : Bool} {m : Option VectorMatching} {sign : Sign}

@[simp] theorem size_number : (number t).size = 1 := rfl
@[simp] theorem size_string : (string v).size = 1 := rfl
@[simp] theorem size_selector : (selector n ms s mods).size = 1 := rfl

@[simp] theorem size_call : (call f args).size = (args.map size).sum + 1 := by
  rw [size, parts_call, List.length_cons, List.length_flatMap]
  rfl

@[simp] theorem size_aggregate :
    (aggregate op param body g).size = (param.map size).getD 0 + body.size + 1 := by
  cases param <;> simp [size]

@[simp] theorem size_binary : (binary bop l e b m).size = l.size + e.size + 1 := by
  simp [size]

@[simp] theorem size_unary : (unary sign e).size = e.size + 1 := rfl
@[simp] theorem size_paren : (paren e).size = e.size + 1 := rfl
@[simp] theorem size_subquery : (subquery e r s mods).size = e.size + 1 := rfl

theorem size_sort (e : Expr) : e.sort.size = e.size := by
  rw [size, parts_sort, List.length_map, size]

theorem heightAll_le_sum (h : ∀ a ∈ args, a.height ≤ a.size) :
    heightAll args ≤ (args.map size).sum := by
  induction args with
  | nil => simp [heightAll]
  | cons a args ih =>
    have ha := h a (by simp)
    have hargs := ih fun a' ha' => h a' (by simp [ha'])
    simp only [heightAll, List.map_cons, List.sum_cons]
    omega

/-- The expressions on a way down a tree are among those in it. -/
theorem height_le_size (e : Expr) : e.height ≤ e.size := by
  induction e using Expr.induction with
  | number t => simp [height]
  | string v => simp [height]
  | selector n ms r mods => simp [height]
  | call f args ih =>
    have hargs := heightAll_le_sum ih
    simp only [height, size_call]
    omega
  | aggregate op param body g ihp ihb =>
    cases param with
    | none =>
      simp only [height, heightOption, size_aggregate, Option.map_none, Option.getD_none]
      omega
    | some p =>
      have hp := ihp p rfl
      simp only [height, heightOption, size_aggregate, Option.map_some, Option.getD_some]
      omega
  | binary op l r b m ihl ihr =>
    simp only [height, size_binary]
    omega
  | unary s e ih => simpa [height] using ih
  | paren e ih => simpa [height] using ih
  | subquery e r s mods ih => simpa [height] using ih

end Expr

/-! ## Tokens that are spent -/

/-- Tokens are taken off the front of a list, at least a number of them. -/
def Spends (n : Nat) (ts rest : List Token) : Prop := ∃ used, ts = used ++ rest ∧ n ≤ used.length

variable {t : Token} {ts us rest ts₀ : List Token} {m n : Nat} {e e' : Expr}

theorem Takes.spends (h : Takes m ts rest) : Spends 0 ts rest := by
  obtain ⟨used, rfl, -⟩ := h
  exact ⟨used, rfl, Nat.zero_le _⟩

theorem spends_append (used rest : List Token) : Spends used.length (used ++ rest) rest :=
  ⟨used, rfl, Nat.le_refl _⟩

theorem Spends.trans (h : Spends m ts us) (h' : Spends n us rest) : Spends (m + n) ts rest := by
  obtain ⟨used, rfl, hm⟩ := h
  obtain ⟨used', rfl, hn⟩ := h'
  refine ⟨used ++ used', by simp, ?_⟩
  rw [List.length_append]
  omega

theorem Spends.mono (h : Spends n ts rest) (hm : m ≤ n) : Spends m ts rest := by
  obtain ⟨used, rfl, hn⟩ := h
  exact ⟨used, rfl, hm.trans hn⟩

theorem Spends.cons (t : Token) (h : Spends n ts rest) : Spends (n + 1) (t :: ts) rest := by
  have hspends := (spends_append [t] ts).trans h
  rwa [List.length_singleton, Nat.add_comm] at hspends

/-- A token after those that are spent. -/
theorem Spends.snoc (h : Spends n ts (t :: rest)) : Spends (n + 1) ts rest :=
  h.trans (spends_append [t] rest)

theorem Spends.length_le (h : Spends n ts rest) : n ≤ ts.length := by
  obtain ⟨used, rfl, hn⟩ := h
  rw [List.length_append]
  omega

theorem Spends.isLexeme (h : Spends n ts rest) (hts : ∀ t ∈ ts, t.IsLexeme) :
    ∀ t ∈ rest, t.IsLexeme := by
  obtain ⟨used, rfl, -⟩ := h
  exact fun t ht => hts t (List.mem_append_right _ ht)

theorem isLexeme_tail (hts : ∀ u ∈ t :: ts, u.IsLexeme) : ∀ u ∈ ts, u.IsLexeme :=
  fun u hu => hts u (List.mem_cons_of_mem t hu)

/-! ## Suffixes -/

theorem size_of_ranged {d : String} (h : e.ranged d = .ok e') : e'.size = e.size := by
  unfold Expr.ranged at h
  split at h <;> cases h
  simp

theorem size_of_mapModifiers {f : Modifiers → Modifiers} (h : e.mapModifiers f = .ok e') :
    e'.size = e.size := by
  unfold Expr.mapModifiers at h
  split at h <;> cases h <;> simp

/-- Suffixes take tokens for the subqueries that they make of an operand. -/
theorem spends_of_readSuffixes (h₀ : Spends e.size ts₀ ts)
    (h : readSuffixes e ts = .ok (e', rest)) : Spends e'.size ts₀ rest := by
  fun_induction readSuffixes e ts with
  | case3 e d step ts ih =>
    have hspends := h₀.trans (spends_append
      [.leftBracket, .duration d, .colon, .duration step, .rightBracket] ts)
    exact ih (hspends.mono (by simp)) h
  | case6 e d ts ih =>
    have hspends := h₀.trans (spends_append
      [.leftBracket, .duration d, .colon, .rightBracket] ts)
    exact ih (hspends.mono (by simp)) h
  | case9 e d ts ih =>
    obtain ⟨e₁, hranged, h⟩ := bind_eq_ok.1 h
    have hspends := h₀.trans (spends_append [.leftBracket, .duration d, .rightBracket] ts)
    exact ih e₁ (hspends.mono (by simp [size_of_ranged hranged])) h
  | case12 e n hn d ts ih =>
    obtain ⟨e₁, hmap, h⟩ := bind_eq_ok.1 h
    have hspends := h₀.trans (spends_append [.ident n, .symbol .minus, .duration d] ts)
    exact ih e₁ (hspends.mono (by simp [size_of_mapModifiers hmap])) h
  | case13 e n hn d ts ih =>
    obtain ⟨e₁, hmap, h⟩ := bind_eq_ok.1 h
    have hspends := h₀.trans (spends_append [.ident n, .duration d] ts)
    exact ih e₁ (hspends.mono (by simp [size_of_mapModifiers hmap])) h
  | case18 | case26 =>
    cases h
    exact h₀
  | case19 e x ts ih =>
    obtain ⟨e₁, hmap, h⟩ := bind_eq_ok.1 h
    have hspends := h₀.trans (spends_append [.at, .number x] ts)
    exact ih e₁ (hspends.mono (by simp [size_of_mapModifiers hmap])) h
  | case20 e n hn ts ih =>
    obtain ⟨e₁, hmap, h⟩ := bind_eq_ok.1 h
    have hspends := h₀.trans (spends_append [.at, .ident n, .leftParen, .rightParen] ts)
    exact ih e₁ (hspends.mono (by simp [size_of_mapModifiers hmap])) h
  | _ => cases h

/-! ## Expressions inside expressions -/

/-- A reader takes a token for each expression that it reads. -/
def SpendsOnEach (sub : ExprReader) : Prop :=
  ∀ bound ts e rest, (∀ t ∈ ts, t.IsLexeme) → sub bound ts = .ok (e, rest) → Spends e.size ts rest

variable {sub : ExprReader}

theorem spends_of_readArguments (hsub : SpendsOnEach sub) {func : String} {es : List Expr}
    (hts : ∀ t ∈ ts, t.IsLexeme) (h : readArguments sub func n ts = .ok (es, rest)) :
    Spends (es.map Expr.size).sum ts rest := by
  induction n generalizing ts es with
  | zero => cases h
  | succ n ih =>
    obtain ⟨⟨e, us⟩, he, h⟩ := bind_eq_ok.1 h
    have hspends := hsub _ _ _ _ hts he
    have hus := hspends.isLexeme hts
    dsimp only at h
    split at h
    · cases h
    · rename_i us
      obtain ⟨⟨es', us'⟩, hes, hret⟩ := bind_eq_ok.1 h
      cases hret
      have hrest := ih (isLexeme_tail hus) hes
      rw [List.map_cons, List.sum_cons]
      exact hspends.trans ((hrest.cons .comma).mono (Nat.le_succ _))
    · cases h
      exact hspends.snoc.mono (by simp)
    · cases h

theorem spends_of_readOperands (hsub : SpendsOnEach sub) {param : Option Expr} {body : Expr}
    (hts : ∀ t ∈ ts, t.IsLexeme) (h : readOperands sub ts = .ok (param, body, rest)) :
    Spends ((param.map Expr.size).getD 0 + body.size) ts rest := by
  obtain ⟨⟨first, us⟩, hfirst, h⟩ := bind_eq_ok.1 h
  have hspends := hsub _ _ _ _ hts hfirst
  have hus := hspends.isLexeme hts
  dsimp only at h
  split at h
  · rename_i us
    obtain ⟨⟨second, us'⟩, hsecond, hret⟩ := bind_eq_ok.1 h
    cases hret
    have hspends' := hsub _ _ _ _ (isLexeme_tail hus) hsecond
    exact hspends.trans ((hspends'.cons .comma).mono (Nat.le_succ _))
  · cases h
    simpa using hspends

/-- The name of an aggregation is the token for the aggregation. -/
theorem spends_of_readAggregate (hsub : SpendsOnEach sub) {op name : String}
    (hts : ∀ t ∈ ts, t.IsLexeme) (h : readAggregate sub op ts = .ok (e, rest)) :
    Spends e.size (.ident name :: ts) rest := by
  rw [readAggregate_eq] at h
  obtain ⟨⟨before, us⟩, hbefore, h₁⟩ := bind_eq_ok.1 h
  obtain ⟨us₁, hopen, h₂⟩ := bind_eq_ok.1 h₁
  obtain ⟨⟨param, body, us₂⟩, hoperands, h₃⟩ := bind_eq_ok.1 h₂
  obtain ⟨us₃, hclose, h₄⟩ := bind_eq_ok.1 h₃
  obtain rfl := expect_eq_ok hopen
  obtain rfl := expect_eq_ok hclose
  have hbefore' := (readGrouping_eq_ok hts hbefore).1.spends
  have hoperands' := spends_of_readOperands hsub (isLexeme_tail (hbefore'.isLexeme hts)) hoperands
  have hclosed : Spends ((param.map Expr.size).getD 0 + body.size + 1) (.ident name :: ts) us₃ :=
    ((hbefore'.snoc.trans hoperands').snoc.cons (.ident name)).mono (by omega)
  dsimp only at h₄
  split at h₄
  · cases h₄
    rwa [Expr.size_aggregate]
  · obtain ⟨⟨after, us₄⟩, hafter, hret⟩ := bind_eq_ok.1 h₄
    cases hret
    have hlex : ∀ t ∈ us₃, t.IsLexeme :=
      isLexeme_tail (hoperands'.isLexeme (isLexeme_tail (hbefore'.isLexeme hts)))
    rw [Expr.size_aggregate]
    exact hclosed.trans (readGrouping_eq_ok hlex hafter).1.spends

/-! ## Operands and operators -/

theorem spends_of_readNamed (hsub : SpendsOnEach sub) {name : String}
    (hts : ∀ t ∈ ts, t.IsLexeme) (h : readNamed sub name ts = .ok (e, rest)) :
    Spends e.size (.ident name :: ts) rest := by
  have hname := spends_append [.ident name] ts
  unfold readNamed at h
  dsimp only at h
  split at h
  · exact spends_of_readAggregate hsub hts h
  split at h
  · cases h
    exact hname.snoc.snoc.mono (by simp)
  · obtain ⟨⟨args, us⟩, hargs, hret⟩ := bind_eq_ok.1 h
    cases hret
    have hspends := spends_of_readArguments hsub (isLexeme_tail hts) hargs
    have hsize : (Expr.call name args).size ≤ [Token.ident name].length + 1
        + (args.map Expr.size).sum := by
      rw [Expr.size_call, List.length_singleton]
      omega
    exact (hname.snoc.trans hspends).mono hsize
  · split at h
    · cases h
      exact hname
    · split at h
      · obtain ⟨⟨ms, us⟩, hms, hret⟩ := bind_eq_ok.1 h
        cases hret
        exact (hname.snoc.trans (readMatchers_eq_ok hms).spends).mono (by simp)
      · cases h
        exact hname

theorem spends_of_readPrimary (hsub : SpendsOnEach sub) (hts : ∀ t ∈ ts, t.IsLexeme)
    (h : readPrimary sub ts = .ok (e, rest)) : Spends e.size ts rest := by
  unfold readPrimary at h
  split at h
  · cases h
  · cases h
    exact spends_append [_] rest
  · cases h
    exact spends_append [_] rest
  · cases h
    exact spends_append [_] rest
  · rename_i ts
    obtain ⟨⟨e', us⟩, hread, h⟩ := bind_eq_ok.1 h
    obtain ⟨us', hclose, hret⟩ := bind_eq_ok.1 h
    obtain rfl := expect_eq_ok hclose
    cases hret
    have hspends := (hsub _ _ _ _ (isLexeme_tail hts) hread).snoc
    exact (hspends.cons .leftParen).mono (by simp)
  · obtain ⟨⟨ms, us⟩, hms, h⟩ := bind_eq_ok.1 h
    dsimp only at h
    split at h
    · cases h
    · cases h
      exact (readMatchers_eq_ok hms).spends.cons .leftBrace
  · exact spends_of_readNamed hsub (isLexeme_tail hts) h
  · cases h

theorem spends_of_readUnary (hsub : SpendsOnEach sub) (hts : ∀ t ∈ ts, t.IsLexeme)
    (h : readUnary sub ts = .ok (e, rest)) : Spends e.size ts rest := by
  unfold readUnary at h
  split at h
  · obtain ⟨⟨e', us⟩, hread, hret⟩ := bind_eq_ok.1 h
    cases hret
    exact (hsub _ _ _ _ (isLexeme_tail hts) hread).cons (.symbol .minus)
  · obtain ⟨⟨e', us⟩, hread, hret⟩ := bind_eq_ok.1 h
    cases hret
    exact (hsub _ _ _ _ (isLexeme_tail hts) hread).cons (.symbol .plus)
  · obtain ⟨⟨e', us⟩, hprimary, hsuffixes⟩ := bind_eq_ok.1 h
    exact spends_of_readSuffixes (spends_of_readPrimary hsub hts hprimary) hsuffixes

/-- A row of operators takes a token for each of them, however long the row is. -/
theorem spends_of_readOperators (hsub : SpendsOnEach sub) {bound : Nat} {lhs : Expr}
    (hts : ∀ t ∈ ts, t.IsLexeme) (h₀ : Spends lhs.size ts₀ ts)
    (h : readOperators sub bound n lhs ts = .ok (e, rest)) : Spends e.size ts₀ rest := by
  induction n generalizing lhs ts with
  | zero =>
    cases h
    exact h₀
  | succ n ih =>
    rcases readOperators_succ_eq_ok h with ⟨rfl, rfl, -⟩ | ⟨op, us, b, us₁, m, us₂, rhs, us₃, hop,
      -, hbool, -, hmatching, hrhs, h₃⟩
    · exact h₀
    have hoperator : Spends 1 ts us := by
      obtain ⟨⟨used, rfl, -⟩, hlt⟩ := binaryOp?_eq_some hop
      refine ⟨used, rfl, ?_⟩
      rw [List.length_append] at hlt
      omega
    have hlex₁ := hbool.isLexeme (hoperator.isLexeme hts)
    have htakes := (readMatching_eq_ok hlex₁ hmatching).1
    have hspends := hsub _ _ _ _ (htakes.isLexeme hlex₁) hrhs
    have hboth := (((h₀.trans hoperator).trans hbool.spends).trans htakes.spends).trans hspends
    have hsize : (Expr.binary op lhs rhs b m).size ≤ lhs.size + 1 + 0 + 0 + rhs.size := by
      rw [Expr.size_binary]
      omega
    exact ih (hspends.isLexeme (htakes.isLexeme hlex₁)) (hboth.mono hsize) h₃

theorem spendsOnEach_exprAt (levels : Nat) : SpendsOnEach (exprAt levels) := by
  induction levels with
  | zero =>
    intro bound ts e rest _ h
    cases h
  | succ levels ih =>
    intro bound ts e rest hts h
    obtain ⟨⟨lhs, us⟩, hunary, hoperators⟩ := bind_eq_ok.1 h
    have hspends := spends_of_readUnary ih hts hunary
    exact spends_of_readOperators ih (hspends.isLexeme hts) hspends hoperators

/-- A tree has at most as many expressions as its query has tokens, and so is no deeper than the
limit on tokens, before and after its lists are sorted. -/
theorem size_and_height_le_of_parse {q : String} (h : Expr.parse q = .ok e) :
    ∃ ts, scan q.toList = .ok ts ∧ e.size ≤ ts.length ∧ ts.length ≤ 4096
      ∧ e.height ≤ 4096 ∧ e.sort.height ≤ 4096 := by
  obtain ⟨ts, hscan, -, hlength, hread⟩ := parse_eq_ok_iff.1 h
  have hsize := (spendsOnEach_exprAt maxNesting _ _ _ _ (isLexeme_of_scan hscan) hread).length_le
  have hheight := e.height_le_size
  have hsorted := e.sort.height_le_size
  rw [e.size_sort] at hsorted
  rw [maxTokens] at hlength
  exact ⟨ts, hscan, hsize, hlength, by omega, by omega⟩

/-- The statement at a row of differences that ends with a subquery of a subquery. -/
theorem size_and_height_le_of_parse_subqueries : ∃ e, Expr.parse "1 - 2 - up[5m:][1h:]" = .ok e
    ∧ e.size = 7 ∧ e.height = 4
    ∧ ∃ ts, scan "1 - 2 - up[5m:][1h:]".toList = .ok ts ∧ e.size ≤ ts.length ∧ ts.length ≤ 4096
      ∧ e.height ≤ 4096 ∧ e.sort.height ≤ 4096 := by
  have hparse : Expr.parse "1 - 2 - up[5m:][1h:]" = .ok (.binary .minus
      (.binary .minus (.number "1") (.number "2") false none)
      (.subquery (.subquery (.selector (some "up") [] none .empty) "5m" none .empty) "1h" none .empty)
      false none) :=
    parse_eq_ok_iff.2 ⟨[.number "1", .symbol .minus, .number "2", .symbol .minus, .ident "up",
      .leftBracket, .duration "5m", .colon, .rightBracket, .leftBracket, .duration "1h", .colon,
      .rightBracket], by decide +kernel, by simp, by decide, by rfl⟩
  exact ⟨_, hparse, rfl, rfl, size_and_height_le_of_parse hparse⟩

end RuleCatalog.Query
