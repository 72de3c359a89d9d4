import RuleCatalog.Proofs.Query.ReadShape
import RuleCatalog.Proofs.Query.Tokens

/-! # Reading the tokens of a tree

The tokens of a tree that could be read are read as this tree, with its numbers respelled,
wherever no token after them goes on with it. One lemma for each reader; main statement:
`exprAt_tokens_append`. -/
namespace RuleCatalog.Query
open Text

/-! ## What may follow -/

/-- Whether no token in front belongs to an operand that stands before. -/
structure EndsOperand (rest : List Token) : Prop where
  paren : rest.head? ≠ some .leftParen
  brace : rest.head? ≠ some .leftBrace
  grouping : keyword? rest ≠ some "by" ∧ keyword? rest ≠ some "without"

/-- Whether no token in front changes the range or time of an operand that stands before. -/
structure EndsSuffixes (rest : List Token) : Prop extends EndsOperand rest where
  bracket : rest.head? ≠ some .leftBracket
  time : rest.head? ≠ some .at
  offset : keyword? rest ≠ some "offset"

variable {rest ts : List Token}

theorem endsSuffixes_nil : EndsSuffixes [] := by
  refine ⟨⟨?_, ?_, ?_⟩, ?_, ?_, ?_⟩ <;> simp [keyword?]

theorem endsSuffixes_rightParen (rest : List Token) : EndsSuffixes (.rightParen :: rest) := by
  refine ⟨⟨?_, ?_, ?_⟩, ?_, ?_, ?_⟩ <;> simp [keyword?]

theorem endsSuffixes_comma (rest : List Token) : EndsSuffixes (.comma :: rest) := by
  refine ⟨⟨?_, ?_, ?_⟩, ?_, ?_, ?_⟩ <;> simp [keyword?]

theorem endsSuffixes_operator (op : BinaryOp) (rest : List Token) :
    EndsSuffixes (op.token :: rest) := by
  cases op <;> refine ⟨⟨?_, ?_, ?_⟩, ?_, ?_, ?_⟩ <;> simp [keyword?, BinaryOp.token] <;> decide

theorem endsOperand_leftBracket (rest : List Token) : EndsOperand (.leftBracket :: rest) := by
  refine ⟨?_, ?_, ?_⟩ <;> simp [keyword?]

theorem endsOperand_range (r : Option String) (h : EndsOperand rest) :
    EndsOperand (rangeTokens r ++ rest) := by
  cases r with
  | none => exact h
  | some r => exact endsOperand_leftBracket _

theorem binaryOp?_token (op : BinaryOp) (ts : List Token) : binaryOp? (op.token :: ts) = some (op, ts) := by
  cases op <;> rfl

/-! ## Lists of labels and matchers -/

theorem readLabels_tokens (ls : List String) (rest : List Token) :
    readLabels (List.intercalate [.comma] (ls.map fun l => [.ident l]) ++ .rightParen :: rest)
      = .ok (ls, rest) := by
  induction ls with
  | nil => rw [List.map_nil, List.intercalate_nil, List.nil_append, readLabels]
  | cons l ls ih =>
    cases ls with
    | nil =>
      rw [List.map_singleton, List.intercalate_singleton, List.singleton_append, readLabels]
    | cons k ls =>
      rw [List.map_cons] at ih ⊢
      rw [List.map_cons, List.intercalate_cons_cons, List.append_assoc, List.append_assoc,
        List.singleton_append, List.singleton_append, readLabels, ih]
      rfl

theorem readLabelList_tokens (ls : List String) (rest : List Token) :
    readLabelList (labelTokens ls ++ rest) = .ok (ls, rest) := by
  rw [labelTokens, List.append_assoc, List.singleton_append]
  exact readLabels_tokens ls rest

theorem matchOp?_symbol (op : MatchOp) : matchOp? (.symbol op.symbol) = some op := by
  cases op <;> rfl

theorem readMatchers_tokens (ms : List LabelMatcher) (rest : List Token) :
    readMatchers (List.intercalate [.comma] (ms.map LabelMatcher.tokens) ++ .rightBrace :: rest)
      = .ok (ms, rest) := by
  induction ms with
  | nil => rw [List.map_nil, List.intercalate_nil, List.nil_append, readMatchers]
  | cons m ms ih =>
    cases ms with
    | nil =>
      rw [List.map_singleton, List.intercalate_singleton]
      simp [LabelMatcher.tokens, readMatchers, labelName?, matchOp?_symbol]
    | cons k ms =>
      rw [List.map_cons] at ih ⊢
      rw [List.map_cons, List.intercalate_cons_cons, List.append_assoc, List.append_assoc]
      simp only [LabelMatcher.tokens, List.cons_append, List.nil_append] at ih ⊢
      simp only [readMatchers, labelName?, matchOp?_symbol] at ih ⊢
      rw [ih]
      rfl

/-! ## Clauses that start with a keyword -/

theorem takeKeyword?_ident {n w : String} (h : lower n = w) : takeKeyword? w (.ident n :: ts) = some ts :=
  if_pos (congrArg some h)

theorem readGrouping_tokens (g : Grouping) (rest : List Token) :
    readGrouping (g.tokens ++ rest) = .ok (some g, rest) := by
  obtain ⟨without, ls⟩ := g
  cases without with
  | false =>
    rw [Grouping.tokens, List.cons_append, readGrouping, if_neg Bool.false_ne_true,
      takeKeyword?_ident (by decide)]
    dsimp only
    rw [readLabelList_tokens]
    rfl
  | true =>
    rw [Grouping.tokens, List.cons_append, readGrouping, if_pos rfl,
      takeKeyword?_eq_none.2 (by simp [keyword?]; decide), takeKeyword?_ident (by decide)]
    dsimp only
    rw [readLabelList_tokens]
    rfl

theorem readGrouping_of_endsOperand (h : EndsOperand rest) : readGrouping rest = .ok (none, rest) := by
  rw [readGrouping, takeKeyword?_eq_none.2 h.grouping.1, takeKeyword?_eq_none.2 h.grouping.2]

theorem readMatchClause_tokens (c : MatchClause) (rest : List Token) :
    readMatchClause (c.tokens ++ rest) = .ok (some c, rest) := by
  obtain ⟨on, ls⟩ := c
  cases on with
  | true =>
    rw [MatchClause.tokens, List.cons_append, readMatchClause, if_pos rfl,
      takeKeyword?_ident (by decide)]
    dsimp only
    rw [readLabelList_tokens]
    rfl
  | false =>
    rw [MatchClause.tokens, List.cons_append, readMatchClause, if_neg Bool.false_ne_true,
      takeKeyword?_eq_none.2 (by simp [keyword?]; decide), takeKeyword?_ident (by decide)]
    dsimp only
    rw [readLabelList_tokens]
    rfl

theorem readMatchClause_of_ne (h : keyword? rest ≠ some "on" ∧ keyword? rest ≠ some "ignoring") :
    readMatchClause rest = .ok (none, rest) := by
  rw [readMatchClause, takeKeyword?_eq_none.2 h.1, takeKeyword?_eq_none.2 h.2]

theorem groupLabels_tokens (side : GroupSide) (ls : List String) (rest : List Token) :
    readGroup.groupLabels side (labelTokens ls ++ rest) = .ok (some (side, ls), rest) := by
  rw [labelTokens, List.append_assoc, List.singleton_append, List.cons_append,
    readGroup.groupLabels, readLabels_tokens]
  rfl

theorem readGroup_tokens (side : GroupSide) (ls : List String) (rest : List Token) :
    readGroup (.ident side.word :: labelTokens ls ++ rest) = .ok (some (side, ls), rest) := by
  cases side with
  | left =>
    rw [List.cons_append, readGroup, takeKeyword?_ident (by decide)]
    exact groupLabels_tokens .left ls rest
  | right =>
    rw [List.cons_append, readGroup, takeKeyword?_eq_none.2 (by simp [keyword?]; decide),
      takeKeyword?_ident (by decide)]
    exact groupLabels_tokens .right ls rest

theorem readGroup_of_ne
    (h : keyword? rest ≠ some "group_left" ∧ keyword? rest ≠ some "group_right") :
    readGroup rest = .ok (none, rest) := by
  rw [readGroup, takeKeyword?_eq_none.2 h.1, takeKeyword?_eq_none.2 h.2]

theorem readMatching_tokens {m : Option VectorMatching} (hm : ∀ v ∈ m, v.IsRead)
    (hclause : m = none → keyword? rest ≠ some "on" ∧ keyword? rest ≠ some "ignoring")
    (hgroup : (∀ v ∈ m, v.group = none) →
      keyword? rest ≠ some "group_left" ∧ keyword? rest ≠ some "group_right") :
    readMatching ((m.map VectorMatching.tokens).getD [] ++ rest) = .ok (m, rest) := by
  unfold readMatching
  cases m with
  | none =>
    rw [Option.map_none, Option.getD_none, List.nil_append, readMatchClause_of_ne (hclause rfl)]
    show (readGroup rest).bind _ = _
    rw [readGroup_of_ne (hgroup (by simp))]
    rfl
  | some v =>
    obtain ⟨c, g⟩ := v
    rw [Option.map_some, Option.getD_some, VectorMatching.tokens, List.append_assoc]
    have hread : readGroup ((g.map fun g => Token.ident g.1.word :: labelTokens g.2).getD [] ++ rest)
        = .ok (g, rest) := by
      cases g with
      | none => exact readGroup_of_ne (hgroup (by simp))
      | some g => exact readGroup_tokens g.1 g.2 rest
    cases c with
    | some c =>
      rw [Option.map_some, Option.getD_some, readMatchClause_tokens]
      show (readGroup _).bind _ = _
      rw [hread]
      rfl
    | none =>
      cases g with
      | none => simpa using (hm _ rfl).some
      | some g =>
        have hword : keyword? (Token.ident g.1.word :: labelTokens g.2 ++ rest) ≠ some "on"
            ∧ keyword? (Token.ident g.1.word :: labelTokens g.2 ++ rest) ≠ some "ignoring" := by
          obtain ⟨side, ls⟩ := g
          cases side <;> simp [keyword?, GroupSide.word] <;> decide
        rw [Option.map_none, Option.getD_none, List.nil_append]
        rw [Option.map_some, Option.getD_some] at hread ⊢
        rw [readMatchClause_of_ne hword]
        show (readGroup _).bind _ = _
        rw [hread]
        rfl

theorem keyword?_matching {v : VectorMatching} (hv : v.IsRead) (rest : List Token) :
    keyword? (v.tokens ++ rest) ≠ some "bool" := by
  obtain ⟨c, g⟩ := v
  cases c with
  | some c =>
    obtain ⟨on, ls⟩ := c
    cases on <;> simp [VectorMatching.tokens, MatchClause.tokens, keyword?] <;> decide
  | none =>
    cases g with
    | none => simpa using hv.some
    | some g =>
      obtain ⟨side, ls⟩ := g
      cases side <;> simp [VectorMatching.tokens, GroupSide.word, keyword?] <;> decide

/-! ## Ranges, offsets and times -/

theorem offsetTokens_of_duration {d : String} (h : isDuration d.toList = true) :
    offsetTokens d = [.ident "offset", .duration d] := by
  unfold offsetTokens
  split
  · rename_i ds heq
    rw [heq] at h
    exact absurd rfl (isDuration_eq_true h).1
  · rfl

theorem offsetTokens_minus (d : String) :
    offsetTokens ("-" ++ d) = [.ident "offset", .symbol .minus, .duration d] := by
  have hlist : ("-" ++ d).toList = '-' :: d.toList := by
    rw [String.toList_append]
    rfl
  rw [offsetTokens, hlist]
  simp only [String.ofList_toList]

/-- A way to put modifiers onto an operand. -/
def Carries (f : Modifiers → Expr) : Prop :=
  ∀ m g, (f m).mapModifiers g = .ok (f (g m))

variable {f : Modifiers → Expr} {m : Modifiers}

theorem carries_selector (n : Option String) (ms : List LabelMatcher) (r : Option String) :
    Carries (.selector n ms r) := fun _ _ => rfl

theorem carries_subquery (e : Expr) (r : String) (s : Option String) :
    Carries (.subquery e r s) := fun _ _ => rfl

theorem readSuffixes_offset (hf : Carries f) {o : String} (ho : IsOffset o) :
    readSuffixes (f m) (offsetTokens o ++ rest) = readSuffixes (f { m with offset := some o }) rest := by
  obtain ⟨d, hd, rfl | rfl⟩ := ho
  · rw [offsetTokens_of_duration hd]
    simp only [List.cons_append, List.nil_append]
    rw [readSuffixes.eq_def]
    dsimp only
    rw [if_pos (by decide), hf]
    rfl
  · rw [offsetTokens_minus]
    simp only [List.cons_append, List.nil_append]
    rw [readSuffixes.eq_def]
    dsimp only
    rw [if_pos (by decide), hf]
    rfl

theorem timeTokens_of_number {t : String} (h : LexesAs t.toList (.number t)) :
    timeTokens t = [.at, .number t] := by
  rw [timeTokens, if_neg, if_neg]
  · rintro rfl
    exact absurd (h [] endsNumber_nil).1 (by decide)
  · rintro rfl
    exact absurd (h [] endsNumber_nil).1 (by decide)

theorem readSuffixes_time (hf : Carries f) {t : String} (ht : IsTime t) :
    readSuffixes (f m) (timeTokens t ++ rest) = readSuffixes (f { m with time := some t }) rest := by
  rcases ht with ht | rfl | rfl
  · rw [timeTokens_of_number ht]
    simp only [List.cons_append, List.nil_append]
    rw [readSuffixes.eq_def]
    dsimp only
    rw [hf]
    rfl
  · show readSuffixes (f m) (.at :: .ident "start" :: .leftParen :: .rightParen :: rest) = _
    rw [readSuffixes.eq_def]
    dsimp only
    rw [if_pos (.inl rfl), hf]
    rfl
  · show readSuffixes (f m) (.at :: .ident "end" :: .leftParen :: .rightParen :: rest) = _
    rw [readSuffixes.eq_def]
    dsimp only
    rw [if_pos (.inr rfl), hf]
    rfl

theorem readSuffixes_modifiers (hf : Carries f) (hm : m.IsRead) :
    readSuffixes (f .empty) (m.tokens ++ rest) = readSuffixes (f m) rest := by
  obtain ⟨o, t⟩ := m
  rw [Modifiers.tokens, List.append_assoc]
  have htime : ∀ m' : Modifiers, m'.time = none →
      readSuffixes (f m') ((t.map timeTokens).getD [] ++ rest)
        = readSuffixes (f { m' with time := t }) rest := by
    intro m' hnone
    cases t with
    | none =>
      obtain ⟨o', t'⟩ := m'
      obtain rfl : t' = none := hnone
      rfl
    | some t => exact readSuffixes_time hf (hm.time t rfl)
  cases o with
  | none => exact htime .empty rfl
  | some o =>
    rw [Option.map_some, Option.getD_some, readSuffixes_offset hf (hm.offset o rfl)]
    exact htime ⟨some o, none⟩ rfl

theorem endsOperand_modifiers (m : Modifiers) (h : EndsOperand rest) :
    EndsOperand (m.tokens ++ rest) := by
  have htime : EndsOperand ((m.time.map timeTokens).getD [] ++ rest) := by
    cases ht : m.time with
    | none => exact h
    | some t =>
      have hat : (timeTokens t).head? = some .at := by
        unfold timeTokens
        split
        · rfl
        · split <;> rfl
      obtain ⟨ts, hts⟩ := List.head?_eq_some_iff.1 hat
      rw [Option.map_some, Option.getD_some, hts]
      refine ⟨?_, ?_, ?_⟩ <;> simp [keyword?]
  rw [Modifiers.tokens, List.append_assoc]
  cases ho : m.offset with
  | none => exact htime
  | some o =>
    have hoffset : (offsetTokens o).head? = some (.ident "offset") := by
      unfold offsetTokens
      split <;> rfl
    obtain ⟨ts, hts⟩ := List.head?_eq_some_iff.1 hoffset
    rw [Option.map_some, Option.getD_some, hts]
    refine ⟨?_, ?_, ?_⟩ <;> simp [keyword?]
    decide

theorem readSuffixes_range (n : Option String) (ms : List LabelMatcher) (r : Option String) :
    readSuffixes (.selector n ms none .empty) (rangeTokens r ++ rest)
      = readSuffixes (.selector n ms r .empty) rest := by
  cases r with
  | none => rfl
  | some r =>
    show readSuffixes _ (.leftBracket :: .duration r :: .rightBracket :: rest) = _
    rw [readSuffixes.eq_def]
    rfl

theorem readSuffixes_subquery (e : Expr) (r : String) (s : Option String) :
    readSuffixes e (.leftBracket :: .duration r :: .colon :: (s.map Token.duration).toList
      ++ .rightBracket :: rest) = readSuffixes (.subquery e r s .empty) rest := by
  cases s with
  | none =>
    show readSuffixes _ (.leftBracket :: .duration r :: .colon :: .rightBracket :: rest) = _
    rw [readSuffixes.eq_def]
  | some d =>
    show readSuffixes _ (.leftBracket :: .duration r :: .colon :: .duration d :: .rightBracket
      :: rest) = _
    rw [readSuffixes.eq_def]

theorem readSuffixes_of_ends (e : Expr) (h : EndsSuffixes rest) :
    readSuffixes e rest = .ok (e, rest) := by
  rw [readSuffixes.eq_def]
  split
  · exact absurd rfl h.bracket
  · rename_i n ts
    rw [if_neg fun hn => h.offset (congrArg some hn)]
  · exact absurd rfl h.time
  · rfl

/-! ## Operands -/

/-- Whether no token in front goes on with an expression whose operators bind at least as
tightly as a bound. -/
structure EndsExpr (bound : Nat) (e : Expr) (rest : List Token) : Prop extends EndsSuffixes rest where
  operator : ∀ op us, binaryOp? rest = some (op, us) → op.precedence < bound ∧ op.precedence < e.edge

theorem EndsSuffixes.endsExpr {bound : Nat} {e : Expr} (h : EndsSuffixes rest)
    (hop : binaryOp? rest = none) : EndsExpr bound e rest :=
  ⟨h, by simp [hop]⟩

/-- A reader reads the tokens of the expressions of a kind back. -/
def ReadsBack (S : Nat → Expr → Prop) (sub : ExprReader) : Prop :=
  ∀ bound e rest, S bound e → EndsExpr bound e rest →
    sub bound (e.tokens ++ rest) = .ok (e.respelled, rest)

variable {S : Nat → Expr → Prop} {sub : ExprReader}

theorem ReadsBack.rightParen (hsub : ReadsBack S sub) {e : Expr} (he : S 0 e) (rest : List Token) :
    sub 0 (e.tokens ++ .rightParen :: rest) = .ok (e.respelled, .rightParen :: rest) :=
  hsub 0 e _ he ((endsSuffixes_rightParen rest).endsExpr rfl)

theorem ReadsBack.comma (hsub : ReadsBack S sub) {e : Expr} (he : S 0 e) (rest : List Token) :
    sub 0 (e.tokens ++ .comma :: rest) = .ok (e.respelled, .comma :: rest) :=
  hsub 0 e _ he ((endsSuffixes_comma rest).endsExpr rfl)

theorem readArguments_tokens (hsub : ReadsBack S sub) (func : String) {args : List Expr}
    (hargs : ∀ a ∈ args, S 0 a) (hne : args ≠ []) {n : Nat} (hn : args.length ≤ n) :
    readArguments sub func n (Expr.tokensAll args ++ .rightParen :: rest)
      = .ok (Expr.respelledAll args, rest) := by
  induction args generalizing n with
  | nil => exact absurd rfl hne
  | cons e es ih =>
    obtain ⟨n, rfl⟩ : ∃ k, n = k + 1 := ⟨n - 1, by rw [List.length_cons] at hn; omega⟩
    have he : S 0 e := hargs e List.mem_cons_self
    cases es with
    | nil =>
      rw [readArguments, Expr.tokensAll, hsub.rightParen he]
      rfl
    | cons e' es =>
      have hrest := ih (fun a ha => hargs a (List.mem_cons_of_mem _ ha)) (by simp)
        (Nat.le_of_succ_le_succ hn)
      rw [readArguments, Expr.tokensAll, List.append_assoc, List.cons_append, hsub.comma he]
      · show (readArguments sub func n _).bind _ = _
        rw [hrest]
        rfl
      · simp

theorem length_tokensAll (args : List Expr) (rest : List Token) :
    args.length ≤ (Expr.tokensAll args ++ .rightParen :: rest).length + 1 := by
  induction args with
  | nil => exact Nat.zero_le _
  | cons e es ih =>
    cases es with
    | nil => simp
    | cons e' es =>
      rw [Expr.tokensAll, List.append_assoc, List.length_append]
      · simp only [List.length_cons, List.cons_append] at ih ⊢
        omega
      · simp

theorem readNamed_of_endsOperand (n : String) (h : EndsOperand rest) :
    readNamed sub n rest = if lower n = "inf" ∨ lower n = "nan" then .ok (.number n, rest)
      else .ok (.selector (some n) [] none .empty, rest) := by
  unfold readNamed
  dsimp only
  rw [if_neg]
  · split
    · exact absurd rfl h.paren
    · exact absurd rfl h.paren
    · split
      · rfl
      · split
        · exact absurd rfl h.brace
        · rfl
  · rintro ⟨-, hby | hwithout⟩
    · rcases hby with hby | hby
      · exact h.grouping.1 hby
      · exact h.grouping.2 hby
    · exact h.paren hwithout

theorem readNamed_matchers {n : String} (hn : lower n ≠ "inf" ∧ lower n ≠ "nan")
    (ms : List LabelMatcher) (rest : List Token) :
    readNamed sub n (matcherTokens ms ++ rest) = .ok (.selector (some n) ms none .empty, rest) := by
  rw [matcherTokens, List.append_assoc, List.singleton_append, List.cons_append]
  unfold readNamed
  dsimp only
  rw [if_neg (by simp [keyword?]), if_neg (by simp [hn]), readMatchers_tokens]
  rfl

theorem readNamed_call {levels : Nat} (hsub : ReadsBack (Readable levels) sub) {func : String}
    (hfunc : lower func ∉ aggregations) {args : List Expr}
    (hargs : ∀ a ∈ args, Readable levels 0 a) (rest : List Token) :
    readNamed sub func (.leftParen :: Expr.tokensAll args ++ .rightParen :: rest)
      = .ok (.call func (Expr.respelledAll args), rest) := by
  unfold readNamed
  dsimp only
  rw [if_neg fun h => hfunc h.1, List.cons_append]
  cases args with
  | nil => rfl
  | cons e es =>
    have hhead : (Expr.tokensAll (e :: es) ++ .rightParen :: rest).head? ≠ some .rightParen := by
      have he := head?_tokens_ne (hargs e List.mem_cons_self)
      cases es with
      | nil => exact he _
      | cons e' es =>
        rw [Expr.tokensAll, List.append_assoc]
        · exact he _
        · simp
    have hread : readArguments sub func ((Expr.tokensAll (e :: es) ++ .rightParen :: rest).length + 1)
        (Expr.tokensAll (e :: es) ++ .rightParen :: rest) = _ :=
      readArguments_tokens hsub func hargs (by simp) (length_tokensAll _ rest)
    split
    · rename_i heq
      obtain ⟨-, heq⟩ := List.cons.inj heq
      rw [heq] at hhead
      exact absurd rfl hhead
    · rename_i heq
      obtain ⟨-, rfl⟩ := List.cons.inj heq
      show (readArguments _ _ _ _).bind _ = _
      rw [hread]
      rfl
    · rename_i hnot
      exact (hnot _ rfl).elim

theorem readOperands_tokens (hsub : ReadsBack S sub) {param : Option Expr} {body : Expr}
    (hparam : ∀ p ∈ param, S 0 p) (hbody : S 0 body) (rest : List Token) :
    readOperands sub (Expr.tokensParam param ++ body.tokens ++ .rightParen :: rest)
      = .ok (Expr.respelledOption param, body.respelled, .rightParen :: rest) := by
  unfold readOperands
  cases param with
  | none =>
    rw [Expr.tokensParam, List.nil_append, hsub.rightParen hbody]
    rfl
  | some p =>
    rw [Expr.tokensParam, List.append_assoc, List.append_assoc, List.singleton_append,
      hsub.comma (hparam p rfl)]
    show (sub 0 _).bind _ = _
    rw [hsub.rightParen hbody]
    rfl

theorem readAggregate_tokens (hsub : ReadsBack S sub) (op : String) {param : Option Expr}
    {body : Expr} (g : Option Grouping) (hparam : ∀ p ∈ param, S 0 p) (hbody : S 0 body)
    (hrest : EndsOperand rest) :
    readAggregate sub op ((g.map Grouping.tokens).getD [] ++ .leftParen :: Expr.tokensParam param
        ++ body.tokens ++ .rightParen :: rest)
      = .ok (.aggregate op (Expr.respelledOption param) body.respelled g, rest) := by
  have hgrouping : ∀ us, readGrouping ((g.map Grouping.tokens).getD [] ++ .leftParen :: us)
      = .ok (g, .leftParen :: us) := by
    intro us
    cases g with
    | none =>
      rw [Option.map_none, Option.getD_none, List.nil_append, readGrouping,
        takeKeyword?_eq_none.2 (by simp [keyword?]), takeKeyword?_eq_none.2 (by simp [keyword?])]
    | some g => exact readGrouping_tokens g _
  rw [readAggregate_eq, List.append_assoc, List.append_assoc, List.cons_append, hgrouping]
  show (readOperands sub _).bind _ = _
  rw [← List.append_assoc, readOperands_tokens hsub hparam hbody]
  show closeAggregate op g _ _ (.rightParen :: rest) = _
  unfold closeAggregate
  cases g with
  | none =>
    show (readGrouping rest).bind _ = _
    rw [readGrouping_of_endsOperand hrest]
    rfl
  | some g => rfl

theorem readNamed_aggregate (hsub : ReadsBack S sub) {op : String} (hop : op ∈ aggregations)
    {param : Option Expr} {body : Expr} (g : Option Grouping) (hparam : ∀ p ∈ param, S 0 p)
    (hbody : S 0 body) (hrest : EndsOperand rest) :
    readNamed sub op ((g.map Grouping.tokens).getD [] ++ .leftParen :: Expr.tokensParam param
        ++ body.tokens ++ .rightParen :: rest)
      = .ok (.aggregate op (Expr.respelledOption param) body.respelled g, rest) := by
  unfold readNamed
  dsimp only
  rw [(lower_of_mem_aggregations hop).1, if_pos]
  · exact readAggregate_tokens hsub op g hparam hbody hrest
  · refine ⟨hop, ?_⟩
    cases g with
    | none => exact .inr rfl
    | some g =>
      obtain ⟨without, ls⟩ := g
      left
      cases without with
      | false =>
        have hword : lower "by" = "by" := by decide
        exact .inl (congrArg some hword)
      | true =>
        have hword : lower "without" = "without" := by decide
        exact .inr (congrArg some hword)

/-- An operand is read as its first part, and then as what its suffixes make of it. -/
def readOperand (sub : ExprReader) (ts : List Token) : Parsed (Expr × List Token) := do
  let (e, ts) ← readPrimary sub ts
  readSuffixes e ts

theorem readOperand_eq {ts us : List Token} {e : Expr} (h : readPrimary sub ts = .ok (e, us)) :
    readOperand sub ts = readSuffixes e us := by
  rw [readOperand, h]
  rfl

theorem readOperand_number (t : String) (hrest : EndsOperand rest) :
    readOperand sub (numberToken t :: rest) = readSuffixes (.number (respell t)) rest := by
  apply readOperand_eq
  unfold numberToken
  split
  · rename_i hnan
    rw [readPrimary, readNamed_of_endsOperand _ hrest, if_pos (.inr (by decide)), respell, writeNumber_nan hnan,
      String.ofList_toList]
  · split <;> rfl

theorem readOperand_selector {n : Option String} {ms : List LabelMatcher} {r : Option String}
    {mods : Modifiers}
    (hn : ∀ s ∈ n, isIdent s.toList = true ∧ lower s ≠ "inf" ∧ lower s ≠ "nan")
    (hms : n = none → ms ≠ []) (hmods : mods.IsRead) (hrest : EndsOperand rest) :
    readOperand sub (selectorTokens n ms ++ rangeTokens r ++ mods.tokens ++ rest)
      = readSuffixes (.selector n ms r mods) rest := by
  have hprimary : readPrimary sub (selectorTokens n ms ++ (rangeTokens r ++ (mods.tokens ++ rest)))
      = .ok (.selector n ms none .empty, rangeTokens r ++ (mods.tokens ++ rest)) := by
    cases n with
    | none =>
      rw [selectorTokens, matcherTokens, List.append_assoc, List.singleton_append, List.cons_append,
        readPrimary, readMatchers_tokens]
      show (if ms.isEmpty = true then _ else _) = _
      rw [if_neg (by simpa using hms rfl)]
      rfl
    | some n =>
      obtain ⟨-, hnumber⟩ := hn n rfl
      cases ms with
      | nil =>
        have hends := endsOperand_range r (endsOperand_modifiers mods hrest)
        rw [selectorTokens, List.singleton_append, readPrimary, readNamed_of_endsOperand n hends,
          if_neg (by simp [hnumber])]
      | cons k ms =>
        rw [selectorTokens, List.cons_append, readPrimary]
        · exact readNamed_matchers hnumber _ _
        · simp
  rw [List.append_assoc, List.append_assoc, readOperand_eq hprimary, readSuffixes_range]
  exact readSuffixes_modifiers (carries_selector n ms r) hmods

/-- What stands behind an operand is read as its suffixes. -/
theorem readOperand_tokens {levels : Nat} (hsub : ReadsBack (Readable levels) sub) {e : Expr}
    (he : Operand (Readable levels) e) (hrest : EndsOperand rest) :
    readOperand sub (e.tokens ++ rest) = readSuffixes e.respelled rest := by
  induction he generalizing rest with
  | @number t => exact readOperand_number t hrest
  | string v => rfl
  | selector hn hms hr hmods => exact readOperand_selector hn hms hmods hrest
  | @call f args hf hagg hargs =>
    apply readOperand_eq
    rw [Expr.tokens, List.append_assoc, List.singleton_append, List.cons_append, readPrimary]
    exact readNamed_call hsub hagg hargs rest
  | @aggregate op param body g hop hparam hbody hg =>
    apply readOperand_eq
    rw [Expr.tokens, List.append_assoc, List.singleton_append, List.cons_append, List.cons_append,
      List.cons_append, readPrimary]
    exact readNamed_aggregate hsub hop g hparam hbody hrest
  | @paren e he =>
    apply readOperand_eq
    rw [Expr.tokens, List.append_assoc, List.singleton_append, List.cons_append, readPrimary,
      hsub.rightParen he]
    rfl
  | @subquery e r s mods he hr hs hmods ih =>
    rw [Expr.tokens, List.append_assoc, List.append_assoc]
    refine (ih (endsOperand_leftBracket _)).trans ?_
    show readSuffixes e.respelled (.leftBracket :: .duration r :: .colon
      :: (s.map Token.duration).toList ++ .rightBracket :: (mods.tokens ++ rest)) = _
    rw [readSuffixes_subquery]
    exact readSuffixes_modifiers (carries_subquery e.respelled r s) hmods

/-! ## Operators -/

theorem readUnary_operand {ts : List Token} {e : Expr} (h : Opens e ts) :
    readUnary sub ts = readOperand sub ts := by
  cases h with
  | nan us => rfl
  | name hword hcall => rfl
  | plain us hident hsymbol hparen =>
    unfold readUnary
    split
    · rename_i heq
      exact absurd (List.cons.inj heq).1 (hsymbol _)
    · rename_i heq
      exact absurd (List.cons.inj heq).1 (hsymbol _)
    · rfl

theorem readUnary_sign (hsub : ReadsBack S sub) (s : Sign) {e : Expr}
    (he : S BinaryOp.power.precedence e) (hrest : EndsExpr BinaryOp.power.precedence e rest) :
    readUnary sub (.symbol s.symbol :: e.tokens ++ rest) = .ok (.unary s e.respelled, rest) := by
  cases s with
  | plus =>
    show (sub BinaryOp.power.precedence (e.tokens ++ rest)).bind _ = _
    rw [hsub _ _ _ he hrest]
    rfl
  | minus =>
    show (sub BinaryOp.power.precedence (e.tokens ++ rest)).bind _ = _
    rw [hsub _ _ _ he hrest]
    rfl

theorem readOperators_token {levels : Nat} (hsub : ReadsBack (Readable levels) sub)
    {bound : Nat} {op : BinaryOp} {r : Expr} {b : Bool} {m : Option VectorMatching}
    (hbound : bound ≤ op.precedence) (hr : Readable levels op.rightBound r)
    (hm : ∀ v ∈ m, v.IsRead) (hstart : StartsAfter b m r) (hrest : EndsExpr op.rightBound r rest)
    (n : Nat) (lhs : Expr) :
    readOperators sub bound (n + 1) lhs (op.token :: matchingTokens b m ++ r.tokens ++ rest)
      = readOperators sub bound n (.binary op lhs r.respelled b m) rest := by
  have hword : ∀ w ∈ matchingWords, r.word? ≠ some w → keyword? (r.tokens ++ rest) ≠ some w :=
    fun w hw hne => keyword?_tokens hr hw hne rest
  have hmatching : readMatching ((m.map VectorMatching.tokens).getD [] ++ (r.tokens ++ rest))
      = .ok (m, r.tokens ++ rest) := by
    apply readMatching_tokens hm
    · intro hnone
      obtain ⟨hon, hignoring⟩ := hstart.clause hnone
      exact ⟨hword _ (by decide) hon, hword _ (by decide) hignoring⟩
    · intro hnone
      obtain ⟨hleft, hright⟩ := hstart.group hnone
      exact ⟨hword _ (by decide) hleft, hword _ (by decide) hright⟩
  have hread := hsub _ _ _ hr hrest
  rw [List.append_assoc, List.cons_append, readOperators, binaryOp?_token]
  dsimp only
  rw [if_neg (Nat.not_lt.2 hbound)]
  cases b with
  | true =>
    have htake : takeKeyword? "bool" (matchingTokens true m ++ (r.tokens ++ rest))
        = some ((m.map VectorMatching.tokens).getD [] ++ (r.tokens ++ rest)) :=
      takeKeyword?_ident (by decide)
    rw [htake]
    dsimp only
    rw [hmatching]
    show (sub op.rightBound _).bind _ = _
    rw [hread]
    rfl
  | false =>
    have htake : takeKeyword? "bool" (matchingTokens false m ++ (r.tokens ++ rest)) = none := by
      rw [takeKeyword?_eq_none]
      cases m with
      | none => exact hword _ (by decide) (hstart.bool rfl rfl)
      | some v => exact keyword?_matching (hm v rfl) _
    rw [htake]
    dsimp only
    rw [matchingTokens, if_neg Bool.false_ne_true, List.nil_append, hmatching]
    show (sub op.rightBound _).bind _ = _
    rw [hread]
    rfl

/-- The left operands of an expression are read first, and then an operator at a time up to the
whole of it. -/
theorem readUnary_tokens {levels : Nat} (hsub : ReadsBack (Readable levels) sub) {bound : Nat}
    {e : Expr} (he : Spine (Readable levels) bound e) (hrest : EndsSuffixes rest)
    (hedge : ∀ op us, binaryOp? rest = some (op, us) → op.precedence < e.edge) :
    ∃ lhs us, readUnary sub (e.tokens ++ rest) = .ok (lhs, us) ∧ ∀ n, us.length ≤ n →
      ∃ n', rest.length ≤ n' ∧
        readOperators sub bound n lhs us = readOperators sub bound n' e.respelled rest := by
  induction he generalizing rest with
  | @operand e he =>
    refine ⟨e.respelled, rest, ?_, fun n hn => ⟨n, hn, rfl⟩⟩
    rw [readUnary_operand ((opens_of_operand he).append rest),
      readOperand_tokens hsub he hrest.toEndsOperand, readSuffixes_of_ends _ hrest]
  | @unary s e he =>
    refine ⟨.unary s e.respelled, rest, ?_, fun n hn => ⟨n, hn, rfl⟩⟩
    refine readUnary_sign hsub s he ⟨hrest, fun op us hop => ?_⟩
    have := hedge op us hop
    rwa [Expr.edge, Nat.lt_min] at this
  | @binary op l r b m hl hbound hlr hr hm hstart ih =>
    have hrest' : EndsExpr op.rightBound r rest := by
      refine ⟨hrest, fun op' us hop => ?_⟩
      have := hedge op' us hop
      rwa [Expr.edge, Nat.lt_min] at this
    have hsuffixes : EndsSuffixes (op.token :: matchingTokens b m ++ r.tokens ++ rest) :=
      endsSuffixes_operator op _
    have hoperator : ∀ op' us, binaryOp? (op.token :: matchingTokens b m ++ r.tokens ++ rest)
        = some (op', us) → op'.precedence < l.edge := by
      intro op' us hop
      rw [List.cons_append, List.cons_append, binaryOp?_token, Option.some.injEq,
        Prod.mk.injEq] at hop
      rwa [← hop.1]
    obtain ⟨lhs, us, hread, hclimb⟩ := ih hsuffixes hoperator
    refine ⟨lhs, us, ?_, fun n hn => ?_⟩
    · rwa [Expr.tokens, List.append_assoc, List.append_assoc, ← List.append_assoc _ r.tokens]
    · obtain ⟨n', hn', heq⟩ := hclimb n hn
      obtain ⟨k, rfl⟩ : ∃ k, n' = k + 1 := ⟨n' - 1, by simp at hn'; omega⟩
      refine ⟨k, ?_, ?_⟩
      · simp at hn'
        omega
      · rw [heq, readOperators_token hsub hbound hr hm hstart hrest']
        rfl

theorem readOperators_of_lt {bound : Nat}
    (h : ∀ op us, binaryOp? rest = some (op, us) → op.precedence < bound) (n : Nat) (e : Expr) :
    readOperators sub bound n e rest = .ok (e, rest) := by
  cases n with
  | zero => rfl
  | succ n =>
    rw [readOperators]
    split
    · rfl
    · rename_i op us hop
      rw [if_pos (h op us hop)]

/-- The tokens of a tree are read as this tree. -/
theorem exprAt_tokens_append (levels : Nat) : ReadsBack (Readable levels) (exprAt levels) := by
  induction levels with
  | zero =>
    intro bound e rest he
    cases he
  | succ levels ih =>
    intro bound e rest he hrest
    obtain ⟨lhs, us, hread, hclimb⟩ := readUnary_tokens ih he hrest.toEndsSuffixes
      fun op us hop => (hrest.operator op us hop).2
    obtain ⟨n', -, heq⟩ := hclimb us.length (Nat.le_refl _)
    show (readUnary (exprAt levels) _).bind _ = _
    rw [hread]
    show readOperators (exprAt levels) bound us.length lhs us = _
    rw [heq]
    exact readOperators_of_lt (fun op us hop => (hrest.operator op us hop).1) n' e.respelled

end RuleCatalog.Query
