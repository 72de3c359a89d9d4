import RuleCatalog.Proofs.Query.Shape

/-! # What the readers make of tokens

One lemma for each reader: which tokens it takes, what tree it makes of them, and what stands
where it stops. Main statement: `exprAt_eq_ok`. -/
namespace RuleCatalog.Query
open Text

theorem bind_eq_ok {ε α β : Type} {x : Except ε α} {f : α → Except ε β} {b : β} :
    (x >>= f) = .ok b ↔ ∃ a, x = .ok a ∧ f a = .ok b := by
  cases x <;> simp [bind, Except.bind]

theorem map_eq_ok {ε α β : Type} {x : Except ε α} {f : α → β} {b : β} :
    x.map f = .ok b ↔ ∃ a, x = .ok a ∧ f a = b := by
  cases x <;> simp [Except.map]

/-! ## The tokens that are taken -/

/-- Tokens are taken off the front of a list, with a number of plus signs among them. -/
def Takes (pluses : Nat) (ts rest : List Token) : Prop :=
  ∃ used, ts = used ++ rest ∧ used.count (.symbol .plus) = pluses

variable {t : Token} {ts us rest : List Token} {m n : Nat}

theorem takes_zero (ts : List Token) : Takes 0 ts ts := ⟨[], rfl, rfl⟩

theorem takes_append {us : List Token} (ts : List Token) (h : .symbol .plus ∉ us) :
    Takes 0 (us ++ ts) ts :=
  ⟨us, rfl, List.count_eq_zero.2 h⟩

theorem Takes.cons (ht : t ≠ .symbol .plus) (h : Takes n ts rest) : Takes n (t :: ts) rest := by
  obtain ⟨used, rfl, hcount⟩ := h
  exact ⟨t :: used, rfl, by rw [List.count_cons_of_ne ht, hcount]⟩

theorem Takes.plus (h : Takes n ts rest) : Takes (n + 1) (.symbol .plus :: ts) rest := by
  obtain ⟨used, rfl, hcount⟩ := h
  exact ⟨.symbol .plus :: used, rfl, by rw [List.count_cons_self, hcount]⟩

theorem Takes.trans (h : Takes m ts us) (h' : Takes n us rest) : Takes (m + n) ts rest := by
  obtain ⟨used, rfl, hcount⟩ := h
  obtain ⟨used', rfl, hcount'⟩ := h'
  exact ⟨used ++ used', by rw [List.append_assoc], by rw [List.count_append, hcount, hcount']⟩

theorem Takes.length_le (h : Takes n ts rest) : rest.length ≤ ts.length := by
  obtain ⟨used, rfl, -⟩ := h
  rw [List.length_append]
  omega

theorem Takes.isLexeme (h : Takes n ts rest) (hts : ∀ t ∈ ts, t.IsLexeme) :
    ∀ t ∈ rest, t.IsLexeme := by
  obtain ⟨used, rfl, -⟩ := h
  exact fun t ht => hts t (List.mem_append_right _ ht)

/-- Whether all matchers that could be read after a brace are of a kind. -/
def Braces (M : LabelMatcher → Prop) (ts : List Token) : Prop :=
  ∀ us vs, ts = us ++ .leftBrace :: vs → ∀ ms rest, readMatchers vs = .ok (ms, rest) → ∀ m ∈ ms, M m

/-- Tokens that a text can have, with matchers of a kind. -/
structure Lexed (M : LabelMatcher → Prop) (ts : List Token) : Prop where
  lexeme : ∀ t ∈ ts, t.IsLexeme
  matchers : Braces M ts

variable {M : LabelMatcher → Prop}

theorem Takes.lexed (h : Takes n ts rest) (hts : Lexed M ts) : Lexed M rest := by
  refine ⟨h.isLexeme hts.lexeme, fun us vs heq => ?_⟩
  obtain ⟨used, rfl, -⟩ := h
  exact hts.matchers (used ++ us) vs (by rw [heq, List.append_assoc])

theorem Lexed.tail (h : Lexed M (t :: ts)) : Lexed M ts :=
  ⟨fun u hu => h.lexeme u (List.mem_cons_of_mem t hu),
    fun us vs heq => h.matchers (t :: us) vs (by rw [heq, List.cons_append])⟩

/-! ## Lists of labels and matchers -/

theorem readLabels_eq_ok {ls : List String} (hts : ∀ t ∈ ts, t.IsLexeme)
    (h : readLabels ts = .ok (ls, rest)) : Takes 0 ts rest ∧ AreLabels ls := by
  fun_induction readLabels ts generalizing ls rest with
  | case1 => cases h
  | case2 ts =>
    cases h
    exact ⟨(takes_zero ts).cons (by simp), by simp [AreLabels]⟩
  | case3 n => cases h
  | case4 n ts ih =>
    obtain ⟨⟨ns, us⟩, hread, hret⟩ := bind_eq_ok.1 h
    cases hret
    have hlex : ∀ t ∈ ts, t.IsLexeme := fun t ht => hts t (by simp [ht])
    obtain ⟨htakes, hns⟩ := ih hlex hread
    refine ⟨(htakes.cons (by simp)).cons (by simp), ?_⟩
    intro l hl
    rcases List.mem_cons.1 hl with rfl | hl
    · exact hts (.ident l) List.mem_cons_self
    · exact hns l hl
  | case5 n ts =>
    cases h
    refine ⟨((takes_zero ts).cons (by simp)).cons (by simp), ?_⟩
    intro l hl
    obtain rfl := List.mem_singleton.1 hl
    exact hts (.ident l) List.mem_cons_self
  | case6 => cases h
  | case7 => cases h

theorem expect_eq_ok {t : Token} (h : expect t ts = .ok rest) : ts = t :: rest := by
  unfold expect at h
  split at h
  · cases h
  · split at h
    · rename_i heq
      cases h
      rw [heq]
    · cases h

theorem readLabelList_eq_ok {ls : List String} (hts : ∀ t ∈ ts, t.IsLexeme)
    (h : readLabelList ts = .ok (ls, rest)) : Takes 0 ts rest ∧ AreLabels ls := by
  obtain ⟨us, hexpect, hread⟩ := bind_eq_ok.1 h
  obtain rfl := expect_eq_ok hexpect
  obtain ⟨htakes, hls⟩ := readLabels_eq_ok (fun t ht => hts t (by simp [ht])) hread
  exact ⟨htakes.cons (by simp), hls⟩

theorem matchOp?_ne_plus {op : MatchOp} (h : matchOp? t = some op) : t ≠ .symbol .plus := by
  rintro rfl
  cases h

theorem labelName?_ne_plus {s : String} (h : labelName? t = some s) : t ≠ .symbol .plus := by
  rintro rfl
  cases h

theorem readMatchers_eq_ok {ms : List LabelMatcher} (h : readMatchers ts = .ok (ms, rest)) :
    Takes 0 ts rest := by
  fun_induction readMatchers ts generalizing ms rest with
  | case1 => cases h
  | case2 ts =>
    cases h
    exact (takes_zero ts).cons (by simp)
  | case8 t _ name hname u op hop value ts ih =>
    obtain ⟨⟨ms', us⟩, hread, hret⟩ := bind_eq_ok.1 h
    cases hret
    have htakes : Takes 0 ([t, u, .string value, .comma] ++ ts) ts := takes_append ts (by
      simp [Ne.symm (labelName?_ne_plus hname), Ne.symm (matchOp?_ne_plus hop)])
    exact htakes.trans (ih hread)
  | case9 t _ name hname u op hop value ts =>
    cases h
    show Takes 0 ([t, u, .string value, .rightBrace] ++ ts) ts
    exact takes_append ts (by
      simp [Ne.symm (labelName?_ne_plus hname), Ne.symm (matchOp?_ne_plus hop)])
  | case3 | case4 | case5 | case6 | case7 | case10 | case11 => cases h

/-! ## Clauses that start with a keyword -/

theorem takeKeyword?_eq_some {w : String} (h : takeKeyword? w ts = some us) :
    ∃ n, ts = .ident n :: us ∧ lower n = w := by
  unfold takeKeyword? at h
  split at h
  · rename_i hw
    unfold keyword? at hw
    split at hw
    · rename_i n ts
      simp only [List.tail_cons, Option.some.injEq] at h hw
      exact ⟨n, by rw [h], hw⟩
    · cases hw
  · cases h

theorem takeKeyword?_eq_none {w : String} : takeKeyword? w ts = none ↔ keyword? ts ≠ some w := by
  unfold takeKeyword?
  split <;> simp_all

theorem takes_of_takeKeyword? {w : String} (h : takeKeyword? w ts = some us) : Takes 0 ts us := by
  obtain ⟨n, rfl, -⟩ := takeKeyword?_eq_some h
  exact (takes_zero us).cons (by simp)

theorem readGrouping_eq_ok {g : Option Grouping} (hts : ∀ t ∈ ts, t.IsLexeme)
    (h : readGrouping ts = .ok (g, rest)) : Takes 0 ts rest ∧ ∀ c ∈ g, AreLabels c.labels := by
  have hlist : ∀ w us, takeKeyword? w ts = some us → ∀ without,
      (readLabelList us).map (fun r => (some (Grouping.mk without r.1), r.2)) = .ok (g, rest) →
      Takes 0 ts rest ∧ ∀ c ∈ g, AreLabels c.labels := by
    intro w us hw without hmap
    have htakes := takes_of_takeKeyword? hw
    obtain ⟨⟨ls, us'⟩, hread, hret⟩ := map_eq_ok.1 hmap
    cases hret
    obtain ⟨htakes', hls⟩ := readLabelList_eq_ok (htakes.isLexeme hts) hread
    refine ⟨htakes.trans htakes', fun c hc => ?_⟩
    cases hc
    exact hls
  unfold readGrouping at h
  split at h
  · exact hlist _ _ ‹_› _ h
  · split at h
    · exact hlist _ _ ‹_› _ h
    · cases h
      exact ⟨takes_zero ts, by simp⟩

theorem readMatchClause_eq_ok {c : Option MatchClause} (hts : ∀ t ∈ ts, t.IsLexeme)
    (h : readMatchClause ts = .ok (c, rest)) : Takes 0 ts rest ∧ (∀ k ∈ c, AreLabels k.labels)
      ∧ (c = none → rest = ts ∧ keyword? ts ≠ some "on" ∧ keyword? ts ≠ some "ignoring") := by
  have hlist : ∀ w us, takeKeyword? w ts = some us → ∀ on,
      (readLabelList us).map (fun r => (some (MatchClause.mk on r.1), r.2)) = .ok (c, rest) →
      Takes 0 ts rest ∧ (∀ k ∈ c, AreLabels k.labels)
        ∧ (c = none → rest = ts ∧ keyword? ts ≠ some "on" ∧ keyword? ts ≠ some "ignoring") := by
    intro w us hw on hmap
    have htakes := takes_of_takeKeyword? hw
    obtain ⟨⟨ls, us'⟩, hread, hret⟩ := map_eq_ok.1 hmap
    cases hret
    obtain ⟨htakes', hls⟩ := readLabelList_eq_ok (htakes.isLexeme hts) hread
    refine ⟨htakes.trans htakes', fun k hk => ?_, by simp⟩
    cases hk
    exact hls
  unfold readMatchClause at h
  split at h
  · exact hlist _ _ ‹_› _ h
  · rename_i hon
    split at h
    · exact hlist _ _ ‹_› _ h
    · rename_i hignoring
      cases h
      exact ⟨takes_zero ts, by simp, fun _ =>
        ⟨rfl, takeKeyword?_eq_none.1 hon, takeKeyword?_eq_none.1 hignoring⟩⟩

theorem readGroup_eq_ok {g : Option (GroupSide × List String)} (hts : ∀ t ∈ ts, t.IsLexeme)
    (h : readGroup ts = .ok (g, rest)) : Takes 0 ts rest ∧ (∀ p ∈ g, AreLabels p.2)
      ∧ (g = none → rest = ts ∧ keyword? ts ≠ some "group_left"
        ∧ keyword? ts ≠ some "group_right") := by
  have hlist : ∀ w us, takeKeyword? w ts = some us → ∀ side,
      readGroup.groupLabels side us = .ok (g, rest) →
      Takes 0 ts rest ∧ (∀ p ∈ g, AreLabels p.2)
        ∧ (g = none → rest = ts ∧ keyword? ts ≠ some "group_left"
          ∧ keyword? ts ≠ some "group_right") := by
    intro w us hw side hread
    have htakes := takes_of_takeKeyword? hw
    unfold readGroup.groupLabels at hread
    split at hread
    · rename_i us
      obtain ⟨⟨ls, us'⟩, hlabels, hret⟩ := map_eq_ok.1 hread
      cases hret
      have hlex : ∀ t ∈ us, t.IsLexeme := fun t ht => htakes.isLexeme hts t (by simp [ht])
      obtain ⟨htakes', hls⟩ := readLabels_eq_ok hlex hlabels
      refine ⟨htakes.trans (htakes'.cons (by simp)), fun p hp => ?_, by simp⟩
      cases hp
      exact hls
    · cases hread
      refine ⟨htakes, fun p hp => ?_, by simp⟩
      cases hp
      simp [AreLabels]
  unfold readGroup at h
  split at h
  · exact hlist _ _ ‹_› _ h
  · rename_i hleft
    split at h
    · exact hlist _ _ ‹_› _ h
    · rename_i hright
      cases h
      exact ⟨takes_zero ts, by simp, fun _ =>
        ⟨rfl, takeKeyword?_eq_none.1 hleft, takeKeyword?_eq_none.1 hright⟩⟩

theorem readMatching_eq_ok {v : Option VectorMatching} (hts : ∀ t ∈ ts, t.IsLexeme)
    (h : readMatching ts = .ok (v, rest)) : Takes 0 ts rest ∧ (∀ w ∈ v, w.IsRead)
      ∧ (v = none → rest = ts ∧ keyword? rest ≠ some "on" ∧ keyword? rest ≠ some "ignoring")
      ∧ ((∀ w ∈ v, w.group = none) → keyword? rest ≠ some "group_left"
        ∧ keyword? rest ≠ some "group_right") := by
  obtain ⟨⟨c, us⟩, hclause, h⟩ := bind_eq_ok.1 h
  obtain ⟨⟨g, us'⟩, hgroup, hret⟩ := bind_eq_ok.1 h
  obtain ⟨htakes, hlabels, hnone⟩ := readMatchClause_eq_ok hts hclause
  obtain ⟨htakes', hlabels', hnone'⟩ := readGroup_eq_ok (htakes.isLexeme hts) hgroup
  dsimp only at hret
  split at hret
  · rename_i hempty
    cases hret
    simp only [Bool.and_eq_true, Option.isNone_iff_eq_none] at hempty
    obtain ⟨rfl, hon, hignoring⟩ := hnone hempty.1
    obtain ⟨rfl, hleft, hright⟩ := hnone' hempty.2
    exact ⟨htakes.trans htakes', by simp, fun _ => ⟨rfl, hon, hignoring⟩, fun _ => ⟨hleft, hright⟩⟩
  · rename_i hsome
    cases hret
    refine ⟨htakes.trans htakes', fun w hw => ?_, by simp, fun hg => ?_⟩
    · cases hw
      refine ⟨?_, hlabels, hlabels'⟩
      cases c <;> cases g <;> simp_all
    · obtain ⟨rfl, hleft, hright⟩ := hnone' (hg _ rfl)
      exact ⟨hleft, hright⟩

/-! ## Operands -/

variable {S : Nat → Expr → Prop} {e e' : Expr} {ts₀ : List Token}

/-- An operand stands for the tokens between two points. -/
structure ReadsOperand (S : Nat → Expr → Prop) (M : LabelMatcher → Prop) (ts : List Token)
    (e : Expr) (rest : List Token) : Prop where
  operand : Operand S e
  matchers : ∀ m ∈ e.matchers, M m
  takes : Takes e.pluses ts rest
  word : ∀ w ∈ matchingWords, keyword? ts = some w ↔ e.word? = some w

/-- An operand with a suffix is one that starts with the same word and has the same matchers. -/
structure Suffixed (S : Nat → Expr → Prop) (e e' : Expr) : Prop where
  operand : Operand S e'
  matchers : e'.matchers = e.matchers
  pluses : e'.pluses = e.pluses
  word : e'.word? = e.word?

theorem ReadsOperand.suffix (h : ReadsOperand S M ts₀ e ts) (ht : Takes 0 ts rest)
    (he : Suffixed S e e') : ReadsOperand S M ts₀ e' rest := by
  refine ⟨he.operand, ?_, ?_, ?_⟩
  · rw [he.matchers]
    exact h.matchers
  · rw [he.pluses]
    exact h.takes.trans ht
  · rw [he.word]
    exact h.word

theorem ranged_eq_ok {d : String} (he : Operand S e) (hd : isDuration d.toList = true)
    (h : e.ranged d = .ok e') : Suffixed S e e' := by
  unfold Expr.ranged at h
  split at h
  · cases h
    cases he with
    | selector hn hms hr hmods =>
      refine ⟨.selector hn hms (fun d' hd' => ?_) hmods, rfl, rfl, rfl⟩
      cases hd'
      exact hd
  · cases h

theorem mapModifiers_eq_ok {f : Modifiers → Modifiers} (hf : ∀ m : Modifiers, m.IsRead → (f m).IsRead)
    (he : Operand S e) (h : e.mapModifiers f = .ok e') : Suffixed S e e' := by
  unfold Expr.mapModifiers at h
  split at h
  · cases h
    cases he with
    | selector hn hms hr hmods => exact ⟨.selector hn hms hr (hf _ hmods), rfl, rfl, rfl⟩
  · cases h
    cases he with
    | subquery he hr hs hmods => exact ⟨.subquery he hr hs (hf _ hmods), by simp, by simp, rfl⟩
  · cases h

theorem isRead_withOffset {o : String} (ho : IsOffset o) (m : Modifiers) (hm : m.IsRead) :
    Modifiers.IsRead { m with offset := some o } := by
  refine ⟨fun o' ho' => ?_, hm.time⟩
  cases ho'
  exact ho

theorem isRead_withTime {x : String} (hx : IsTime x) (m : Modifiers) (hm : m.IsRead) :
    Modifiers.IsRead { m with time := some x } := by
  refine ⟨hm.offset, fun x' hx' => ?_⟩
  cases hx'
  exact hx

theorem isRead_empty : Modifiers.empty.IsRead := ⟨by simp [Modifiers.empty], by simp [Modifiers.empty]⟩

theorem suffixed_subquery {d : String} {s : Option String} (he : Operand S e)
    (hd : isDuration d.toList = true) (hs : ∀ x ∈ s, isDuration x.toList = true) :
    Suffixed S e (.subquery e d s .empty) :=
  ⟨.subquery he hd hs isRead_empty, by simp, by simp, rfl⟩

theorem readSuffixes_eq_ok (hts : Lexed M ts) (h₀ : ReadsOperand S M ts₀ e ts)
    (h : readSuffixes e ts = .ok (e', rest)) : ReadsOperand S M ts₀ e' rest := by
  fun_induction readSuffixes e ts with
  | case3 e d step ts ih =>
    have htakes : Takes 0 ([.leftBracket, .duration d, .colon, .duration step, .rightBracket]
        ++ ts) ts := takes_append ts (by simp)
    have hd : isDuration d.toList = true := hts.lexeme (.duration d) (by simp)
    have hstep : isDuration step.toList = true := hts.lexeme (.duration step) (by simp)
    refine ih (htakes.lexed hts) (h₀.suffix htakes (suffixed_subquery h₀.operand hd ?_)) h
    rintro x ⟨⟩
    exact hstep
  | case6 e d ts ih =>
    have htakes : Takes 0 ([.leftBracket, .duration d, .colon, .rightBracket] ++ ts) ts :=
      takes_append ts (by simp)
    have hd : isDuration d.toList = true := hts.lexeme (.duration d) (by simp)
    exact ih (htakes.lexed hts) (h₀.suffix htakes (suffixed_subquery h₀.operand hd (by simp))) h
  | case9 e d ts ih =>
    obtain ⟨e₁, hranged, h⟩ := bind_eq_ok.1 h
    have htakes : Takes 0 ([.leftBracket, .duration d, .rightBracket] ++ ts) ts :=
      takes_append ts (by simp)
    have hd : isDuration d.toList = true := hts.lexeme (.duration d) (by simp)
    exact ih e₁ (htakes.lexed hts) (h₀.suffix htakes (ranged_eq_ok h₀.operand hd hranged)) h
  | case12 e n hn d ts ih =>
    obtain ⟨e₁, hmap, h⟩ := bind_eq_ok.1 h
    have htakes : Takes 0 ([.ident n, .symbol .minus, .duration d] ++ ts) ts :=
      takes_append ts (by simp)
    have hd : isDuration d.toList = true := hts.lexeme (.duration d) (by simp)
    have hoffset := isRead_withOffset ⟨d, hd, .inr rfl⟩
    exact ih e₁ (htakes.lexed hts)
      (h₀.suffix htakes (mapModifiers_eq_ok hoffset h₀.operand hmap)) h
  | case13 e n hn d ts ih =>
    obtain ⟨e₁, hmap, h⟩ := bind_eq_ok.1 h
    have htakes : Takes 0 ([.ident n, .duration d] ++ ts) ts := takes_append ts (by simp)
    have hd : isDuration d.toList = true := hts.lexeme (.duration d) (by simp)
    have hoffset := isRead_withOffset ⟨d, hd, .inl rfl⟩
    exact ih e₁ (htakes.lexed hts)
      (h₀.suffix htakes (mapModifiers_eq_ok hoffset h₀.operand hmap)) h
  | case18 | case26 =>
    cases h
    exact h₀
  | case19 e x ts ih =>
    obtain ⟨e₁, hmap, h⟩ := bind_eq_ok.1 h
    have htakes : Takes 0 ([.at, .number x] ++ ts) ts := takes_append ts (by simp)
    have htime := isRead_withTime (.inl (hts.lexeme (.number x) (by simp)))
    exact ih e₁ (htakes.lexed hts) (h₀.suffix htakes (mapModifiers_eq_ok htime h₀.operand hmap)) h
  | case20 e n hn ts ih =>
    obtain ⟨e₁, hmap, h⟩ := bind_eq_ok.1 h
    have htakes : Takes 0 ([.at, .ident n, .leftParen, .rightParen] ++ ts) ts :=
      takes_append ts (by simp)
    have htime : IsTime (n ++ "()") := by
      rcases hn with rfl | rfl
      · exact .inr (.inl rfl)
      · exact .inr (.inr rfl)
    exact ih e₁ (htakes.lexed hts)
      (h₀.suffix htakes (mapModifiers_eq_ok (isRead_withTime htime) h₀.operand hmap)) h
  | _ => cases h

/-! ## Expressions inside expressions -/

/-- An expression stands for the tokens between two points; the operator at the second one, if
there is one, becomes no part of it. -/
structure ReadsExpr (S : Nat → Expr → Prop) (M : LabelMatcher → Prop) (bound : Nat)
    (ts : List Token) (e : Expr) (rest : List Token) : Prop where
  shape : S bound e
  matchers : ∀ m ∈ e.matchers, M m
  takes : Takes e.pluses ts rest
  word : ∀ w ∈ matchingWords, keyword? ts = some w ↔ e.word? = some w
  stops : ∀ op us, binaryOp? rest = some (op, us) → op.precedence < bound ∧ op.precedence < e.edge

/-- A reader reads the expressions of a kind. -/
def ReadsAll (S : Nat → Expr → Prop) (M : LabelMatcher → Prop) (sub : ExprReader) : Prop :=
  ∀ bound ts e rest, Lexed M ts → sub bound ts = .ok (e, rest) → ReadsExpr S M bound ts e rest

variable {sub : ExprReader}

theorem readArguments_eq_ok (hsub : ReadsAll S M sub) {func : String} {n : Nat} {es : List Expr}
    (hts : Lexed M ts) (h : readArguments sub func n ts = .ok (es, rest)) :
    (∀ e ∈ es, S 0 e ∧ ∀ m ∈ e.matchers, M m) ∧ Takes (es.map Expr.pluses).sum ts rest := by
  induction n generalizing ts es with
  | zero => cases h
  | succ n ih =>
    obtain ⟨⟨e, us⟩, he, h⟩ := bind_eq_ok.1 h
    have hread := hsub _ _ _ _ hts he
    have hlex := hread.takes.lexed hts
    dsimp only at h
    split at h
    · cases h
    · rename_i us
      obtain ⟨⟨es', us'⟩, hes, hret⟩ := bind_eq_ok.1 h
      cases hret
      obtain ⟨hall, htakes⟩ := ih hlex.tail hes
      refine ⟨?_, ?_⟩
      · intro x hx
        rcases List.mem_cons.1 hx with rfl | hx
        · exact ⟨hread.shape, hread.matchers⟩
        · exact hall x hx
      · rw [List.map_cons, List.sum_cons]
        exact hread.takes.trans (htakes.cons (by simp))
    · cases h
      refine ⟨?_, ?_⟩
      · intro x hx
        obtain rfl := List.mem_singleton.1 hx
        exact ⟨hread.shape, hread.matchers⟩
      · rw [List.map_singleton, List.sum_singleton, ← Nat.add_zero e.pluses]
        exact hread.takes.trans ((takes_zero rest).cons (by simp))
    · cases h

/-- The operands of an aggregation: a parameter that a comma follows, and the body. -/
def readOperands (sub : ExprReader) (ts : List Token) :
    Parsed (Option Expr × Expr × List Token) := do
  let (first, ts) ← sub 0 ts
  match ts with
  | .comma :: ts => do
    let (second, ts) ← sub 0 ts
    pure (some first, second, ts)
  | ts => pure (none, first, ts)

/-- The rest of an aggregation: its closing parenthesis, and a grouping if none stood before. -/
def closeAggregate (op : String) (before : Option Grouping) (param : Option Expr) (body : Expr)
    (ts : List Token) : Parsed (Expr × List Token) := do
  let ts ← expect .rightParen ts
  match before with
  | some g => return (.aggregate op param body (some g), ts)
  | none =>
    let (after, ts) ← readGrouping ts
    return (.aggregate op param body after, ts)

theorem readAggregate_eq (sub : ExprReader) (op : String) (ts : List Token) :
    readAggregate sub op ts = (readGrouping ts).bind fun (before, us) =>
      (expect .leftParen us).bind fun us =>
        (readOperands sub us).bind fun (param, body, us) => closeAggregate op before param body us := by
  unfold readAggregate readOperands closeAggregate
  show (readGrouping ts).bind _ = _
  congr 1
  funext ⟨before, us⟩
  show (expect .leftParen us).bind _ = _
  congr 1
  funext us
  show (sub 0 us).bind _ = ((sub 0 us).bind _).bind _
  cases sub 0 us with
  | error x => rfl
  | ok p =>
    obtain ⟨first, us⟩ := p
    cases us with
    | nil => cases before <;> rfl
    | cons t us =>
      cases t with
      | comma =>
        show (sub 0 us).bind _ = ((sub 0 us).bind _).bind _
        cases sub 0 us <;> cases before <;> rfl
      | _ => cases before <;> rfl

theorem readOperands_eq_ok (hsub : ReadsAll S M sub) {param : Option Expr} {body : Expr}
    (hts : Lexed M ts) (h : readOperands sub ts = .ok (param, body, rest)) :
    (∀ p ∈ param, S 0 p) ∧ S 0 body ∧ (∀ m ∈ (param.map Expr.matchers).getD [] ++ body.matchers, M m)
      ∧ Takes ((param.map Expr.pluses).getD 0 + body.pluses) ts rest := by
  obtain ⟨⟨first, us⟩, hfirst, h⟩ := bind_eq_ok.1 h
  have hread := hsub _ _ _ _ hts hfirst
  dsimp only at h
  split at h
  · rename_i us
    obtain ⟨⟨second, us'⟩, hsecond, hret⟩ := bind_eq_ok.1 h
    cases hret
    have hread' := hsub _ _ _ _ (hread.takes.lexed hts).tail hsecond
    refine ⟨fun p hp => ?_, hread'.shape, fun m hm => ?_,
      hread.takes.trans (hread'.takes.cons (by simp))⟩
    · cases hp
      exact hread.shape
    · exact (List.mem_append.1 hm).elim (hread.matchers m) (hread'.matchers m)
  · cases h
    refine ⟨by simp, hread.shape, hread.matchers, ?_⟩
    rw [Option.map_none, Option.getD_none, Nat.zero_add]
    exact hread.takes

theorem readAggregate_eq_ok (hsub : ReadsAll S M sub) {op : String} (hop : op ∈ aggregations)
    (hts : Lexed M ts) (h : readAggregate sub op ts = .ok (e, rest)) :
    Operand S e ∧ (∀ m ∈ e.matchers, M m) ∧ Takes e.pluses ts rest ∧ e.word? = some op := by
  rw [readAggregate_eq] at h
  obtain ⟨⟨before, us⟩, hbefore, h₁⟩ := bind_eq_ok.1 h
  obtain ⟨us₁, hexpect, h₂⟩ := bind_eq_ok.1 h₁
  obtain ⟨⟨param, body, us₂⟩, hoperands, h₃⟩ := bind_eq_ok.1 h₂
  obtain ⟨us₃, hexpect', h₄⟩ := bind_eq_ok.1 h₃
  obtain ⟨htakes, hlabels⟩ := readGrouping_eq_ok hts.lexeme hbefore
  have hus := expect_eq_ok hexpect
  have hus₂ := expect_eq_ok hexpect'
  dsimp only at hus hus₂ h₄
  subst hus hus₂
  obtain ⟨hparam, hbody, hmatchers, htakes₁⟩ :=
    readOperands_eq_ok hsub (htakes.lexed hts).tail hoperands
  have htakes₃ : Takes ((param.map Expr.pluses).getD 0 + body.pluses) ts us₃ := by
    have := (htakes.trans (htakes₁.cons (by simp))).trans ((takes_zero us₃).cons (by simp))
    rwa [Nat.zero_add, Nat.add_zero] at this
  split at h₄
  · cases h₄
    exact ⟨.aggregate hop hparam hbody hlabels, by rwa [Expr.matchers_aggregate],
      by rwa [Expr.pluses_aggregate], rfl⟩
  · obtain ⟨⟨after, us₄⟩, hafter, hret⟩ := bind_eq_ok.1 h₄
    cases hret
    obtain ⟨htakes₄, hlabels₄⟩ := readGrouping_eq_ok (htakes₃.isLexeme hts.lexeme) hafter
    refine ⟨.aggregate hop hparam hbody hlabels₄, by rwa [Expr.matchers_aggregate], ?_, rfl⟩
    rw [Expr.pluses_aggregate]
    exact htakes₃.trans htakes₄

/-! ## Operands, their suffixes and operators -/

theorem readNamed_eq_ok (hsub : ReadsAll S M sub) {n : String} (hn : isIdent n.toList = true)
    (hts : Lexed M ts) (h : readNamed sub n ts = .ok (e, rest)) :
    Operand S e ∧ (∀ m ∈ e.matchers, M m) ∧ Takes e.pluses ts rest
      ∧ ∀ w ∈ matchingWords, lower n = w ↔ e.word? = some w := by
  unfold readNamed at h
  dsimp only at h
  split at h
  · rename_i hagg
    obtain ⟨hoperand, hmatchers, htakes, hword⟩ := readAggregate_eq_ok hsub hagg.1 hts h
    exact ⟨hoperand, hmatchers, htakes, fun w _ => by rw [hword, Option.some.injEq]⟩
  rename_i hagg
  split at h
  · rename_i us
    cases h
    have hcall : lower n ∉ aggregations := fun hmem => hagg ⟨hmem, .inr rfl⟩
    refine ⟨.call hn hcall (by simp), by simp, ?_, fun w _ => by rw [Expr.word?, Option.some.injEq]⟩
    show Takes 0 ([.leftParen, .rightParen] ++ rest) rest
    exact takes_append rest (by simp)
  · rename_i us _
    have hcall : lower n ∉ aggregations := fun hmem => hagg ⟨hmem, .inr rfl⟩
    obtain ⟨⟨args, us'⟩, hargs, hret⟩ := bind_eq_ok.1 h
    cases hret
    obtain ⟨hall, htakes⟩ := readArguments_eq_ok hsub hts.tail hargs
    refine ⟨.call hn hcall fun a ha => (hall a ha).1, fun m hm => ?_, ?_,
      fun w _ => by rw [Expr.word?, Option.some.injEq]⟩
    · rw [Expr.matchers_call] at hm
      obtain ⟨a, ha, hm⟩ := List.mem_flatMap.1 hm
      exact (hall a ha).2 m hm
    · rw [Expr.pluses_call]
      exact htakes.cons (by simp)
  · split at h
    · rename_i hnumber
      cases h
      refine ⟨.number (.inr (.inr hnumber)), by simp, takes_zero _,
        fun w hw => ?_⟩
      simp only [Expr.word?, reduceCtorEq, iff_false]
      rintro rfl
      rcases hnumber with hnumber | hnumber <;> rw [hnumber] at hw <;> exact absurd hw (by decide)
    · rename_i hnumber
      rw [not_or] at hnumber
      have hname : ∀ s ∈ some n, isIdent s.toList = true ∧ lower s ≠ "inf" ∧ lower s ≠ "nan" := by
        rintro s ⟨⟩
        exact ⟨hn, hnumber⟩
      split at h
      · obtain ⟨⟨ms, us'⟩, hms, hret⟩ := bind_eq_ok.1 h
        cases hret
        refine ⟨.selector hname (by simp) (by simp) isRead_empty, ?_, ?_, fun w _ => ?_⟩
        · rw [Expr.matchers_selector]
          exact hts.matchers [] _ rfl _ _ hms
        · exact (readMatchers_eq_ok hms).cons (by simp)
        · rw [Expr.word?, Option.map_some, Option.some.injEq]
      · cases h
        refine ⟨.selector hname (by simp) (by simp) isRead_empty, by simp, takes_zero _, fun w _ => ?_⟩
        rw [Expr.word?, Option.map_some, Option.some.injEq]

theorem readPrimary_eq_ok (hsub : ReadsAll S M sub) (hts : Lexed M ts)
    (h : readPrimary sub ts = .ok (e, rest)) : ReadsOperand S M ts e rest := by
  unfold readPrimary at h
  split at h
  · cases h
  · rename_i n ts
    cases h
    have hn : LexesAs n.toList (.number n) := hts.lexeme (.number n) List.mem_cons_self
    exact ⟨.number (.inl hn), by simp, (takes_zero rest).cons (by simp),
      by simp [keyword?, Expr.word?]⟩
  · rename_i d ts
    cases h
    have hd : isDuration d.toList = true := hts.lexeme (.duration d) List.mem_cons_self
    exact ⟨.number (.inr (.inl hd)), by simp,
      (takes_zero rest).cons (by simp), by simp [keyword?, Expr.word?]⟩
  · rename_i v ts
    cases h
    exact ⟨.string v, by simp, (takes_zero rest).cons (by simp),
      by simp [keyword?, Expr.word?]⟩
  · rename_i ts
    obtain ⟨⟨e', us⟩, hsub', h⟩ := bind_eq_ok.1 h
    obtain ⟨us', hexpect, hret⟩ := bind_eq_ok.1 h
    obtain rfl := expect_eq_ok hexpect
    cases hret
    have hread := hsub _ _ _ _ hts.tail hsub'
    refine ⟨.paren hread.shape, by simpa using hread.matchers, ?_, by simp [keyword?, Expr.word?]⟩
    rw [Expr.pluses_paren, ← Nat.add_zero e'.pluses]
    exact (hread.takes.cons (by simp)).trans ((takes_zero _).cons (by simp))
  · rename_i ts
    obtain ⟨⟨ms, us⟩, hms, h⟩ := bind_eq_ok.1 h
    dsimp only at h
    split at h
    · cases h
    · rename_i hempty
      cases h
      refine ⟨.selector (by simp) (fun _ => ?_) (by simp) isRead_empty, ?_, ?_,
        by simp [keyword?, Expr.word?]⟩
      · simpa using hempty
      · rw [Expr.matchers_selector]
        exact hts.matchers [] ts rfl _ _ hms
      · exact (readMatchers_eq_ok hms).cons (by simp)
  · rename_i n ts
    have hn : isIdent n.toList = true := hts.lexeme (.ident n) List.mem_cons_self
    obtain ⟨hoperand, hmatchers, htakes, hword⟩ := readNamed_eq_ok hsub hn hts.tail h
    refine ⟨hoperand, hmatchers, htakes.cons (by simp), fun w hw => ?_⟩
    rw [← hword w hw, keyword?, Option.some.injEq]
  · cases h

theorem precedence_le (op : BinaryOp) : op.precedence ≤ BinaryOp.power.precedence := by
  cases op <;> decide

theorem edge_of_operand (h : Operand S e) : e.edge = BinaryOp.power.precedence + 1 := by
  cases h <;> rfl

theorem readUnary_eq_ok (hsub : ReadsAll S M sub) (bound : Nat) (hts : Lexed M ts)
    (h : readUnary sub ts = .ok (e, rest)) : Spine S bound e ∧ (∀ m ∈ e.matchers, M m)
      ∧ Takes e.pluses ts rest
      ∧ (∀ w ∈ matchingWords, keyword? ts = some w ↔ e.word? = some w)
      ∧ ∀ op us, binaryOp? rest = some (op, us) → op.precedence < e.edge := by
  unfold readUnary at h
  split at h
  · obtain ⟨⟨e', us⟩, hread, hret⟩ := bind_eq_ok.1 h
    cases hret
    have hread' := hsub _ _ _ _ hts.tail hread
    refine ⟨.unary .minus hread'.shape, by simpa using hread'.matchers, ?_,
      by simp [keyword?, Expr.word?], fun op us hop => ?_⟩
    · rw [Expr.pluses_unary, if_neg (by decide)]
      exact hread'.takes.cons (by simp)
    · rw [Expr.edge, Nat.lt_min]
      exact hread'.stops op us hop
  · obtain ⟨⟨e', us⟩, hread, hret⟩ := bind_eq_ok.1 h
    cases hret
    have hread' := hsub _ _ _ _ hts.tail hread
    refine ⟨.unary .plus hread'.shape, by simpa using hread'.matchers, ?_,
      by simp [keyword?, Expr.word?], fun op us hop => ?_⟩
    · rw [Expr.pluses_unary, if_pos rfl]
      exact hread'.takes.plus
    · rw [Expr.edge, Nat.lt_min]
      exact hread'.stops op us hop
  · obtain ⟨⟨e', us⟩, hprimary, hsuffixes⟩ := bind_eq_ok.1 h
    have hread := readPrimary_eq_ok hsub hts hprimary
    have hread' := readSuffixes_eq_ok (hread.takes.lexed hts) hread hsuffixes
    refine ⟨.operand hread'.operand, hread'.matchers, hread'.takes, hread'.word, fun op us _ => ?_⟩
    rw [edge_of_operand hread'.operand]
    exact Nat.lt_succ_of_le (precedence_le op)

theorem binaryOp?_eq_some {op : BinaryOp} (h : binaryOp? ts = some (op, us)) :
    Takes (if op = .plus then 1 else 0) ts us ∧ us.length < ts.length := by
  unfold binaryOp? at h
  split at h
  · rename_i s ts
    cases s with
    | plus =>
      cases h
      exact ⟨(takes_zero us).plus, Nat.lt_succ_self _⟩
    | assign | «matches» | notMatches => cases h
    | _ =>
      cases h
      exact ⟨(takes_zero us).cons (by simp), Nat.lt_succ_self _⟩
  · split at h <;> cases h
    all_goals exact ⟨(takes_zero us).cons (by simp), Nat.lt_succ_self _⟩
  · cases h

/-- One step of reading operators: none follows that binds tightly enough, or one is read with
its right operand. -/
theorem readOperators_succ_eq_ok {bound n : Nat} {lhs : Expr}
    (h : readOperators sub bound (n + 1) lhs ts = .ok (e, rest)) :
    (e = lhs ∧ rest = ts ∧ ∀ op us, binaryOp? ts = some (op, us) → op.precedence < bound)
      ∨ ∃ op us b us₁ m us₂ rhs us₃, binaryOp? ts = some (op, us) ∧ bound ≤ op.precedence
        ∧ Takes 0 us us₁ ∧ (b = false → us₁ = us ∧ keyword? us ≠ some "bool")
        ∧ readMatching us₁ = .ok (m, us₂) ∧ sub op.rightBound us₂ = .ok (rhs, us₃)
        ∧ readOperators sub bound n (.binary op lhs rhs b m) us₃ = .ok (e, rest) := by
  unfold readOperators at h
  split at h
  · rename_i hnone
    cases h
    exact .inl ⟨rfl, rfl, by simp [hnone]⟩
  rename_i op us hop
  split at h
  · rename_i hlt
    cases h
    refine .inl ⟨rfl, rfl, fun op' us' hop' => ?_⟩
    rw [hop, Option.some.injEq, Prod.mk.injEq] at hop'
    exact hop'.1 ▸ hlt
  rename_i hbound
  split at h
  rename_i b us₁ heq
  obtain ⟨⟨m, us₂⟩, hmatching, h₂⟩ := bind_eq_ok.1 h
  obtain ⟨⟨rhs, us₃⟩, hrhs, h₃⟩ := bind_eq_ok.1 h₂
  have hbool : Takes 0 us us₁ ∧ (b = false → us₁ = us ∧ keyword? us ≠ some "bool") := by
    split at heq
    · rename_i us₁ hword
      cases heq
      exact ⟨takes_of_takeKeyword? hword, by simp⟩
    · rename_i hword
      cases heq
      exact ⟨takes_zero us, fun _ => ⟨rfl, takeKeyword?_eq_none.1 hword⟩⟩
  exact .inr ⟨op, us, b, us₁, m, us₂, rhs, us₃, hop, Nat.le_of_not_lt hbound, hbool.1, hbool.2,
    hmatching, hrhs, h₃⟩

theorem readOperators_eq_ok (hsub : ReadsAll S M sub) {bound n : Nat} {lhs : Expr}
    (hlhs : Spine S bound lhs) (hmatchers : ∀ m ∈ lhs.matchers, M m) (hn : ts.length ≤ n)
    (hts : Lexed M ts)
    (hedge : ∀ op us, binaryOp? ts = some (op, us) → op.precedence < lhs.edge)
    (h : readOperators sub bound n lhs ts = .ok (e, rest)) :
    Spine S bound e ∧ (∀ m ∈ e.matchers, M m)
      ∧ (∃ k, e.pluses = lhs.pluses + k ∧ Takes k ts rest) ∧ e.word? = lhs.word?
      ∧ ∀ op us, binaryOp? rest = some (op, us) → op.precedence < bound ∧ op.precedence < e.edge := by
  -- each operator takes a token, so that none is left when the rounds are used up
  induction n generalizing lhs ts with
  | zero =>
    obtain rfl := List.eq_nil_of_length_eq_zero (Nat.le_zero.1 hn)
    cases h
    exact ⟨hlhs, hmatchers, ⟨0, rfl, takes_zero _⟩, rfl, by simp [binaryOp?]⟩
  | succ n ih =>
    rcases readOperators_succ_eq_ok h with ⟨rfl, rfl, hlt⟩ | ⟨op, us, b, us₁, m, us₂, rhs, us₃, hop,
      hbound, htakes₁, hbool, hmatching, hrhs, h₃⟩
    · exact ⟨hlhs, hmatchers, ⟨0, rfl, takes_zero _⟩, rfl,
        fun op us hop => ⟨hlt op us hop, hedge op us hop⟩⟩
    obtain ⟨htakes, hlength⟩ := binaryOp?_eq_some hop
    have hlex := htakes.lexed hts
    have hlex₁ := htakes₁.lexed hlex
    obtain ⟨htakes₂, hm, hclause, hgroup⟩ := readMatching_eq_ok hlex₁.lexeme hmatching
    have hlex₂ := htakes₂.lexed hlex₁
    have hread := hsub _ _ _ _ hlex₂ hrhs
    have hstart : StartsAfter b m rhs := by
      have hword : ∀ w ∈ matchingWords, keyword? us₂ ≠ some w → rhs.word? ≠ some w :=
        fun w hw hne heq => hne ((hread.word w hw).2 heq)
      refine ⟨fun hb hnone => ?_, fun hnone => ?_, fun hnone => ?_⟩
      · obtain ⟨rfl, -⟩ := hclause hnone
        obtain ⟨rfl, hne⟩ := hbool hb
        exact hword _ (by decide) hne
      · obtain ⟨-, hon, hignoring⟩ := hclause hnone
        exact ⟨hword _ (by decide) hon, hword _ (by decide) hignoring⟩
      · obtain ⟨hleft, hright⟩ := hgroup hnone
        exact ⟨hword _ (by decide) hleft, hword _ (by decide) hright⟩
    have hspine : Spine S bound (.binary op lhs rhs b m) :=
      .binary hlhs hbound (hedge op us hop) hread.shape hm hstart
    have htakes₃ := ((htakes.trans htakes₁).trans htakes₂).trans hread.takes
    have hboth : ∀ m' ∈ (Expr.binary op lhs rhs b m).matchers, M m' := by
      intro m' hm'
      rw [Expr.matchers_binary] at hm'
      exact (List.mem_append.1 hm').elim (hmatchers m') (hread.matchers m')
    obtain ⟨he, hall, ⟨k, hk, htakes₄⟩, hword, hstops⟩ := ih hspine hboth
      (by have := htakes₁.length_le; have := htakes₂.length_le; have := hread.takes.length_le; omega)
      (hread.takes.lexed hlex₂)
      (fun op' us' hop' => by rw [Expr.edge, Nat.lt_min]; exact hread.stops op' us' hop') h₃
    refine ⟨he, hall, ⟨_, ?_, htakes₃.trans htakes₄⟩, hword, hstops⟩
    rw [hk, Expr.pluses_binary]
    omega

/-- What is read is a tree of `Readable`, and all tokens up to where reading stops are in it. -/
theorem exprAt_eq_ok (M : LabelMatcher → Prop) (levels : Nat) :
    ReadsAll (Readable levels) M (exprAt levels) := by
  induction levels with
  | zero =>
    intro bound ts e rest _ h
    cases h
  | succ levels ih =>
    intro bound ts e rest hts h
    obtain ⟨⟨lhs, us⟩, hunary, hoperators⟩ := bind_eq_ok.1 h
    obtain ⟨hlhs, hmatchers, htakes, hword, hedge⟩ := readUnary_eq_ok ih bound hts hunary
    obtain ⟨he, hall, ⟨k, hk, htakes'⟩, hword', hstops⟩ :=
      readOperators_eq_ok ih hlhs hmatchers (Nat.le_refl _) (htakes.lexed hts) hedge hoperators
    refine ⟨he, hall, ?_, ?_, hstops⟩
    · rw [hk]
      exact htakes.trans htakes'
    · rwa [hword']

end RuleCatalog.Query
