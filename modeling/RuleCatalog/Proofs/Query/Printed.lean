import RuleCatalog.Proofs.Query.Lookahead
import RuleCatalog.Proofs.Query.Signs

/-! # The text of a tree

The printed form of a tree that could be read lays out its tokens, if the names in its matchers
are names: other names are printed without the quotes they need. Main statement:
`laysOut_of_readable`. -/
namespace RuleCatalog.Query
open Text

variable {g : Bool} {c : Char} {cs rest w : List Char} {ts : List Token} {t : Token}

/-! ## Single tokens -/

theorem layout_ident {n : String} (hn : isIdent n.toList = true) (hrest : Ends rest)
    (h : Layout g rest ts) : Layout false (n.toList ++ rest) (.ident n :: ts) := by
  have hne : n.toList ≠ [] := by
    intro hnil
    rw [hnil] at hn
    cases hn
  obtain ⟨c, w, hw⟩ := List.exists_cons_of_ne_nil hne
  rw [hw] at hn
  have hlex := lexeme_ident hn hrest.isIdentPart
  rw [← hw, String.ofList_toList] at hlex
  rw [hw]
  refine .token hlex (fun d hd => isSolid_of_isIdentPart ?_) (by simp) h
  rw [isIdent, Bool.and_eq_true, List.all_eq_true] at hn
  exact hn.2 d hd

theorem layout_number (hw : LexesAs w t) (ht : t ≠ .symbol .plus) (hrest : EndsNumber rest)
    (h : Layout g rest ts) : Layout false (w ++ rest) (t :: ts) := by
  obtain ⟨c, w, rfl⟩ := List.exists_cons_of_ne_nil hw.ne_nil
  obtain ⟨hs, hl⟩ := hw rest hrest
  obtain ⟨u, hu, hsolid⟩ := isSolid_of_lexNumber hl
  obtain rfl := List.append_cancel_right hu
  rw [List.cons_append] at hs hl
  exact .token ((lexeme_number hs).trans hl) hsolid (fun h => absurd h ht) h

theorem lexeme_mark (h : punctuation? c = some t) (hc : startsIdent (c :: cs) = false) :
    lexeme c cs = .ok (t, cs) ∧ IsSolid c ∧ t ≠ .symbol .plus := by
  have hchar : startsNumber (c :: cs) = false ∧ IsSolid c ∧ t ≠ .symbol .plus := by
    unfold punctuation? at h
    split at h <;> cases h
    all_goals exact ⟨by rw [startsNumber_cons]; rfl, by decide, by decide⟩
  refine ⟨?_, hchar.2⟩
  rw [lexeme_other hchar.1 hc hchar.2.1.mark, h]

theorem layout_mark (hp : punctuation? c = some t) (hc : startsIdent (c :: rest) = false)
    (h : Layout g rest ts) : Layout false (c :: rest) (t :: ts) := by
  obtain ⟨hlex, hsolid, ht⟩ := lexeme_mark hp hc
  exact .token (w := []) hlex (by simpa using hsolid) (fun h => absurd h ht) h

theorem layout_symbol (s : Symbol) (hlex : lexSymbol? (s.text.toList ++ rest) = some (s, rest))
    (hplus : s = .plus → ¬ NamesInf ts) (h : Layout g rest ts) :
    Layout false (s.text.toList ++ rest) (.symbol s :: ts) := by
  have htoken : ∀ {c : Char} {w : List Char}, s.text.toList = c :: w → (∀ d ∈ c :: w, IsSolid d) →
      (∀ cs, startsNumber (c :: cs) = false ∧ startsIdent (c :: cs) = false) →
      punctuation? c = none → Layout false (s.text.toList ++ rest) (.symbol s :: ts) := by
    intro c w htext hsolid hstart hp
    rw [htext] at hlex ⊢
    refine .token ?_ hsolid (fun ht => hplus (Token.symbol.inj ht)) h
    rw [lexeme_other (hstart _).1 (hstart _).2 (hsolid c List.mem_cons_self).mark, hp, ← List.cons_append,
      hlex]
  cases s
  all_goals
    refine htoken rfl (by decide) (fun cs => ⟨?_, ?_⟩) rfl
    · rw [startsNumber_cons]
      rfl
    · rw [startsIdent_cons]
      rfl

/-! ## Texts of one operand -/

/-- Whether no character and no token goes on with a word that stands before. -/
structure Closes (rest : List Char) (ts : List Token) : Prop where
  chars : Ends rest
  tokens : ts.head? ≠ some .leftParen

theorem closes_cons (hc : isIdentPart c = false ∧ c ≠ '.') (ht : ts.head? ≠ some .leftParen) :
    Closes (c :: rest) ts :=
  ⟨ends_cons hc, ht⟩

/-- Items with commas between them lay out their tokens with commas between them. -/
theorem layout_intercalate {α : Type} {write : α → List Char} {tokens : α → List Token}
    {items : List α} (hitems : ∀ a ∈ items, ∀ g rest ts, Layout g rest ts → Closes rest ts →
      Layout false (write a ++ rest) (tokens a ++ ts))
    (h : Layout false rest ts) (hclose : Closes rest ts) :
    Layout false (List.intercalate ", ".toList (items.map write) ++ rest)
      (List.intercalate [.comma] (items.map tokens) ++ ts) := by
  induction items with
  | nil => exact h
  | cons a items ih =>
    cases items with
    | nil =>
      rw [List.map_singleton, List.map_singleton, List.intercalate_singleton,
        List.intercalate_singleton]
      exact hitems a List.mem_cons_self _ _ _ h hclose
    | cons b items =>
      have hrest := ih fun x hx => hitems x (List.mem_cons_of_mem a hx)
      rw [List.map_cons, List.map_cons] at hrest ⊢
      rw [List.map_cons, List.map_cons, List.intercalate_cons_cons, List.intercalate_cons_cons,
        List.append_assoc, List.append_assoc, List.append_assoc, List.append_assoc]
      refine hitems a List.mem_cons_self false _ _ ?_ (closes_cons (by decide) (by simp))
      exact layout_mark (c := ',') rfl (by rw [startsIdent_cons]; rfl) (.blank hrest)

theorem layout_rightParen (h : Layout g rest ts) : Layout false (')' :: rest) (.rightParen :: ts) :=
  layout_mark rfl (by rw [startsIdent_cons]; rfl) h

theorem layout_leftParen (h : Layout g rest ts) : Layout false ('(' :: rest) (.leftParen :: ts) :=
  layout_mark rfl (by rw [startsIdent_cons]; rfl) h

theorem layout_labels {ls : List String} (hls : AreLabels ls) (h : Layout g rest ts) :
    Layout false (writeLabels ls ++ rest) (labelTokens ls ++ ts) := by
  rw [writeLabels, labelTokens, List.append_assoc, List.append_assoc, List.cons_append,
    List.cons_append]
  refine layout_leftParen (layout_intercalate (fun l hl g rest ts h hclose => ?_)
    (layout_rightParen h) (closes_cons (by decide) (by simp)))
  exact layout_ident (hls l hl) hclose.chars h

theorem layout_matcher {m : LabelMatcher} (hm : m.IsPlain) (h : Layout g rest ts) :
    Layout false (m.write ++ rest) (m.tokens ++ ts) := by
  obtain ⟨n, op, v⟩ := m
  rw [LabelMatcher.write, List.append_assoc, List.append_assoc]
  have htext : op.text = op.symbol.text := by cases op <;> rfl
  have hsymbol : Layout false (op.text.toList ++ (writeString v ++ rest))
      (.symbol op.symbol :: .string v :: ts) := by
    rw [htext]
    refine layout_symbol op.symbol ?_ (by cases op <;> simp [MatchOp.symbol]) (.string v h)
    cases op <;> rfl
  have hhead : ∃ c w, op.text.toList = c :: w ∧ (isIdentPart c = false ∧ c ≠ '.') := by
    cases op <;> exact ⟨_, _, rfl, by decide⟩
  obtain ⟨c, w, hw, hc⟩ := hhead
  refine layout_ident hm ?_ hsymbol
  rw [hw]
  exact ends_cons hc

theorem layout_matchers {ms : List LabelMatcher} (hms : ∀ m ∈ ms, m.IsPlain) (h : Layout g rest ts) :
    Layout false ('{' :: List.intercalate ", ".toList (ms.map LabelMatcher.write) ++ '}' :: rest)
      (matcherTokens ms ++ ts) := by
  have hclose : Layout false ('}' :: rest) (.rightBrace :: ts) :=
    layout_mark rfl (by rw [startsIdent_cons]; rfl) h
  rw [matcherTokens, List.append_assoc, List.cons_append, List.cons_append]
  refine layout_mark rfl (by rw [startsIdent_cons]; rfl)
    (layout_intercalate (fun m hm g rest ts h _ => ?_) hclose (closes_cons (by decide) (by simp)))
  exact layout_matcher (hms m hm) h

theorem layout_selector {n : Option String} {ms : List LabelMatcher}
    (hn : ∀ s ∈ n, isIdent s.toList = true) (hms : ∀ m ∈ ms, m.IsPlain) (hnone : n = none → ms ≠ [])
    (h : Layout g rest ts) (hclose : Closes rest ts) :
    Layout false (writeSelector n ms ++ rest) (selectorTokens n ms ++ ts) := by
  cases n with
  | none =>
    have hwrite : writeSelector none ms
        = '{' :: List.intercalate ", ".toList (ms.map LabelMatcher.write) ++ ['}'] := by
      simp [writeSelector]
    rw [hwrite, List.append_assoc]
    exact layout_matchers hms h
  | some n =>
    cases ms with
    | nil =>
      have hwrite : writeSelector (some n) [] = n.toList := by
        simp [writeSelector]
      rw [hwrite]
      exact layout_ident (hn n rfl) hclose.chars h
    | cons m ms =>
      have hwrite : writeSelector (some n) (m :: ms) = n.toList
          ++ ('{' :: List.intercalate ", ".toList ((m :: ms).map LabelMatcher.write) ++ ['}']) := by
        simp [writeSelector]
      rw [hwrite, List.append_assoc, List.append_assoc]
      exact layout_ident (hn n rfl) (ends_cons (by decide)) (layout_matchers hms h)

theorem layout_duration {d : String} (hd : isDuration d.toList = true) (hrest : EndsNumber rest)
    (h : Layout g rest ts) : Layout false (d.toList ++ rest) (.duration d :: ts) := by
  have hlex := lexesAs_duration hd
  rw [String.ofList_toList] at hlex
  exact layout_number hlex (by simp) hrest h

theorem layout_range {r : Option String} (hr : ∀ d ∈ r, isDuration d.toList = true)
    (h : Layout g rest ts) (hclose : Closes rest ts) :
    (∃ g', Layout g' (writeRange r ++ rest) (rangeTokens r ++ ts))
      ∧ Closes (writeRange r ++ rest) (rangeTokens r ++ ts) := by
  cases r with
  | none => exact ⟨⟨g, h⟩, hclose⟩
  | some d =>
    have hbracket : Layout false (']' :: rest) (.rightBracket :: ts) :=
      layout_mark rfl (by rw [startsIdent_cons]; rfl) h
    refine ⟨⟨false, ?_⟩, closes_cons (by decide) (by simp [rangeTokens])⟩
    rw [writeRange, List.append_assoc, List.cons_append]
    exact layout_mark rfl (by rw [startsIdent_cons]; rfl)
      (layout_duration (hr d rfl) (endsNumber_cons (by decide)) hbracket)

theorem layout_offset {o : String} (ho : IsOffset o) (h : Layout g rest ts) (hclose : Closes rest ts) :
    Layout true (" offset ".toList ++ o.toList ++ rest) (offsetTokens o ++ ts) := by
  have hword : ∀ {cs us}, Layout true cs us → Ends cs →
      Layout true (' ' :: "offset".toList ++ cs) (.ident "offset" :: us) := fun hcs hends =>
    .blank (layout_ident (n := "offset") (by decide) hends hcs)
  obtain ⟨d, hd, rfl | rfl⟩ := ho
  · rw [offsetTokens_of_duration hd]
    exact hword (.blank (layout_duration hd hclose.chars.endsNumber h)) (ends_cons (by decide))
  · rw [offsetTokens_minus, String.toList_append]
    refine hword (.blank ?_) (ends_cons (by decide))
    exact layout_symbol .minus rfl (by simp) (layout_duration hd hclose.chars.endsNumber h)

theorem layout_time {t : String} (ht : IsTime t) (h : Layout g rest ts) (hclose : Closes rest ts) :
    Layout true (" @ ".toList ++ t.toList ++ rest) (timeTokens t ++ ts) := by
  have hmark : ∀ {cs us}, Layout true cs us → Layout true (' ' :: '@' :: cs) (.at :: us) :=
    fun hcs => .blank (layout_mark rfl (by rw [startsIdent_cons]; rfl) hcs)
  have hcall : Layout false ('(' :: ')' :: rest) (.leftParen :: .rightParen :: ts) :=
    layout_leftParen (layout_rightParen h)
  rcases ht with ht | rfl | rfl
  · rw [timeTokens_of_number ht]
    exact hmark (.blank (layout_number ht (by simp) hclose.chars.endsNumber h))
  · exact hmark (.blank (layout_ident (n := "start") (by decide) (ends_cons (by decide)) hcall))
  · exact hmark (.blank (layout_ident (n := "end") (by decide) (ends_cons (by decide)) hcall))

theorem layout_modifiers {m : Modifiers} (hm : m.IsRead) (h : Layout g rest ts)
    (hclose : Closes rest ts) : (∃ g', Layout g' (m.write ++ rest) (m.tokens ++ ts))
      ∧ Closes (m.write ++ rest) (m.tokens ++ ts) := by
  obtain ⟨o, t⟩ := m
  have htime : ∃ cs us g', Layout g' cs us ∧ Closes cs us
      ∧ (Modifiers.mk none t).write ++ rest = cs ∧ (Modifiers.mk none t).tokens ++ ts = us := by
    cases t with
    | none => exact ⟨rest, ts, g, h, hclose, rfl, rfl⟩
    | some t =>
      refine ⟨_, _, true, layout_time (hm.time t rfl) h hclose, ?_, rfl, rfl⟩
      refine closes_cons (by decide) ?_
      unfold timeTokens
      split
      · simp
      · split <;> simp
  obtain ⟨cs, us, g', hlayout, hcloses, hcs, hus⟩ := htime
  cases o with
  | none => exact hcs ▸ hus ▸ ⟨⟨g', hlayout⟩, hcloses⟩
  | some o =>
    have hwrite : (Modifiers.mk (some o) t).write ++ rest = " offset ".toList ++ o.toList ++ cs := by
      rw [← hcs, Modifiers.write, Modifiers.write, List.append_assoc]
      rfl
    have htokens : (Modifiers.mk (some o) t).tokens ++ ts = offsetTokens o ++ us := by
      rw [← hus, Modifiers.tokens, Modifiers.tokens, List.append_assoc]
      rfl
    rw [hwrite, htokens]
    refine ⟨⟨true, layout_offset (hm.offset o rfl) hlayout hcloses⟩, ?_⟩
    refine closes_cons (by decide) ?_
    unfold offsetTokens
    split <;> simp

theorem layout_numeral {t : String} (ht : IsNumber t) (h : Layout g rest ts) (hclose : Closes rest ts) :
    Layout false (writeNumber t ++ rest) (numberToken t :: ts) := by
  by_cases hinf : lower t = "inf"
  · rw [writeNumber_inf hinf, numberToken_of_inf hinf]
    exact .infinity hclose.chars hclose.tokens h
  · by_cases hnan : lower t = "nan"
    · rw [writeNumber_nan hnan, numberToken, if_pos hnan]
      exact layout_ident (n := "NaN") (by decide) hclose.chars h
    · refine layout_number (lexesAs_writeNumber ht hinf hnan) ?_ hclose.chars.endsNumber h
      unfold numberToken
      split
      · simp
      · split <;> simp

/-! ## Words between operands -/

theorem Layout.ends (h : Layout true cs ts) : Ends cs := by
  cases h with
  | nil => exact ends_nil
  | blank h => exact ends_cons (by decide)

theorem layout_grouping {gr : Grouping} (hls : AreLabels gr.labels) (h : Layout false rest ts) :
    Layout true (gr.write ++ rest) (gr.tokens ++ ts) := by
  obtain ⟨without, ls⟩ := gr
  have hlabels := layout_labels hls (.blank h)
  rw [Grouping.write, Grouping.tokens, List.append_assoc, List.append_assoc]
  cases without with
  | false =>
    rw [if_neg Bool.false_ne_true, if_neg Bool.false_ne_true]
    exact .blank (layout_ident (n := "by") (by decide) (ends_cons (by decide)) (.blank hlabels))
  | true =>
    rw [if_pos rfl, if_pos rfl]
    exact .blank (layout_ident (n := "without") (by decide) (ends_cons (by decide)) (.blank hlabels))

theorem layout_clause {c : MatchClause} (hls : AreLabels c.labels) (h : Layout true rest ts) :
    Layout true (c.write ++ rest) (c.tokens ++ ts) := by
  obtain ⟨on, ls⟩ := c
  have hlabels := layout_labels hls h
  rw [MatchClause.write, MatchClause.tokens, List.append_assoc]
  cases on with
  | true =>
    rw [if_pos rfl, if_pos rfl]
    exact .blank (layout_ident (n := "on") (by decide) (ends_cons (by decide)) hlabels)
  | false =>
    rw [if_neg Bool.false_ne_true, if_neg Bool.false_ne_true]
    exact .blank (layout_ident (n := "ignoring") (by decide) (ends_cons (by decide)) hlabels)

theorem layout_group {side : GroupSide} {ls : List String} (hls : AreLabels ls)
    (h : Layout true rest ts) :
    Layout true (writeGroup side ls ++ rest) (.ident side.word :: labelTokens ls ++ ts) := by
  have hwrite : writeGroup side ls = ' ' :: side.word.toList ++ writeLabels ls := by
    cases side <;> rfl
  have hword : isIdent side.word.toList = true := by
    cases side <;> decide
  rw [hwrite, List.append_assoc]
  exact .blank (layout_ident hword (ends_cons (by decide)) (layout_labels hls h))

theorem layout_matching {b : Bool} {m : Option VectorMatching} (hm : ∀ v ∈ m, v.IsRead)
    (h : Layout true rest ts) :
    Layout true ((if b then " bool".toList else []) ++ (m.map VectorMatching.write).getD [] ++ rest)
      (matchingTokens b m ++ ts) := by
  have hwords : Layout true ((m.map VectorMatching.write).getD [] ++ rest)
      ((m.map VectorMatching.tokens).getD [] ++ ts) := by
    cases m with
    | none => exact h
    | some v =>
      obtain ⟨c, g⟩ := v
      have hgroup : Layout true ((g.map fun g => writeGroup g.1 g.2).getD [] ++ rest)
          ((g.map fun g => Token.ident g.1.word :: labelTokens g.2).getD [] ++ ts) := by
        cases g with
        | none => exact h
        | some g => exact layout_group ((hm _ rfl).group g rfl) h
      rw [Option.map_some, Option.map_some, Option.getD_some, Option.getD_some,
        VectorMatching.write, VectorMatching.tokens, List.append_assoc, List.append_assoc]
      cases c with
      | none => exact hgroup
      | some c => exact layout_clause ((hm _ rfl).clause c rfl) hgroup
  cases b with
  | false => exact hwords
  | true => exact .blank (layout_ident (n := "bool") (by decide) hwords.ends hwords)

theorem layout_operator (op : BinaryOp) (hplus : op = .plus → ¬ NamesInf ts) (h : Layout true rest ts) :
    Layout false (op.text.toList ++ rest) (op.token :: ts) := by
  have hlex : ∀ s : Symbol, op.token = .symbol s →
      lexSymbol? (op.text.toList ++ rest) = some (s, rest) := by
    intro s hs
    cases h <;> cases op <;> cases hs <;> rfl
  cases op with
  | or => exact layout_ident (n := "or") (by decide) h.ends h
  | and => exact layout_ident (n := "and") (by decide) h.ends h
  | «unless» => exact layout_ident (n := "unless") (by decide) h.ends h
  | atan2 => exact layout_ident (n := "atan2") (by decide) h.ends h
  | plus => exact layout_symbol .plus (hlex _ rfl) (fun _ => hplus rfl) h
  | equal => exact layout_symbol .equal (hlex _ rfl) (by simp) h
  | notEqual => exact layout_symbol .notEqual (hlex _ rfl) (by simp) h
  | greater => exact layout_symbol .greater (hlex _ rfl) (by simp) h
  | less => exact layout_symbol .less (hlex _ rfl) (by simp) h
  | greaterEqual => exact layout_symbol .greaterEqual (hlex _ rfl) (by simp) h
  | lessEqual => exact layout_symbol .lessEqual (hlex _ rfl) (by simp) h
  | minus => exact layout_symbol .minus (hlex _ rfl) (by simp) h
  | times => exact layout_symbol .times (hlex _ rfl) (by simp) h
  | divide => exact layout_symbol .divide (hlex _ rfl) (by simp) h
  | modulo => exact layout_symbol .modulo (hlex _ rfl) (by simp) h
  | power => exact layout_symbol .power (hlex _ rfl) (by simp) h

/-! ## Trees -/

/-- The text of an expression lays out its tokens, whatever closes it. -/
def LaysOut (e : Expr) : Prop :=
  ∀ g rest ts, Layout g rest ts → Closes rest ts → Layout false (e.write ++ rest) (e.tokens ++ ts)

theorem writeAll_eq_intercalate (es : List Expr) :
    Expr.writeAll es = List.intercalate ", ".toList (es.map Expr.write) := by
  induction es with
  | nil => rfl
  | cons e es ih =>
    cases es with
    | nil => rw [Expr.writeAll, List.map_singleton, List.intercalate_singleton]
    | cons e' es =>
      rw [List.map_cons] at ih ⊢
      rw [Expr.writeAll, ih, List.map_cons, List.intercalate_cons_cons]
      simp

theorem tokensAll_eq_intercalate (es : List Expr) :
    Expr.tokensAll es = List.intercalate [.comma] (es.map Expr.tokens) := by
  induction es with
  | nil => rfl
  | cons e es ih =>
    cases es with
    | nil => rw [Expr.tokensAll, List.map_singleton, List.intercalate_singleton]
    | cons e' es =>
      rw [List.map_cons] at ih ⊢
      rw [Expr.tokensAll, ih, List.map_cons, List.intercalate_cons_cons]
      · simp
      · simp

theorem namesInf_tokens {levels bound : Nat} {e : Expr} (he : Readable levels bound e)
    (ts : List Token) : ¬ NamesInf (e.tokens ++ ts) := by
  rintro ⟨us, heq, hhead⟩
  -- the name becomes a variable, so that the cases of `Opens` can be about it
  obtain ⟨n, hn⟩ : ∃ n, n = "Inf" := ⟨_, rfl⟩
  rw [← hn] at heq
  rcases opens_of_readable he with hopens | ⟨-, s, vs, hvs⟩
  · have happend := hopens.append ts
    rw [heq] at happend
    cases happend with
    | nan => exact absurd hn (by decide)
    | name hword hcall => exact hhead (hcall (by rw [hn]; decide))
    | plain _ hident hsymbol hparen => exact hident _ rfl
  · rw [hvs] at heq
    cases heq

theorem namesInf_matching {b : Bool} {m : Option VectorMatching} (hm : ∀ v ∈ m, v.IsRead)
    (h : ¬ NamesInf ts) : ¬ NamesInf (matchingTokens b m ++ ts) := by
  have hword : ∀ {n : String} {us : List Token}, n ≠ "Inf" → ¬ NamesInf (.ident n :: us) := by
    rintro n us hn ⟨vs, heq, -⟩
    exact hn (Token.ident.inj (List.cons.inj heq).1)
  cases b with
  | true => exact hword (by decide)
  | false =>
    cases m with
    | none => exact h
    | some v =>
      obtain ⟨c, g⟩ := v
      cases c with
      | some c =>
        obtain ⟨on, ls⟩ := c
        cases on
        · exact hword (n := "ignoring") (by decide)
        · exact hword (n := "on") (by decide)
      | none =>
        cases g with
        | none => simpa using (hm _ rfl).some
        | some g =>
          obtain ⟨side, ls⟩ := g
          exact hword (n := side.word) (by cases side <;> decide)

theorem isIdent_of_mem_aggregations {op : String} (h : op ∈ aggregations) :
    isIdent op.toList = true := by
  have hall : ∀ op ∈ aggregations, isIdent op.toList = true := by decide
  exact hall op h

/-- A duration makes no name of the colon before it. -/
theorem startsIdent_duration {d : String} (hd : isDuration d.toList = true) (rest : List Char) :
    startsIdent (':' :: (d.toList ++ rest)) = false := by
  have hdigits := (isDuration_eq_true hd).1
  cases hlist : d.toList with
  | nil =>
    rw [hlist] at hdigits
    exact absurd rfl hdigits
  | cons c w =>
    rw [hlist] at hdigits
    have hc : c.isDigit = true := by
      cases hc : c.isDigit with
      | true => rfl
      | false => simp [hc] at hdigits
    have hnumber : startsNumber (c :: (w ++ rest)) = true := by
      rw [startsNumber_cons, hc, Bool.true_or]
    rw [startsIdent_cons, List.cons_append, List.head?_cons, Option.any_some]
    cases hident : isIdentStart c with
    | false => rfl
    | true =>
      rw [startsNumber_of_startsIdent (by rw [startsIdent_cons, hident, Bool.true_or])] at hnumber
      cases hnumber

variable {levels : Nat}

theorem laysOut_operand (hS : ∀ bound e, Readable levels bound e → e.IsPlain → LaysOut e) {e : Expr}
    (he : Operand (Readable levels) e) (hplain : e.IsPlain) : LaysOut e := by
  -- each case puts the text together from its end, since a part is laid out before what follows it
  induction he with
  | @number t ht => exact fun g rest ts h hclose => layout_numeral ht h hclose
  | string v => exact fun g rest ts h hclose => .string v h
  | @selector n ms r mods hn hms hr hmods =>
    intro g rest ts h hclose
    obtain ⟨⟨g₁, h₁⟩, hclose₁⟩ := layout_modifiers hmods h hclose
    obtain ⟨⟨g₂, h₂⟩, hclose₂⟩ := layout_range hr h₁ hclose₁
    have hplain' : ∀ m ∈ ms, m.IsPlain := by
      rwa [Expr.IsPlain, Expr.matchers_selector] at hplain
    rw [Expr.write, Expr.tokens, List.append_assoc, List.append_assoc, List.append_assoc,
      List.append_assoc]
    exact layout_selector (fun s hs => (hn s hs).1) hplain' hms h₂ hclose₂
  | @call f args hf hagg hargs =>
    intro g rest ts h hclose
    rw [Expr.IsPlain, Expr.matchers_call] at hplain
    have hitems : ∀ a ∈ args, LaysOut a := fun a ha =>
      hS _ _ (hargs a ha) fun m hm => hplain m (List.mem_flatMap.2 ⟨a, ha, hm⟩)
    have hargs' := layout_intercalate hitems (layout_rightParen h) (closes_cons (by decide) (by simp))
    rw [← writeAll_eq_intercalate, ← tokensAll_eq_intercalate] at hargs'
    have hcall := layout_ident hf (ends_cons (by decide)) (layout_leftParen hargs')
    rw [Expr.write, Expr.tokens]
    simp only [List.append_assoc, List.cons_append, List.nil_append] at hcall ⊢
    exact hcall
  | @aggregate op param body gr hop hparam hbody hg =>
    intro g rest ts h hclose
    rw [Expr.IsPlain, Expr.matchers_aggregate] at hplain
    have hbody' := hS _ _ hbody (fun m hm => hplain m (List.mem_append_right _ hm)) _ _ _
      (layout_rightParen h) (closes_cons (by decide) (by simp))
    have hparam' : Layout false (Expr.writeParam param ++ (body.write ++ ')' :: rest))
        (Expr.tokensParam param ++ (body.tokens ++ .rightParen :: ts)) := by
      cases param with
      | none => exact hbody'
      | some p =>
        rw [Expr.writeParam, Expr.tokensParam, List.append_assoc, List.append_assoc]
        exact hS _ _ (hparam p rfl) (fun m hm => hplain m (List.mem_append_left _ hm)) _ _ _
          (layout_mark (c := ',') rfl (by rw [startsIdent_cons]; rfl) (.blank hbody'))
          (closes_cons (by decide) (by simp))
    have hparen := layout_leftParen hparam'
    have hname : isIdent op.toList = true := isIdent_of_mem_aggregations hop
    have hall : Layout false (op.toList ++ ((gr.map Grouping.write).getD [] ++ '('
        :: (Expr.writeParam param ++ (body.write ++ ')' :: rest))))
        (.ident op :: ((gr.map Grouping.tokens).getD [] ++ .leftParen
        :: (Expr.tokensParam param ++ (body.tokens ++ .rightParen :: ts)))) := by
      cases gr with
      | none => exact layout_ident hname (ends_cons (by decide)) hparen
      | some gr =>
        have hgrouping := layout_grouping (hg gr rfl) hparen
        exact layout_ident hname hgrouping.ends hgrouping
    rw [Expr.write, Expr.tokens]
    simp only [List.append_assoc, List.cons_append, List.nil_append] at hall ⊢
    exact hall
  | @paren e he =>
    intro g rest ts h hclose
    rw [Expr.IsPlain, Expr.matchers_paren] at hplain
    rw [Expr.write, Expr.tokens, List.append_assoc, List.append_assoc]
    exact layout_leftParen (hS _ _ he hplain _ _ _ (layout_rightParen h)
      (closes_cons (by decide) (by simp)))
  | @subquery e r s mods he hr hs hmods ih =>
    intro g rest ts h hclose
    rw [Expr.IsPlain, Expr.matchers_subquery] at hplain
    obtain ⟨⟨g', h'⟩, -⟩ := layout_modifiers hmods h hclose
    have hclosed : Layout false (']' :: (mods.write ++ rest)) (.rightBracket :: (mods.tokens ++ ts)) :=
      layout_mark rfl (by rw [startsIdent_cons]; rfl) h'
    have hstep : Layout false (':' :: ((s.map String.toList).getD [] ++ ']' :: (mods.write ++ rest)))
        (.colon :: ((s.map Token.duration).toList ++ .rightBracket :: (mods.tokens ++ ts))) := by
      cases s with
      | none => exact layout_mark rfl (by rw [startsIdent_cons]; rfl) hclosed
      | some d =>
        exact layout_mark rfl (startsIdent_duration (hs d rfl) _)
          (layout_duration (hs d rfl) (endsNumber_cons (by decide)) hclosed)
    have hall := ih hplain _ _ _ (layout_mark (c := '[') rfl (by rw [startsIdent_cons]; rfl)
      (layout_duration hr (endsNumber_cons (by decide)) hstep)) (closes_cons (by decide) (by simp))
    rw [Expr.write, Expr.tokens]
    simp only [List.append_assoc, List.cons_append, List.nil_append] at hall ⊢
    exact hall

theorem laysOut_spine (hS : ∀ bound e, Readable levels bound e → e.IsPlain → LaysOut e) {bound : Nat}
    {e : Expr} (he : Spine (Readable levels) bound e) (hplain : e.IsPlain) : LaysOut e := by
  induction he with
  | operand he => exact laysOut_operand hS he hplain
  | @unary s e he =>
    intro g rest ts h hclose
    rw [Expr.IsPlain, Expr.matchers_unary] at hplain
    rw [Expr.write, Expr.tokens, List.append_assoc, List.cons_append]
    have hsign : s.text = s.symbol.text := by cases s <;> rfl
    rw [hsign]
    refine layout_symbol s.symbol ?_ (fun _ => namesInf_tokens he ts) (hS _ _ he hplain _ _ _ h hclose)
    cases s <;> rfl
  | @binary op l r b m hl hbound hedge hr hm hstart ih =>
    intro g rest ts h hclose
    rw [Expr.IsPlain, Expr.matchers_binary] at hplain
    have hr' := hS _ _ hr (fun m hm => hplain m (List.mem_append_right _ hm)) _ _ _ h hclose
    have hwords := layout_matching (b := b) hm (.blank hr')
    have hop := layout_operator op (fun _ => namesInf_matching hm (namesInf_tokens hr ts)) hwords
    have hl' := ih (fun m hm => hplain m (List.mem_append_left _ hm)) _ _ _ (.blank hop)
      (closes_cons (by decide) (by cases op <;> simp [BinaryOp.token]))
    rw [Expr.write, Expr.tokens]
    simp only [List.append_assoc, List.cons_append] at hl' ⊢
    exact hl'

theorem laysOut_of_readable {bound : Nat} {e : Expr} (he : Readable levels bound e)
    (hplain : e.IsPlain) : LaysOut e := by
  induction levels generalizing bound e with
  | zero => cases he
  | succ levels ih => exact laysOut_spine (fun _ _ => ih) he hplain

end RuleCatalog.Query
