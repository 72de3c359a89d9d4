import RuleCatalog.Proofs.Query.Layout
import RuleCatalog.Proofs.Query.ReadShape

/-! # How far a token looks ahead

A token is read off its own characters, whatever follows them, unless the text goes on with a
character of a kind that the token could have taken. Main statement: `lexeme_eq_ok`. -/
namespace RuleCatalog.Query
open Text

variable {c q : Char} {cs r v w : List Char} {t : Token} {p : Char → Bool}

/-! ## Strings -/

/-- The text of a string after its first mark: plain characters and escapes up to the mark that
closes it. A raw string has no escapes. -/
inductive EndsString (q : Char) : List Char → Prop
  | mark : EndsString q [q]
  | plain {c : Char} {v : List Char} (hc : c ≠ q ∧ (c = '\\' → q = '\x60')) (h : EndsString q v) :
      EndsString q (c :: v)
  | escape {e : Char} {v : List Char} (hq : q ≠ '\x60') (h : EndsString q v) :
      EndsString q ('\\' :: e :: v)

theorem EndsString.plains {ds : List Char} (hds : ∀ d ∈ ds, d ≠ q ∧ (d = '\\' → q = '\x60'))
    (h : EndsString q v) : EndsString q (ds ++ v) := by
  induction ds with
  | nil => exact h
  | cons d ds ih =>
    exact .plain (hds d List.mem_cons_self) (ih fun e he => hds e (List.mem_cons_of_mem d he))

theorem EndsString.getLast? (h : EndsString q v) : v.getLast? = some q := by
  induction h with
  | mark => rfl
  | plain hc h ih => rw [List.getLast?_cons, ih]; rfl
  | escape hq h ih => rw [List.getLast?_cons, List.getLast?_cons, ih]; rfl

/-- The digits of an escape are plain characters. -/
theorem readEscape?_eq_some {n : Nat} {ds : List Char} {d : Char} (h : readEscape? n ds = some d) :
    ds.length = n ∧ ∀ c ∈ ds, c = '+' ∨ isHexDigit c = true := by
  unfold readEscape? at h
  split at h
  case isFalse => cases h
  rename_i hlength
  refine ⟨hlength, ?_⟩
  have hdigits : ∀ {cs m}, readDigits? 16 cs = some m → ∀ c ∈ cs, isHexDigit c = true := by
    intro cs m h c hc
    unfold readDigits? at h
    split at h
    · cases h
    split at h
    · rename_i hall
      have := List.all_eq_true.1 hall c hc
      rw [Bool.and_eq_true] at this
      exact this.1
    · cases h
  obtain ⟨m, hm, -⟩ := Option.bind_eq_some_iff.1 h
  unfold readSigned? at hm
  split at hm
  · intro c hc
    exact (List.mem_cons.1 hc).imp_right (hdigits hm c)
  · intro c hc
    exact .inr (hdigits hm c hc)

theorem plain_of_isHexDigit (hq : q = '"' ∨ q = '\'') (hc : c = '+' ∨ isHexDigit c = true) :
    c ≠ q ∧ (c = '\\' → q = '\x60') := by
  constructor
  · rintro rfl
    rcases hq with rfl | rfl <;> exact absurd hc (by decide)
  · rintro rfl
    exact absurd hc (by decide)

/-- A string is read up to the mark that closes it, whatever follows. -/
theorem lexQuoted_eq_ok (hq : q = '"' ∨ q = '\'') {cs s r : List Char}
    (h : lexQuoted q cs = .ok (s, r)) :
    ∃ v, cs = v ++ r ∧ EndsString q v ∧ ∀ r', lexQuoted q (v ++ r') = .ok (s, r') := by
  have hbackslash : q ≠ '\\' := by rcases hq with rfl | rfl <;> decide
  have hbacktick : q ≠ '\x60' := by rcases hq with rfl | rfl <;> decide
  match cs with
  | [] =>
    rw [lexQuoted_nil] at h
    cases h
  | c :: cs =>
    -- after a character or an escape the string goes on in what is left
    have hstep : ∀ (d : Char) (cs' : List Char), cs'.length ≤ cs.length →
        (lexQuoted q cs').map (fun p => (d :: p.1, p.2)) = .ok (s, r) →
        ∃ v, cs' = v ++ r ∧ EndsString q v
          ∧ ∀ r', (lexQuoted q (v ++ r')).map (fun p => (d :: p.1, p.2)) = .ok (s, r') := by
      intro d cs' hlength hmap
      obtain ⟨⟨s', r⟩, hquoted, hret⟩ := map_eq_ok.1 hmap
      obtain ⟨rfl, rfl⟩ := Prod.mk.inj hret
      obtain ⟨v, hcs, hv, hread⟩ := lexQuoted_eq_ok hq hquoted
      exact ⟨v, hcs, hv, fun r' => by rw [hread]; rfl⟩
    by_cases hc : c = q
    · subst hc
      rw [lexQuoted_mark] at h
      simp only [Except.ok.injEq, Prod.mk.injEq] at h
      obtain ⟨rfl, rfl⟩ := h
      exact ⟨[c], rfl, .mark, lexQuoted_mark c⟩
    by_cases hescape : c = '\\'
    · subst hescape
      cases cs with
      | nil =>
        rw [lexQuoted_backslash hbackslash] at h
        cases h
      | cons e cs =>
        rw [lexQuoted_escape hbackslash] at h
        cases hwidth : escapeWidth? e with
        | none =>
          rw [hwidth] at h
          obtain ⟨v, rfl, hv, hread⟩ := hstep _ cs (Nat.le_succ _) h
          refine ⟨'\\' :: e :: v, rfl, .escape hbacktick hv, fun r' => ?_⟩
          rw [List.cons_append, List.cons_append, lexQuoted_escape hbackslash, hwidth]
          exact hread r'
        | some n =>
          rw [hwidth] at h
          dsimp only at h
          cases hdigits : readEscape? n (cs.take n) with
          | none =>
            rw [hdigits] at h
            cases h
          | some d =>
            rw [hdigits] at h
            obtain ⟨hlength, hplain⟩ := readEscape?_eq_some hdigits
            obtain ⟨v, hdrop, hv, hread⟩ := hstep d (cs.drop n)
              (by rw [List.length_drop, List.length_cons]; omega) h
            have hplains := hv.plains fun d hd => plain_of_isHexDigit hq (hplain d hd)
            refine ⟨'\\' :: e :: (cs.take n ++ v), ?_, .escape hbacktick hplains, fun r' => ?_⟩
            · rw [List.cons_append, List.cons_append, List.append_assoc, ← hdrop,
                List.take_append_drop]
            · rw [List.cons_append, List.cons_append, List.append_assoc,
                lexQuoted_escape hbackslash, hwidth]
              dsimp only
              rw [List.take_left' hlength, List.drop_left' hlength, hdigits]
              exact hread r'
    · rw [lexQuoted_plain hc hescape] at h
      obtain ⟨v, rfl, hv, hread⟩ := hstep c cs (Nat.le_refl _) h
      refine ⟨c :: v, rfl, .plain ⟨hc, fun h => absurd h hescape⟩ hv, fun r' => ?_⟩
      rw [List.cons_append, lexQuoted_plain hc hescape]
      exact hread r'
termination_by cs.length

/-! ## Operators -/

/-- A pattern that starts with none of some characters fits no text that starts with one. -/
theorem head?_notMem_iff {xs cs : List Char} :
    (∀ d ∈ cs.head?, d ∉ xs) ↔ ∀ x ∈ xs, ∀ tail, cs = x :: tail → False := by
  constructor
  · rintro h x hx tail rfl
    exact h x rfl hx
  · intro h d hd hmem
    cases cs with
    | nil => cases hd
    | cons e cs =>
      obtain rfl := Option.some.inj hd
      exact h e hmem cs rfl

/-- An operator is read off its one or two characters, unless a longer operator stands there. -/
theorem lexSymbol?_eq_some {o : Symbol} (h : lexSymbol? (c :: cs) = some (o, r)) :
    ∃ v xs : List Char, cs = v ++ r ∧ c ≠ '.' ∧ (∀ d ∈ c :: v ++ xs, IsSolid d)
      ∧ (∀ d ∈ r.head?, d ∉ xs)
      ∧ ∀ r', (∀ d ∈ r'.head?, d ∉ xs) → lexSymbol? (c :: (v ++ r')) = some (o, r') := by
  generalize hcs : c :: cs = cs' at h
  unfold lexSymbol? at h
  split at h
  case h_16 => cases h
  all_goals
    obtain ⟨rfl, rfl⟩ := List.cons.inj hcs
    simp only [Option.some.injEq, Prod.mk.injEq] at h
    obtain ⟨rfl, rfl⟩ := h
  -- a single character that could be the first of two
  case h_7 hequal htilde =>
    refine ⟨[], ['=', '~'], rfl, by decide, by decide, head?_notMem_iff.2 ?_, fun r' hr => ?_⟩
    · simpa using ⟨hequal, htilde⟩
    · rw [head?_notMem_iff] at hr
      exact lexSymbol?.eq_7 _ (hr '=' (by simp)) (hr '~' (by simp))
  case h_8 hequal =>
    refine ⟨[], ['='], rfl, by decide, by decide, head?_notMem_iff.2 ?_, fun r' hr => ?_⟩
    · simpa using hequal
    · exact lexSymbol?.eq_8 _ (head?_notMem_iff.1 hr '=' (by simp))
  case h_9 hequal =>
    refine ⟨[], ['='], rfl, by decide, by decide, head?_notMem_iff.2 ?_, fun r' hr => ?_⟩
    · simpa using hequal
    · exact lexSymbol?.eq_9 _ (head?_notMem_iff.1 hr '=' (by simp))
  case h_1 | h_2 | h_3 | h_4 | h_5 | h_6 =>
    exact ⟨[_], [], rfl, by decide, by decide, by simp, fun _ _ => rfl⟩
  all_goals exact ⟨[], [], rfl, by decide, by decide, by simp, fun _ _ => rfl⟩

/-! ## Tokens -/

/-- Whether a token is read off its characters, whatever follows them, unless the text goes on
with a character of a kind; outside strings the characters and the kind are solid. -/
structure Spells (p : Char → Bool) (c : Char) (v : List Char) (t : Token) : Prop where
  chars : (∀ d ∈ c :: v, IsSolid d) ∨ quoteMark? c = some c ∧ EndsString c v
  solid : ∀ d, p d = true → IsSolid d
  read : ∀ r, (∀ d ∈ r.head?, p d = false) → lexeme c (v ++ r) = .ok (t, r)

theorem isSolid_of_isNumeralPart (h : isNumeralPart c = true) : IsSolid c := by
  rw [isNumeralPart, Bool.or_eq_true] at h
  rcases h with h | h
  · exact isSolid_of_isAlphanum h
  · rw [eq_of_beq h]
    decide

theorem startsNumber_eq_false (hc : c ≠ '.') (h : startsNumber (c :: cs) = false) (r : List Char) :
    startsNumber (c :: r) = false := by
  rw [startsNumber_cons, Bool.or_eq_false_iff] at h
  rw [startsNumber_cons, h.1, beq_false_of_ne hc]
  rfl

/-- A name that a colon starts shows itself in the next character. -/
theorem startsIdent_eq_false (h : startsIdent (c :: cs) = false)
    (hr : c = ':' → ∀ d ∈ r.head?, isIdentStart d = false) : startsIdent (c :: r) = false := by
  rw [startsIdent_cons, Bool.or_eq_false_iff] at h
  rw [startsIdent_cons, h.1, Bool.false_or, Bool.and_eq_false_iff]
  by_cases hc : c = ':'
  · right
    cases r with
    | nil => rfl
    | cons d r => exact hr hc d rfl
  · exact .inl (beq_false_of_ne hc)

theorem lexeme_number (h : startsNumber (c :: cs) = true) : lexeme c cs = lexNumber (c :: cs) := by
  rw [lexeme, if_pos h]

/-- A character that starts no number, name or string is a mark or starts a symbol. -/
theorem lexeme_other (hnumber : startsNumber (c :: cs) = false) (hident : startsIdent (c :: cs) = false)
    (hmark : quoteMark? c = none) : lexeme c cs =
      match punctuation? c with
      | some t => .ok (t, cs)
      | none => match lexSymbol? (c :: cs) with
        | some (s, rest) => .ok (.symbol s, rest)
        | none => .error (.unexpectedCharacter c) := by
  have hquote : ¬ (c = '"' ∨ c = '\'' ∨ c = '\x60') := by
    intro h
    rw [quoteMark?, if_pos h] at hmark
    cases hmark
  rw [← Bool.not_eq_true] at hnumber hident
  unfold lexeme
  exact (if_neg hnumber).trans <| (if_neg hident).trans <|
    (if_neg fun h => hquote (h.imp_right .inl)).trans (if_neg fun h => hquote (.inr (.inr h)))

theorem isSolid_of_punctuation? (h : punctuation? c = some t) : IsSolid c ∧ c ≠ '.' := by
  unfold punctuation? at h
  split at h
  case h_10 => cases h
  all_goals decide

theorem exists_spells_number (hs : startsNumber (c :: cs) = true)
    (h : lexNumber (c :: cs) = .ok (t, r)) :
    ∃ v p, cs = v ++ r ∧ Spells p c v t ∧ ∀ d ∈ r.head?, p d = false := by
  obtain ⟨w, p, hw, hstop, hp, hlex, -⟩ := lexNumber_eq_ok hs h
  obtain ⟨u, hu, hsolid⟩ := isSolid_of_lexNumber h
  obtain rfl : u = w := List.append_cancel_right (hu.symm.trans hw)
  obtain ⟨d, v, rfl⟩ := List.exists_cons_of_ne_nil (hlex.lexesAs hp).ne_nil
  obtain ⟨rfl, rfl⟩ := List.cons.inj hw
  refine ⟨v, p, rfl, ⟨.inl hsolid, fun d hd => isSolid_of_isNumeralPart (hp d hd), fun r' hr => ?_⟩,
    hstop⟩
  obtain ⟨hstart, hread⟩ := hlex r' hr
  exact (lexeme_number hstart).trans hread

theorem exists_spells_ident (hs : startsIdent (c :: cs) = true) :
    ∃ v p, cs = v ++ cs.dropWhile isIdentPart
      ∧ Spells p c v (.ident (.ofList (c :: cs.takeWhile isIdentPart)))
      ∧ ∀ d ∈ (cs.dropWhile isIdentPart).head?, p d = false := by
  have hident := isIdent_of_startsIdent hs
  refine ⟨_, isIdentPart, List.takeWhile_append_dropWhile.symm,
    ⟨.inl fun d hd => isSolid_of_isIdentPart ?_, fun _ => isSolid_of_isIdentPart,
      fun r hr => lexeme_ident hident hr⟩, head?_dropWhile_eq_false⟩
  rw [isIdent, Bool.and_eq_true, List.all_eq_true] at hident
  exact hident.2 d hd

theorem lexeme_quote (hc : c = '"' ∨ c = '\'') (cs : List Char) :
    lexeme c cs = (lexQuoted c cs).map fun p => (.string (.ofList p.1), p.2) := by
  have hnumber : startsNumber (c :: cs) = false := by
    rw [startsNumber_cons]
    rcases hc with rfl | rfl <;> rfl
  have hident : startsIdent (c :: cs) = false := by
    rw [startsIdent_cons]
    rcases hc with rfl | rfl <;> rfl
  rw [lexeme, hnumber, hident, if_neg Bool.false_ne_true, if_neg Bool.false_ne_true, if_pos hc]
  cases lexQuoted c cs <;> rfl

theorem lexeme_backtick (cs : List Char) : lexeme '\x60' cs =
    match cs.dropWhile (· != '\x60') with
    | [] => .error .unterminatedRawString
    | _ :: rest => .ok (.string (.ofList (cs.takeWhile (· != '\x60'))), rest) := by
  rw [lexeme, startsNumber_cons, startsIdent_cons]
  rfl

theorem exists_spells_string (hmark : quoteMark? c = some c) (h : lexeme c cs = .ok (t, r)) :
    ∃ v p, cs = v ++ r ∧ Spells p c v t ∧ ∀ d ∈ r.head?, p d = false := by
  by_cases hq : c = '"' ∨ c = '\''
  · rw [lexeme_quote hq] at h
    obtain ⟨⟨s, r⟩, hquoted, hret⟩ := map_eq_ok.1 h
    obtain ⟨rfl, rfl⟩ := Prod.mk.inj hret
    obtain ⟨v, hcs, hv, hread⟩ := lexQuoted_eq_ok hq hquoted
    refine ⟨v, fun _ => false, hcs, ⟨.inr ⟨hmark, hv⟩, fun _ h => (nomatch h), fun r' _ => ?_⟩,
      fun _ _ => rfl⟩
    rw [lexeme_quote hq, hread]
    rfl
  · obtain rfl : c = '\x60' := by
      simp only [quoteMark?, ite_eq_left_iff] at hmark
      grind
    rw [lexeme_backtick] at h
    split at h
    · cases h
    · rename_i d rest hdrop
      simp only [Except.ok.injEq, Prod.mk.injEq] at h
      obtain ⟨rfl, rfl⟩ := h
      have hhead : ∀ d ∈ (cs.dropWhile (· != '\x60')).head?, (d != '\x60') = false :=
        head?_dropWhile_eq_false
      have hbody : ∀ d ∈ cs.takeWhile (· != '\x60'), (d != '\x60') = true :=
        fun d => of_mem_takeWhile
      obtain rfl : d = '\x60' := by simpa using hhead d (by rw [hdrop]; rfl)
      have hcs := List.takeWhile_append_dropWhile (p := (· != '\x60')) (l := cs)
      generalize cs.takeWhile (· != '\x60') = u at hbody hcs ⊢
      refine ⟨u ++ ['\x60'], fun _ => false, ?_, ⟨.inr ⟨hmark, ?_⟩, fun _ h => (nomatch h),
        fun r' _ => ?_⟩, fun _ _ => rfl⟩
      · rw [List.append_assoc, List.singleton_append, ← hdrop, hcs]
      · exact EndsString.mark.plains fun d hd => ⟨by simpa using hbody d hd, fun _ => rfl⟩
      · have hend : ∀ d ∈ ('\x60' :: r').head?, (d != '\x60') = false := by simp
        rw [List.append_assoc, List.singleton_append, lexeme_backtick,
          dropWhile_append_of_head hbody hend, takeWhile_append_of_head hbody hend]

theorem exists_spells_other (hnumber : startsNumber (c :: cs) = false)
    (hident : startsIdent (c :: cs) = false) (hquote : quoteMark? c = none)
    (h : lexeme c cs = .ok (t, r)) :
    ∃ v p, cs = v ++ r ∧ Spells p c v t ∧ ∀ d ∈ r.head?, p d = false := by
  rw [lexeme_other hnumber hident hquote] at h
  cases hpunct : punctuation? c with
  | some u =>
    rw [hpunct] at h
    simp only [Except.ok.injEq, Prod.mk.injEq] at h
    obtain ⟨rfl, rfl⟩ := h
    obtain ⟨hsolid, hdot⟩ := isSolid_of_punctuation? hpunct
    refine ⟨[], fun d => c == ':' && isIdentStart d, rfl, ⟨.inl (by simpa using hsolid),
      fun d hd => isSolid_of_isIdentStart ?_, fun r' hr => ?_⟩, fun d hd => ?_⟩
    · exact (Bool.and_eq_true_iff.1 hd).2
    · rw [List.nil_append, lexeme_other (startsNumber_eq_false hdot hnumber r')
        (startsIdent_eq_false hident ?_) hquote, hpunct]
      rintro rfl d hd
      exact hr d hd
    · rw [startsIdent_cons, Bool.or_eq_false_iff, Option.mem_def.1 hd] at hident
      exact hident.2
  | none =>
    rw [hpunct] at h
    dsimp only at h
    split at h
    · rename_i o rest hsymbol
      simp only [Except.ok.injEq, Prod.mk.injEq] at h
      obtain ⟨rfl, rfl⟩ := h
      obtain ⟨v, xs, rfl, hdot, hsolid, hstop, hread⟩ := lexSymbol?_eq_some hsymbol
      have hcolon : c ≠ ':' := by
        rintro rfl
        cases hpunct
      refine ⟨v, (decide <| · ∈ xs), rfl, ⟨.inl fun d hd => hsolid d (List.mem_append_left _ hd),
        fun d hd => hsolid d (List.mem_append_right _ (of_decide_eq_true hd)), fun r' hr => ?_⟩,
        fun d hd => decide_eq_false (hstop d hd)⟩
      rw [lexeme_other (startsNumber_eq_false hdot hnumber _)
        (startsIdent_eq_false hident fun h => absurd h hcolon) hquote, hpunct,
        hread r' fun d hd => of_decide_eq_false (hr d hd)]
    · cases h

/-- A token that is read off a text is read off its own characters wherever the text does not go
on with it. -/
theorem lexeme_eq_ok (h : lexeme c cs = .ok (t, r)) :
    ∃ v p, cs = v ++ r ∧ Spells p c v t ∧ ∀ d ∈ r.head?, p d = false := by
  cases hnumber : startsNumber (c :: cs) with
  | true => exact exists_spells_number hnumber (by rwa [lexeme_number hnumber] at h)
  | false =>
    cases hident : startsIdent (c :: cs) with
    | true =>
      rw [lexeme, hnumber, if_neg Bool.false_ne_true, if_pos hident] at h
      simp only [Except.ok.injEq, Prod.mk.injEq] at h
      obtain ⟨rfl, rfl⟩ := h
      exact exists_spells_ident hident
    | false =>
      cases hmark : quoteMark? c with
      | some q =>
        obtain rfl : c = q := by
          rw [quoteMark?] at hmark
          split at hmark
          · exact Option.some.inj hmark
          · cases hmark
        exact exists_spells_string hmark h
      | none => exact exists_spells_other hnumber hident hmark h

/-- Whether a text goes on as another does, or with a gap or a string. -/
def GoesOnAs (r r' : List Char) : Prop := ∀ d ∈ r'.head?, r.head? = some d ∨ ¬ IsSolid d

/-- A token is read again if the text after it goes on as it did, or with a gap or a string. -/
theorem lexeme_of_goesOnAs {r' : List Char} (h : lexeme c (v ++ r) = .ok (t, r)) (hr : GoesOnAs r r') :
    lexeme c (v ++ r') = .ok (t, r') := by
  obtain ⟨u, p, hu, hspell, hstop⟩ := lexeme_eq_ok h
  obtain rfl := List.append_cancel_right hu
  refine hspell.read r' fun d hd => ?_
  cases hpd : p d with
  | false => rfl
  | true =>
    rcases hr d hd with hd | hd
    · rw [← hpd, hstop d hd]
    · exact absurd (hspell.solid d hpd) hd

theorem chars_of_lexeme (h : lexeme c (v ++ r) = .ok (t, r)) :
    (∀ d ∈ c :: v, IsSolid d) ∨ quoteMark? c = some c ∧ EndsString c v := by
  obtain ⟨u, p, hu, hspell, -⟩ := lexeme_eq_ok h
  obtain rfl := List.append_cancel_right hu
  exact hspell.chars

end RuleCatalog.Query
