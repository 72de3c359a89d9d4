import RuleCatalog.Query.Canonical
import RuleCatalog.Proofs.Query.Lexeme

/-! # Texts that lay out tokens

`Layout` says that a text is a row of tokens as they are printed, with single blanks between
them. Such a text is scanned as its tokens, its blanks are even, and no other tokens have it.
An infinity is one token of a layout, and a sign and a name once it is scanned. Main statements:
`Layout.scan_eq`, `Layout.evenBlanks_eq` and `Layout.unique`. -/
namespace RuleCatalog.Query
open Text

/-- Whether a character is a part of a token and opens neither a string nor a comment. -/
structure IsSolid (c : Char) : Prop where
  blank : isBlank c = false
  mark : quoteMark? c = none
  comment : c ≠ '#'

instance (c : Char) : Decidable (IsSolid c) :=
  decidable_of_iff (isBlank c = false ∧ quoteMark? c = none ∧ c ≠ '#')
    ⟨fun h => ⟨h.1, h.2.1, h.2.2⟩, fun h => ⟨h.blank, h.mark, h.comment⟩⟩

instance (cs : List Char) : Decidable (∀ c ∈ cs, IsSolid c) := List.decidableBAll _ _

/-! ## Solid characters -/

section
variable {c : Char} {cs r : List Char} {t : Token}

theorem quoteMark?_of_isBlank (h : isBlank c = true) : quoteMark? c = none := by
  rw [quoteMark?, if_neg]
  rintro (rfl | rfl | rfl) <;> exact absurd h (by decide)

theorem isSolid_of_isIdentPart (h : isIdentPart c = true) : IsSolid c := by
  refine ⟨isBlank_of_isIdentPart h, ?_, ?_⟩
  · unfold quoteMark?
    rw [if_neg]
    rintro (rfl | rfl | rfl) <;> cases h
  · rintro rfl
    cases h

theorem isSolid_of_isAlphanum (h : c.isAlphanum = true) : IsSolid c :=
  isSolid_of_isIdentPart (by rw [isIdentPart, h]; rfl)

theorem isSolid_of_isIdentStart (h : isIdentStart c = true) : IsSolid c :=
  isSolid_of_isIdentPart (isIdentPart_of_isIdentStart h)

theorem isSolid_of_isNumberPart (h : isNumberPart c = true) : IsSolid c := by
  rw [isNumberPart, Bool.or_eq_true] at h
  rcases h with h | h
  · exact isSolid_of_isAlphanum (isAlphanum_of_isDigit h)
  · obtain rfl := eq_of_beq h
    decide

theorem isSolid_of_exponent? {e r : List Char} (h : exponent? cs = some (e, r)) :
    ∀ d ∈ e, IsSolid d := by
  cases cs with
  | nil => cases h
  | cons x cs =>
    rw [exponent?_cons] at h
    split at h
    · cases h
    rename_i hx
    split at h
    · cases h
    simp only [Option.some.injEq, Prod.mk.injEq] at h
    obtain ⟨rfl, -⟩ := h
    intro d hd
    rcases List.mem_append.1 hd with hd | hd
    · rcases List.mem_cons.1 hd with rfl | hd
      · apply isSolid_of_isAlphanum
        have hletter : d = 'e' ∨ d = 'E' := by grind
        rcases hletter with rfl | rfl <;> rfl
      · have hsign : ∀ d ∈ (splitSign cs).1, d = '+' ∨ d = '-' := by
          unfold splitSign
          split <;> simp
        rcases hsign d hd with rfl | rfl <;> decide
    · exact isSolid_of_isAlphanum (isAlphanum_of_isDigit (of_mem_takeWhile hd))

theorem isSolid_of_lexNumber (h : lexNumber cs = .ok (t, r)) :
    ∃ w, cs = w ++ r ∧ ∀ d ∈ w, IsSolid d := by
  have hpart : ∀ d ∈ cs.takeWhile isNumberPart, IsSolid d :=
    fun d hd => isSolid_of_isNumberPart (of_mem_takeWhile hd)
  cases hhex : isHexStart cs with
  | true =>
    obtain ⟨x, ds, hx, rfl⟩ := isHexStart_eq_true hhex
    rw [lexNumber_hex hx] at h
    simp only [Except.ok.injEq, Prod.mk.injEq] at h
    obtain ⟨-, rfl⟩ := h
    refine ⟨'0' :: x :: ds.takeWhile isHexDigit, ?_, fun d hd => ?_⟩
    · rw [List.cons_append, List.cons_append, List.takeWhile_append_dropWhile]
    · apply isSolid_of_isAlphanum
      rcases List.mem_cons.1 hd with rfl | hd
      · rfl
      · rcases List.mem_cons.1 hd with rfl | hd
        · rcases hx with rfl | rfl <;> rfl
        · exact isAlphanum_of_isHexDigit (of_mem_takeWhile hd)
  | false =>
    rw [lexNumber_of_not_isHexStart hhex, lexTail] at h
    split at h
    · rename_i e rest he
      simp only [Except.ok.injEq, Prod.mk.injEq] at h
      obtain ⟨-, rfl⟩ := h
      refine ⟨cs.takeWhile isNumberPart ++ e, ?_, fun d hd => ?_⟩
      · rw [List.append_assoc, ← (exponent?_eq_some he).1, List.takeWhile_append_dropWhile]
      · rcases List.mem_append.1 hd with hd | hd
        · exact hpart d hd
        · exact isSolid_of_exponent? he d hd
    · split at h
      · simp only [Except.ok.injEq, Prod.mk.injEq] at h
        obtain ⟨-, rfl⟩ := h
        exact ⟨_, List.takeWhile_append_dropWhile.symm, hpart⟩
      · dsimp only at h
        split at h
        · simp only [Except.ok.injEq, Prod.mk.injEq] at h
          obtain ⟨-, rfl⟩ := h
          refine ⟨cs.takeWhile isNumberPart
            ++ (cs.dropWhile isNumberPart).takeWhile Char.isAlphanum, ?_, fun d hd => ?_⟩
          · rw [List.append_assoc, List.takeWhile_append_dropWhile, List.takeWhile_append_dropWhile]
          · rcases List.mem_append.1 hd with hd | hd
            · exact hpart d hd
            · exact isSolid_of_isAlphanum (of_mem_takeWhile hd)
        · cases h

end

/-! ## Layouts -/

/-- The printed infinity as one token. -/
def infinityToken : Token := .number "+Inf"

/-- Whether the name of infinity stands in front and is not called. -/
def NamesInf (ts : List Token) : Prop :=
  ∃ us, ts = .ident "Inf" :: us ∧ us.head? ≠ some .leftParen

/-- A text lays out tokens; the flag tells that it starts with a blank or is at its end. -/
inductive Layout : Bool → List Char → List Token → Prop
  | nil : Layout true [] []
  | token {g : Bool} {c : Char} {w rest : List Char} {t : Token} {ts : List Token}
      (hlex : lexeme c (w ++ rest) = .ok (t, rest)) (hsolid : ∀ d ∈ c :: w, IsSolid d)
      (hplus : t = .symbol .plus → ¬ NamesInf ts) (h : Layout g rest ts) :
      Layout false (c :: w ++ rest) (t :: ts)
  | infinity {g : Bool} {rest : List Char} {ts : List Token} (hrest : Ends rest)
      (hcall : ts.head? ≠ some .leftParen) (h : Layout g rest ts) :
      Layout false ("+Inf".toList ++ rest) (infinityToken :: ts)
  | string {g : Bool} {rest : List Char} {ts : List Token} (v : String) (h : Layout g rest ts) :
      Layout false (writeString v ++ rest) (.string v :: ts)
  | blank {rest : List Char} {ts : List Token} (h : Layout false rest ts) :
      Layout true (' ' :: rest) ts

/-! ## What is scanned -/

/-- A token of a layout as it is scanned. -/
def Token.scanned (t : Token) : List Token :=
  if t = infinityToken then [.symbol .plus, .ident "Inf"] else [t]

variable {g : Bool} {cs rest : List Char} {ts us : List Token} {t : Token} {c : Char}

theorem scanned_infinity : infinityToken.scanned = [.symbol .plus, .ident "Inf"] := if_pos rfl

theorem scanned_of_ne (h : t ≠ infinityToken) : t.scanned = [t] := if_neg h

theorem flatMap_scanned (h : infinityToken ∉ ts) : ts.flatMap Token.scanned = ts := by
  induction ts with
  | nil => rfl
  | cons t ts ih =>
    rw [List.mem_cons, not_or] at h
    rw [List.flatMap_cons, scanned_of_ne (Ne.symm h.1), ih h.2]
    rfl

theorem ne_infinity_of_isLexeme (h : t.IsLexeme) : t ≠ infinityToken := by
  rintro rfl
  have hstart : startsNumber ("+Inf".toList ++ []) = true :=
    (show LexesAs "+Inf".toList infinityToken from h) [] endsNumber_nil |>.1
  exact absurd hstart (by decide)

theorem Layout.scan_eq (h : Layout g cs ts) : scan cs = .ok (ts.flatMap Token.scanned) := by
  induction h with
  | nil => exact scan_nil
  | @token g c w rest t ts hlex hsolid hplus h ih =>
    have hc := hsolid c List.mem_cons_self
    rw [List.flatMap_cons, scanned_of_ne (ne_infinity_of_isLexeme (isLexeme_of_lexeme hlex))]
    exact scan_of_lexeme hc.blank hc.comment hlex ih
  | @infinity g rest ts hrest hcall h ih =>
    have hinf : scan ("Inf".toList ++ rest) = .ok (.ident "Inf" :: ts.flatMap Token.scanned) :=
      scan_ident (w := "Inf".toList) (by decide) hrest ih
    rw [List.flatMap_cons, scanned_infinity]
    exact scan_of_lexeme (by decide) (by decide) rfl hinf
  | @string g rest ts v h ih =>
    rw [List.flatMap_cons, scanned_of_ne (by simp [infinityToken])]
    exact scan_string ih
  | blank h ih => rwa [scan_blank (by decide)]

/-! ## Its blanks -/

theorem evenBlanks_blank (escaped pending : Bool) (h : isBlank c = true) :
    evenBlanks none escaped pending (c :: cs) = evenBlanks none false true cs := by
  rw [evenBlanks, if_pos h]

theorem evenBlanks_cons (escaped pending : Bool) (h : isBlank c = false) :
    evenBlanks none escaped pending (c :: cs)
      = (if pending then [' '] else []) ++ c :: evenBlanks (quoteMark? c) false false cs := by
  rw [evenBlanks, if_neg (by rw [h]; exact Bool.false_ne_true)]

theorem evenBlanks_solid {w : List Char} (hw : ∀ d ∈ w, IsSolid d) (rest : List Char) :
    evenBlanks none false false (w ++ rest) = w ++ evenBlanks none false false rest := by
  induction w with
  | nil => rfl
  | cons c w ih =>
    have hc := hw c List.mem_cons_self
    rw [List.cons_append, evenBlanks_cons _ _ hc.blank, hc.mark,
      ih fun d hd => hw d (List.mem_cons_of_mem c hd)]
    rfl

theorem evenBlanks_inString (v rest : List Char) :
    evenBlanks (some '"') false false (v.flatMap stringChar ++ '"' :: rest)
      = v.flatMap stringChar ++ '"' :: evenBlanks none false false rest := by
  induction v with
  | nil => rfl
  | cons c v ih =>
    have hescape : ∀ e, evenBlanks (some '"') false false (['\\', e] ++ v.flatMap stringChar
        ++ '"' :: rest) = ['\\', e] ++ v.flatMap stringChar ++ '"' :: evenBlanks none false false rest := by
      intro e
      show '\\' :: e :: evenBlanks (some '"') false false (v.flatMap stringChar ++ '"' :: rest) = _
      rw [ih]
      rfl
    rw [List.flatMap_cons]
    unfold stringChar
    split
    · exact hescape '\\'
    · exact hescape '"'
    · exact hescape 'n'
    · exact hescape 't'
    · exact hescape 'r'
    · rename_i hb hq _ _ _
      show evenBlanks (some '"') false false (c :: (v.flatMap stringChar ++ '"' :: rest)) = _
      rw [evenBlanks, if_neg Bool.false_ne_true, if_neg fun h => hb h.1, if_neg hq, ih]
      rfl

theorem Layout.head (h : Layout false cs ts) : ∃ c rest, cs = c :: rest ∧ isBlank c = false := by
  cases h with
  | token hlex hsolid hplus h => exact ⟨_, _, rfl, (hsolid _ List.mem_cons_self).blank⟩
  | infinity hrest hcall h => exact ⟨_, _, rfl, by decide⟩
  | string v h => exact ⟨_, _, rfl, by decide⟩

theorem isSolid_infinity : ∀ c ∈ "+Inf".toList, IsSolid c := by decide

/-- The blanks of a layout are even already. -/
theorem Layout.evenBlanks_eq (h : Layout g cs ts) : evenBlanks none false false cs = cs := by
  induction h with
  | nil => rfl
  | token hlex hsolid hplus h ih => rw [evenBlanks_solid hsolid, ih]
  | infinity hrest hcall h ih =>
    rw [evenBlanks_solid isSolid_infinity, ih]
  | @string g rest ts v h ih =>
    have hinside := evenBlanks_inString v.toList rest
    have hmark : quoteMark? '"' = some '"' := rfl
    rw [writeString, List.append_assoc, List.cons_append, evenBlanks_cons _ _ (by decide), hmark,
      List.singleton_append, hinside, ih]
    rfl
  | @blank rest ts h ih =>
    obtain ⟨c, cs, rfl, hc⟩ := h.head
    rw [evenBlanks_cons _ _ hc] at ih
    rw [evenBlanks_blank _ _ (by decide), evenBlanks_cons _ _ hc]
    exact congrArg (' ' :: ·) ih

theorem Layout.last (h : Layout g cs ts) : ∀ c ∈ cs.getLast?, isBlank c = false := by
  have happend : ∀ {w rest : List Char}, w ≠ [] → (∀ c ∈ w.getLast?, isBlank c = false) →
      (∀ c ∈ rest.getLast?, isBlank c = false) → ∀ c ∈ (w ++ rest).getLast?, isBlank c = false := by
    intro w rest hne hw hrest c hc
    rw [List.getLast?_append] at hc
    cases hlast : rest.getLast? with
    | none =>
      rw [hlast, Option.none_or] at hc
      exact hw c hc
    | some d =>
      rw [hlast, Option.some_or] at hc
      exact hrest c (hlast ▸ hc)
  induction h with
  | nil => simp
  | token hlex hsolid hplus h ih =>
    exact happend (by simp) (fun d hd => (hsolid d (List.mem_of_getLast? hd)).blank) ih
  | infinity hrest hcall h ih =>
    exact happend (by simp) (fun d hd => (isSolid_infinity d (List.mem_of_getLast? hd)).blank) ih
  | string v h ih =>
    refine happend (by simp [writeString]) (fun d hd => ?_) ih
    rw [writeString, List.getLast?_append] at hd
    obtain rfl := Option.some.inj hd
    decide
  | @blank rest ts h ih =>
    obtain ⟨c, cs, rfl, -⟩ := h.head
    rwa [List.getLast?_cons_cons]

theorem trimEnd_eq_self (h : ∀ c ∈ cs.getLast?, isBlank c = false) : trimEnd cs = cs := by
  rw [List.getLast?_eq_head?_reverse] at h
  rw [trimEnd]
  cases hr : cs.reverse with
  | nil => exact (List.reverse_eq_nil_iff.1 hr).symm
  | cons c r =>
    rw [hr] at h
    rw [List.dropWhile_cons_of_neg (by rw [h c rfl]; exact Bool.false_ne_true), ← hr,
      List.reverse_reverse]

/-- A text that is a layout and starts with no blank is left as it is. -/
theorem Layout.normalizeBlanks_eq (h : Layout false cs ts) :
    normalizeBlanks (.ofList cs) = .ofList cs := by
  obtain ⟨c, rest, hcs, hc⟩ := h.head
  have htrim : trim cs = cs := by
    rw [trim, hcs, trimStart_eq_self hc, ← hcs, trimEnd_eq_self h.last]
  rw [normalizeBlanks, String.toList_ofList, htrim, h.evenBlanks_eq]

/-! ## Its tokens -/

/-- Puts every infinity together again. -/
def merged : List Token → List Token
  | .symbol .plus :: .ident n :: ts =>
    if n = "Inf" ∧ ts.head? ≠ some .leftParen then infinityToken :: merged ts
    else .symbol .plus :: merged (.ident n :: ts)
  | t :: ts => t :: merged ts
  | [] => []

theorem merged_cons (h : t ≠ .symbol .plus) : merged (t :: ts) = t :: merged ts := by
  rw [merged]
  rintro n us rfl
  exact absurd rfl h

theorem merged_plus (h : ¬ NamesInf ts) : merged (.symbol .plus :: ts) = .symbol .plus :: merged ts := by
  cases ts with
  | nil => rfl
  | cons u us =>
    cases u with
    | ident n =>
      rw [merged, if_neg]
      rintro ⟨rfl, hhead⟩
      exact h ⟨us, rfl, hhead⟩
    | _ => rfl

theorem head?_scanned :
    (ts.flatMap Token.scanned).head? = some .leftParen ↔ ts.head? = some .leftParen := by
  cases ts with
  | nil => rfl
  | cons t ts =>
    rw [List.flatMap_cons, Token.scanned]
    split
    · rename_i h
      rw [h]
      simp [infinityToken]
    · rfl

theorem namesInf_scanned (h : NamesInf (ts.flatMap Token.scanned)) : NamesInf ts := by
  obtain ⟨us, heq, hhead⟩ := h
  cases ts with
  | nil => cases heq
  | cons t ts =>
    rw [List.flatMap_cons, Token.scanned] at heq
    split at heq
    · simp at heq
    · obtain ⟨rfl, rfl⟩ := List.cons.inj heq
      exact ⟨ts, rfl, fun hn => hhead (head?_scanned.2 hn)⟩

theorem Layout.merged_eq (h : Layout g cs ts) : merged (ts.flatMap Token.scanned) = ts := by
  induction h with
  | nil => rfl
  | @token g c w rest t ts hlex hsolid hplus h ih =>
    rw [List.flatMap_cons, scanned_of_ne (ne_infinity_of_isLexeme (isLexeme_of_lexeme hlex)),
      List.singleton_append]
    by_cases ht : t = .symbol .plus
    · rw [ht, merged_plus fun hn => hplus ht (namesInf_scanned hn), ih]
    · rw [merged_cons ht, ih]
  | infinity hrest hcall h ih =>
    rw [List.flatMap_cons, scanned_infinity]
    rw [List.cons_append, List.singleton_append, merged,
      if_pos ⟨rfl, fun hn => hcall (head?_scanned.1 hn)⟩, ih]
  | string v h ih =>
    rw [List.flatMap_cons, scanned_of_ne (by simp [infinityToken]), List.singleton_append,
      merged_cons (by simp), ih]
  | blank h ih => exact ih

/-- A text lays out at most one row of tokens. -/
theorem Layout.unique {g' : Bool} (h : Layout g cs ts) (h' : Layout g' cs us) : ts = us := by
  have hscan := h.scan_eq
  rw [h'.scan_eq, Except.ok.injEq] at hscan
  rw [← h.merged_eq, ← h'.merged_eq, hscan]

end RuleCatalog.Query
