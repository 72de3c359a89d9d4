import RuleCatalog.Query.Expr.Print
import RuleCatalog.Query.Token.Scan

/-! # Texts of one token

A name, number or duration that was read stands for itself: wherever its text is followed by
something that does not go on with it, the same token is read again. Main statements:
`lexNumber_eq_ok` and `isLexeme_of_scan`. -/
namespace RuleCatalog.Query
open Text

/-! ## The longest run of characters of a kind -/

theorem takeWhile_append_of_head {p : Char → Bool} {w rest : List Char} (hw : ∀ c ∈ w, p c = true)
    (hr : ∀ c ∈ rest.head?, p c = false) : (w ++ rest).takeWhile p = w := by
  have hrest : rest.takeWhile p = [] := by
    cases rest with
    | nil => rfl
    | cons c rest => simp [hr c (by simp)]
  rw [List.takeWhile_append_of_pos hw, hrest, List.append_nil]

theorem dropWhile_append_of_head {p : Char → Bool} {w rest : List Char} (hw : ∀ c ∈ w, p c = true)
    (hr : ∀ c ∈ rest.head?, p c = false) : (w ++ rest).dropWhile p = rest := by
  have hrest : rest.dropWhile p = rest := by
    cases rest with
    | nil => rfl
    | cons c rest => simp [hr c (by simp)]
  rw [List.dropWhile_append_of_pos hw, hrest]

theorem of_mem_takeWhile {p : Char → Bool} {c : Char} {cs : List Char}
    (h : c ∈ cs.takeWhile p) : p c = true :=
  List.all_eq_true.1 List.all_takeWhile c h

theorem head?_dropWhile_eq_false {p : Char → Bool} {cs : List Char} :
    ∀ c ∈ (cs.dropWhile p).head?, p c = false := by
  intro c hc
  have hnot := List.head?_dropWhile_not p cs
  rw [Option.mem_def.1 hc] at hnot
  exact hnot

/-! ## Where a word ends -/

/-- Whether a text goes on with no name and no number that stands before it. -/
def Ends (rest : List Char) : Prop := ∀ c ∈ rest.head?, isIdentPart c = false ∧ c ≠ '.'

theorem ends_nil : Ends [] := by
  intro c hc
  cases hc

theorem ends_cons {c : Char} {rest : List Char} (h : isIdentPart c = false ∧ c ≠ '.') :
    Ends (c :: rest) := by
  intro d hd
  cases hd
  exact h

variable {rest : List Char}

theorem Ends.isIdentPart (h : Ends rest) : ∀ c ∈ rest.head?, isIdentPart c = false :=
  fun c hc => (h c hc).1

/-- Whether a text goes on with no number that stands before it. A colon goes on with a name and
not with a number. -/
def EndsNumber (rest : List Char) : Prop := ∀ c ∈ rest.head?, c.isAlphanum = false ∧ c ≠ '.'

theorem endsNumber_nil : EndsNumber [] := by
  intro c hc
  cases hc

theorem endsNumber_cons {c : Char} {rest : List Char} (h : c.isAlphanum = false ∧ c ≠ '.') :
    EndsNumber (c :: rest) := by
  intro d hd
  cases hd
  exact h

theorem Ends.endsNumber (h : Ends rest) : EndsNumber rest := by
  intro c hc
  obtain ⟨hpart, hdot⟩ := h c hc
  simp only [Query.isIdentPart, Bool.or_eq_false_iff] at hpart
  exact ⟨hpart.1.1, hdot⟩

theorem EndsNumber.isAlphanum (h : EndsNumber rest) : ∀ c ∈ rest.head?, c.isAlphanum = false :=
  fun c hc => (h c hc).1

theorem EndsNumber.isAlpha (h : EndsNumber rest) : ∀ c ∈ rest.head?, c.isAlpha = false := by
  intro c hc
  have := h.isAlphanum c hc
  simp only [Char.isAlphanum, Bool.or_eq_false_iff] at this
  exact this.1

theorem EndsNumber.isDigit (h : EndsNumber rest) : ∀ c ∈ rest.head?, c.isDigit = false := by
  intro c hc
  have := h.isAlphanum c hc
  simp only [Char.isAlphanum, Bool.or_eq_false_iff] at this
  exact this.2

theorem isAlphanum_of_isHexDigit {c : Char} (h : isHexDigit c = true) : c.isAlphanum = true := by
  simp only [isHexDigit, Bool.or_eq_true, Bool.and_eq_true, decide_eq_true_eq, isDigit_iff,
    Char.le_def, UInt32.le_iff_toNat_le] at h
  change ((48 ≤ c.toNat ∧ c.toNat ≤ 57) ∨ (97 ≤ c.toNat ∧ c.toNat ≤ 102))
    ∨ (65 ≤ c.toNat ∧ c.toNat ≤ 70) at h
  rw [isAlphanum_iff, isAlpha_iff, isDigit_iff]
  omega

/-- The characters before an exponent. -/
def isNumberPart (c : Char) : Bool := c.isDigit || c == '.'

theorem EndsNumber.isNumberPart (h : EndsNumber rest) : ∀ c ∈ rest.head?, isNumberPart c = false := by
  intro c hc
  have hdot := (h c hc).2
  simp [Query.isNumberPart, h.isDigit c hc, hdot]

/-! ## Numbers -/

/-- Whether a text is read as one token, wherever it ends. -/
def LexesAs (w : List Char) (t : Token) : Prop :=
  ∀ rest, EndsNumber rest → startsNumber (w ++ rest) = true ∧ lexNumber (w ++ rest) = .ok (t, rest)

/-- Whether a text is read as one token unless it goes on with a character of a kind. -/
def LexesUntil (p : Char → Bool) (w : List Char) (t : Token) : Prop :=
  ∀ rest, (∀ c ∈ rest.head?, p c = false) →
    startsNumber (w ++ rest) = true ∧ lexNumber (w ++ rest) = .ok (t, rest)

/-- The characters that can go on with a number. -/
def isNumeralPart (c : Char) : Bool := c.isAlphanum || c == '.'

theorem EndsNumber.isNumeralPart (h : EndsNumber rest) :
    ∀ c ∈ rest.head?, isNumeralPart c = false := by
  intro c hc
  have hdot := (h c hc).2
  simp [Query.isNumeralPart, h.isAlphanum c hc, hdot]

theorem LexesUntil.lexesAs {p : Char → Bool} {w : List Char} {t : Token} (h : LexesUntil p w t)
    (hp : ∀ c, p c = true → isNumeralPart c = true) : LexesAs w t := by
  refine fun rest hrest => h rest fun c hc => ?_
  cases hpc : p c with
  | false => rfl
  | true => rw [← hp c hpc, hrest.isNumeralPart c hc]

theorem isNumeralPart_of_isAlphanum {c : Char} (h : c.isAlphanum = true) :
    isNumeralPart c = true := by
  rw [isNumeralPart, h, Bool.true_or]

/-- Whether a text starts as a hexadecimal number does. -/
def isHexStart : List Char → Bool
  | '0' :: x :: _ => x == 'x' || x == 'X'
  | _ => false

/-- The token of a number that is not hexadecimal, from its digits and the text after them. -/
def lexTail (digits rest : List Char) : Except ParseError (Token × List Char) :=
  match exponent? rest with
  | some (e, rest) => .ok (.number (.ofList (digits ++ e)), rest)
  | none =>
    if (rest.takeWhile Char.isAlpha).isEmpty then .ok (.number (.ofList digits), rest) else
      let text := digits ++ rest.takeWhile Char.isAlphanum
      if isDuration text then .ok (.duration (.ofList text), rest.dropWhile Char.isAlphanum)
      else .error (.invalidDuration (.ofList text))

theorem isHexStart_eq_true {cs : List Char} (h : isHexStart cs = true) :
    ∃ x ds, (x = 'x' ∨ x = 'X') ∧ cs = '0' :: x :: ds := by
  unfold isHexStart at h
  split at h
  · exact ⟨_, _, by simpa using h, rfl⟩
  · cases h

theorem lexNumber_hex {x : Char} (hx : x = 'x' ∨ x = 'X') (ds : List Char) :
    lexNumber ('0' :: x :: ds)
      = .ok (.number (.ofList ('0' :: x :: ds.takeWhile isHexDigit)), ds.dropWhile isHexDigit) := by
  rcases hx with rfl | rfl <;> rfl

theorem lexNumber_of_not_isHexStart {cs : List Char} (h : isHexStart cs = false) :
    lexNumber cs = lexTail (cs.takeWhile isNumberPart) (cs.dropWhile isNumberPart) := by
  unfold lexNumber
  split
  · cases h
  · cases h
  · rfl

/-- Whether a text goes on with no digits and makes no digit hexadecimal. -/
def EndsDigits (rest : List Char) : Prop :=
  ∀ c ∈ rest.head?, isNumberPart c = false ∧ c ≠ 'x' ∧ c ≠ 'X'

theorem isHexStart_append {ds rest : List Char} (hds : ∀ c ∈ ds, isNumberPart c = true)
    (hrest : EndsDigits rest) : isHexStart (ds ++ rest) = false := by
  unfold isHexStart
  split
  · rename_i x tail heq
    simp only [Bool.or_eq_false_iff, beq_eq_false_iff_ne]
    match ds, hds, heq with
    | [], _, heq =>
      have h := hrest '0' (by simp [show rest = '0' :: x :: tail from heq])
      cases h.1
    | [d], _, heq =>
      have hrest' : rest = x :: tail := (List.cons.inj heq).2
      exact (hrest x (by simp [hrest'])).2
    | d :: c :: ds, hds, heq =>
      obtain ⟨-, heq⟩ := List.cons.inj heq
      obtain ⟨rfl, -⟩ := List.cons.inj heq
      have hc := hds c (by simp)
      constructor
      · rintro rfl
        cases hc
      · rintro rfl
        cases hc
  · rfl

theorem lexNumber_append {ds rest : List Char} (hds : ∀ c ∈ ds, isNumberPart c = true)
    (hrest : EndsDigits rest) : lexNumber (ds ++ rest) = lexTail ds rest := by
  have hhead : ∀ c ∈ rest.head?, isNumberPart c = false := fun c hc => (hrest c hc).1
  rw [lexNumber_of_not_isHexStart (isHexStart_append hds hrest),
    takeWhile_append_of_head hds hhead, dropWhile_append_of_head hds hhead]

theorem startsNumber_cons (c : Char) (cs : List Char) :
    startsNumber (c :: cs) = (c.isDigit || (c == '.' && cs.head?.any Char.isDigit)) := by
  unfold startsNumber
  split
  · rename_i heq
    obtain ⟨rfl, rfl⟩ := List.cons.inj heq
    rfl
  · rename_i hne heq
    obtain ⟨rfl, rfl⟩ := List.cons.inj heq
    cases hd : c == '.' with
    | false => simp
    | true =>
      obtain rfl := eq_of_beq hd
      cases cs with
      | nil => rfl
      | cons d cs => exact (hne d cs rfl rfl).elim
  · rename_i heq
    cases heq

theorem startsNumber_append {w : List Char} (h : startsNumber w = true) (rest : List Char) :
    startsNumber (w ++ rest) = true := by
  match w, h with
  | c :: w, h =>
    rw [startsNumber_cons] at h
    rw [List.cons_append, startsNumber_cons]
    cases w with
    | nil =>
      have hc : c.isDigit = true := by simpa using h
      rw [hc, Bool.true_or]
    | cons d w => exact h

theorem isNumberPart_of_startsNumber {c : Char} {cs : List Char}
    (h : startsNumber (c :: cs) = true) : isNumberPart c = true := by
  rw [startsNumber_cons, Bool.or_eq_true, Bool.and_eq_true] at h
  rcases h with h | h
  · simp [isNumberPart, h]
  · simp [isNumberPart, h.1]

/-- The sign in front of a text, and the text after it. -/
def splitSign : List Char → List Char × List Char
  | '+' :: r => (['+'], r)
  | '-' :: r => (['-'], r)
  | r => ([], r)

theorem exponent?_cons (x : Char) (cs : List Char) : exponent? (x :: cs) =
    if x != 'e' && x != 'E' then none
    else if ((splitSign cs).2.takeWhile Char.isDigit).isEmpty then none
    else some (x :: (splitSign cs).1 ++ (splitSign cs).2.takeWhile Char.isDigit,
      (splitSign cs).2.dropWhile Char.isDigit) := rfl

theorem splitSign_append (cs : List Char) : (splitSign cs).1 ++ (splitSign cs).2 = cs := by
  unfold splitSign
  split <;> rfl

/-- A sign stays the sign, whatever text of another kind follows it. -/
theorem splitSign_replace (cs : List Char) {ds : List Char}
    (h : ∀ c ∈ ds.head?, c ≠ '+' ∧ c ≠ '-') :
    splitSign ((splitSign cs).1 ++ ds) = ((splitSign cs).1, ds) := by
  have hds : splitSign ds = ([], ds) := by
    unfold splitSign
    split
    · exact absurd rfl (h '+' rfl).1
    · exact absurd rfl (h '-' rfl).2
    · rfl
  rw [splitSign.eq_def cs]
  split
  · rfl
  · rfl
  · exact hds

/-- An exponent starts with its letter and is read again by itself. -/
theorem exponent?_eq_some {cs e r : List Char} (h : exponent? cs = some (e, r)) :
    cs = e ++ r ∧ (∃ x ∈ ['e', 'E'], e.head? = some x) ∧ (∀ c ∈ r.head?, c.isDigit = false)
      ∧ ∀ rest, (∀ c ∈ rest.head?, c.isDigit = false) → exponent? (e ++ rest) = some (e, rest) := by
  cases cs with
  | nil => cases h
  | cons x cs =>
    rw [exponent?_cons] at h
    split at h
    · cases h
    rename_i hx
    split at h
    · cases h
    rename_i hdigits
    simp only [Option.some.injEq, Prod.mk.injEq] at h
    obtain ⟨rfl, rfl⟩ := h
    have hletter : x ∈ ['e', 'E'] := by
      simp only [List.mem_cons, List.not_mem_nil, or_false]
      grind
    refine ⟨?_, ⟨x, hletter, rfl⟩, head?_dropWhile_eq_false, fun rest hrest => ?_⟩
    · rw [List.cons_append, List.cons_append, List.append_assoc,
        List.takeWhile_append_dropWhile, splitSign_append]
    generalize hds : (splitSign cs).2.takeWhile Char.isDigit = digits at hdigits ⊢
    have hall : ∀ c ∈ digits, c.isDigit = true := fun c hc => of_mem_takeWhile (hds ▸ hc)
    have hsign : splitSign ((splitSign cs).1 ++ (digits ++ rest))
        = ((splitSign cs).1, digits ++ rest) := by
      refine splitSign_replace cs fun c hc => ?_
      cases digits with
      | nil => simp at hdigits
      | cons d digits =>
        obtain rfl : d = c := by simpa using hc
        have hd := hall d List.mem_cons_self
        constructor
        · rintro rfl
          cases hd
        · rintro rfl
          cases hd
    rw [List.cons_append, List.cons_append, List.append_assoc, exponent?_cons, if_neg hx, hsign]
    dsimp only
    rw [takeWhile_append_of_head hall hrest, dropWhile_append_of_head hall hrest,
      if_neg hdigits, List.cons_append]

/-- A unit of time is a letter of its own, or the two letters of `ms`. -/
theorem dropUnit?_eq_some {cs r : List Char} (h : dropUnit? cs = some r) :
    ∃ c u, cs = c :: u ++ r ∧ c ∈ ['m', 's', 'h', 'd', 'w', 'y'] ∧ ∀ d ∈ u, d = 's' := by
  unfold dropUnit? at h
  split at h
  · simp only [Option.some.injEq] at h
    subst h
    exact ⟨'m', ['s'], rfl, by decide, by simp⟩
  · rename_i c cs _
    split at h
    · rename_i hc
      simp only [Option.some.injEq] at h
      subst h
      refine ⟨c, [], rfl, ?_, by simp⟩
      simp only [List.mem_cons, List.not_mem_nil, or_false] at hc ⊢
      grind
    · cases h
  · cases h

theorem isAlphanum_of_isDigit {c : Char} (h : c.isDigit = true) : c.isAlphanum = true := by
  simp [Char.isAlphanum, h]

/-- A row of quantities that is not empty has digits and then the letter of a unit. -/
theorem isQuantities_eq_true {cs : List Char} (h : isQuantities cs = true) (hne : cs ≠ []) :
    cs.takeWhile Char.isDigit ≠ [] ∧ ∃ r, dropUnit? (cs.dropWhile Char.isDigit) = some r
      ∧ isQuantities r = true := by
  rw [isQuantities, if_neg (by simpa using hne)] at h
  split at h
  · cases h
  · rename_i hdigits
    refine ⟨by simpa using hdigits, ?_⟩
    split at h
    · cases h
    · rename_i r hr
      exact ⟨r, hr, h⟩

theorem isAlphanum_of_isQuantities {cs : List Char} (h : isQuantities cs = true) :
    ∀ c ∈ cs, c.isAlphanum = true := by
  by_cases hne : cs = []
  · simp [hne]
  obtain ⟨-, r, hr, hrest⟩ := isQuantities_eq_true h hne
  obtain ⟨d, u, hsplit, hd, hu⟩ := dropUnit?_eq_some hr
  have hlt : r.length < cs.length :=
    Nat.lt_of_lt_of_le (length_dropUnit?_lt hr) (length_dropWhile_le _ _)
  have ih := isAlphanum_of_isQuantities hrest
  intro c hc
  rw [← List.takeWhile_append_dropWhile (p := Char.isDigit) (l := cs), hsplit] at hc
  rcases List.mem_append.1 hc with hc | hc
  · exact isAlphanum_of_isDigit (of_mem_takeWhile hc)
  rcases List.mem_append.1 hc with hc | hc
  · rcases List.mem_cons.1 hc with rfl | hc
    · simp only [List.mem_cons, List.not_mem_nil, or_false] at hd
      rcases hd with rfl | rfl | rfl | rfl | rfl | rfl <;> rfl
    · rw [hu c hc]
      rfl
  · exact ih c hc
termination_by cs.length

/-- What a duration starts with: digits, and a letter of no exponent and no hexadecimal number. -/
theorem isDuration_eq_true {w : List Char} (h : isDuration w = true) :
    w.takeWhile Char.isDigit ≠ []
      ∧ ∃ c ∈ ['m', 's', 'h', 'd', 'w', 'y'], (w.dropWhile Char.isDigit).head? = some c := by
  simp only [isDuration, Bool.and_eq_true, Bool.not_eq_true', List.isEmpty_eq_false_iff] at h
  obtain ⟨hdigits, r, hr, -⟩ := isQuantities_eq_true h.2 h.1
  obtain ⟨c, u, hsplit, hc, -⟩ := dropUnit?_eq_some hr
  exact ⟨hdigits, c, hc, by rw [hsplit]; rfl⟩

theorem exponent?_eq_none {rest : List Char} (h : ∀ c ∈ rest.head?, c ∉ ['e', 'E']) :
    exponent? rest = none := by
  cases rest with
  | nil => rfl
  | cons c rest =>
    have hc := h c rfl
    simp only [List.mem_cons, List.not_mem_nil, or_false, not_or] at hc
    rw [exponent?_cons, if_pos (by simp [hc])]

theorem lexesUntil_duration {w : List Char} (h : isDuration w = true) :
    LexesUntil Char.isAlphanum w (.duration (.ofList w)) := by
  obtain ⟨hdigits, x, hx, hhead⟩ := isDuration_eq_true h
  have hall : ∀ c ∈ w, c.isAlphanum = true := by
    simp only [isDuration, Bool.and_eq_true] at h
    exact isAlphanum_of_isQuantities h.2
  have hw : w.takeWhile Char.isDigit ++ w.dropWhile Char.isDigit = w :=
    List.takeWhile_append_dropWhile
  generalize hds : w.takeWhile Char.isDigit = ds at hdigits hw
  generalize hus : w.dropWhile Char.isDigit = us at hhead hw
  have hpart : ∀ c ∈ ds, c.isDigit = true := fun c hc => of_mem_takeWhile (hds ▸ hc)
  obtain ⟨d, ds', rfl⟩ := List.exists_cons_of_ne_nil hdigits
  obtain ⟨us', rfl⟩ : ∃ us', us = x :: us' := by
    cases us with
    | nil => cases hhead
    | cons y us => exact ⟨us, by rw [Option.some.inj hhead]⟩
  intro rest hrest
  have hletter : isNumberPart x = false ∧ x ≠ 'x' ∧ x ≠ 'X' ∧ x ∉ ['e', 'E'] ∧ x.isAlpha = true := by
    simp only [List.mem_cons, List.not_mem_nil, or_false] at hx
    rcases hx with rfl | rfl | rfl | rfl | rfl | rfl <;> decide
  have hnone : exponent? (x :: us' ++ rest) = none := by
    refine exponent?_eq_none fun c hc => ?_
    obtain rfl : x = c := by simpa using hc
    exact hletter.2.2.2.1
  have htake : (x :: us' ++ rest).takeWhile Char.isAlphanum = x :: us' :=
    takeWhile_append_of_head (fun c hc => hall c (hw ▸ List.mem_append_right _ hc)) hrest
  have hdrop : (x :: us' ++ rest).dropWhile Char.isAlphanum = rest :=
    dropWhile_append_of_head (fun c hc => hall c (hw ▸ List.mem_append_right _ hc)) hrest
  refine ⟨startsNumber_append ?_ rest, ?_⟩
  · rw [← hw, List.cons_append, startsNumber_cons, hpart d List.mem_cons_self, Bool.true_or]
  · rw [← hw, List.append_assoc, lexNumber_append]
    · unfold lexTail
      rw [hnone]
      dsimp only
      rw [if_neg (by simp [hletter.2.2.2.2]), htake, hdrop, hw, if_pos h]
    · intro c hc
      simp [isNumberPart, hpart c hc]
    · intro c hc
      obtain rfl : x = c := by simpa using hc
      exact ⟨hletter.1, hletter.2.1, hletter.2.2.1⟩

theorem lexesAs_duration {w : List Char} (h : isDuration w = true) :
    LexesAs w (.duration (.ofList w)) :=
  (lexesUntil_duration h).lexesAs fun _ => isNumeralPart_of_isAlphanum

theorem lexesUntil_hex {x : Char} (hx : x = 'x' ∨ x = 'X') {ds : List Char}
    (hds : ∀ c ∈ ds, isHexDigit c = true) :
    LexesUntil isHexDigit ('0' :: x :: ds) (.number (.ofList ('0' :: x :: ds))) := by
  intro rest hrest
  have htake := takeWhile_append_of_head hds hrest
  have hdrop := dropWhile_append_of_head hds hrest
  refine ⟨rfl, ?_⟩
  rw [List.cons_append, List.cons_append, lexNumber_hex hx, htake, hdrop]

/-- Digits and points are one number, without the letter of an exponent or a unit after them. -/
theorem lexesUntil_decimal {ds : List Char} (hstart : startsNumber ds = true)
    (hds : ∀ c ∈ ds, isNumberPart c = true) :
    LexesUntil isNumeralPart ds (.number (.ofList ds)) := by
  intro rest hrest
  have hends : EndsNumber rest := fun c hc => by simpa [isNumeralPart] using hrest c hc
  have hdigits : EndsDigits rest := by
    intro c hc
    refine ⟨hends.isNumberPart c hc, ?_, ?_⟩
    · rintro rfl
      cases hends.isAlphanum _ hc
    · rintro rfl
      cases hends.isAlphanum _ hc
  have hnone : exponent? rest = none := by
    refine exponent?_eq_none fun c hc hmem => ?_
    have hc := hends.isAlphanum c hc
    simp only [List.mem_cons, List.not_mem_nil, or_false] at hmem
    rcases hmem with rfl | rfl
    · cases hc
    · cases hc
  have halpha : rest.takeWhile Char.isAlpha = [] := by
    have := takeWhile_append_of_head (w := []) (by simp) hends.isAlpha
    rwa [List.nil_append] at this
  refine ⟨startsNumber_append hstart rest, ?_⟩
  rw [lexNumber_append hds hdigits, lexTail, hnone]
  dsimp only
  rw [halpha]
  rfl

/-- Digits, points and an exponent are one number. -/
theorem lexesUntil_exponent {ds e cs r : List Char} (hstart : startsNumber ds = true)
    (hds : ∀ c ∈ ds, isNumberPart c = true) (he : exponent? cs = some (e, r)) :
    LexesUntil Char.isDigit (ds ++ e) (.number (.ofList (ds ++ e))) := by
  intro rest hrest
  obtain ⟨-, ⟨x, hx, hhead⟩, -, hread⟩ := exponent?_eq_some he
  have hdigits : EndsDigits (e ++ rest) := by
    intro c hc
    obtain rfl : c = x := by
      rw [List.head?_append, hhead] at hc
      exact (Option.some.inj hc).symm
    simp only [List.mem_cons, List.not_mem_nil, or_false] at hx
    rcases hx with rfl | rfl <;> decide
  refine ⟨startsNumber_append (startsNumber_append hstart e) rest, ?_⟩
  rw [List.append_assoc, lexNumber_append hds hdigits, lexTail, hread rest hrest]

theorem startsNumber_of_append {ds rest : List Char}
    (hrest : ∀ c ∈ rest.head?, isNumberPart c = false) (h : startsNumber (ds ++ rest) = true) :
    startsNumber ds = true := by
  match ds, h with
  | [], h =>
    cases rest with
    | nil => cases h
    | cons c rest =>
      have hc := hrest c rfl
      rw [isNumberPart_of_startsNumber h] at hc
      cases hc
  | [c], h =>
    rw [List.singleton_append, startsNumber_cons] at h
    rw [startsNumber_cons]
    have hnone : rest.head?.any Char.isDigit = false := by
      cases rest with
      | nil => rfl
      | cons d rest =>
        have hd := hrest d rfl
        simp only [isNumberPart, Bool.or_eq_false_iff] at hd
        simpa using hd.1
    rw [hnone, Bool.and_false, Bool.or_false] at h
    rw [h, Bool.true_or]
  | c :: d :: ds, h =>
    rw [List.cons_append, startsNumber_cons] at h
    rw [startsNumber_cons]
    exact h

/-- A number or duration that was read is read again wherever its text does not go on. -/
theorem lexNumber_eq_ok {cs r : List Char} {t : Token} (hs : startsNumber cs = true)
    (h : lexNumber cs = .ok (t, r)) : ∃ w p, cs = w ++ r ∧ (∀ c ∈ r.head?, p c = false)
      ∧ (∀ c, p c = true → isNumeralPart c = true) ∧ LexesUntil p w t
      ∧ (t = .number (.ofList w) ∨ t = .duration (.ofList w) ∧ isDuration w = true) := by
  cases hhex : isHexStart cs with
  | true =>
    obtain ⟨x, ds, hx, rfl⟩ := isHexStart_eq_true hhex
    rw [lexNumber_hex hx] at h
    simp only [Except.ok.injEq, Prod.mk.injEq] at h
    obtain ⟨rfl, rfl⟩ := h
    exact ⟨_, isHexDigit, by rw [List.cons_append, List.cons_append, List.takeWhile_append_dropWhile],
      head?_dropWhile_eq_false, fun _ h => isNumeralPart_of_isAlphanum (isAlphanum_of_isHexDigit h),
      lexesUntil_hex hx fun c hc => of_mem_takeWhile hc, .inl rfl⟩
  | false =>
    rw [lexNumber_of_not_isHexStart hhex, lexTail] at h
    have hcs := List.takeWhile_append_dropWhile (p := isNumberPart) (l := cs)
    generalize hds : cs.takeWhile isNumberPart = ds at h hcs
    have hhead : ∀ c ∈ (cs.dropWhile isNumberPart).head?, isNumberPart c = false :=
      head?_dropWhile_eq_false
    generalize cs.dropWhile isNumberPart = rest at h hcs hhead
    have hpart : ∀ c ∈ ds, isNumberPart c = true := fun c hc => of_mem_takeWhile (hds ▸ hc)
    have hstart : startsNumber ds = true :=
      startsNumber_of_append hhead (by rwa [hcs])
    cases he : exponent? rest with
    | some er =>
      obtain ⟨e, r'⟩ := er
      rw [he] at h
      simp only [Except.ok.injEq, Prod.mk.injEq] at h
      obtain ⟨rfl, rfl⟩ := h
      obtain ⟨hrest, -, hdigit, -⟩ := exponent?_eq_some he
      refine ⟨ds ++ e, Char.isDigit, ?_, hdigit,
        fun _ h => isNumeralPart_of_isAlphanum (isAlphanum_of_isDigit h),
        lexesUntil_exponent hstart hpart he, .inl rfl⟩
      rw [← hcs, hrest, List.append_assoc]
    | none =>
      rw [he] at h
      dsimp only at h
      split at h
      · rename_i halpha
        simp only [Except.ok.injEq, Prod.mk.injEq] at h
        obtain ⟨rfl, rfl⟩ := h
        refine ⟨ds, isNumeralPart, hcs.symm, fun c hc => ?_, fun _ => id,
          lexesUntil_decimal hstart hpart, .inl rfl⟩
        have hletter : c.isAlpha = false := by
          cases rest with
          | nil => cases hc
          | cons d rest =>
            obtain rfl := Option.some.inj hc
            rw [List.takeWhile_cons] at halpha
            split at halpha
            · cases halpha
            · rename_i h
              exact Bool.not_eq_true _ ▸ h
        have hdigit := hhead c hc
        simp only [isNumberPart, Bool.or_eq_false_iff] at hdigit
        rw [isNumeralPart, Char.isAlphanum, hletter, hdigit.1, hdigit.2]
        rfl
      · split at h
        · rename_i hduration
          simp only [Except.ok.injEq, Prod.mk.injEq] at h
          obtain ⟨rfl, rfl⟩ := h
          refine ⟨_, Char.isAlphanum, ?_, head?_dropWhile_eq_false,
            fun _ => isNumeralPart_of_isAlphanum, lexesUntil_duration hduration,
            .inr ⟨rfl, hduration⟩⟩
          rw [List.append_assoc, List.takeWhile_append_dropWhile, hcs]
        · cases h

/-! ## Names and strings -/

/-- Whether a text is a name. -/
def isIdent (w : List Char) : Bool := startsIdent w && w.all isIdentPart

theorem startsIdent_cons (c : Char) (cs : List Char) :
    startsIdent (c :: cs) = (isIdentStart c || (c == ':' && cs.head?.any isIdentStart)) := by
  unfold startsIdent
  split
  · rename_i heq
    obtain ⟨rfl, rfl⟩ := List.cons.inj heq
    rfl
  · rename_i hne heq
    obtain ⟨rfl, rfl⟩ := List.cons.inj heq
    cases hd : c == ':' with
    | false => simp
    | true =>
      obtain rfl := eq_of_beq hd
      cases cs with
      | nil => rfl
      | cons d cs => exact (hne d cs rfl rfl).elim
  · rename_i heq
    cases heq

theorem isIdentPart_of_isIdentStart {c : Char} (h : isIdentStart c = true) :
    isIdentPart c = true := by
  simp only [isIdentStart, Bool.or_eq_true] at h
  simp only [isIdentPart, Char.isAlphanum, Bool.or_eq_true]
  grind

theorem isIdent_of_startsIdent {c : Char} {cs : List Char} (h : startsIdent (c :: cs) = true) :
    isIdent (c :: cs.takeWhile isIdentPart) = true := by
  rw [startsIdent_cons, Bool.or_eq_true, Bool.and_eq_true] at h
  have hall : (cs.takeWhile isIdentPart).all isIdentPart = true := List.all_takeWhile
  rw [isIdent, List.all_cons, hall, startsIdent_cons, Bool.and_true, Bool.and_eq_true]
  rcases h with h | ⟨hc, h⟩
  · exact ⟨by rw [h, Bool.true_or], isIdentPart_of_isIdentStart h⟩
  · obtain rfl := eq_of_beq hc
    cases cs with
    | nil => cases h
    | cons d cs =>
      have hd : isIdentStart d = true := h
      refine ⟨?_, rfl⟩
      rw [List.takeWhile_cons_of_pos (isIdentPart_of_isIdentStart hd), List.head?_cons,
        Option.any_some, hd]
      rfl

theorem isBlank_of_isIdentPart {c : Char} (h : isIdentPart c = true) : isBlank c = false := by
  cases hb : isBlank c with
  | false => rfl
  | true =>
    exfalso
    simp only [isIdentPart, Bool.or_eq_true, beq_iff_eq, isAlphanum_iff, isAlpha_iff,
      isDigit_iff] at h
    simp only [isBlank, Bool.or_eq_true, Bool.and_eq_true, decide_eq_true_eq, beq_iff_eq] at hb
    rcases h with (h | rfl) | rfl
    · omega
    · revert hb
      decide
    · revert hb
      decide

theorem startsNumber_of_startsIdent {c : Char} {cs : List Char}
    (h : startsIdent (c :: cs) = true) : startsNumber (c :: cs) = false := by
  rw [startsIdent_cons, Bool.or_eq_true, Bool.and_eq_true] at h
  rw [startsNumber_cons]
  rcases h with h | ⟨h, -⟩
  · have hdigit : c.isDigit = false := by
      cases hd : c.isDigit with
      | false => rfl
      | true =>
        exfalso
        simp only [isIdentStart, Bool.or_eq_true, beq_iff_eq, isAlpha_iff] at h
        rw [isDigit_iff] at hd
        rcases h with h | rfl
        · omega
        · exact absurd hd (by decide)
    have hdot : (c == '.') = false := by
      cases hd : c == '.' with
      | false => rfl
      | true =>
        obtain rfl := eq_of_beq hd
        cases h
    rw [hdigit, hdot, Bool.false_and, Bool.or_false]
  · obtain rfl := eq_of_beq h
    rfl

theorem lexeme_ident {c : Char} {w : List Char} (h : isIdent (c :: w) = true) {rest : List Char}
    (hrest : ∀ d ∈ rest.head?, isIdentPart d = false) :
    lexeme c (w ++ rest) = .ok (.ident (.ofList (c :: w)), rest) := by
  rw [isIdent, Bool.and_eq_true, List.all_cons, Bool.and_eq_true, List.all_eq_true] at h
  obtain ⟨hstart, -, hall⟩ := h
  have hstart' : startsIdent (c :: (w ++ rest)) = true := by
    rw [startsIdent_cons, Bool.or_eq_true, Bool.and_eq_true] at hstart ⊢
    refine hstart.imp_right fun h => ⟨h.1, ?_⟩
    cases w with
    | nil => cases h.2
    | cons d w => exact h.2
  rw [lexeme, if_neg (by rw [startsNumber_of_startsIdent hstart']; exact Bool.false_ne_true),
    if_pos hstart', takeWhile_append_of_head hall hrest, dropWhile_append_of_head hall hrest]

variable {mark c e : Char} {cs : List Char}

theorem lexQuoted_nil (mark : Char) : lexQuoted mark [] = .error .unterminatedString := by
  rw [lexQuoted.eq_def]

theorem lexQuoted_mark (mark : Char) (cs : List Char) :
    lexQuoted mark (mark :: cs) = .ok ([], cs) := by
  rw [lexQuoted.eq_def]
  exact if_pos rfl

theorem lexQuoted_plain (hm : c ≠ mark) (hb : c ≠ '\\') :
    lexQuoted mark (c :: cs) = (lexQuoted mark cs).map fun p => (c :: p.1, p.2) := by
  rw [lexQuoted.eq_def]
  dsimp only
  rw [if_neg hm, if_pos hb]
  cases lexQuoted mark cs <;> rfl

theorem lexQuoted_backslash (hm : mark ≠ '\\') :
    lexQuoted mark ['\\'] = .error .unterminatedEscape := by
  rw [lexQuoted.eq_def]
  dsimp only
  rw [if_neg hm.symm, if_neg (by simp)]

theorem lexQuoted_escape (hm : mark ≠ '\\') : lexQuoted mark ('\\' :: e :: cs) =
    match escapeWidth? e with
    | none => (lexQuoted mark cs).map fun p => (plainEscape e :: p.1, p.2)
    | some w => match readEscape? w (cs.take w) with
      | none => .error (.invalidEscape e (.ofList (cs.take w)))
      | some d => (lexQuoted mark (cs.drop w)).map fun p => (d :: p.1, p.2) := by
  rw [lexQuoted.eq_def]
  dsimp only
  rw [if_neg hm.symm, if_neg (by simp)]
  cases escapeWidth? e with
  | none =>
    dsimp only
    cases lexQuoted mark cs <;> rfl
  | some w =>
    dsimp only
    cases readEscape? w (cs.take w) with
    | none => rfl
    | some d =>
      dsimp only
      cases lexQuoted mark (cs.drop w) <;> rfl

theorem lexQuoted_writeString (v rest : List Char) :
    lexQuoted '"' (v.flatMap stringChar ++ '"' :: rest) = .ok (v, rest) := by
  induction v with
  | nil => exact lexQuoted_mark '"' rest
  | cons c v ih =>
    have hescape : ∀ e, escapeWidth? e = none → lexQuoted '"' (['\\', e] ++ v.flatMap stringChar
        ++ '"' :: rest) = .ok (plainEscape e :: v, rest) := by
      intro e he
      show lexQuoted '"' ('\\' :: e :: (v.flatMap stringChar ++ '"' :: rest)) = _
      rw [lexQuoted_escape (by decide), he]
      dsimp only
      rw [ih]
      rfl
    rw [List.flatMap_cons]
    unfold stringChar
    split
    · exact hescape '\\' rfl
    · exact hescape '"' rfl
    · exact hescape 'n' rfl
    · exact hescape 't' rfl
    · exact hescape 'r' rfl
    · rename_i hb hq _ _ _
      show lexQuoted '"' (c :: (v.flatMap stringChar ++ '"' :: rest)) = _
      rw [lexQuoted_plain hq hb, ih]
      rfl

/-! ## Texts that are scanned -/

theorem scan_nil : scan [] = .ok [] := by
  rw [scan.eq_def]
  rfl

theorem scan_blank (h : isBlank c = true) : scan (c :: cs) = scan cs := by
  have hskip : skipGap false (c :: cs) = skipGap false cs := by
    simp [skipGap, h]
  rw [scan.eq_def, scan.eq_def cs, hskip]

theorem scan_cons (hb : isBlank c = false) (hc : c ≠ '#') : scan (c :: cs) =
    match lexeme c cs with
    | .error x => .error x
    | .ok (t, rest) => (scan rest).map (t :: ·) := by
  have hskip : skipGap false (c :: cs) = c :: cs := by
    simp [skipGap, hb, hc]
  rw [scan.eq_def]
  split
  · rename_i h
    rw [hskip] at h
    cases h
  · rename_i d rest h
    rw [hskip] at h
    obtain ⟨rfl, rfl⟩ := List.cons.inj h
    split
    · rename_i hl
      rw [hl]
    · rename_i t r hl
      rw [hl]
      dsimp only
      cases scan r <;> rfl

/-- A token at the front of a text that is neither a gap nor unreadable. -/
theorem scan_of_lexeme {t : Token} {ts : List Token} (hb : isBlank c = false) (hc : c ≠ '#')
    (hl : lexeme c cs = .ok (t, rest)) (h : scan rest = .ok ts) : scan (c :: cs) = .ok (t :: ts) := by
  rw [scan_cons hb hc, hl]
  dsimp only
  rw [h]
  rfl

theorem scan_ident {w rest : List Char} {ts : List Token} (hw : isIdent w = true)
    (hrest : Ends rest) (h : scan rest = .ok ts) :
    scan (w ++ rest) = .ok (.ident (.ofList w) :: ts) := by
  cases w with
  | nil => cases hw
  | cons c w =>
    have hc : isIdentPart c = true := by
      simp only [isIdent, List.all_cons, Bool.and_eq_true] at hw
      exact hw.2.1
    refine scan_of_lexeme (isBlank_of_isIdentPart hc) ?_ (lexeme_ident hw hrest.isIdentPart) h
    rintro rfl
    cases hc

theorem LexesAs.ne_nil {w : List Char} {t : Token} (h : LexesAs w t) : w ≠ [] := by
  rintro rfl
  cases (h [] endsNumber_nil).1

theorem scan_string {v : String} {rest : List Char} {ts : List Token} (h : scan rest = .ok ts) :
    scan (writeString v ++ rest) = .ok (.string v :: ts) := by
  have hl : lexeme '"' (v.toList.flatMap stringChar ++ ['"'] ++ rest) = .ok (.string v, rest) := by
    rw [List.append_assoc, List.singleton_append, lexeme, if_neg (by simp [startsNumber_cons]),
      if_neg (by simp [startsIdent_cons, isIdentStart]), if_pos (.inl rfl), lexQuoted_writeString]
    show Except.ok _ = _
    rw [String.ofList_toList]
  exact scan_of_lexeme rfl (by decide) hl h

/-! ## What scanning yields -/

/-- Whether a token is one that a text can have. -/
def Token.IsLexeme : Token → Prop
  | .ident n => isIdent n.toList = true
  | .number t => LexesAs t.toList (.number t)
  | .duration d => isDuration d.toList = true
  | _ => True

theorem isLexeme_of_punctuation? {t : Token} (h : punctuation? c = some t) : t.IsLexeme := by
  unfold punctuation? at h
  split at h <;> cases h <;> trivial

theorem isLexeme_of_lexeme {r : List Char} {t : Token} (h : lexeme c cs = .ok (t, r)) :
    t.IsLexeme := by
  unfold lexeme at h
  split at h
  · rename_i hs
    obtain ⟨w, p, -, -, hp, hlex, rfl | ⟨rfl, hw⟩⟩ := lexNumber_eq_ok hs h
    · simpa only [Token.IsLexeme, String.toList_ofList] using hlex.lexesAs hp
    · simpa only [Token.IsLexeme, String.toList_ofList] using hw
  split at h
  · rename_i hs
    simp only [Except.ok.injEq, Prod.mk.injEq] at h
    obtain ⟨rfl, -⟩ := h
    simpa only [Token.IsLexeme, String.toList_ofList] using isIdent_of_startsIdent hs
  split at h
  · cases hq : lexQuoted c cs with
    | error x =>
      rw [hq] at h
      cases h
    | ok p =>
      rw [hq] at h
      obtain ⟨rfl, -⟩ := Prod.mk.inj (Except.ok.inj h)
      trivial
  split at h
  · split at h
    · cases h
    · simp only [Except.ok.injEq, Prod.mk.injEq] at h
      obtain ⟨rfl, -⟩ := h
      trivial
  split at h
  · rename_i hp
    simp only [Except.ok.injEq, Prod.mk.injEq] at h
    obtain ⟨rfl, -⟩ := h
    exact isLexeme_of_punctuation? hp
  split at h
  · simp only [Except.ok.injEq, Prod.mk.injEq] at h
    obtain ⟨rfl, -⟩ := h
    trivial
  · cases h

theorem isLexeme_of_scan {cs : List Char} {ts : List Token} (h : scan cs = .ok ts) : ∀ t ∈ ts, t.IsLexeme := by
  rw [scan.eq_def] at h
  split at h
  · cases h
    simp
  · rename_i c rest hgap
    split at h
    · cases h
    · rename_i t r hl
      have hlt : r.length < cs.length := by
        have hgap' := length_skipGap_le false cs
        have hlex := length_lexeme_le hl
        rw [hgap, List.length_cons] at hgap'
        omega
      cases hr : scan r with
      | error x =>
        rw [hr] at h
        cases h
      | ok ts' =>
        rw [hr] at h
        obtain rfl := Except.ok.inj h
        have ih := isLexeme_of_scan hr
        intro u hu
        rcases List.mem_cons.1 hu with rfl | hu
        · exact isLexeme_of_lexeme hl
        · exact ih u hu
termination_by cs.length

end RuleCatalog.Query
