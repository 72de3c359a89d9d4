import RuleCatalog.Proofs.Number.Binary64
import RuleCatalog.Proofs.Query.Tokens

/-! # Printed numbers

What `writeNumber` makes of the text of a number: digits that read as the same double, or the
text as it is. Main statements: `lexesAs_writeNumber` and `writeNumber_respell_iff`. -/
namespace RuleCatalog.Query
open Text

/-- The ways to print a number. -/
inductive Prints (t : String) : List Char → Prop
  | hex {n : Nat} (h : hexNumber? (lower t).toList = some n) : Prints t (Nat.toDigits 10 n)
  | inf (h : lower t = "inf") : Prints t "+Inf".toList
  | signed (h : lower t = "+inf") : Prints t "+Inf".toList
  | nan (h : lower t = "nan") : Prints t "NaN".toList
  | value {d : Decimal} {x : Binary64} (hread : Decimal.read? t.toList = some d)
      (hx : Binary64.ofDecimal? d = some x) : Prints t x.shortest.text
  | raw (hhex : hexNumber? (lower t).toList = none) (hinf : lower t ≠ "inf") : Prints t t.toList

theorem prints_writeNumber (t : String) : Prints t (writeNumber t) := by
  rw [writeNumber_eq]
  split
  · exact .hex ‹_›
  · rename_i hhex
    split
    · rename_i hinf
      exact hinf.elim .inf .signed
    · rename_i hinf
      split
      · exact .nan ‹_›
      · split
        · rename_i x hx
          obtain ⟨d, hread, hd⟩ := Option.bind_eq_some_iff.1 hx
          exact .value hread hd
        · exact .raw hhex fun h => hinf (.inl h)

/-! ## As tokens -/

theorem isPositional_toDigits (n : Nat) : Decimal.IsPositional (Nat.toDigits 10 n) :=
  .whole Nat.toDigits_ne_nil Decimal.isDigit_of_mem_toDigits

theorem isNumberPart_of_isDigit {c : Char} (h : c.isDigit = true) : isNumberPart c = true := by
  rw [isNumberPart, h, Bool.true_or]

variable {w : List Char} {t : String}

theorem isNumberPart_of_isPositional (h : Decimal.IsPositional w) :
    startsNumber w = true ∧ ∀ c ∈ w, isNumberPart c = true := by
  have hstart : ∀ {w : List Char} (rest : List Char), w ≠ [] → (∀ c ∈ w, c.isDigit = true) →
      startsNumber (w ++ rest) = true := by
    intro w rest hne hw
    obtain ⟨c, w, rfl⟩ := List.exists_cons_of_ne_nil hne
    rw [List.cons_append, startsNumber_cons, hw c List.mem_cons_self, Bool.true_or]
  cases h with
  | whole hne hw =>
    refine ⟨?_, fun c hc => isNumberPart_of_isDigit (hw c hc)⟩
    rw [← List.append_nil w]
    exact hstart [] hne hw
  | @point w f hne hw hf =>
    refine ⟨hstart _ hne hw, fun c hc => ?_⟩
    rcases List.mem_append.1 hc with hc | hc
    · exact isNumberPart_of_isDigit (hw c hc)
    · rcases List.mem_cons.1 hc with rfl | hc
      · rfl
      · exact isNumberPart_of_isDigit (hf c hc)

theorem lexesAs_of_isPositional (h : Decimal.IsPositional w) : LexesAs w (.number (.ofList w)) := by
  obtain ⟨hstart, hw⟩ := isNumberPart_of_isPositional h
  exact (lexesUntil_decimal hstart hw).lexesAs fun _ => id

theorem toLower_of_isNumberPart {c : Char} (h : isNumberPart c = true) : c.toLower = c := by
  simp only [isNumberPart, Char.isDigit, Bool.or_eq_true, Bool.and_eq_true, decide_eq_true_eq,
    beq_iff_eq, UInt32.le_iff_toNat_le, ge_iff_le] at h
  rcases h with h | rfl
  · unfold Char.toLower
    rw [dif_neg]
    intro hupper
    simp only [UInt32.le_iff_toNat_le, ge_iff_le] at hupper
    have h₁ : '9'.val.toNat = 57 := rfl
    have h₂ : 'A'.val.toNat = 65 := rfl
    omega
  · rfl

/-- No number that is read has a sign. -/
theorem lower_ne_signed (ht : IsNumber t) : lower t ≠ "+inf" := by
  intro hsigned
  have hstart : startsNumber t.toList = true := by
    rcases ht with ht | ht | ht | ht
    · simpa using (ht [] endsNumber_nil).1
    · simpa using (lexesAs_duration ht [] endsNumber_nil).1
    · exact absurd (ht.symm.trans hsigned) (by decide)
    · exact absurd (ht.symm.trans hsigned) (by decide)
  have hlist := (lower_eq_iff t "+inf").2 hsigned
  cases hchars : t.toList with
  | nil =>
    rw [hchars] at hstart
    cases hstart
  | cons c cs =>
    rw [hchars] at hstart hlist
    have hpart : isNumberPart c = true := by
      rw [startsNumber_cons, Bool.or_eq_true, Bool.and_eq_true] at hstart
      exact Bool.or_eq_true_iff.2 (hstart.imp_right And.left)
    obtain rfl : c = '+' := (toLower_of_isNumberPart hpart).symm.trans (List.cons.inj hlist).1
    exact absurd hpart (by decide)

/-- A printed number is one token, unless it is a name. -/
theorem lexesAs_writeNumber (ht : IsNumber t) (hinf : lower t ≠ "inf") (hnan : lower t ≠ "nan") :
    LexesAs (writeNumber t) (numberToken t) := by
  rw [numberToken, if_neg hnan, respell]
  split
  · rename_i hduration
    exact lexesAs_duration hduration
  · rename_i hduration
    have hprints := prints_writeNumber t
    generalize writeNumber t = w at hprints hduration
    cases hprints with
    | hex h => exact lexesAs_of_isPositional (isPositional_toDigits _)
    | inf h => exact absurd h hinf
    | signed h => exact absurd h (lower_ne_signed ht)
    | nan h => exact absurd h hnan
    | value hread hx => exact lexesAs_of_isPositional (Decimal.read?_text _).1
    | raw hhex _ =>
      rw [String.ofList_toList]
      rcases ht with ht | ht | ht | ht
      · exact ht
      · exact absurd ht hduration
      · exact absurd ht hinf
      · exact absurd ht hnan

/-! ## Printed again -/

theorem lower_of_isPositional (h : Decimal.IsPositional w) :
    hexNumber? (lower (.ofList w)).toList = none
      ∧ ¬ (lower (.ofList w) = "inf" ∨ lower (.ofList w) = "+inf") ∧ lower (.ofList w) ≠ "nan" := by
  obtain ⟨hstart, hw⟩ := isNumberPart_of_isPositional h
  have hmap : w.map Char.toLower = w := by
    conv => rhs; rw [← List.map_id w]
    exact List.map_congr_left fun c hc => toLower_of_isNumberPart (hw c hc)
  have hne : ∀ n : String, startsNumber n.toList = false → String.ofList w ≠ n := by
    rintro n hn rfl
    rw [String.toList_ofList, hstart] at hn
    cases hn
  rw [lower, String.toList_ofList, String.toList_ofList, hmap]
  refine ⟨?_, not_or.2 ⟨hne "inf" rfl, hne "+inf" rfl⟩, hne "nan" rfl⟩
  unfold hexNumber?
  split
  · exact absurd (hw 'x' (by simp)) (by decide)
  · rfl

/-- A number by its value is printed the same once more. -/
theorem writeNumber_shortest {x : Binary64} (hx : x.IsCanonical) :
    writeNumber (.ofList x.shortest.text) = x.shortest.text := by
  obtain ⟨hpositional, d, hread, hsame⟩ := Decimal.read?_text x.shortest
  obtain ⟨hhex, hinf, hnan⟩ := lower_of_isPositional hpositional
  have hdouble : Binary64.ofDecimal? d = some x := by
    rw [← Binary64.ofDecimal?_congr hsame, Binary64.ofDecimal?_shortest hx]
  rw [writeNumber_eq, hhex]
  dsimp only
  rw [if_neg hinf, if_neg hnan, String.toList_ofList, hread, Option.bind_some, hdouble]

/-- Whether a number keeps its spelling once it is printed: an infinity gets a sign, and a
hexadecimal number is printed with all its digits, which its double may not need. -/
structure IsSettled (t : String) : Prop where
  finite : lower t ≠ "inf"
  hex : ∀ n, hexNumber? (lower t).toList = some n →
    writeNumber (.ofList (Nat.toDigits 10 n)) = Nat.toDigits 10 n

theorem writeNumber_respell_iff (t : String) (hinf : lower t ≠ "inf") :
    writeNumber (respell t) = writeNumber t ↔ IsSettled t := by
  rw [respell]
  have hprints := prints_writeNumber t
  constructor
  · intro heq
    refine ⟨hinf, fun n hn => ?_⟩
    have hwrite : writeNumber t = Nat.toDigits 10 n := by
      rw [writeNumber_eq, hn]
    rwa [hwrite] at heq
  · intro hsettled
    generalize heq : writeNumber t = w at hprints
    cases hprints with
    | hex h => exact hsettled.hex _ h
    | inf h => exact absurd h hinf
    | signed h => rfl
    | nan h => rfl
    | value hread hx => exact writeNumber_shortest (Binary64.isCanonical_ofDecimal? hx)
    | raw hhex _ => rw [String.ofList_toList, heq]

end RuleCatalog.Query
