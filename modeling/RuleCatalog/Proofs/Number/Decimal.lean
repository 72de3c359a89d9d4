import Mathlib.Algebra.Group.Nat.Defs
import RuleCatalog.Number.Decimal

/-! # Texts of decimals

The positional text of a decimal is digits, with a point among them or without, and reads as
the same number, if in other units. Main statement: `Decimal.read?_text`. -/
namespace RuleCatalog
open Text

/-! ## Digits -/

theorem foldl_digits (base : Nat) (cs : List Char) (a : Nat) :
    cs.foldl (fun n c => n * base + digitValue c) a = a * base ^ cs.length + ofDigits base cs := by
  induction cs generalizing a with
  | nil => simp [ofDigits]
  | cons c cs ih =>
    rw [ofDigits, List.foldl_cons, List.foldl_cons, ih, ih (0 * base + _), List.length_cons,
      Nat.pow_succ, Nat.add_mul, Nat.zero_mul, Nat.zero_add, Nat.mul_assoc, Nat.add_assoc,
      Nat.mul_comm base]

theorem ofDigits_append (base : Nat) (xs ys : List Char) :
    ofDigits base (xs ++ ys) = ofDigits base xs * base ^ ys.length + ofDigits base ys := by
  rw [ofDigits, List.foldl_append, foldl_digits]
  rfl

theorem ofDigits_replicate_zero (base n : Nat) : ofDigits base (List.replicate n '0') = 0 := by
  induction n with
  | zero => rfl
  | succ n ih =>
    rw [List.replicate_succ', ofDigits_append_single, ih, Nat.zero_mul]
    rfl

theorem ofDigits_toDigits (n : Nat) : ofDigits 10 (Nat.toDigits 10 n) = n := by
  have hfold : ∀ cs : List Char, (∀ c ∈ cs, c.isDigit = true) → ∀ a,
      cs.foldl (fun n c => n * 10 + digitValue c) a = Nat.ofDigitChars 10 cs a := by
    intro cs
    induction cs with
    | nil => exact fun _ _ => rfl
    | cons c cs ih =>
      intro hcs a
      have hc : digitValue c = c.toNat - '0'.toNat := if_pos (hcs c List.mem_cons_self)
      rw [List.foldl_cons, ih fun d hd => hcs d (List.mem_cons_of_mem c hd), Nat.ofDigitChars_cons,
        hc, Nat.mul_comm]
  have hdigits : ∀ c ∈ Nat.toDigits 10 n, c.isDigit = true := fun c hc =>
    Nat.isDigit_of_mem_toDigits (by decide : 0 < 10) (by decide) hc
  rw [ofDigits, hfold _ hdigits]
  exact Nat.ofDigitChars_toDigits (by decide) (by decide)

/-! ## The same number in other units -/

namespace Decimal

/-- Whether two decimals are one number: they agree in some smaller unit. -/
def IsSame (d d' : Decimal) : Prop :=
  ∃ j k : Nat, d.exponent - j = d'.exponent - k ∧ d.digits * 10 ^ j = d'.digits * 10 ^ k

/-! ## The text -/

/-- A text of digits, with a point among them or without. -/
inductive IsPositional : List Char → Prop
  | whole {w : List Char} (hne : w ≠ []) (hw : ∀ c ∈ w, c.isDigit = true) : IsPositional w
  | point {w f : List Char} (hne : w ≠ []) (hw : ∀ c ∈ w, c.isDigit = true)
      (hf : ∀ c ∈ f, c.isDigit = true) : IsPositional (w ++ '.' :: f)

theorem dropZeros_append (ds : List Char) :
    ∃ n, dropZeros ds ++ List.replicate n '0' = ds := by
  refine ⟨(ds.reverse.takeWhile (· == '0')).length, ?_⟩
  have hzeros : ds.reverse.takeWhile (· == '0')
      = List.replicate (ds.reverse.takeWhile (· == '0')).length '0' := by
    refine List.eq_replicate_iff.2 ⟨rfl, fun c hc => ?_⟩
    exact eq_of_beq (List.all_eq_true.1 List.all_takeWhile c hc)
  rw [← List.reverse_replicate, ← hzeros, dropZeros, ← List.reverse_append,
    List.takeWhile_append_dropWhile, List.reverse_reverse]

theorem takeWhile_digits {w : List Char} (hw : ∀ c ∈ w, c.isDigit = true) (rest : List Char) :
    (w ++ '.' :: rest).takeWhile Char.isDigit = w ∧ w.takeWhile Char.isDigit = w := by
  have happend : ∀ us, (w ++ us).takeWhile Char.isDigit = w ++ us.takeWhile Char.isDigit :=
    fun us => List.takeWhile_append_of_pos hw
  exact ⟨by simpa using happend ('.' :: rest), by simpa using happend []⟩

theorem dropWhile_digits {w : List Char} (hw : ∀ c ∈ w, c.isDigit = true) (rest : List Char) :
    (w ++ '.' :: rest).dropWhile Char.isDigit = '.' :: rest ∧ w.dropWhile Char.isDigit = [] := by
  have happend : ∀ us, (w ++ us).dropWhile Char.isDigit = us.dropWhile Char.isDigit :=
    fun us => List.dropWhile_append_of_pos hw
  exact ⟨by simpa using happend ('.' :: rest), by simpa using happend []⟩

theorem read?_whole {w : List Char} (hne : w ≠ []) (hw : ∀ c ∈ w, c.isDigit = true) :
    read? w = some ⟨ofDigits 10 w, 0⟩ := by
  unfold read?
  rw [(takeWhile_digits hw []).2, (dropWhile_digits hw []).2]
  simp [hne, readExponent?]

theorem read?_point {w f : List Char} (hne : w ≠ []) (hw : ∀ c ∈ w, c.isDigit = true)
    (hf : ∀ c ∈ f, c.isDigit = true) :
    read? (w ++ '.' :: f) = some ⟨ofDigits 10 (w ++ f), -f.length⟩ := by
  unfold read?
  rw [(takeWhile_digits hw f).1, (dropWhile_digits hw f).1]
  simp [hne, (takeWhile_digits hf []).2, (dropWhile_digits hf []).2, readExponent?]

theorem isDigit_of_mem_toDigits {n : Nat} : ∀ c ∈ Nat.toDigits 10 n, c.isDigit = true :=
  fun _ hc => Nat.isDigit_of_mem_toDigits (by decide : 0 < 10) (by decide) hc

/-- The digits of a fraction, split where the point goes and without the zeros at their end. -/
theorem text_negSucc (n e : Nat) : ∃ w f z, text ⟨n, .negSucc e⟩ = (match f with
      | [] => w
      | f => w ++ '.' :: f)
    ∧ w ≠ [] ∧ (∀ c ∈ w, c.isDigit = true) ∧ (∀ c ∈ f, c.isDigit = true)
    ∧ n = ofDigits 10 (w ++ f) * 10 ^ z ∧ f.length + z = e + 1 := by
  obtain ⟨padded, hpadded⟩ : ∃ ds, ds = List.replicate (e + 2 - (Nat.toDigits 10 n).length) '0'
      ++ Nat.toDigits 10 n := ⟨_, rfl⟩
  have hvalue : ofDigits 10 padded = n := by
    rw [hpadded, ofDigits_append, ofDigits_replicate_zero, ofDigits_toDigits, Nat.zero_mul,
      Nat.zero_add]
  have hlength : e + 2 ≤ padded.length := by
    rw [hpadded, List.length_append, List.length_replicate]
    omega
  have hall : ∀ c ∈ padded, c.isDigit = true := by
    intro c hc
    rw [hpadded] at hc
    rcases List.mem_append.1 hc with hc | hc
    · rw [List.eq_of_mem_replicate hc]
      rfl
    · exact isDigit_of_mem_toDigits c hc
  obtain ⟨whole, hwhole⟩ : ∃ w, w = padded.take (padded.length - (e + 1)) := ⟨_, rfl⟩
  obtain ⟨places, hplaces⟩ : ∃ f, f = padded.drop (padded.length - (e + 1)) := ⟨_, rfl⟩
  have hsplit : whole ++ places = padded := by
    rw [hwhole, hplaces, List.take_append_drop]
  have hne : whole ≠ [] := by
    rw [hwhole]
    simp only [ne_eq, List.take_eq_nil_iff, not_or]
    constructor
    · omega
    · rintro rfl
      simp at hlength
  have hcount : places.length = e + 1 := by
    rw [hplaces, List.length_drop]
    omega
  obtain ⟨z, hz⟩ := dropZeros_append places
  have hw : ∀ c ∈ whole, c.isDigit = true := fun c hc =>
    hall c (by rw [← hsplit]; exact List.mem_append_left _ hc)
  have hf : ∀ c ∈ dropZeros places, c.isDigit = true := fun c hc =>
    hall c (by rw [← hsplit, ← hz]; exact List.mem_append_right _ (List.mem_append_left _ hc))
  have hdigits : n = ofDigits 10 (whole ++ dropZeros places) * 10 ^ z := by
    rw [← hvalue, ← hsplit]
    conv => lhs; rw [← hz, ← List.append_assoc, ofDigits_append]
    rw [ofDigits_replicate_zero, List.length_replicate, Nat.add_zero]
  have hzeros : (dropZeros places).length + z = e + 1 := by
    rw [← hcount]
    conv => rhs; rw [← hz, List.length_append, List.length_replicate]
  refine ⟨whole, dropZeros places, z, ?_, hne, hw, hf, hdigits, hzeros⟩
  rw [hplaces, hwhole, hpadded]
  rfl

/-- The text of a decimal is positional and reads as the same number. -/
theorem read?_text (d : Decimal) :
    IsPositional d.text ∧ ∃ d', read? d.text = some d' ∧ d.IsSame d' := by
  obtain ⟨n, g⟩ := d
  cases g with
  | ofNat e =>
    by_cases hn : n = 0
    · subst hn
      have htext : text ⟨0, .ofNat e⟩ = ['0'] := rfl
      rw [htext]
      refine ⟨.whole (by simp) (by simp), _, read?_whole (by simp) (by simp), e, 0, ?_, ?_⟩
      · simp
      · simp [ofDigits]
        rfl
    · have htext : text ⟨n, .ofNat e⟩ = Nat.toDigits 10 n ++ List.replicate e '0' := if_neg hn
      have hne : Nat.toDigits 10 n ++ List.replicate e '0' ≠ [] := by
        simp [Nat.toDigits_ne_nil]
      have hall : ∀ c ∈ Nat.toDigits 10 n ++ List.replicate e '0', c.isDigit = true := by
        intro c hc
        rcases List.mem_append.1 hc with hc | hc
        · exact isDigit_of_mem_toDigits c hc
        · rw [List.eq_of_mem_replicate hc]
          rfl
      rw [htext]
      refine ⟨.whole hne hall, _, read?_whole hne hall, e, 0, ?_, ?_⟩
      · simp
      · rw [ofDigits_append, ofDigits_toDigits, ofDigits_replicate_zero, List.length_replicate,
          Nat.pow_zero, Nat.mul_one, Nat.add_zero]
  | negSucc e =>
    obtain ⟨whole, places, z, htext, hne, hw, hf, hdigits, hzeros⟩ := text_negSucc n e
    rw [htext]
    split
    · rw [List.append_nil] at hdigits
      rw [List.length_nil] at hzeros
      refine ⟨.whole hne hw, _, read?_whole hne hw, 0, z, ?_, ?_⟩
      · simp only
        omega
      · rwa [Nat.pow_zero, Nat.mul_one]
    · refine ⟨.point hne hw hf, _, read?_point hne hw hf, 0, z, ?_, ?_⟩
      · simp only
        omega
      · rwa [Nat.pow_zero, Nat.mul_one]

end Decimal
end RuleCatalog
