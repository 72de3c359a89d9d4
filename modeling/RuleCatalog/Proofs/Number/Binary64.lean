import Mathlib.Algebra.Order.Field.Power
import Mathlib.Data.Int.Log
import Mathlib.Data.Rat.Floor
import Mathlib.Tactic.Positivity
import RuleCatalog.Number.Binary64
import RuleCatalog.Proofs.Number.Decimal

/-! # The double nearest to a number

Which double is nearest depends on the number alone and not on how it is written as a fraction
or as a decimal, and the decimal that is exactly a double is nearest to it. Main statement:
`ofDecimal?_shortest`. -/
namespace RuleCatalog.Binary64

variable {n d n' d' : Nat}

/-! ## Fractions -/

theorem scale_pos {base : Nat} (hb : 0 < base) (hd : 0 < d) (n : Nat) (e : Int) :
    0 < (scale base n d e).2 := by
  cases e with
  | ofNat e => exact Nat.mul_pos hd (Nat.pow_pos hb)
  | negSucc e => exact hd

theorem scale_eq_div {base : Nat} (hb : 0 < base) (n d : Nat) (e : Int) :
    ((scale base n d e).1 : ℚ) / (scale base n d e).2 = (n : ℚ) / d / (base : ℚ) ^ e := by
  have hbase : (base : ℚ) ≠ 0 := Nat.cast_ne_zero.2 hb.ne'
  cases e with
  | ofNat e =>
    show (n : ℚ) / ((d * base ^ e : Nat) : ℚ) = _
    rw [Int.ofNat_eq_natCast, zpow_natCast]
    push_cast
    rw [div_div]
  | negSucc e =>
    show ((n * base ^ (e + 1) : Nat) : ℚ) / d = _
    rw [zpow_negSucc]
    push_cast
    rw [div_inv_eq_mul, div_mul_eq_mul_div]

theorem cross_iff (hd : 0 < d) (hd' : 0 < d') :
    n * d' = n' * d ↔ (n : ℚ) / d = (n' : ℚ) / d' := by
  have hq : (d : ℚ) ≠ 0 := Nat.cast_ne_zero.2 hd.ne'
  have hq' : (d' : ℚ) ≠ 0 := Nat.cast_ne_zero.2 hd'.ne'
  rw [div_eq_div_iff hq hq']
  exact_mod_cast Iff.rfl

theorem scale_cross {base : Nat} (hb : 0 < base) (hd : 0 < d) (hd' : 0 < d')
    (h : n * d' = n' * d) (e : Int) :
    (scale base n d e).1 * (scale base n' d' e).2 = (scale base n' d' e).1 * (scale base n d e).2 := by
  rw [cross_iff (scale_pos hb hd n e) (scale_pos hb hd' n' e), scale_eq_div hb, scale_eq_div hb,
    (cross_iff hd hd').1 h]

theorem log_eq {k : Int} {r : ℚ} (hle : (2 : ℚ) ^ k ≤ r) (hlt : r < (2 : ℚ) ^ (k + 1)) :
    Int.log 2 r = k := by
  have hr : 0 < r := lt_of_lt_of_le (by positivity) hle
  have h₁ := (Int.zpow_le_iff_le_log (b := 2) (by decide) hr).1 (by exact_mod_cast hle)
  have h₂ := (Int.lt_zpow_iff_log_lt (b := 2) (by decide) hr).1 (by exact_mod_cast hlt)
  omega

theorem floorLog2_eq_log (hn : 0 < n) (hd : 0 < d) : floorLog2 n d = Int.log 2 ((n : ℚ) / d) := by
  have hdq : (0 : ℚ) < d := Nat.cast_pos.2 hd
  obtain ⟨k, hk⟩ : ∃ k : Int, k = (n.log2 : Int) - d.log2 := ⟨_, rfl⟩
  have hn₁ : (2 : ℚ) ^ (n.log2 : Int) ≤ n := by
    rw [zpow_natCast]
    exact_mod_cast Nat.log2_self_le hn.ne'
  have hn₂ : (n : ℚ) < 2 ^ ((n.log2 : Int) + 1) := by
    rw [← Nat.cast_succ, zpow_natCast]
    exact_mod_cast Nat.lt_log2_self
  have hd₁ : (2 : ℚ) ^ (d.log2 : Int) ≤ d := by
    rw [zpow_natCast]
    exact_mod_cast Nat.log2_self_le hd.ne'
  have hd₂ : (d : ℚ) < 2 ^ ((d.log2 : Int) + 1) := by
    rw [← Nat.cast_succ, zpow_natCast]
    exact_mod_cast Nat.lt_log2_self
  have hlow : (2 : ℚ) ^ (k - 1) ≤ (n : ℚ) / d := by
    rw [le_div_iff₀ hdq]
    calc (2 : ℚ) ^ (k - 1) * d ≤ 2 ^ (k - 1) * 2 ^ ((d.log2 : Int) + 1) := by gcongr
      _ = 2 ^ (n.log2 : Int) := by
        rw [← zpow_add₀ two_ne_zero]
        congr 1
        omega
      _ ≤ n := hn₁
  have hhigh : (n : ℚ) / d < 2 ^ (k + 1) := by
    rw [div_lt_iff₀ hdq]
    calc (n : ℚ) < 2 ^ ((n.log2 : Int) + 1) := hn₂
      _ = 2 ^ (k + 1) * 2 ^ (d.log2 : Int) := by
        rw [← zpow_add₀ two_ne_zero]
        congr 1
        omega
      _ ≤ 2 ^ (k + 1) * d := by gcongr
  have hpos : (0 : ℚ) < (scale 2 n d k).2 := Nat.cast_pos.2 (scale_pos (by decide) hd n k)
  have htest : (scale 2 n d k).2 ≤ (scale 2 n d k).1 ↔ (2 : ℚ) ^ k ≤ (n : ℚ) / d := by
    rw [← Nat.cast_le (α := ℚ), ← one_le_div₀ hpos, scale_eq_div (by decide),
      one_le_div₀ (by positivity)]
    rfl
  have hfloor : floorLog2 n d = if (scale 2 n d k).2 ≤ (scale 2 n d k).1 then k else k - 1 := by
    rw [hk]
    rfl
  rw [hfloor]
  split
  · rename_i hle
    exact (log_eq (htest.1 hle) hhigh).symm
  · rename_i hnot
    refine (log_eq hlow ?_).symm
    rw [sub_add_cancel]
    exact lt_of_not_ge fun hle => hnot (htest.2 hle)

/-! ## Rounding -/

theorem roundDiv_mul_right (n d : Nat) {c : Nat} (hc : 0 < c) :
    roundDiv (n * c) (d * c) = roundDiv n d := by
  have hlt : d * c < 2 * (n % d * c) ↔ d < 2 * (n % d) := by
    rw [← Nat.mul_assoc]
    exact Nat.mul_lt_mul_right hc
  have heq : 2 * (n % d * c) = d * c ↔ 2 * (n % d) = d := by
    rw [← Nat.mul_assoc]
    exact Nat.mul_left_inj hc.ne'
  unfold roundDiv
  simp only [Nat.mul_div_mul_right _ _ hc, Nat.mul_mod_mul_right, Bool.or_eq_true, Bool.and_eq_true,
    decide_eq_true_eq, beq_iff_eq, hlt, heq]

theorem roundDiv_bounds (n d : Nat) : n / d ≤ roundDiv n d ∧ roundDiv n d ≤ n / d + 1 := by
  unfold roundDiv
  dsimp only
  split <;> omega

theorem roundDiv_congr (hd : 0 < d) (hd' : 0 < d') (h : n * d' = n' * d) :
    roundDiv n d = roundDiv n' d' := by
  rw [← roundDiv_mul_right n d hd', h, Nat.mul_comm d, roundDiv_mul_right n' d' hd]

theorem roundDiv_mul_self (m : Nat) (hd : 0 < d) : roundDiv (m * d) d = m := by
  unfold roundDiv
  simp [Nat.mul_div_cancel m hd, hd.ne]

/-- The double nearest to a positive fraction, from its logarithm. -/
theorem ofFraction?_eq (hn : 0 < n) (hd : 0 < d) (q : Int)
    (hq : q = max (Int.log 2 ((n : ℚ) / d) - 52) minExponent) :
    ofFraction? n d =
      let m := roundDiv (scale 2 n d q).1 (scale 2 n d q).2
      let (m, q) := if m = 2 ^ 53 then (2 ^ 52, q + 1) else (m, q)
      if 971 < q then none else some ⟨m, q⟩ := by
  rw [hq, ← floorLog2_eq_log hn hd]
  exact if_neg hn.ne'

theorem ofFraction?_congr (hd : 0 < d) (hd' : 0 < d') (h : n * d' = n' * d) :
    ofFraction? n d = ofFraction? n' d' := by
  rcases Nat.eq_zero_or_pos n with rfl | hn
  · have hn' : n' = 0 := by simpa [hd.ne'] using h.symm
    subst hn'
    rfl
  · have hn' : 0 < n' := Nat.pos_of_mul_pos_right (h ▸ Nat.mul_pos hn hd')
    have hround : ∀ q, roundDiv (scale 2 n d q).1 (scale 2 n d q).2
        = roundDiv (scale 2 n' d' q).1 (scale 2 n' d' q).2 := fun q =>
      roundDiv_congr (scale_pos (by decide) hd n q) (scale_pos (by decide) hd' n' q)
        (scale_cross (by decide) hd hd' h q)
    rw [ofFraction?_eq hn hd _ rfl, ofFraction?_eq hn' hd' _ rfl, (cross_iff hd hd').1 h, hround]

/-! ## Decimals -/

theorem fraction_pos (n : Nat) (e : Int) : 0 < (fraction n e).2 := by
  cases e with
  | ofNat e => exact Nat.one_pos
  | negSucc e => exact Nat.pow_pos (by decide)

theorem fraction_mul_ten (n : Nat) (e : Int) :
    (fraction (n * 10) e).1 * (fraction n (e + 1)).2
      = (fraction n (e + 1)).1 * (fraction (n * 10) e).2 := by
  cases e with
  | ofNat e =>
    show n * 10 * 10 ^ e * 1 = n * 10 ^ (e + 1) * 1
    rw [Nat.mul_one, Nat.mul_one, Nat.pow_succ, Nat.mul_comm (10 ^ e), Nat.mul_assoc]
  | negSucc e =>
    cases e with
    | zero =>
      show n * 10 * 1 = n * 1 * 10
      rw [Nat.mul_one, Nat.mul_one]
    | succ e =>
      show n * 10 * 10 ^ (e + 1) = n * 10 ^ (e + 1 + 1)
      rw [Nat.pow_succ 10 (e + 1), Nat.mul_comm (10 ^ (e + 1)), Nat.mul_assoc]

theorem length_toDigits_mul_ten (hn : 0 < n) :
    (Nat.toDigits 10 (n * 10)).length = (Nat.toDigits 10 n).length + 1 := by
  have happend := Nat.toDigits_append_toDigits (b := 10) (d := 0) (by decide) hn (by decide)
  rw [Nat.add_zero, Nat.mul_comm] at happend
  rw [← happend, List.length_append]
  rfl

theorem ofDecimal?_mul_ten (n : Nat) (e : Int) :
    ofDecimal? ⟨n * 10, e⟩ = ofDecimal? ⟨n, e + 1⟩ := by
  rcases Nat.eq_zero_or_pos n with rfl | hn
  · rfl
  · have hplaces : ((Nat.toDigits 10 (n * 10)).length : Int) + e
        = (Nat.toDigits 10 n).length + (e + 1) := by
      rw [length_toDigits_mul_ten hn]
      omega
    have hzero : n * 10 = 0 ↔ n = 0 := by omega
    have hfraction := ofFraction?_congr (fraction_pos _ _) (fraction_pos _ _) (fraction_mul_ten n e)
    unfold ofDecimal?
    simp only [hplaces, hzero]
    split
    · rfl
    · split
      · rfl
      · exact hfraction

theorem ofDecimal?_mul_pow (n k : Nat) (e : Int) :
    ofDecimal? ⟨n * 10 ^ k, e - k⟩ = ofDecimal? ⟨n, e⟩ := by
  induction k generalizing e with
  | zero => simp
  | succ k ih =>
    rw [Nat.pow_succ, ← Nat.mul_assoc, ofDecimal?_mul_ten, ← ih e]
    congr 2
    omega

/-- The nearest double depends on the number that a decimal writes. -/
theorem ofDecimal?_congr {x y : Decimal} (h : x.IsSame y) : ofDecimal? x = ofDecimal? y := by
  obtain ⟨j, k, hexponent, hdigits⟩ := h
  rw [← ofDecimal?_mul_pow x.digits j x.exponent, hexponent, hdigits, ofDecimal?_mul_pow]

/-! ## Doubles that are nearest to themselves -/

/-- The doubles that there are: no significand is longer than 53 bits, and a shorter one only
has the smallest exponent. -/
structure IsCanonical (x : Binary64) : Prop where
  significand : x.significand < 2 ^ 53
  exponent : minExponent ≤ x.exponent ∧ x.exponent ≤ 971
  normal : 2 ^ 52 ≤ x.significand ∨ x.exponent = minExponent

theorem IsCanonical.eq_zero {x : Binary64} (hx : x.IsCanonical) (h : x.significand = 0) :
    x = ⟨0, minExponent⟩ := by
  obtain ⟨m, e⟩ := x
  obtain rfl : m = 0 := h
  rcases hx.normal with hlow | rfl
  · exact absurd (show 2 ^ 52 ≤ 0 from hlow) (by decide)
  · rfl

/-- The significand that is found fits, and is not longer than it has to be. -/
theorem roundDiv_scale_bounds (hn : 0 < n) (hd : 0 < d) {q : Int}
    (hq : q = max (Int.log 2 ((n : ℚ) / d) - 52) minExponent) :
    roundDiv (scale 2 n d q).1 (scale 2 n d q).2 ≤ 2 ^ 53
      ∧ (2 ^ 52 ≤ roundDiv (scale 2 n d q).1 (scale 2 n d q).2 ∨ q = minExponent) := by
  obtain ⟨N, hN⟩ : ∃ N, N = (scale 2 n d q).1 := ⟨_, rfl⟩
  obtain ⟨D, hD⟩ : ∃ D, D = (scale 2 n d q).2 := ⟨_, rfl⟩
  rw [← hN, ← hD]
  have hDpos : 0 < D := hD ▸ scale_pos (by decide) hd n q
  have hratio : (N : ℚ) / D = (n : ℚ) / d / 2 ^ q := by
    rw [hN, hD]
    exact_mod_cast @scale_eq_div 2 (by decide) n d q
  have hpos : (0 : ℚ) < (n : ℚ) / d := by positivity
  constructor
  · have hlt : (N : ℚ) < 2 ^ 53 * D := by
      rw [← div_lt_iff₀ (by exact_mod_cast hDpos), hratio, div_lt_iff₀ (by positivity)]
      calc (n : ℚ) / d < 2 ^ (Int.log 2 ((n : ℚ) / d) + 1) := by
            exact_mod_cast Int.lt_zpow_succ_log_self (b := 2) (by decide) ((n : ℚ) / d)
        _ ≤ 2 ^ ((53 : Int) + q) := zpow_le_zpow_right₀ (by decide) (by omega)
        _ = 2 ^ 53 * 2 ^ q := by
          rw [zpow_add₀ two_ne_zero]
          rfl
    have hdiv : N / D < 2 ^ 53 := (Nat.div_lt_iff_lt_mul hDpos).2 (by exact_mod_cast hlt)
    exact (roundDiv_bounds N D).2.trans hdiv
  · by_cases hcase : q = minExponent
    · exact .inr hcase
    · refine .inl (Nat.le_trans ((Nat.le_div_iff_mul_le hDpos).2 ?_) (roundDiv_bounds N D).1)
      have hle : (2 : ℚ) ^ 52 * D ≤ N := by
        rw [← le_div_iff₀ (by exact_mod_cast hDpos), hratio, le_div_iff₀ (by positivity)]
        calc (2 : ℚ) ^ 52 * 2 ^ q = 2 ^ ((52 : Int) + q) := by
              rw [zpow_add₀ two_ne_zero]
              rfl
          _ ≤ 2 ^ Int.log 2 ((n : ℚ) / d) := zpow_le_zpow_right₀ (by decide) (by omega)
          _ ≤ (n : ℚ) / d := by
            exact_mod_cast Int.zpow_log_le_self (b := 2) (by decide) hpos
      exact_mod_cast hle

theorem isCanonical_ofFraction? {x : Binary64} (hd : 0 < d) (h : ofFraction? n d = some x) :
    x.IsCanonical := by
  rcases Nat.eq_zero_or_pos n with rfl | hn
  · cases h
    exact ⟨by decide, by decide, .inr rfl⟩
  obtain ⟨q, hq⟩ : ∃ q, q = max (Int.log 2 ((n : ℚ) / d) - 52) minExponent := ⟨_, rfl⟩
  have hmin : minExponent ≤ q := hq ▸ Int.le_max_right _ _
  obtain ⟨hupper, hlower⟩ := roundDiv_scale_bounds hn hd hq
  rw [ofFraction?_eq hn hd q hq] at h
  dsimp only at h
  split at h
  · split at h
    · cases h
    · rename_i hle
      cases h
      exact ⟨Nat.pow_lt_pow_right (by decide) (by decide), ⟨by simp only; omega, by simp only; omega⟩,
        .inl (Nat.le_refl _)⟩
  · rename_i hne
    split at h
    · cases h
    · rename_i hle
      cases h
      exact ⟨Nat.lt_of_le_of_ne hupper hne, ⟨hmin, by simp only; omega⟩, hlower⟩

theorem toFraction_eq_div (x : Binary64) :
    0 < x.toFraction.2
      ∧ (x.toFraction.1 : ℚ) / x.toFraction.2 = x.significand * (2 : ℚ) ^ x.exponent := by
  obtain ⟨m, e⟩ := x
  cases e with
  | ofNat e =>
    refine ⟨Nat.one_pos, ?_⟩
    show ((m * 2 ^ e : Nat) : ℚ) / ((1 : Nat) : ℚ) = m * 2 ^ (Int.ofNat e)
    rw [Int.ofNat_eq_natCast, zpow_natCast]
    push_cast
    rw [div_one]
  | negSucc e =>
    refine ⟨Nat.pow_pos (by decide), ?_⟩
    show (m : ℚ) / ((2 ^ (e + 1) : Nat) : ℚ) = m * 2 ^ (Int.negSucc e)
    rw [zpow_negSucc]
    push_cast
    rw [div_eq_mul_inv]

/-- The exponent of a double is the one that is looked for at its value. -/
theorem IsCanonical.exponent_eq {x : Binary64} (hx : x.IsCanonical) (hpos : 0 < x.significand) :
    max (Int.log 2 ((x.significand : ℚ) * (2 : ℚ) ^ x.exponent) - 52) minExponent = x.exponent := by
  obtain ⟨m, e⟩ := x
  obtain ⟨hm, ⟨hmin, hmax⟩, hnormal⟩ := hx
  dsimp only at hm hmin hmax hnormal hpos ⊢
  have hupper : Int.log 2 ((m : ℚ) * 2 ^ e) < 53 + e := by
    refine (Int.lt_zpow_iff_log_lt (b := 2) (by decide) (by positivity)).1 ?_
    have hcast : (m : ℚ) < 2 ^ 53 := by exact_mod_cast hm
    rw [Nat.cast_ofNat, zpow_add₀ two_ne_zero]
    exact mul_lt_mul_of_pos_right hcast (by positivity)
  rcases hnormal with hlow | hlow
  · have hlower : 52 + e ≤ Int.log 2 ((m : ℚ) * 2 ^ e) := by
      refine (Int.zpow_le_iff_le_log (b := 2) (by decide) (by positivity)).1 ?_
      have hcast : (2 : ℚ) ^ 52 ≤ m := by exact_mod_cast hlow
      rw [Nat.cast_ofNat, zpow_add₀ two_ne_zero]
      exact mul_le_mul_of_nonneg_right hcast (by positivity)
    omega
  · omega

theorem ofFraction?_toFraction {x : Binary64} (hx : x.IsCanonical) :
    ofFraction? x.toFraction.1 x.toFraction.2 = some x := by
  obtain ⟨hd, hvalue⟩ := toFraction_eq_div x
  obtain ⟨N, hN⟩ : ∃ N, N = x.toFraction.1 := ⟨_, rfl⟩
  obtain ⟨D, hD⟩ : ∃ D, D = x.toFraction.2 := ⟨_, rfl⟩
  rw [← hN, ← hD] at hvalue ⊢
  rw [← hD] at hd
  have hdq : (0 : ℚ) < D := Nat.cast_pos.2 hd
  rcases Nat.eq_zero_or_pos x.significand with hzero | hpos
  · have hN0 : N = 0 := by
      rw [hzero, Nat.cast_zero, zero_mul, div_eq_zero_iff] at hvalue
      rcases hvalue with h | h
      · exact_mod_cast h
      · exact absurd h hdq.ne'
    rw [hN0, hx.eq_zero hzero]
    rfl
  have hNpos : 0 < N := by
    have hprod : (0 : ℚ) < x.significand * 2 ^ x.exponent := by positivity
    rw [← hvalue, div_pos_iff_of_pos_right hdq] at hprod
    exact_mod_cast hprod
  have hround : roundDiv (scale 2 N D x.exponent).1 (scale 2 N D x.exponent).2 = x.significand := by
    have hpos' : 0 < (scale 2 N D x.exponent).2 := scale_pos (by decide) hd N x.exponent
    have hratio : ((scale 2 N D x.exponent).1 : ℚ) / (scale 2 N D x.exponent).2
        = x.significand := by
      rw [scale_eq_div (by decide), hvalue, Nat.cast_ofNat]
      exact mul_div_cancel_right₀ _ (zpow_ne_zero x.exponent two_ne_zero)
    rw [div_eq_iff (Nat.cast_ne_zero.2 hpos'.ne')] at hratio
    have hscale : (scale 2 N D x.exponent).1 = x.significand * (scale 2 N D x.exponent).2 := by
      exact_mod_cast hratio
    rw [hscale, roundDiv_mul_self x.significand hpos']
  have hlog := hx.exponent_eq hpos
  rw [← hvalue] at hlog
  have hmax := hx.exponent.2
  rw [ofFraction?_eq hNpos hd x.exponent hlog.symm, hround]
  dsimp only
  rw [if_neg hx.significand.ne, if_neg (by omega)]

/-! ## The decimal that is exactly a double -/

theorem exact_cross (x : Binary64) :
    (fraction x.exact.digits x.exact.exponent).1 * x.toFraction.2
      = x.toFraction.1 * (fraction x.exact.digits x.exact.exponent).2 := by
  obtain ⟨m, e⟩ := x
  cases e with
  | ofNat e =>
    show m * 2 ^ e * 10 ^ 0 * 1 = m * 2 ^ e * 1
    rw [Nat.pow_zero, Nat.mul_one]
  | negSucc e =>
    show m * 5 ^ (e + 1) * 2 ^ (e + 1) = m * 10 ^ (e + 1)
    rw [Nat.mul_assoc, ← Nat.mul_pow]

theorem toDigits_le_length {k : Nat} (hk : 0 < k) (h : n < 10 ^ k) :
    (Nat.toDigits 10 n).length ≤ k :=
  (Nat.length_toDigits_le_iff (by decide) hk).2 h

theorem length_le_toDigits {k : Nat} (h : 10 ^ k ≤ n) : k < (Nat.toDigits 10 n).length := by
  refine Nat.lt_of_not_le fun hle => ?_
  rcases Nat.eq_zero_or_pos k with rfl | hk
  · exact absurd (Nat.length_toDigits_pos (b := 10) (n := n)) (by omega)
  · exact absurd ((Nat.length_toDigits_le_iff (by decide) hk).1 hle) (Nat.not_lt.2 h)

theorem length_toDigits_mul_two_pow {m e : Nat} (hm : m < 2 ^ 53) (he : e ≤ 971) :
    (Nat.toDigits 10 (m * 2 ^ e)).length ≤ 310 := by
  -- the exponents are named so that nothing tries to compute such powers
  obtain ⟨j, hj⟩ : ∃ j, j = 971 := ⟨_, rfl⟩
  obtain ⟨k, hk⟩ : ∃ k, k = 310 := ⟨_, rfl⟩
  have hlt : m * 2 ^ e < 10 ^ k := by
    calc m * 2 ^ e < 2 ^ 53 * 2 ^ e := Nat.mul_lt_mul_of_pos_right hm (Nat.pow_pos (by decide))
      _ ≤ 2 ^ 53 * 2 ^ j := Nat.mul_le_mul_left _ (Nat.pow_le_pow_right (by decide) (by omega))
      _ ≤ 10 ^ k := by
        rw [hj, hk]
        decide +kernel
  have hlength := toDigits_le_length (by omega) hlt
  omega

theorem length_toDigits_mul_five_pow {m e : Nat} (hm : m < 2 ^ 53) :
    (Nat.toDigits 10 (m * 5 ^ (e + 1))).length ≤ e + 17 := by
  have hlt : m * 5 ^ (e + 1) < 10 ^ (e + 17) := by
    calc m * 5 ^ (e + 1) < 2 ^ 53 * 5 ^ (e + 1) :=
          Nat.mul_lt_mul_of_pos_right hm (Nat.pow_pos (by decide))
      _ ≤ 10 ^ 16 * 10 ^ (e + 1) := Nat.mul_le_mul (by decide) (Nat.pow_le_pow_left (by decide) _)
      _ = 10 ^ (e + 17) := by
        rw [← Nat.pow_add]
        congr 1
        omega
  exact toDigits_le_length (by omega) hlt

theorem lt_length_toDigits_mul_five_pow {m e : Nat} (hpos : 0 < m) (he : e ≤ 1073) :
    e - 330 < (Nat.toDigits 10 (m * 5 ^ (e + 1))).length := by
  by_cases hlow : 330 ≤ e
  · obtain ⟨k, rfl⟩ := Nat.exists_eq_add_of_le hlow
    apply length_le_toDigits
    obtain ⟨j, hj⟩ : ∃ j, j = 331 := ⟨_, rfl⟩
    have hpow : 2 ^ k ≤ 5 ^ j := by
      have hk : k ≤ 743 := by omega
      refine (Nat.pow_le_pow_right (by decide) hk).trans ?_
      rw [hj]
      decide +kernel
    calc 10 ^ (330 + k - 330) = 2 ^ k * 5 ^ k := by
          rw [Nat.add_sub_cancel_left, ← Nat.mul_pow]
      _ ≤ 5 ^ j * 5 ^ k := Nat.mul_le_mul_right _ hpow
      _ = 5 ^ (330 + k + 1) := by
        rw [← Nat.pow_add]
        congr 1
        omega
      _ ≤ m * 5 ^ (330 + k + 1) := Nat.le_mul_of_pos_left _ hpos
  · have := Nat.length_toDigits_pos (b := 10) (n := m * 5 ^ (e + 1))
    omega

/-- The exact decimal of a double is in the range in which nearest doubles are looked for. -/
theorem places_exact {x : Binary64} (hx : x.IsCanonical) (hpos : 0 < x.significand) :
    -330 ≤ ((Nat.toDigits 10 x.exact.digits).length : Int) + x.exact.exponent
      ∧ ((Nat.toDigits 10 x.exact.digits).length : Int) + x.exact.exponent ≤ 310 := by
  obtain ⟨m, e⟩ := x
  obtain ⟨hm, ⟨hmin, hmax⟩, -⟩ := hx
  dsimp only [minExponent] at hm hmin hmax hpos
  cases e with
  | ofNat e =>
    have he : (e : Int) ≤ 971 := hmax
    have hlength := length_toDigits_mul_two_pow hm (e := e) (by omega)
    constructor
    · show -330 ≤ ((Nat.toDigits 10 (m * 2 ^ e)).length : Int) + 0
      omega
    · show ((Nat.toDigits 10 (m * 2 ^ e)).length : Int) + 0 ≤ 310
      omega
  | negSucc e =>
    have hupper := length_toDigits_mul_five_pow (e := e) hm
    have hlower := lt_length_toDigits_mul_five_pow (e := e) hpos (by omega)
    constructor
    · show -330 ≤ ((Nat.toDigits 10 (m * 5 ^ (e + 1))).length : Int) + Int.negSucc e
      omega
    · show ((Nat.toDigits 10 (m * 5 ^ (e + 1))).length : Int) + Int.negSucc e ≤ 310
      omega

theorem ofDecimal?_exact {x : Binary64} (hx : x.IsCanonical) : ofDecimal? x.exact = some x := by
  rcases Nat.eq_zero_or_pos x.significand with hzero | hpos
  · have hdigits : x.exact.digits = 0 := by
      obtain ⟨m, e⟩ := x
      obtain rfl : m = 0 := hzero
      cases e <;> exact Nat.zero_mul _
    unfold ofDecimal?
    dsimp only
    rw [if_pos (by simp [hdigits]), hx.eq_zero hzero]
  · obtain ⟨hlow, hhigh⟩ := places_exact hx hpos
    have hdigits : x.exact.digits ≠ 0 := by
      obtain ⟨m, e⟩ := x
      cases e with
      | ofNat e => exact (Nat.mul_pos hpos (Nat.pow_pos (by decide))).ne'
      | negSucc e => exact (Nat.mul_pos hpos (Nat.pow_pos (by decide))).ne'
    unfold ofDecimal?
    dsimp only
    rw [if_neg (by simp [hdigits]; omega), if_neg (by omega),
      ofFraction?_congr (fraction_pos _ _) (toFraction_eq_div x).1 (exact_cross x)]
    exact ofFraction?_toFraction hx

theorem isCanonical_ofDecimal? {x : Binary64} {y : Decimal} (h : ofDecimal? y = some x) :
    x.IsCanonical := by
  unfold ofDecimal? at h
  dsimp only at h
  split at h
  · cases h
    exact ⟨by decide, by decide, .inr rfl⟩
  · split at h
    · cases h
    · exact isCanonical_ofFraction? (fraction_pos _ _) h

theorem ofDecimal?_firstGrid {x : Binary64} {k : Int} {left n : Nat} {y : Decimal}
    (h : firstGrid? x k left n = some y) : ofDecimal? y = some x := by
  induction left generalizing n with
  | zero => cases h
  | succ left ih =>
    rw [firstGrid?] at h
    cases hgrid : onGrid? x (k - n) with
    | some z =>
      rw [hgrid, Option.some_or] at h
      cases h
      exact ofDecimal?_onGrid hgrid
    | none =>
      rw [hgrid, Option.none_or] at h
      exact ih h

/-- The shortest decimal of a double is nearest to it. -/
theorem ofDecimal?_shortest {x : Binary64} (hx : x.IsCanonical) : ofDecimal? x.shortest = some x := by
  unfold shortest
  split
  · rename_i hzero
    rw [hx.eq_zero hzero]
    rfl
  · dsimp only
    cases hgrid : firstGrid? x (magnitude x.toFraction.1 x.toFraction.2) 17 1 with
    | none => exact ofDecimal?_exact hx
    | some y => exact ofDecimal?_firstGrid hgrid

end RuleCatalog.Binary64
