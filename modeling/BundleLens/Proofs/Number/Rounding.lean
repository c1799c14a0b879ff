import BundleLens.Number.Binary64
import Mathlib

/-! Which numbers round to a double: those between the midpoints to its two neighbours, the midpoints
themselves if its significand is even. -/
namespace BundleLens.Number.Binary64

/-- A natural number is the nearest to a fraction. Of two that are equally near it is the even one. -/
def IsNearest (n : Nat) (x : ℚ) : Prop :=
  (n : ℚ) - 1 / 2 ≤ x ∧ x ≤ n + 1 / 2 ∧ (n % 2 = 1 → (n : ℚ) - 1 / 2 < x ∧ x < n + 1 / 2)

/-- A quotient is its whole part and a fraction, which the remainder compares with a half. -/
theorem quotient_parts (num : Nat) {den : Nat} (positive : 0 < den) :
    ∃ t : ℚ, (num : ℚ) / den = (num / den : Nat) + t ∧ 0 ≤ t ∧ t < 1 ∧
      (2 * (num % den) < den ↔ t < 1 / 2) ∧ (den < 2 * (num % den) ↔ 1 / 2 < t) := by
  have hden : (0 : ℚ) < den := by exact_mod_cast positive
  refine ⟨((num % den : Nat) : ℚ) / den, ?_, by positivity, ?_, ?_, ?_⟩
  · rw [div_eq_iff hden.ne', add_mul, div_mul_cancel₀ _ hden.ne', mul_comm]
    exact_mod_cast (Nat.div_add_mod num den).symm
  · rw [div_lt_one hden]
    exact_mod_cast Nat.mod_lt num positive
  · rw [div_lt_div_iff₀ hden (by norm_num), mul_comm, one_mul]
    exact_mod_cast Iff.rfl
  · rw [div_lt_div_iff₀ (by norm_num) hden, mul_comm (_ : ℚ) 2, one_mul]
    exact_mod_cast Iff.rfl

private theorem roundQuotient_isNearest (num : Nat) {den : Nat} (positive : 0 < den) :
    IsNearest (roundQuotient num den) ((num : ℚ) / den) := by
  obtain ⟨t, parts, low, high, less_iff, more_iff⟩ := quotient_parts num positive
  rw [parts]
  unfold IsNearest roundQuotient
  generalize num / den = q at *
  dsimp only
  split_ifs with less more
  · have := less_iff.mp less
    exact ⟨by linarith, by linarith, fun _ => ⟨by linarith, by linarith⟩⟩
  · have := more_iff.mp more
    push_cast
    exact ⟨by linarith, by linarith, fun _ => ⟨by linarith, by linarith⟩⟩
  · have middle : t = 1 / 2 := le_antisymm (not_lt.mp (mt more_iff.mpr more))
      (not_lt.mp (mt less_iff.mpr less))
    obtain even | odd := Nat.mod_two_eq_zero_or_one q
    · rw [even, middle]
      push_cast
      exact ⟨by linarith, by linarith, fun h => by omega⟩
    · rw [odd, middle]
      push_cast
      exact ⟨by linarith, by linarith, fun h => by omega⟩

private theorem IsNearest.unique {n k : Nat} {x : ℚ} (hn : IsNearest n x) (hk : IsNearest k x) :
    n = k := by
  obtain ⟨nLow, nHigh, nOdd⟩ := hn
  obtain ⟨kLow, kHigh, kOdd⟩ := hk
  have le : n ≤ k + 1 := by
    have : (n : ℚ) ≤ k + 1 := by linarith
    exact_mod_cast this
  have ge : k ≤ n + 1 := by
    have : (k : ℚ) ≤ n + 1 := by linarith
    exact_mod_cast this
  -- two neighbours can only meet halfway, which belongs to neither if it is odd
  rcases Nat.lt_trichotomy n k with less | same | more
  · obtain rfl : k = n + 1 := by omega
    push_cast at kLow kHigh kOdd
    obtain even | odd := Nat.mod_two_eq_zero_or_one n
    · linarith [(kOdd (by omega)).1]
    · linarith [(nOdd odd).2]
  · exact same
  · obtain rfl : n = k + 1 := by omega
    push_cast at nLow nHigh nOdd
    obtain even | odd := Nat.mod_two_eq_zero_or_one k
    · linarith [(nOdd (by omega)).1]
    · linarith [(kOdd odd).2]

theorem zpow_eq_div (base : ℚ) (z : Int) : base ^ z = base ^ z.toNat / base ^ (-z).toNat := by
  obtain ⟨n, rfl | rfl⟩ := z.eq_nat_or_neg
  · simp
  · simp [zpow_neg]

private theorem scale_spec (num : Nat) {den : Nat} (positive : 0 < den) (e : Int) :
    0 < (scale num den e).2 ∧
      ((scale num den e).1 : ℚ) / (scale num den e).2 = num / den / 2 ^ e := by
  unfold scale
  rw [zpow_eq_div]
  split_ifs with h
  · refine ⟨Nat.mul_pos positive (Nat.pow_pos (by decide)), ?_⟩
    rw [show (-e).toNat = 0 by omega, pow_zero, div_one, div_div, Nat.pow_eq]
    push_cast
    rfl
  · refine ⟨positive, ?_⟩
    rw [show e.toNat = 0 by omega, pow_zero, one_div, div_inv_eq_mul, div_mul_eq_mul_div,
      Nat.pow_eq]
    push_cast
    rfl

def IsExponent (e : Int) (q : ℚ) : Prop :=
  -1074 ≤ e ∧ q / 2 ^ e < 2 ^ 53 ∧ (e = -1074 ∨ 2 ^ 52 ≤ q / 2 ^ e)

private theorem IsExponent.unique {e f : Int} {q : ℚ} (he : IsExponent e q) (hf : IsExponent f q) :
    e = f := by
  have less {e f : Int} (he : IsExponent e q) (hf : IsExponent f q) : ¬ e < f := by
    intro h
    obtain ⟨least, small, -⟩ := he
    obtain ⟨-, -, rfl | large⟩ := hf
    · omega
    rw [div_lt_iff₀ (by positivity)] at small
    rw [le_div_iff₀ (by positivity)] at large
    have step : (2 : ℚ) ^ (e + 1) ≤ 2 ^ f := zpow_le_zpow_right₀ (by norm_num) (by omega)
    rw [zpow_add_one₀ (by norm_num)] at step
    linarith
  exact le_antisymm (not_lt.mp (less hf he)) (not_lt.mp (less he hf))

private theorem log2_bounds {n : Nat} (positive : 0 < n) :
    (2 : ℚ) ^ (n.log2 : Int) ≤ n ∧ (n : ℚ) < 2 ^ (n.log2 + 1 : Int) := by
  constructor
  · rw [zpow_natCast]
    exact_mod_cast Nat.log2_self_le positive.ne'
  · rw [← Nat.cast_add_one, zpow_natCast]
    exact_mod_cast Nat.lt_log2_self

private theorem exponentOf_isExponent {num den : Nat} (hn : 0 < num) (hd : 0 < den) :
    IsExponent (exponentOf num den) ((num : ℚ) / den) := by
  have hden : (0 : ℚ) < den := by exact_mod_cast hd
  obtain ⟨numLow, numHigh⟩ := log2_bounds hn
  obtain ⟨denLow, denHigh⟩ := log2_bounds hd
  obtain ⟨first, hf⟩ : ∃ first, first = (num.log2 : Int) - den.log2 - 53 := ⟨_, rfl⟩
  have above : (2 : ℚ) ^ (first + 52) ≤ num / den := by
    rw [le_div_iff₀ hden]
    calc (2 : ℚ) ^ (first + 52) * den ≤ 2 ^ (first + 52) * 2 ^ (den.log2 + 1 : Int) := by gcongr
      _ = 2 ^ (num.log2 : Int) := by
        rw [← zpow_add₀ (by norm_num)]
        congr 1
        omega
      _ ≤ num := numLow
  have below : (num : ℚ) / den < 2 ^ (first + 54) := by
    rw [div_lt_iff₀ hden]
    calc (num : ℚ) < 2 ^ (num.log2 + 1 : Int) := numHigh
      _ = 2 ^ (first + 54) * 2 ^ (den.log2 : Int) := by
        rw [← zpow_add₀ (by norm_num)]
        congr 1
        omega
      _ ≤ 2 ^ (first + 54) * den := by gcongr
  obtain ⟨positive, scaled⟩ := scale_spec num hd (max (-1074) first)
  unfold exponentOf
  rw [← hf]
  dsimp only
  generalize hg : max (-1074) first = guess at *
  have bits (k : Nat) : (2 : ℚ) ^ (guess + k) = 2 ^ guess * 2 ^ k := by
    rw [zpow_add₀ (by norm_num), zpow_natCast]
  have fits : (scale num den guess).1 / (scale num den guess).2 < Nat.pow 2 53 ↔
      (num : ℚ) / den / 2 ^ guess < 2 ^ 53 := by
    rw [← scaled, Nat.div_lt_iff_lt_mul positive, div_lt_iff₀ (by exact_mod_cast positive)]
    exact_mod_cast Iff.rfl
  split_ifs with h
  · refine ⟨by omega, fits.mp h, ?_⟩
    by_cases least : guess = -1074
    · exact .inl least
    · obtain rfl : guess = first := by omega
      right
      rw [le_div_iff₀ (by positivity), mul_comm, ← bits]
      exact above
  · have large := not_lt.mp (mt fits.mpr h)
    have small : (2 : ℚ) ^ (first + 54) ≤ 2 ^ (guess + 54) :=
      zpow_le_zpow_right₀ (by norm_num) (by omega)
    have double : (2 : ℚ) ^ (guess + 1) = 2 ^ guess * 2 := zpow_add_one₀ two_ne_zero guess
    rw [le_div_iff₀ (by positivity)] at large
    refine ⟨by omega, ?_, .inr ?_⟩
    · rw [div_lt_iff₀ (by positivity), double]
      have := bits 54
      push_cast at this
      linarith
    · rw [le_div_iff₀ (by positivity), double]
      linarith

/-- How far below a double the midpoint to its lower neighbour is, in units of its last bit. Under a
power of two the neighbours are only half as far apart. -/
def lowerGap (m : Nat) (e : Int) : ℚ := if m = 2 ^ 52 ∧ -1074 < e then 1 / 4 else 1 / 2

/-- The numbers that round to the double `m * 2 ^ e`. -/
def Covers (m : Nat) (e : Int) (q : ℚ) : Prop :=
  (m - lowerGap m e) * 2 ^ e ≤ q ∧ q ≤ (m + 1 / 2) * 2 ^ e ∧
    (m % 2 = 1 → (m - lowerGap m e) * 2 ^ e < q ∧ q < (m + 1 / 2) * 2 ^ e)

/-- A number as a significand and an exponent: the nearest significand at its exponent. One that
needs another bit is halved. -/
def Rounded (q : ℚ) (m : Nat) (e : Int) : Prop :=
  ∃ f n, IsExponent f q ∧ IsNearest n (q / 2 ^ f) ∧
    if n = 2 ^ 53 then m = 2 ^ 52 ∧ e = f + 1 else m = n ∧ e = f

variable {m : Nat} {e : Int} {q : ℚ}

theorem covers_iff : Covers m e q ↔ m - lowerGap m e ≤ q / 2 ^ e ∧ q / 2 ^ e ≤ m + 1 / 2 ∧
    (m % 2 = 1 → m - lowerGap m e < q / 2 ^ e ∧ q / 2 ^ e < m + 1 / 2) := by
  have unit : (0 : ℚ) < 2 ^ e := by positivity
  unfold Covers
  rw [le_div_iff₀ unit, div_le_iff₀ unit, lt_div_iff₀ unit, div_lt_iff₀ unit]

theorem lowerGap_le : lowerGap m e ≤ 1 / 2 := by
  unfold lowerGap
  split_ifs <;> norm_num

theorem lowerGap_pos : 0 < lowerGap m e := by
  unfold lowerGap
  split_ifs <;> norm_num

theorem Rounded.unique {k : Nat} {f : Int} (h : Rounded q m e) (h' : Rounded q k f) :
    m = k ∧ e = f := by
  obtain ⟨x, n, exponent, nearest, result⟩ := h
  obtain ⟨y, l, exponent', nearest', result'⟩ := h'
  obtain rfl := exponent.unique exponent'
  obtain rfl := nearest.unique nearest'
  split_ifs at result result'
  all_goals
    obtain ⟨rfl, rfl⟩ := result
    obtain ⟨rfl, rfl⟩ := result'
    exact ⟨rfl, rfl⟩

private theorem Rounded.covers (h : Rounded q m e) : Covers m e q := by
  obtain ⟨f, n, ⟨least, small, large⟩, ⟨low, high, odd⟩, result⟩ := h
  rw [covers_iff]
  split_ifs at result with full
  · obtain ⟨rfl, rfl⟩ := result
    subst full
    have gap : lowerGap (2 ^ 52) (f + 1) = 1 / 4 := if_pos ⟨rfl, by omega⟩
    rw [gap, zpow_add_one₀ two_ne_zero, ← div_div]
    refine ⟨?_, ?_, fun h => absurd h (by decide)⟩
    · push_cast at low ⊢
      linarith
    · push_cast
      linarith
  · obtain ⟨rfl, rfl⟩ := result
    unfold lowerGap
    split_ifs with power
    · obtain ⟨rfl, more⟩ := power
      obtain rfl | large := large
      · omega
      · refine ⟨?_, high, fun h => absurd h (by decide)⟩
        push_cast
        linarith
    · exact ⟨low, high, odd⟩

structure IsReduced (m : Nat) (e : Int) : Prop where
  bits : m < 2 ^ 53
  least : -1074 ≤ e
  normal : 2 ^ 52 ≤ m ∨ e = -1074

/-- A double is what the numbers round to that it covers. -/
theorem Rounded.of_covers (reduced : IsReduced m e) (h : Covers m e q) : Rounded q m e := by
  obtain ⟨bits, least, normal⟩ := reduced
  have bits' : (m : ℚ) + 1 ≤ 2 ^ 53 := by exact_mod_cast bits
  obtain ⟨low, high, odd⟩ := covers_iff.mp h
  have gap := lowerGap_le (m := m) (e := e)
  by_cases under : (m = 2 ^ 52 ∧ -1074 < e) ∧ q / 2 ^ e < m
  · -- just below a power of two the exponent is less by one, and rounding makes up for it
    obtain ⟨⟨rfl, more⟩, less⟩ := under
    have unit : lowerGap (2 ^ 52) e = 1 / 4 := if_pos ⟨rfl, more⟩
    have double : q / 2 ^ (e - 1) = 2 * (q / 2 ^ e) := by
      rw [zpow_sub_one₀ two_ne_zero, div_mul_eq_div_div, div_inv_eq_mul, mul_comm]
    rw [unit] at low
    push_cast at low less
    refine ⟨e - 1, 2 ^ 53, ⟨by omega, ?_, .inr ?_⟩, ⟨?_, ?_, fun h => absurd h (by decide)⟩, ?_⟩
    · rw [double]
      linarith
    · rw [double]
      linarith
    · rw [double]
      push_cast
      linarith
    · rw [double]
      push_cast
      linarith
    · rw [if_pos rfl]
      exact ⟨rfl, by omega⟩
  · refine ⟨e, m, ⟨least, by linarith, ?_⟩, ⟨by linarith, high, fun h => ?_⟩, ?_⟩
    · obtain normal | least := normal
      · by_cases h : e = -1074
        · exact .inl h
        right
        obtain rfl | more := normal.eq_or_lt
        · exact_mod_cast not_lt.mp fun less => under ⟨⟨rfl, by omega⟩, less⟩
        · have : (2 : ℚ) ^ 52 + 1 ≤ m := by exact_mod_cast more
          linarith
      · exact .inl least
    · obtain ⟨low, high⟩ := odd h
      exact ⟨by linarith, high⟩
    · rw [if_neg bits.ne]
      exact ⟨rfl, rfl⟩

private theorem rounded_iff (reduced : IsReduced m e) : Rounded q m e ↔ Covers m e q :=
  ⟨Rounded.covers, Rounded.of_covers reduced⟩

theorem Fits.isReduced (fits : Fits m e) : IsReduced m e := ⟨fits.1, fits.2.1, fits.2.2.2⟩

/-- A positive fraction is rounded, and becomes infinite if its exponent is out of range. -/
theorem ofFraction_eq (negative : Bool) {num den : Nat} (hn : 0 < num) (hd : 0 < den) :
    ∃ m e, Rounded ((num : ℚ) / den) m e ∧ ofFraction negative num den =
      if fits : Fits m e then .finite negative m e fits else .infinite negative := by
  have exponent := exponentOf_isExponent hn hd
  obtain ⟨positive, scaled⟩ := scale_spec num hd (exponentOf num den)
  have nearest := roundQuotient_isNearest (scale num den (exponentOf num den)).1 positive
  rw [scaled] at nearest
  unfold ofFraction
  rw [if_neg hn.ne']
  dsimp only
  generalize roundQuotient (scale num den (exponentOf num den)).1
    (scale num den (exponentOf num den)).2 = n at *
  by_cases full : n = 2 ^ 53
  · refine ⟨2 ^ 52, exponentOf num den + 1, ⟨_, n, exponent, nearest, ?_⟩, ?_⟩
    · rw [if_pos full]
      exact ⟨rfl, rfl⟩
    · simp only [Nat.pow_eq, if_pos full]
  · refine ⟨n, exponentOf num den, ⟨_, n, exponent, nearest, ?_⟩, ?_⟩
    · rw [if_neg full]
      exact ⟨rfl, rfl⟩
    · simp only [Nat.pow_eq, if_neg full]

private theorem ofFraction_eq_finite_iff {negative : Bool} {num den : Nat} (hn : 0 < num)
    (hd : 0 < den) (fits : Fits m e) : ofFraction negative num den = .finite negative m e fits ↔
      Covers m e ((num : ℚ) / den) := by
  obtain ⟨k, f, rounded, result⟩ := ofFraction_eq negative hn hd
  rw [result, ← rounded_iff fits.isReduced]
  constructor
  · intro h
    split_ifs at h
    cases h
    exact rounded
  · intro h
    obtain ⟨rfl, rfl⟩ := rounded.unique h
    exact dif_pos fits

private theorem Covers.bounds (positive : 0 < m) (fits : Fits m e) (h : Covers m e q) :
    2 ^ (-1075 : Int) ≤ q ∧ q ≤ 2 ^ (1024 : Int) := by
  obtain ⟨low, high, -⟩ := h
  obtain ⟨bits, least, most, -⟩ := fits
  have gap := lowerGap_le (m := m) (e := e)
  have one : (1 : ℚ) ≤ m := by exact_mod_cast positive
  have bits : (m : ℚ) + 1 ≤ 2 ^ (53 : Int) := by exact_mod_cast bits
  have unit : (0 : ℚ) < 2 ^ e := by positivity
  constructor
  · calc (2 : ℚ) ^ (-1075 : Int) ≤ 2 ^ (e - 1) := zpow_le_zpow_right₀ (by norm_num) (by omega)
      _ = 1 / 2 * 2 ^ e := by rw [zpow_sub_one₀ two_ne_zero, mul_comm, one_div]
      _ ≤ (m - lowerGap m e) * 2 ^ e := by
        apply mul_le_mul_of_nonneg_right _ unit.le
        linarith
      _ ≤ q := low
  · calc q ≤ (m + 1 / 2) * 2 ^ e := high
      _ ≤ 2 ^ (53 : Int) * 2 ^ e := by
        apply mul_le_mul_of_nonneg_right _ unit.le
        linarith
      _ = 2 ^ (53 + e) := (zpow_add₀ two_ne_zero _ _).symm
      _ ≤ 2 ^ (1024 : Int) := zpow_le_zpow_right₀ (by norm_num) (by omega)

/-- A numeral is too small to round to anything but zero. -/
private theorem scientific_small {digits : Nat} {x : Int} (positive : 0 < digits)
    (small : (digits.log2 : Int) + 1101 < -3 * x) :
    (digits : ℚ) * 10 ^ x < 2 ^ (-1075 : Int) := by
  obtain ⟨n, rfl⟩ : ∃ n : Nat, x = -n := ⟨(-x).toNat, by omega⟩
  have eight : (10 : ℚ) ^ (-(n : Int)) ≤ 2 ^ (-3 * (n : Int)) := by
    rw [zpow_neg, zpow_natCast, neg_mul, zpow_neg, zpow_mul, zpow_natCast]
    gcongr
    norm_num
  calc (digits : ℚ) * 10 ^ (-(n : Int))
      < 2 ^ (digits.log2 + 1 : Int) * 10 ^ (-(n : Int)) := by
        apply mul_lt_mul_of_pos_right (log2_bounds positive).2
        positivity
    _ ≤ 2 ^ (digits.log2 + 1 : Int) * 2 ^ (-3 * (n : Int)) := by gcongr
    _ = 2 ^ (digits.log2 + 1 + -3 * (n : Int)) := (zpow_add₀ two_ne_zero _ _).symm
    _ ≤ 2 ^ (-1075 : Int) := zpow_le_zpow_right₀ (by norm_num) (by omega)

/-- A numeral is too large to round to anything finite. -/
private theorem scientific_large {digits : Nat} {x : Int} (positive : 0 < digits)
    (large : 310 < x) :
    2 ^ (1024 : Int) < (digits : ℚ) * 10 ^ x := by
  have one : (1 : ℚ) ≤ digits := by exact_mod_cast positive
  have most : 2 ^ 1024 < 10 ^ 310 := by decide +kernel
  calc (2 : ℚ) ^ (1024 : Int) < 10 ^ (310 : Int) := by exact_mod_cast most
    _ ≤ 10 ^ x := zpow_le_zpow_right₀ (by norm_num) large.le
    _ ≤ digits * 10 ^ x := le_mul_of_one_le_left (by positivity) one

/-- A numeral reads as the double that covers its value. -/
theorem ofScientific_eq_finite_iff {negative : Bool} {digits : Nat} {x : Int}
    (positive : 0 < digits) (hm : 0 < m) (fits : Fits m e) :
    ofScientific negative digits x = .finite negative m e fits ↔
      Covers m e ((digits : ℚ) * 10 ^ x) := by
  have tens (k : Nat) : 0 < Nat.pow 10 k := Nat.pow_pos (by decide)
  unfold ofScientific
  split_ifs with small large whole
  · have small := small.resolve_left positive.ne'
    constructor
    · intro h
      cases h
      exact absurd hm (by decide)
    · intro h
      exact absurd (h.bounds hm fits).1 (not_le.mpr (scientific_small positive small))
  · constructor
    · nofun
    · intro h
      exact absurd (h.bounds hm fits).2 (not_le.mpr (scientific_large positive large))
  · have value : ((digits * Nat.pow 10 x.toNat : Nat) : ℚ) / (1 : Nat) = digits * 10 ^ x := by
      rw [zpow_eq_div, show (-x).toNat = 0 by omega, Nat.pow_eq]
      push_cast
      ring
    rw [ofFraction_eq_finite_iff (Nat.mul_pos positive (tens _)) one_pos fits, value]
  · have value : (digits : ℚ) / (Nat.pow 10 (-x).toNat : Nat) = digits * 10 ^ x := by
      rw [zpow_eq_div, show x.toNat = 0 by omega, Nat.pow_eq]
      push_cast
      ring
    rw [ofFraction_eq_finite_iff positive (tens _) fits, value]

theorem Covers.convex {low high : ℚ} (hl : Covers m e low) (hh : Covers m e high) (le : low ≤ q)
    (ge : q ≤ high) : Covers m e q :=
  ⟨hl.1.trans le, ge.trans hh.2.1, fun odd => ⟨(hl.2.2 odd).1.trans_le le,
    ge.trans_lt (hh.2.2 odd).2⟩⟩

abbrev exactly (m : Nat) (e : Int) : ℚ := m * 2 ^ e

theorem covers_self : Covers m e (exactly m e) := by
  have unit : (0 : ℚ) < 2 ^ e := by positivity
  have gap := lowerGap_pos (m := m) (e := e)
  have low : (m - lowerGap m e) * 2 ^ e < exactly m e := mul_lt_mul_of_pos_right (by linarith) unit
  have high : exactly m e < (m + 1 / 2) * 2 ^ e := mul_lt_mul_of_pos_right (by linarith) unit
  exact ⟨low.le, high.le, fun _ => ⟨low, high⟩⟩

end BundleLens.Number.Binary64
