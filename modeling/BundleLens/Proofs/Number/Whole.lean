import BundleLens.Proofs.Number.Text

/-! Doubles that are natural numbers. The natural numbers that round to a double tell whether it is one
itself, and below `2 ^ 53` there is only the number itself. -/
namespace BundleLens.Number.Binary64

variable {m n s : Nat} {e p : Int} {negative : Bool} {v w : Binary64}

theorem toNat?_eq_some_iff (fits : Fits m e) : (finite negative m e fits).toNat? = some n ↔
    exactly m e = n ∧ (negative = true → m = 0) := by
  have signed : (negative && m != 0) = true ↔ ¬ (negative = true → m = 0) := by
    rw [Bool.and_eq_true, bne_iff_ne, Classical.not_imp]
  unfold toNat? exactly
  dsimp only
  simp only [Nat.pow_eq]
  split_ifs with below whole divides
  · exact ⟨nofun, fun h => absurd h.2 (signed.mp below)⟩
  · rw [and_iff_left (not_not.mp (mt signed.mpr below)), Option.some_inj, zpow_eq_div,
      show (-e).toNat = 0 by omega, pow_zero, div_one]
    exact_mod_cast Iff.rfl
  all_goals
    rw [and_iff_left (not_not.mp (mt signed.mpr below)), zpow_eq_div, show e.toNat = 0 by omega,
      pow_zero, mul_one_div, div_eq_iff (by positivity)]
  · rw [Option.some_inj, Nat.div_eq_iff_eq_mul_left (Nat.pow_pos (by decide))
      (Nat.dvd_of_mod_eq_zero divides)]
    exact_mod_cast Iff.rfl
  · refine ⟨nofun, fun h => absurd ?_ divides⟩
    have h : m = n * 2 ^ (-e).toNat := by exact_mod_cast h
    rw [h, Nat.mul_mod_left]

theorem toNat?_zero (negative : Bool) (fits : Fits 0 e) :
    (finite negative 0 e fits).toNat? = some 0 :=
  (toNat?_eq_some_iff fits).mpr ⟨zero_mul _, fun _ => rfl⟩

private theorem Covers.eq_exactly (h : Covers m e n) (small : e ≤ 0) : exactly m e = n := by
  obtain ⟨k, rfl⟩ : ∃ k : Nat, e = -k := ⟨(-e).toNat, by omega⟩
  obtain ⟨low, high, -⟩ := covers_iff.mp h
  have half := lowerGap_le (m := m) (e := -k)
  have scaled : (n : ℚ) / 2 ^ (-(k : Int)) = (n * 2 ^ k : Nat) := by
    rw [zpow_neg, zpow_natCast, div_inv_eq_mul]
    push_cast
    rfl
  rw [scaled] at low high
  have le : n * 2 ^ k < m + 1 := by
    have : ((n * 2 ^ k : Nat) : ℚ) < m + 1 := by linarith
    exact_mod_cast this
  have ge : m < n * 2 ^ k + 1 := by
    have : (m : ℚ) < (n * 2 ^ k : Nat) + 1 := by linarith
    exact_mod_cast this
  obtain rfl : m = n * 2 ^ k := by omega
  unfold exactly
  rw [← scaled]
  exact div_mul_cancel₀ _ (by positivity)

private theorem Covers.exists_whole (h : Covers m e n) : ∃ k : Nat, exactly m e = k := by
  rcases le_or_gt e 0 with small | large
  · exact ⟨n, h.eq_exactly small⟩
  · obtain ⟨k, rfl⟩ : ∃ k : Nat, e = k := ⟨e.toNat, by omega⟩
    exact ⟨m * 2 ^ k, by push_cast; rfl⟩

private theorem Covers.unique {k : Nat} {f : Int} {q : ℚ} (h : Covers m e q) (h' : Covers k f q)
    (fits : Fits m e) (fits' : Fits k f) : m = k ∧ e = f :=
  (Rounded.of_covers fits.isReduced h).unique (Rounded.of_covers fits'.isReduced h')

private theorem Covers.le_of_le {k : Nat} {f : Int} {q : ℚ} (h : Covers m e q) (fits : Fits m e)
    (fits' : Fits k f) (le : q ≤ exactly k f) : exactly m e ≤ exactly k f := by
  by_contra greater
  have shared := h.convex covers_self le (not_le.mp greater).le
  obtain ⟨rfl, rfl⟩ := shared.unique covers_self fits fits'
  exact greater le_rfl

private theorem fits_size : Fits (2 ^ 52) 12 := by decide

private theorem exactly_size : exactly (2 ^ 52) 12 = UInt64.size := by
  unfold exactly UInt64.size
  norm_num

/-- The digits of a natural number end before the point. -/
theorem IsSpelling.place_nonneg {fits : Fits m e} (positive : 0 < m)
    (h : IsSpelling m e fits s p) (whole : exactly m e = n) : 0 ≤ p := by
  have itself : Covers m e (n * 10 ^ (0 : Int)) := by
    rw [zpow_zero, mul_one, ← whole]
    exact covers_self
  rw [← (h.shortest_eq positive).2.1]
  exact (shortest_isShortest positive fits).coarsest n 0 (covers_pos positive itself) itself

/-- The digits of a natural number, with zeros after them, are one that it covers. -/
theorem IsSpelling.covers_digits {fits : Fits m e} (positive : 0 < m)
    (h : IsSpelling m e fits s p) (whole : exactly m e = n) :
    (s : ℚ) * 10 ^ p = (s * 10 ^ p.toNat : Nat) ∧ Covers m e (s * 10 ^ p.toNat : Nat) := by
  have place := h.place_nonneg positive whole
  have value : (s : ℚ) * 10 ^ p = (s * 10 ^ p.toNat : Nat) := by
    rw [zpow_eq_div, show (-p).toNat = 0 by omega, pow_zero, div_one]
    push_cast
    rfl
  exact ⟨value, value ▸ (h.shortest_eq positive).1⟩

/-- Up to `2 ^ 64` natural numbers are spelled without an exponent. -/
theorem IsSpelling.layout_eq_toString {fits : Fits m e} (positive : 0 < m)
    (h : IsSpelling m e fits s p) (whole : exactly m e = n) (small : n ≤ UInt64.size) :
    layout s p = toString (s * 10 ^ p.toNat) := by
  have place := h.place_nonneg positive whole
  have covered := (h.shortest_eq positive).1
  have some := covers_pos positive covered
  have moderate : IsModerate s p := by
    have one : (1 : ℚ) ≤ s := by exact_mod_cast some
    have half : (m + 1 / 2) * 2 ^ e ≤ 2 * exactly m e := by
      have : (1 : ℚ) ≤ m := by exact_mod_cast positive
      have unit : (0 : ℚ) < 2 ^ e := by positivity
      unfold exactly
      nlinarith
    have size : (n : ℚ) ≤ 2 ^ 64 := by exact_mod_cast small
    constructor
    · calc (10 : ℚ) ^ (-6 : Int) ≤ 10 ^ p := zpow_le_zpow_right₀ (by norm_num) (by omega)
        _ ≤ s * 10 ^ p := le_mul_of_one_le_left (by positivity) one
    · calc (s : ℚ) * 10 ^ p ≤ 2 * exactly m e := covered.2.1.trans half
        _ ≤ 2 * 2 ^ 64 := by
          rw [whole]
          gcongr
        _ < 10 ^ (21 : Int) := by norm_num
  obtain ⟨low, high⟩ := (isModerate_iff some).mp moderate
  rw [layout_eq_positional low high]
  unfold positional
  rw [if_pos place, ← toList_toString_mul_pow some, String.ofList_toList]

/-- Below `2 ^ 53` a natural number is spelled with its own digits. -/
theorem IsSpelling.eq_of_small {fits : Fits m e} (positive : 0 < m)
    (h : IsSpelling m e fits s p) (whole : exactly m e = n) (small : n < 2 ^ 53) :
    (s : ℚ) * 10 ^ p = n := by
  obtain ⟨value, covered⟩ := h.covers_digits positive whole
  rw [value, ← whole]
  refine (covered.eq_exactly ?_).symm
  by_contra large
  -- with a positive exponent all 53 bits are in use
  have bits : 2 ^ 52 ≤ m := fits.2.2.2.resolve_right (by omega)
  have bits : (2 : ℚ) ^ 52 ≤ m := by exact_mod_cast bits
  have two : (2 : ℚ) ^ (1 : Int) ≤ 2 ^ e := zpow_le_zpow_right₀ (by norm_num) (by omega)
  have small : (n : ℚ) < 2 ^ 53 := by exact_mod_cast small
  have : (2 : ℚ) ^ 52 * 2 ^ (1 : Int) ≤ m * 2 ^ e := by gcongr
  unfold exactly at whole
  rw [whole] at this
  norm_num at this small
  linarith

/-- The digits of `2 ^ 64` are not those of the number before it. -/
theorem IsSpelling.ne_max {fits : Fits m e} (positive : 0 < m) (h : IsSpelling m e fits s p)
    (whole : exactly m e = UInt64.size) : s * 10 ^ p.toNat ≠ UInt64.size - 1 := by
  obtain ⟨rfl, rfl⟩ : m = 2 ^ 52 ∧ e = 12 := by
    refine Covers.unique covers_self ?_ fits fits_size
    rw [whole, ← exactly_size]
    exact covers_self
  have printed : shortest (2 ^ 52) 12 = (18446744073709552, 3) := by decide +kernel
  have place := (h.shortest_eq positive).2.1
  rw [printed] at place
  subst place
  intro max
  have zeros : (s * 10 ^ (3 : Int).toNat) % 10 = 0 :=
    Nat.mod_eq_zero_of_dvd (Dvd.dvd.mul_left (by decide) s)
  rw [max] at zeros
  exact absurd zeros (by decide)

/-- The largest 64-bit number is no double. -/
theorem exactly_ne_max (fits : Fits m e) : exactly m e ≠ (UInt64.size - 1 : Nat) := by
  intro max
  have covered : Covers (2 ^ 52) 12 (UInt64.size - 1 : Nat) := by
    refine ⟨?_, ?_, nofun⟩
    · unfold lowerGap UInt64.size
      norm_num
    · unfold UInt64.size
      norm_num
  obtain ⟨rfl, rfl⟩ := Covers.unique (max ▸ covers_self) covered fits fits_size
  rw [exactly_size] at max
  exact absurd max (by unfold UInt64.size; norm_num)

/-- Natural numbers are doubles in one way, the sign of zero aside. -/
theorem plain_eq_of_toNat? (hv : v.toNat? = some n) (hw : w.toNat? = some n) :
    v.plain = w.plain := by
  cases v with
  | nan | infinite => cases hv
  | finite negative m e fits =>
    cases w with
    | nan | infinite => cases hw
    | finite negative' k f fits' =>
      obtain ⟨whole, unsigned⟩ := (toNat?_eq_some_iff fits).mp hv
      obtain ⟨whole', unsigned'⟩ := (toNat?_eq_some_iff fits').mp hw
      obtain ⟨rfl, rfl⟩ := Covers.unique covers_self (whole.trans whole'.symm ▸ covers_self) fits fits'
      cases m with
      | zero => rfl
      | succ m =>
        cases negative with
        | true => cases unsigned rfl
        | false =>
          cases negative' with
          | true => cases unsigned' rfl
          | false => rfl

theorem toNat?_ne_max : v.toNat? ≠ some (UInt64.size - 1) := by
  cases v with
  | nan | infinite => nofun
  | finite negative m e fits => exact fun h => exactly_ne_max fits ((toNat?_eq_some_iff fits).mp h).1

/-- A number that is printed as the digits of a 64-bit number is a natural number up to `2 ^ 64`. -/
theorem toNat?_of_text_eq {k : Nat} (h : v.text = toString k)
    (small : k < UInt64.size) : ∃ n, v.toNat? = some n ∧ n ≤ UInt64.size := by
  have digits : ∀ c ∈ v.text.toList, c.isDigit = true := by
    rw [h]
    exact fun c hc => isDigit_of_mem_toString hc
  have read := ofText?_text v
  rw [h, ofText?_toString] at read
  cases v with
  | nan => exact absurd (digits 'N' (by decide)) (by decide)
  | infinite negative =>
    cases negative with
    | true => exact absurd (digits 'i' (by decide)) (by decide)
    | false => exact absurd (digits 'i' (by decide)) (by decide)
  | finite negative m e fits =>
    rcases Nat.eq_zero_or_pos m with rfl | positive
    · exact ⟨0, toNat?_zero negative fits, Nat.zero_le _⟩
    cases negative with
    | true =>
      rw [text_finite positive, String.toList_append] at digits
      exact absurd (digits '-' (List.mem_append_left _ (by decide))) (by decide)
    | false =>
      have covered : Covers m e k := by
        have result := Option.some.inj read
        rcases Nat.eq_zero_or_pos k with rfl | some
        · cases result
          cases positive
        · have covered := (ofScientific_eq_finite_iff some positive fits).mp result
          rwa [zpow_zero, mul_one] at covered
      obtain ⟨n, whole⟩ := covered.exists_whole
      refine ⟨n, (toNat?_eq_some_iff fits).mpr ⟨whole, nofun⟩, ?_⟩
      have le := covered.le_of_le fits fits_size (by
        rw [exactly_size]
        exact_mod_cast small.le)
      rw [whole, exactly_size] at le
      exact_mod_cast le

end BundleLens.Number.Binary64
