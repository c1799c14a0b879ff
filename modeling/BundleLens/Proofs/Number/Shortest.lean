import BundleLens.Number.Shortest
import BundleLens.Proofs.Number.Rounding

/-! The decimal that a double is printed as. It stands on the coarsest decimal grid that meets what
the double covers, and is the point of the grid that is nearest to the double. -/
namespace BundleLens.Number.Binary64

variable {m d s : Nat} {e p : Int}

def gap (m : Nat) (e : Int) (s : Nat) (p : Int) : ℚ := |exactly m e - s * 10 ^ p|

/-- The covered multiple of a power of ten that is nearest to a double. Of two that are equally near
it is the larger. -/
structure IsHit (m : Nat) (e : Int) (d : Nat) (p : Int) : Prop where
  positive : 0 < d
  covered : Covers m e (d * 10 ^ p)
  nearest : ∀ s : Nat, 0 < s → Covers m e (s * 10 ^ p) → gap m e d p < gap m e s p ∨
    gap m e d p = gap m e s p ∧ s ≤ d

/-- A hit on the coarsest grid that has one. -/
structure IsShortest (m : Nat) (e : Int) (d : Nat) (p : Int) : Prop extends IsHit m e d p where
  coarsest : ∀ (s : Nat) (q : Int), 0 < s → Covers m e (s * 10 ^ q) → q ≤ p

private theorem Interval.of_spec (positive : 0 < m) :
    0 < (Interval.of m e).den ∧
      ((Interval.of m e).low : ℚ) / (Interval.of m e).den = (m - lowerGap m e) * 2 ^ e ∧
      ((Interval.of m e).value : ℚ) / (Interval.of m e).den = exactly m e ∧
      ((Interval.of m e).high : ℚ) / (Interval.of m e).den = (m + 1 / 2) * 2 ^ e := by
  have unit : (2 : ℚ) ^ e = 4 * (2 ^ (e - 2).toNat / 2 ^ (-(e - 2)).toNat) := by
    rw [← zpow_eq_div, show (4 : ℚ) = 2 ^ (2 : Int) by norm_num, ← zpow_add₀ two_ne_zero]
    congr 1
    omega
  have below : (if m = Nat.pow 2 52 ∧ -1074 < e then 1 else 2) ≤ 4 * m := by split_ifs <;> omega
  unfold Interval.of lowerGap exactly
  rw [unit]
  simp only [Nat.pow_eq] at below ⊢
  refine ⟨Nat.pow_pos (by decide), ?_, ?_, ?_⟩
  · rw [Nat.cast_mul, Nat.cast_sub below]
    push_cast
    split_ifs <;> ring
  · push_cast
    ring
  · push_cast
    ring

private theorem Interval.closed_of : (Interval.of m e).closed = decide (m % 2 = 0) := rfl

private theorem scale_zpow (s : Nat) (p : Int) : (s : ℚ) * 10 ^ p =
    ((s * Nat.pow 10 p.toNat : Nat) : ℚ) / (Nat.pow 10 (-p).toNat : Nat) := by
  rw [zpow_eq_div, Nat.pow_eq, Nat.pow_eq]
  push_cast
  ring

private theorem Interval.holds_iff (positive : 0 < m) :
    (Interval.of m e).holds s p = true ↔ Covers m e (s * 10 ^ p) := by
  obtain ⟨den, low, -, high⟩ := Interval.of_spec (e := e) positive
  have hden : (0 : ℚ) < (Interval.of m e).den := by exact_mod_cast den
  have hscale : (0 : ℚ) < (Nat.pow 10 (-p).toNat : Nat) := by
    exact_mod_cast (Nat.pow_pos (by decide) : 0 < 10 ^ (-p).toNat)
  unfold Covers
  rw [← low, ← high, scale_zpow, div_le_div_iff₀ hden hscale, div_le_div_iff₀ hscale hden,
    div_lt_div_iff₀ hden hscale, div_lt_div_iff₀ hscale hden]
  unfold Interval.holds
  rw [closed_of]
  norm_cast
  by_cases even : m % 2 = 0
  · simp only [even, decide_true, if_true, Bool.and_eq_true, decide_eq_true_eq]
    omega
  · simp only [even, decide_false, Bool.false_eq_true, if_false, Bool.and_eq_true,
      decide_eq_true_eq]
    constructor
    · rintro ⟨l, h⟩
      exact ⟨l.le, h.le, fun _ => ⟨l, h⟩⟩
    · rintro ⟨-, -, odd⟩
      exact odd (by omega)

/-- The points of a grid around a double. -/
private theorem Interval.grid (positive : 0 < m) (p : Int) :
    0 < (Interval.of m e).den * Nat.pow 10 p.toNat ∧
      (((Interval.of m e).value * Nat.pow 10 (-p).toNat : Nat) : ℚ) /
        ((Interval.of m e).den * Nat.pow 10 p.toNat : Nat) = exactly m e / 10 ^ p := by
  obtain ⟨den, -, value, -⟩ := Interval.of_spec (e := e) positive
  refine ⟨Nat.mul_pos den (Nat.pow_pos (by decide)), ?_⟩
  rw [← value, zpow_eq_div, Nat.pow_eq, Nat.pow_eq, div_div_div_eq]
  push_cast
  rfl

section Neighbours

variable {under : Nat} {t : ℚ} (exact : exactly m e = (under + t) * 10 ^ p)

include exact

private theorem gap_of_le (low : 0 ≤ t) (h : s ≤ under) :
    gap m e s p = (under - s + t) * 10 ^ p := by
  have h : (s : ℚ) ≤ under := by exact_mod_cast h
  have unit : (0 : ℚ) < 10 ^ p := by positivity
  unfold gap
  rw [exact, ← sub_mul, abs_of_nonneg (mul_nonneg (by linarith) unit.le)]
  ring

private theorem covers_under (low : 0 ≤ t) (h : Covers m e (s * 10 ^ p)) (le : s ≤ under) :
    Covers m e (under * 10 ^ p) := by
  have le : (s : ℚ) ≤ under := by exact_mod_cast le
  refine h.convex covers_self ?_ ?_
  · gcongr
  · rw [exact]
    gcongr
    linarith

private theorem gap_of_lt (high : t < 1) (h : under < s) :
    gap m e s p = (s - under - t) * 10 ^ p := by
  have h : (under : ℚ) + 1 ≤ s := by exact_mod_cast h
  have unit : (0 : ℚ) < 10 ^ p := by positivity
  unfold gap
  rw [exact, ← sub_mul, abs_of_nonpos (mul_nonpos_of_nonpos_of_nonneg (by linarith) unit.le)]
  ring

private theorem covers_over (high : t < 1) (h : Covers m e (s * 10 ^ p)) (lt : under < s) :
    Covers m e ((under + 1 : Nat) * 10 ^ p) := by
  have le : ((under + 1 : Nat) : ℚ) ≤ s := by exact_mod_cast lt
  refine covers_self.convex h ?_ ?_
  · rw [exact]
    gcongr
    push_cast
    linarith
  · gcongr

variable (low : 0 ≤ t) (high : t < 1)

include low high

private theorem isHit_under (positive : 0 < under) (covered : Covers m e (under * 10 ^ p))
    (nearer : Covers m e ((under + 1 : Nat) * 10 ^ p) → t < 1 / 2) : IsHit m e under p := by
  have unit : (0 : ℚ) < 10 ^ p := by positivity
  refine ⟨positive, covered, fun s _ h => ?_⟩
  rcases le_or_gt s under with le | lt
  · rcases le.eq_or_lt with rfl | less
    · exact .inr ⟨rfl, le_rfl⟩
    · left
      have less : (s : ℚ) < under := by exact_mod_cast less
      rw [gap_of_le exact low le_rfl, gap_of_le exact low le]
      gcongr
  · left
    have half := nearer (covers_over exact high h lt)
    rw [gap_of_le exact low le_rfl, gap_of_lt exact high lt]
    gcongr
    have lt : (under : ℚ) + 1 ≤ s := by exact_mod_cast lt
    linarith

private theorem isHit_over (covered : Covers m e ((under + 1 : Nat) * 10 ^ p))
    (nearer : 0 < under → Covers m e (under * 10 ^ p) → 1 / 2 ≤ t) :
    IsHit m e (under + 1) p := by
  have unit : (0 : ℚ) < 10 ^ p := by positivity
  refine ⟨under.succ_pos, covered, fun s positive h => ?_⟩
  rw [gap_of_lt exact high under.lt_succ_self]
  push_cast
  rcases le_or_gt s under with le | lt
  · have half := nearer (positive.trans_le le) (covers_under exact low h le)
    rw [gap_of_le exact low le, mul_lt_mul_iff_left₀ unit, mul_left_inj' unit.ne']
    have le' : (s : ℚ) ≤ under := by exact_mod_cast le
    rcases lt_or_ge ((under : ℚ) + 1 - under - t) (under - s + t) with less | more
    · exact .inl less
    · exact .inr ⟨by linarith, by omega⟩
  · rw [gap_of_lt exact high lt, mul_lt_mul_iff_left₀ unit, mul_left_inj' unit.ne']
    have lt' : (under : ℚ) + 1 ≤ s := by exact_mod_cast lt
    rcases lt'.eq_or_lt with same | more
    · exact .inr ⟨by rw [same], by exact_mod_cast same.ge⟩
    · exact .inl (by linarith)

end Neighbours

/-- Only the points next to a double can be hits, and they are the nearest ones. -/
theorem hit?_spec (positive : 0 < m) (p : Int) :
    match (Interval.of m e).hit? p with
    | some d => IsHit m e d p
    | none => ∀ s : Nat, 0 < s → ¬ Covers m e (s * 10 ^ p) := by
  obtain ⟨hden, value⟩ := Interval.grid (e := e) positive p
  obtain ⟨t, parts, low, high, half_iff, -⟩ :=
    quotient_parts ((Interval.of m e).value * Nat.pow 10 (-p).toNat) hden
  unfold Interval.hit?
  dsimp only
  rw [value] at parts
  generalize (Interval.of m e).value * Nat.pow 10 (-p).toNat = num at *
  generalize (Interval.of m e).den * Nat.pow 10 p.toNat = den at *
  generalize num / den = under at *
  have exact : exactly m e = (under + t) * 10 ^ p := (div_eq_iff (by positivity)).mp parts
  have under_iff : (under != 0 && (Interval.of m e).holds under p) = true ↔
      0 < under ∧ Covers m e (under * 10 ^ p) := by
    rw [Bool.and_eq_true, bne_iff_ne, Interval.holds_iff positive, Nat.pos_iff_ne_zero]
  have over_iff := Interval.holds_iff (s := under + 1) (e := e) (p := p) positive
  cases hu : under != 0 && (Interval.of m e).holds under p with
  | true =>
    obtain ⟨some, covered⟩ := under_iff.mp hu
    cases ho : (Interval.of m e).holds (under + 1) p with
    | true =>
      dsimp only
      split_ifs with half
      · exact isHit_under exact low high some covered fun _ => half_iff.mp half
      · exact isHit_over exact low high (over_iff.mp ho) fun _ _ =>
          not_lt.mp (mt half_iff.mpr half)
    | false =>
      exact isHit_under exact low high some covered fun h =>
        absurd (over_iff.mpr h) (by rw [ho]; decide)
  | false =>
    have none : ¬ (0 < under ∧ Covers m e (under * 10 ^ p)) := fun h =>
      absurd (under_iff.mpr h) (by rw [hu]; decide)
    cases ho : (Interval.of m e).holds (under + 1) p with
    | true =>
      exact isHit_over exact low high (over_iff.mp ho) fun some covered =>
        absurd ⟨some, covered⟩ none
    | false =>
      intro s some h
      rcases le_or_gt s under with le | lt
      · exact none ⟨some.trans_le le, covers_under exact low h le⟩
      · exact absurd (over_iff.mpr (covers_over exact high h lt)) (by rw [ho]; decide)

private theorem search_eq {steps skipped : Nat} {i : Interval} {p : Int}
    (h : i.hit? (p - skipped) = some d)
    (none : ∀ k < skipped, i.hit? (p - k) = none) (enough : skipped < steps) :
    i.search steps p = (d, p - skipped) := by
  induction steps generalizing skipped p with
  | zero => omega
  | succ steps ih =>
    unfold Interval.search
    cases skipped with
    | zero =>
      rw [Nat.cast_zero, sub_zero] at h ⊢
      rw [h]
    | succ skipped =>
      have first := none 0 (by omega)
      rw [Nat.cast_zero, sub_zero] at first
      rw [first]
      have shift (k : Nat) : p - 1 - k = p - (k + 1 : Nat) := by omega
      rw [← shift] at h ⊢
      exact ih h (fun k hk => by rw [shift]; exact none (k + 1) (by omega)) (by omega)

private theorem powers_up : ∀ b < 1130, 2 ^ b ≤ 10 ^ (b * 30103 / 100000 + 2) ∧
    10 ^ (b * 30103 / 100000) * 2 ^ 54 < 2 ^ b * 10 ^ 22 := by decide +kernel

private theorem powers_down : ∀ b < 1130, 10 ^ ((b * 30103 + 99999) / 100000) ≤ 10 ^ 2 * 2 ^ b ∧
    2 ^ (b + 54) < 10 ^ ((b * 30103 + 99999) / 100000 + 22) := by decide +kernel

/-- The place where the search starts is above all hits, and less than 24 places above a grid that
is fine enough to have one. -/
private theorem start_bounds (bits : Int) (low : -1130 < bits) (high : bits < 1130) :
    (2 : ℚ) ^ bits ≤ 10 ^ (bits * 30103 / 100000 + 2) ∧
      (10 : ℚ) ^ (bits * 30103 / 100000 - 22) < 2 ^ (bits - 54) := by
  obtain ⟨b, rfl | rfl⟩ := bits.eq_nat_or_neg
  · obtain ⟨above, below⟩ := powers_up b (by omega)
    rw [show (b : Int) * 30103 / 100000 = (b * 30103 / 100000 : Nat) by omega]
    generalize b * 30103 / 100000 = f at *
    constructor
    · exact_mod_cast above
    · rw [zpow_sub₀ (by norm_num), zpow_sub₀ (by norm_num), div_lt_div_iff₀ (by positivity)
        (by positivity)]
      exact_mod_cast below
  · obtain ⟨above, below⟩ := powers_down b (by omega)
    rw [show -(b : Int) * 30103 / 100000 = -((b * 30103 + 99999) / 100000 : Nat) by omega]
    generalize (b * 30103 + 99999) / 100000 = c at *
    constructor
    · rw [zpow_add₀ (by norm_num), zpow_neg, zpow_neg, inv_mul_eq_div, le_div_iff₀ (by positivity),
        inv_mul_le_iff₀ (by positivity), mul_comm]
      exact_mod_cast above
    · rw [← neg_add', ← neg_add', zpow_neg, zpow_neg, inv_lt_inv₀ (by positivity) (by positivity)]
      exact_mod_cast below

private theorem Covers.lt_of_bits {q : ℚ} (h : Covers m e q) :
    q < 2 ^ ((m.log2 : Int) + 1 + e) := by
  have bits : (m : ℚ) + 1 ≤ 2 ^ (m.log2 + 1 : Int) := by exact_mod_cast Nat.lt_log2_self
  calc q ≤ (m + 1 / 2) * 2 ^ e := h.2.1
    _ < 2 ^ (m.log2 + 1 : Int) * 2 ^ e := by
      gcongr
      linarith
    _ = 2 ^ ((m.log2 : Int) + 1 + e) := (zpow_add₀ two_ne_zero _ _).symm

/-- A grid whose steps are short enough has a hit. -/
theorem exists_hit (positive : 0 < m) (fine : (10 : ℚ) ^ p < 2 ^ (e - 1)) :
    ∃ d, (Interval.of m e).hit? p = some d := by
  obtain ⟨hden, value⟩ := Interval.grid (e := e) positive p
  obtain ⟨t, parts, low, high, -, -⟩ :=
    quotient_parts ((Interval.of m e).value * Nat.pow 10 (-p).toNat) hden
  rw [value] at parts
  generalize (Interval.of m e).value * Nat.pow 10 (-p).toNat /
    ((Interval.of m e).den * Nat.pow 10 p.toNat) = under at parts
  have unit : (0 : ℚ) < 10 ^ p := by positivity
  have exact : exactly m e = (under + t) * 10 ^ p := (div_eq_iff unit.ne').mp parts
  have half : (2 : ℚ) ^ (e - 1) = 2 ^ e / 2 := zpow_sub_one₀ two_ne_zero e
  have gap := lowerGap_pos (m := m) (e := e)
  have beyond : exactly m e < (under + 1 : Nat) * 10 ^ p := by
    rw [exact]
    gcongr
    push_cast
    linarith
  have close : ((under + 1 : Nat) : ℚ) * 10 ^ p < (m + 1 / 2) * 2 ^ e := by
    have : ((under + 1 : Nat) : ℚ) * 10 ^ p ≤ exactly m e + 10 ^ p := by
      rw [exact]
      push_cast
      nlinarith
    linarith
  have above : (m - lowerGap m e) * 2 ^ e < (under + 1 : Nat) * 10 ^ p := by
    refine lt_trans (mul_lt_mul_of_pos_right ?_ (by positivity)) beyond
    linarith
  have covered : Covers m e ((under + 1 : Nat) * 10 ^ p) :=
    ⟨above.le, close.le, fun _ => ⟨above, close⟩⟩
  have spec := hit?_spec (e := e) positive p
  cases h : (Interval.of m e).hit? p with
  | some d => exact ⟨d, rfl⟩
  | none =>
    rw [h] at spec
    exact absurd covered (spec _ under.succ_pos)

theorem shortest_isShortest (positive : 0 < m) (fits : Fits m e) :
    IsShortest m e (shortest m e).1 (shortest m e).2 := by
  obtain ⟨small, least, most, -⟩ := fits
  have bits : m.log2 < 53 := (Nat.log2_lt positive.ne').mpr small
  obtain ⟨above, below⟩ := start_bounds ((m.log2 : Int) + 1 + e) (by omega) (by omega)
  unfold shortest
  dsimp only
  generalize ((m.log2 : Int) + 1 + e) * 30103 / 100000 = place at *
  have fine : (10 : ℚ) ^ (place + 1 - (23 : Nat)) < 2 ^ (e - 1) := by
    rw [show place + 1 - (23 : Nat) = place - 22 by omega]
    exact below.trans_le (zpow_le_zpow_right₀ (by norm_num) (by omega))
  have enough := Option.isSome_iff_exists.mpr (exists_hit positive fine)
  have some_hit : ∃ k : Nat, ((Interval.of m e).hit? (place + 1 - k)).isSome = true := ⟨23, enough⟩
  have within : Nat.find some_hit ≤ 23 := Nat.find_min' some_hit enough
  obtain ⟨d, hit⟩ := Option.isSome_iff_exists.mp (Nat.find_spec some_hit)
  have skipped : ∀ k < Nat.find some_hit, (Interval.of m e).hit? (place + 1 - k) = none :=
    fun k hk => Option.not_isSome_iff_eq_none.mp (Nat.find_min some_hit hk)
  have spec := hit?_spec (e := e) positive (place + 1 - Nat.find some_hit)
  rw [hit] at spec
  rw [search_eq hit skipped (by omega)]
  refine ⟨spec, fun s q hs covered => not_lt.mp fun coarser => ?_⟩
  rcases le_or_gt q (place + 1) with le | gt
  · obtain ⟨k, rfl⟩ : ∃ k : Nat, q = place + 1 - k := ⟨(place + 1 - q).toNat, by omega⟩
    have empty := hit?_spec (e := e) positive (place + 1 - k)
    rw [skipped k (by dsimp only at coarser; omega)] at empty
    exact empty s hs covered
  · have one : (1 : ℚ) ≤ s := by exact_mod_cast hs
    have large := calc (10 : ℚ) ^ (place + 2) ≤ 10 ^ q :=
          zpow_le_zpow_right₀ (by norm_num) (by omega)
      _ ≤ s * 10 ^ q := le_mul_of_one_le_left (by positivity) one
      _ < 2 ^ ((m.log2 : Int) + 1 + e) := covered.lt_of_bits
    linarith

end BundleLens.Number.Binary64
