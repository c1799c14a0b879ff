import BundleLens.Proofs.Number.Shortest

/-! How a script spells a number. Its digits are the fewest that read back as the number, and of those
the nearest ones; of two that are equally near the even ones count. The printed digits are the same
but for such a tie, where they are the larger ones. -/
namespace BundleLens.Number.Binary64

variable {m d s t : Nat} {e p q : Int}

def width (s : Nat) : Nat := (toString s).length

/-- Whether a number is rather spelled with the first digits than with the second. -/
def Beats (m : Nat) (e : Int) (s : Nat) (p : Int) (t : Nat) (q : Int) : Prop :=
  width s < width t ∨
    width s = width t ∧ (gap m e s p < gap m e t q ∨ gap m e s p = gap m e t q ∧ s % 2 = 0)

/-- The digits of a finite number, with the place of the last one. -/
structure IsSpelling (m : Nat) (e : Int) (fits : Fits m e) (s : Nat) (p : Int) : Prop where
  canonical : s % 10 ≠ 0
  reads : ofScientific false s p = .finite false m e fits
  best : ∀ t q, t % 10 ≠ 0 → ofScientific false t q = .finite false m e fits → (t, q) ≠ (s, p) →
    Beats m e s p t q

/-- A number is halfway between digits and the next larger ones. -/
def IsHalfway (m : Nat) (e : Int) (s : Nat) (p : Int) : Prop :=
  exactly m e = (s + 1 / 2) * 10 ^ p

private theorem width_le_iff {k : Nat} (h : 0 < k) : width s ≤ k ↔ s < 10 ^ k := by
  unfold width
  rw [Nat.toString_eq_ofList_toDigits, String.length_ofList]
  exact Nat.length_toDigits_le_iff (by decide) h

theorem width_pos : 0 < width s := by
  unfold width
  rw [Nat.toString_eq_ofList_toDigits, String.length_ofList]
  exact List.length_pos_iff.mpr Nat.toDigits_ne_nil

theorem lt_pow_width : s < 10 ^ width s := (width_le_iff width_pos).mp le_rfl

theorem pow_width_le (positive : 0 < s) : 10 ^ (width s - 1) ≤ s := by
  rcases Nat.eq_zero_or_pos (width s - 1) with one | more
  · rw [one]
    exact positive
  · exact not_lt.mp fun less => by
      have := (width_le_iff more).mpr less
      omega

/-- Digits on the coarsest grid do not end in a zero. -/
theorem IsShortest.canonical (h : IsShortest m e d p) (positive : 0 < s)
    (covered : Covers m e (s * 10 ^ p)) : s % 10 ≠ 0 := by
  intro zero
  have divides := Nat.dvd_of_mod_eq_zero zero
  rw [← Nat.div_mul_cancel divides, Nat.cast_mul, Nat.cast_ofNat, mul_assoc,
    ← zpow_one_add₀ (by norm_num)] at covered
  have place := h.coarsest _ _ (Nat.div_pos (Nat.le_of_dvd positive divides) (by decide)) covered
  omega

private theorem IsShortest.width_le (h : IsShortest m e d p) (hs : Covers m e (s * 10 ^ p))
    (ht : Covers m e (t * 10 ^ p)) : width t ≤ width s := by
  by_contra longer
  -- a power of ten in between would be on a coarser grid
  have between : Covers m e ((10 ^ width s : Nat) * 10 ^ p) := by
    refine hs.convex ht ?_ ?_
    · gcongr
      exact lt_pow_width.le
    · gcongr
      exact not_lt.mp fun less => longer ((width_le_iff width_pos).mpr less)
  have odd := h.canonical (Nat.pow_pos (by decide)) between
  exact odd (Nat.mod_eq_zero_of_dvd (dvd_pow_self 10 width_pos.ne'))

private theorem IsShortest.width_eq (h : IsShortest m e d p) (covered : Covers m e (s * 10 ^ p)) :
    width s = width d :=
  le_antisymm (h.width_le h.covered covered) (h.width_le covered h.covered)

private theorem least_bounds : (494 : ℚ) / 1000 * 10 ^ (-323 : Int) < 2 ^ (-1074 : Int) ∧
    (2 : ℚ) ^ (-1074 : Int) < 495 / 1000 * 10 ^ (-323 : Int) := by
  have low : 494 * 2 ^ 1074 < 1000 * 10 ^ 323 := by decide +kernel
  have high : 1000 * 10 ^ 323 < 495 * 2 ^ 1074 := by decide +kernel
  have low : (494 : ℚ) * 2 ^ (1074 : Int) < 1000 * 10 ^ (323 : Int) := by exact_mod_cast low
  have high : (1000 : ℚ) * 10 ^ (323 : Int) < 495 * 2 ^ (1074 : Int) := by exact_mod_cast high
  have tens : (0 : ℚ) < 10 ^ (323 : Int) := by positivity
  have twos : (0 : ℚ) < 2 ^ (1074 : Int) := by positivity
  rw [zpow_neg, zpow_neg, ← div_eq_mul_inv, ← div_eq_mul_inv, ← one_div,
    div_lt_div_iff₀ tens twos, div_lt_div_iff₀ twos tens]
  generalize (10 : ℚ) ^ (323 : Int) = a at *
  generalize (2 : ℚ) ^ (1074 : Int) = b at *
  exact ⟨by linarith, by linarith⟩

/-- Only the second least of all doubles covers a power of ten and nine tenths of it, and the power
of ten is the nearer one. -/
private theorem power_nearer (positive : 0 < m) (fits : Fits m e) (h : Covers m e (10 ^ p))
    (h' : Covers m e (9 * 10 ^ (p - 1))) :
    exactly m e ≤ 10 ^ p ∧ 10 ^ p - exactly m e < exactly m e - 9 * 10 ^ (p - 1) := by
  have ten : (10 : ℚ) ^ (p - 1) = 10 ^ p / 10 := zpow_sub_one₀ (by norm_num) p
  have unit : (0 : ℚ) < 2 ^ e := by positivity
  have above := h.2.1
  have below : ((m : ℚ) - 1 / 2) * 2 ^ e ≤ 9 * 10 ^ (p - 1) := by
    refine (mul_le_mul_of_nonneg_right ?_ unit.le).trans h'.1
    linarith [lowerGap_le (m := m) (e := e)]
  have few : (m : ℚ) < 10 := by
    rw [ten] at below
    have : ((m : ℚ) - 1 / 2) * 10 * 2 ^ e ≤ (m + 1 / 2) * 9 * 2 ^ e := by linarith
    linarith [le_of_mul_le_mul_right this unit]
  have few : m < 10 := by exact_mod_cast few
  obtain rfl : e = -1074 := fits.2.2.2.resolve_left (by simp only [Nat.pow_eq]; omega)
  obtain ⟨least, most⟩ := least_bounds
  have nine : (m : ℚ) ≤ 9 := by exact_mod_cast Nat.le_of_lt_succ few
  have one : (1 : ℚ) ≤ m := by exact_mod_cast positive
  unfold exactly
  generalize (2 : ℚ) ^ (-1074 : Int) = unit at *
  obtain rfl : p = -323 := by
    apply le_antisymm
    · refine not_lt.mp fun more => ?_
      have large : (10 : ℚ) ^ ((-323 : Int) + 1) ≤ 10 ^ p := zpow_le_zpow_right₀ (by norm_num) more
      rw [zpow_add_one₀ (by norm_num)] at large
      nlinarith
    · refine not_lt.mp fun less => ?_
      have small : (10 : ℚ) ^ p ≤ 10 ^ ((-323 : Int) - 1) :=
        zpow_le_zpow_right₀ (by norm_num) (Int.le_sub_one_of_lt less)
      rw [zpow_sub_one₀ (by norm_num)] at small
      nlinarith
  rw [ten] at below ⊢
  generalize (10 : ℚ) ^ (-323 : Int) = tens at *
  obtain rfl : m = 2 := by
    apply le_antisymm
    · refine not_lt.mp fun more => ?_
      have three : (3 : ℚ) ≤ m := by exact_mod_cast more
      nlinarith
    · refine not_lt.mp fun less => ?_
      obtain rfl : m = 1 := by omega
      push_cast at above
      linarith
  push_cast
  exact ⟨by linarith, by linarith⟩

/-- Digits that are finer and as few are below a covered power of ten. -/
theorem IsShortest.power_covered (h : IsShortest m e d p) (finer : q < p)
    (covered : Covers m e (t * 10 ^ q)) (short : width t ≤ width d) :
    width d = 1 ∧ Covers m e (10 ^ p) ∧ (t : ℚ) * 10 ^ q ≤ 9 * 10 ^ (p - 1) := by
  have dLow : (10 : ℚ) ^ (width d - 1) ≤ d := by exact_mod_cast pow_width_le h.positive
  have tHigh : (t : ℚ) < 10 ^ width t := by exact_mod_cast lt_pow_width
  have some := width_pos (s := t)
  have under : (t : ℚ) * 10 ^ q ≤ (10 ^ (width d - 1) : Nat) * 10 ^ p := calc
    (t : ℚ) * 10 ^ q ≤ 10 ^ width t * 10 ^ q := by gcongr
    _ = 10 ^ (width t + q) := by rw [zpow_add₀ (by norm_num), zpow_natCast]
    _ ≤ 10 ^ ((width d - 1 : Nat) + p) := zpow_le_zpow_right₀ (by norm_num) (by omega)
    _ = (10 ^ (width d - 1) : Nat) * 10 ^ p := by
      rw [zpow_add₀ (by norm_num), zpow_natCast, Nat.cast_pow, Nat.cast_ofNat]
  have power : Covers m e ((10 ^ (width d - 1) : Nat) * 10 ^ p) := by
    refine covered.convex h.covered under ?_
    gcongr
    exact_mod_cast dLow
  have none : width d - 1 = 0 := by
    by_contra more
    exact h.canonical (Nat.pow_pos (by decide)) power
      (Nat.mod_eq_zero_of_dvd (dvd_pow_self 10 more))
  rw [none, pow_zero, Nat.cast_one, one_mul] at power
  have one : width t = 1 := by omega
  have nine : t ≤ 9 := Nat.le_of_lt_succ ((width_le_iff one_pos).mp one.le)
  refine ⟨by omega, power, ?_⟩
  gcongr
  · exact_mod_cast nine
  · norm_num
  · omega

/-- Finer digits are more, or farther from the number. -/
theorem IsShortest.finer (h : IsShortest m e d p) (hm : 0 < m) (fits : Fits m e) (finer : q < p)
    (covered : Covers m e (t * 10 ^ q)) :
    width d < width t ∨ width d = width t ∧ gap m e d p < gap m e t q := by
  rcases lt_or_ge (width d) (width t) with longer | short
  · exact .inl longer
  obtain ⟨one, power, tenth⟩ := h.power_covered finer covered short
  have less : (9 : ℚ) * 10 ^ (p - 1) ≤ 10 ^ p := by
    rw [zpow_sub_one₀ (by norm_num)]
    have : (0 : ℚ) < 10 ^ p := by positivity
    linarith
  obtain ⟨le, nearer⟩ := power_nearer hm fits power (covered.convex power tenth less)
  right
  refine ⟨le_antisymm (one ▸ width_pos) short, ?_⟩
  calc gap m e d p ≤ gap m e 1 p := by
        obtain less | ⟨same, -⟩ := h.nearest 1 one_pos (by rwa [Nat.cast_one, one_mul])
        · exact less.le
        · exact same.le
    _ = 10 ^ p - exactly m e := by
        unfold gap
        rw [Nat.cast_one, one_mul, abs_sub_comm, abs_of_nonneg (sub_nonneg.mpr le)]
    _ < exactly m e - 9 * 10 ^ (p - 1) := nearer
    _ ≤ exactly m e - t * 10 ^ q := by linarith
    _ ≤ gap m e t q := le_abs_self _

theorem covers_pos (hm : 0 < m) (h : Covers m e (s * 10 ^ p)) : 0 < s := by
  rcases Nat.eq_zero_or_pos s with rfl | positive
  · have one : (1 : ℚ) ≤ m := by exact_mod_cast hm
    have half := lowerGap_le (m := m) (e := e)
    have := h.1
    rw [Nat.cast_zero, zero_mul] at this
    exact absurd this (not_le.mpr (mul_pos (by linarith) (by positivity)))
  · exact positive

/-- Two points of a grid that are equally near are next to each other. -/
theorem IsShortest.halfway_of_gap_eq (h : IsShortest m e d p) (hm : 0 < m)
    (covered : Covers m e (t * 10 ^ p)) (same : gap m e t p = gap m e d p) (other : t ≠ d) :
    d = t + 1 ∧ IsHalfway m e t p := by
  have unit : (0 : ℚ) < 10 ^ p := by positivity
  obtain nearer | ⟨-, le⟩ := h.nearest t (covers_pos hm covered) covered
  · exact absurd same nearer.ne'
  have less : t < d := lt_of_le_of_ne le other
  have less' : (t : ℚ) * 10 ^ p < d * 10 ^ p := by gcongr
  have middle : 2 * exactly m e = (t + d) * 10 ^ p := by
    obtain eq | eq := abs_eq_abs.mp same
    · linarith
    · linarith
  have next : d = t + 1 := by
    by_contra apart
    have between : (t : ℚ) * 10 ^ p + 2 * 10 ^ p ≤ d * 10 ^ p := by
      rw [← add_mul]
      gcongr
      exact_mod_cast (by omega : t + 2 ≤ d)
    have inner : ((t + 1 : Nat) : ℚ) * 10 ^ p = t * 10 ^ p + 10 ^ p := by
      push_cast
      ring
    have nearest := h.nearest (t + 1) t.succ_pos
      (covered.convex h.covered (by linarith) (by linarith))
    have closer : gap m e (t + 1) p < gap m e d p := by
      unfold gap
      rw [inner, abs_sub_comm _ ((d : ℚ) * 10 ^ p), abs_of_pos (by linarith : 0 < (d : ℚ) * 10 ^ p - _),
        abs_lt]
      exact ⟨by linarith, by linarith⟩
    obtain farther | ⟨equal, -⟩ := nearest
    · exact lt_asymm closer farther
    · exact closer.ne' equal
  subst next
  refine ⟨rfl, ?_⟩
  unfold IsHalfway
  push_cast at middle
  linarith

/-- If digits are halfway below a number that covers them, it covers the next ones too. -/
theorem IsHalfway.covers_succ (h : IsHalfway m e s p) (covered : Covers m e (s * 10 ^ p)) :
    Covers m e ((s + 1 : Nat) * 10 ^ p) ∧ gap m e (s + 1) p = gap m e s p := by
  have unit : (0 : ℚ) < 10 ^ p := by positivity
  have twos : (0 : ℚ) < 2 ^ e := by positivity
  have below : (s : ℚ) * 10 ^ p = exactly m e - 10 ^ p / 2 := by
    rw [h]
    ring
  have above : ((s + 1 : Nat) : ℚ) * 10 ^ p = exactly m e + 10 ^ p / 2 := by
    rw [h]
    push_cast
    ring
  constructor
  · have lower := mul_le_mul_of_nonneg_right (lowerGap_le (m := m) (e := e)) twos.le
    obtain ⟨low, -, odd⟩ := covered
    rw [below] at low odd
    rw [above]
    refine ⟨by linarith, by linarith, fun h => ?_⟩
    obtain ⟨low, -⟩ := odd h
    exact ⟨by linarith, by linarith⟩
  · unfold gap
    rw [above, below, abs_sub_comm, abs_of_pos (by linarith), abs_of_pos (by linarith)]
    ring

/-- The digits of a number are the nearest ones on the coarsest grid, the even ones in a tie. -/
theorem IsShortest.beats (h : IsShortest m e d p) (hm : 0 < m) (fits : Fits m e)
    (covered : Covers m e (s * 10 ^ p)) (near : gap m e s p = gap m e d p)
    (even : ∀ t : Nat, Covers m e (t * 10 ^ p) → gap m e t p = gap m e d p → t ≠ s →
      s % 2 = 0 ∧ t % 2 = 1)
    (covered' : Covers m e (t * 10 ^ q)) (other : (t, q) ≠ (s, p)) :
    width s < width t ∨ width s = width t ∧ (gap m e s p < gap m e t q ∨
      gap m e s p = gap m e t q ∧ s % 2 = 0 ∧ t % 2 = 1) := by
  rw [h.width_eq covered, near]
  have positive := covers_pos hm covered'
  rcases (h.coarsest t q positive covered').lt_or_eq with finer | rfl
  · obtain longer | ⟨same, farther⟩ := h.finer hm fits finer covered'
    · exact .inl longer
    · exact .inr ⟨same, .inl farther⟩
  · refine .inr ⟨(h.width_eq covered').symm, ?_⟩
    obtain nearer | ⟨same, -⟩ := h.nearest t positive covered'
    · exact .inl nearer
    · exact .inr ⟨same, even t covered' same.symm fun eq => other (by rw [eq])⟩

private theorem reads_iff (hm : 0 < m) (fits : Fits m e) (canonical : s % 10 ≠ 0) :
    ofScientific false s p = .finite false m e fits ↔ Covers m e (s * 10 ^ p) :=
  ofScientific_eq_finite_iff (Nat.pos_of_ne_zero fun zero => canonical (by rw [zero])) hm fits

private theorem IsShortest.isSpelling_iff (h : IsShortest m e d p) (hm : 0 < m) (fits : Fits m e)
    (covered : Covers m e (s * 10 ^ p)) (near : gap m e s p = gap m e d p)
    (even : ∀ t : Nat, Covers m e (t * 10 ^ p) → gap m e t p = gap m e d p → t ≠ s →
      s % 2 = 0 ∧ t % 2 = 1) : IsSpelling m e fits t q ↔ (t, q) = (s, p) := by
  have canonical := h.canonical (covers_pos hm covered) covered
  constructor
  · rintro ⟨canonical', reads, best⟩
    by_contra other
    have reads' := (reads_iff hm fits canonical).mpr covered
    obtain less | ⟨same, nearer | ⟨equal, -, odd⟩⟩ :=
      h.beats hm fits covered near even ((reads_iff hm fits canonical').mp reads) other
    all_goals
      obtain less' | ⟨same', nearer' | ⟨equal', even'⟩⟩ := best s p canonical reads' (Ne.symm other)
    · omega
    · omega
    · omega
    · omega
    · exact lt_asymm nearer nearer'
    · exact nearer.ne' equal'
    · omega
    · exact nearer'.ne' equal
    · omega
  · rintro ⟨⟩
    refine ⟨canonical, (reads_iff hm fits canonical).mpr covered, fun k r canonical' reads other => ?_⟩
    obtain less | ⟨same, nearer | ⟨equal, even, -⟩⟩ :=
      h.beats hm fits covered near even ((reads_iff hm fits canonical').mp reads) other
    · exact .inl less
    · exact .inr ⟨same, .inl nearer⟩
    · exact .inr ⟨same, .inr ⟨equal, even⟩⟩

/-- A number has one spelling, which is what is printed but for a tie. -/
theorem IsShortest.exists_spelling (h : IsShortest m e d p) (hm : 0 < m) (fits : Fits m e) :
    ∃ s, (∀ t q, IsSpelling m e fits t q ↔ (t, q) = (s, p)) ∧ Covers m e (s * 10 ^ p) ∧
      (IsHalfway m e s p → d = s + 1) ∧ (¬ IsHalfway m e s p → d = s) := by
  by_cases tie : ∃ s, d = s + 1 ∧ s % 2 = 0 ∧ IsHalfway m e s p ∧ Covers m e (s * 10 ^ p)
  · obtain ⟨s, rfl, even, halfway, covered⟩ := tie
    refine ⟨s, fun t q => h.isSpelling_iff hm fits covered (halfway.covers_succ covered).2.symm ?_,
      covered, fun _ => rfl, fun other => absurd halfway other⟩
    intro t ht same other
    by_cases next : t = s + 1
    · exact ⟨even, by omega⟩
    · have := (h.halfway_of_gap_eq hm ht same next).1
      omega
  · refine ⟨d, fun t q => h.isSpelling_iff hm fits h.covered rfl ?_, h.covered, ?_, fun _ => rfl⟩
    · intro t ht same other
      obtain ⟨next, halfway⟩ := h.halfway_of_gap_eq hm ht same other
      have odd : ¬ t % 2 = 0 := fun even => tie ⟨t, next, even, halfway, ht⟩
      omega
    · intro halfway
      obtain ⟨covered, same⟩ := halfway.covers_succ h.covered
      obtain nearer | ⟨-, le⟩ := h.nearest (d + 1) d.succ_pos covered
      · exact absurd same nearer.ne'
      · omega

end BundleLens.Number.Binary64
