import BundleLens.Proofs.ModuleId
import BundleLens.Proofs.Number.Whole

/-! Ids of numbers. A number is an id if it is a natural number below `2 ^ 64`, and then its id is
just that number. The bound is no 64-bit number, but counts as the last one, which no double is. -/
namespace BundleLens.Number.Binary64

variable {m n : Nat} {e : Int} {v : Binary64}

/-- The exact value of a double, if it has one. Both zeros are worth the same. -/
def value? : Binary64 → Option ℚ
  | .finite negative m e _ => some (if negative then -exactly m e else exactly m e)
  | _ => none

private theorem exactly_nonneg : 0 ≤ exactly m e := by
  unfold exactly
  positivity

private theorem exactly_eq_zero_iff : exactly m e = 0 ↔ m = 0 := by
  simp [exactly, zpow_ne_zero]

private theorem value?_eq_natCast_iff : v.value? = some (n : ℚ) ↔ v.toNat? = some n := by
  cases v with
  | nan | infinite => simp [value?, toNat?]
  | finite negative m e fits =>
    rw [toNat?_eq_some_iff fits, value?, Option.some_inj]
    cases negative with
    | false => simp
    | true =>
      -- a negative number is natural only if it is the negative zero
      simp only [if_true, forall_const]
      constructor
      · intro same
        have none : exactly m e = 0 := by
          have := exactly_nonneg (m := m) (e := e)
          have : (0 : ℚ) ≤ n := n.cast_nonneg
          linarith
        exact ⟨by linarith, exactly_eq_zero_iff.mp none⟩
      · rintro ⟨same, none⟩
        rw [← same, exactly_eq_zero_iff.mpr none, neg_zero]

end BundleLens.Number.Binary64

namespace BundleLens.ModuleId
open Number Binary64

variable {v w : Binary64} {n : Nat} {id : ModuleId}

/-- An id that is a number of exactly the value that a double has, and the id of its decimal form. -/
def IsExactFor (id : ModuleId) (v : Binary64) : Prop :=
  ∃ n : UInt64, v.value? = some (n.toNat : ℚ) ∧ id = .number n ∧ id = ofKey (toString n)

private theorem isExactFor_iff :
    id.IsExactFor v ↔ ∃ n, v.toNat? = some n ∧ n < UInt64.size ∧ id = .number (.ofNat n) := by
  constructor
  · rintro ⟨n, value, rfl, -⟩
    exact ⟨n.toNat, value?_eq_natCast_iff.mp value, n.toNat_lt_size, by rw [UInt64.ofNat_toNat]⟩
  · rintro ⟨n, value, small, rfl⟩
    have exact : (UInt64.ofNat n).toNat = n := UInt64.toNat_ofNat_of_lt' small
    refine ⟨.ofNat n, ?_, rfl, ?_⟩
    · rw [exact, value?_eq_natCast_iff]
      exact value
    · change _ = ofKey (toString (UInt64.ofNat n).toNat)
      rw [exact, ofKey_toString small]

private theorem ofNumber?_size (h : v.toNat? = some UInt64.size) :
    ofNumber? v = some (.number (.ofNat (UInt64.size - 1))) :=
  ofNumber?_eq_some_iff.mpr ⟨_, h, le_rfl, by rw [Nat.min_eq_right (Nat.sub_le ..)]⟩

/-- The last id is exact for no double. -/
theorem not_isExactFor_max : ¬ IsExactFor (.number (.ofNat (UInt64.size - 1))) v := by
  rw [isExactFor_iff]
  rintro ⟨n, value, small, same⟩
  have same := congrArg UInt64.toNat (number.inj same)
  rw [UInt64.toNat_ofNat_of_lt' (by decide), UInt64.toNat_ofNat_of_lt' small] at same
  exact toNat?_ne_max (same ▸ value)

private theorem ofNumber?_exact_iff :
    (∀ id, ofNumber? v = some id ↔ id.IsExactFor v) ↔ v.toNat? ≠ some UInt64.size := by
  constructor
  · intro exact value
    exact not_isExactFor_max ((exact _).mp (ofNumber?_size value))
  · intro other id
    rw [ofNumber?_eq_some_iff, isExactFor_iff]
    refine exists_congr fun n => and_congr_right fun value => ?_
    constructor
    · rintro ⟨small, same⟩
      have less : n < UInt64.size := small.lt_of_ne fun bound => other (bound ▸ value)
      rw [min_eq_of_lt_size less] at same
      exact ⟨less, same⟩
    · rintro ⟨less, same⟩
      rw [min_eq_of_lt_size less]
      exact ⟨less.le, same⟩

theorem eq_of_min_eq {k : Nat} (hv : v.toNat? = some n) (hw : w.toNat? = some k)
    (hn : n ≤ UInt64.size) (hk : k ≤ UInt64.size)
    (same : min n (UInt64.size - 1) = min k (UInt64.size - 1)) : n = k := by
  have n_ne : n ≠ UInt64.size - 1 := fun max => toNat?_ne_max (max ▸ hv)
  have k_ne : k ≠ UInt64.size - 1 := fun max => toNat?_ne_max (max ▸ hw)
  omega

private theorem value?_eq_of_ofNumber? (hv : ofNumber? v = some id) (hw : ofNumber? w = some id) :
    v.value? = w.value? := by
  obtain ⟨n, value, small, rfl⟩ := ofNumber?_eq_some_iff.mp hv
  obtain ⟨k, value', small', same⟩ := ofNumber?_eq_some_iff.mp hw
  have same := congrArg UInt64.toNat (number.inj same)
  rw [UInt64.toNat_ofNat_of_lt' (min_lt_size n), UInt64.toNat_ofNat_of_lt' (min_lt_size k)] at same
  obtain rfl := eq_of_min_eq value value' small small' same
  rw [value?_eq_natCast_iff.mpr value, value?_eq_natCast_iff.mpr value']

/-- A number has an id exactly if it is a natural number below `2 ^ 64`, and the id is exactly that
number and the id of its decimal form, for every double but `2 ^ 64`, which counts as the number
before it. Still no two doubles of different values have one id. -/
theorem number_ids_exact_iff (v : Binary64) :
    ((∀ id, ofNumber? v = some id ↔ id.IsExactFor v) ↔ v.value? ≠ some (UInt64.size : ℚ)) ∧
    (v.value? = some (UInt64.size : ℚ) → ofNumber? v = some (.number (.ofNat (UInt64.size - 1)))) ∧
    ∀ w id, ofNumber? v = some id → ofNumber? w = some id → v.value? = w.value? := by
  refine ⟨?_, fun bound => ofNumber?_size (value?_eq_natCast_iff.mp bound),
    fun w id => value?_eq_of_ofNumber?⟩
  rw [ofNumber?_exact_iff, Ne, Ne, value?_eq_natCast_iff]

/-- The bound, and the double before it. -/
theorem number_ids_exact_iff_bound :
    let bound : Binary64 := .finite false (2 ^ 52) 12 (by decide)
    let below : Binary64 := .finite false (2 ^ 53 - 1) 11 (by decide)
    bound.value? = some (UInt64.size : ℚ) ∧
      ofNumber? bound = some (.number 18446744073709551615) ∧
    below.value? ≠ some (UInt64.size : ℚ) ∧
      IsExactFor (.number 18446744073709549568) below ∧ bound.value? ≠ below.value? := by
  intro bound below
  have reached : bound.value? = some (UInt64.size : ℚ) := value?_eq_natCast_iff.mpr rfl
  have counted : ofNumber? below = some (.number 18446744073709549568) := rfl
  have other : below.value? ≠ some (UInt64.size : ℚ) := by
    rw [Ne, value?_eq_natCast_iff]
    decide
  exact ⟨reached, (number_ids_exact_iff bound).2.1 reached, other,
    ((number_ids_exact_iff below).1.mpr other _).mp counted, reached ▸ other.symm⟩

/-- The bound has an id, which is another number's. -/
theorem bound_has_inexact_id :
    let bound : Binary64 := .finite false (2 ^ 52) 12 (by decide)
    bound.value? = some (UInt64.size : ℚ) ∧
      ofNumber? bound = some (.number 18446744073709551615) ∧
      ¬ IsExactFor (.number 18446744073709551615) bound :=
  ⟨value?_eq_natCast_iff.mpr rfl, rfl, not_isExactFor_max⟩

end BundleLens.ModuleId
