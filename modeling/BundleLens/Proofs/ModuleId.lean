import BundleLens.ModuleId
import BundleLens.Proofs.Number.Digits

/-! Ids of keys. A key is the number whose decimal form it is, and any other key is a name, so no
two keys have one id. -/
namespace BundleLens.ModuleId
open Number (Binary64 readDecimal?_toString)

def IsDecimal (key : String) : Prop := ∃ n < UInt64.size, key = toString n

theorem ofKey_toString {n : Nat} (h : n < UInt64.size) : ofKey (toString n) = .number (.ofNat n) := by
  unfold ofKey
  rw [readDecimal?_toString]
  dsimp only
  rw [if_pos ⟨h, rfl⟩]

theorem ofKey_of_not_isDecimal {key : String} (h : ¬ IsDecimal key) : ofKey key = .name key := by
  unfold ofKey
  split
  · rename_i n _
    rw [if_neg fun hn => h ⟨n, hn.1, hn.2.symm⟩]
  · rfl

theorem ofKey_eq_name_iff {key text : String} :
    ofKey key = .name text ↔ key = text ∧ ¬ IsDecimal key := by
  constructor
  · intro h
    by_cases hd : IsDecimal key
    · obtain ⟨n, hn, rfl⟩ := hd
      rw [ofKey_toString hn] at h
      cases h
    · rw [ofKey_of_not_isDecimal hd] at h
      cases h
      exact ⟨rfl, hd⟩
  · rintro ⟨rfl, hd⟩
    exact ofKey_of_not_isDecimal hd

theorem ofKey_injective {key other : String} (h : ofKey key = ofKey other) : key = other := by
  by_cases hd : IsDecimal other
  · obtain ⟨n, hn, rfl⟩ := hd
    rw [ofKey_toString hn] at h
    by_cases hk : IsDecimal key
    · obtain ⟨m, hm, rfl⟩ := hk
      rw [ofKey_toString hm, number.injEq] at h
      have := congrArg UInt64.toNat h
      rw [UInt64.toNat_ofNat_of_lt' hm, UInt64.toNat_ofNat_of_lt' hn] at this
      rw [this]
    · rw [ofKey_of_not_isDecimal hk] at h
      cases h
  · rw [ofKey_of_not_isDecimal hd] at h
    exact (ofKey_eq_name_iff.mp h).1

theorem min_lt_size (n : Nat) : min n (UInt64.size - 1) < UInt64.size :=
  Nat.lt_of_le_of_lt (Nat.min_le_right ..) (by decide)

theorem min_eq_of_lt_size {n : Nat} (h : n < UInt64.size) : min n (UInt64.size - 1) = n :=
  Nat.min_eq_left (Nat.le_sub_one_of_lt h)

theorem ofNumber?_eq_some_iff {value : Binary64} {id : ModuleId} : ofNumber? value = some id ↔
    ∃ n, value.toNat? = some n ∧ n ≤ UInt64.size ∧
      id = .number (.ofNat (min n (UInt64.size - 1))) := by
  unfold ofNumber?
  cases value.toNat? with
  | none => simp
  | some n => simp [eq_comm]

theorem ofNumber?_of_toNat? {value : Binary64} {n : Nat} (h : value.toNat? = some n)
    (hn : n < UInt64.size) : ofNumber? value = some (ofKey (toString n)) := by
  rw [ofNumber?_eq_some_iff, ofKey_toString hn]
  exact ⟨n, h, Nat.le_of_lt hn, by rw [min_eq_of_lt_size hn]⟩

theorem toNat?_of_ofNumber? {value : Binary64} {n : UInt64} (h : ofNumber? value = some (.number n))
    (small : n.toNat + 1 < UInt64.size) : value.toNat? = some n.toNat := by
  obtain ⟨m, hm, -, same⟩ := ofNumber?_eq_some_iff.mp h
  cases same
  rw [UInt64.toNat_ofNat_of_lt' (min_lt_size m)] at small ⊢
  -- the largest id is the only one that more than one number is counted as
  have exact : min m (UInt64.size - 1) = m := Nat.min_eq_left (by omega)
  rw [hm, exact]

end BundleLens.ModuleId
