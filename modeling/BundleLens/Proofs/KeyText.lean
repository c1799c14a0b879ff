import BundleLens.Proofs.ModuleId
import BundleLens.Proofs.Number.Decimal

/-! Ids as texts. The id of a key keeps the whole key: written without quotes it is the key again.
Only a plain decimal form becomes a number, whatever else could be read as one. -/
namespace BundleLens.ModuleId
open Number

variable {key other : String} {n : UInt64}

def rawText : ModuleId → String
  | .number n => toString n
  | .name text => text

theorem ofKey_toString_uint64 (n : UInt64) : ofKey (toString n) = .number n := by
  change ofKey (toString n.toNat) = _
  rw [ofKey_toString n.toNat_lt_size, UInt64.ofNat_toNat]

theorem rawText_ofKey (key : String) : (ofKey key).rawText = key := by
  by_cases decimal : IsDecimal key
  · obtain ⟨n, small, rfl⟩ := decimal
    rw [ofKey_toString small]
    change toString (UInt64.ofNat n).toNat = _
    rw [UInt64.toNat_ofNat_of_lt' small]
  · rw [ofKey_of_not_isDecimal decimal]
    rfl

private theorem ofKey_eq_number_iff :
    ofKey key = .number n ↔ IsPlainDecimal key.toList n.toNat := by
  rw [isPlainDecimal_iff]
  constructor
  · intro h
    rw [← rawText_ofKey key, h]
    rfl
  · rintro rfl
    exact ofKey_toString_uint64 n

private theorem isDecimal_iff :
    IsDecimal key ↔ ∃ n : UInt64, IsPlainDecimal key.toList n.toNat := by
  constructor
  · rintro ⟨n, small, rfl⟩
    refine ⟨.ofNat n, ?_⟩
    rw [UInt64.toNat_ofNat_of_lt' small]
    exact toString_isPlainDecimal n
  · rintro ⟨n, plain⟩
    exact ⟨n.toNat, n.toNat_lt_size, isPlainDecimal_iff.mp plain⟩

def withoutPlus : List Char → List Char
  | '+' :: r => r
  | text => text

/-- A 64-bit number by its digits, of which the first may be zeros, after a plus sign or without. -/
def readUnsigned? (text : String) : Option UInt64 :=
  ((readDecimal? (withoutPlus text.toList)).filter (· < UInt64.size)).map .ofNat

private theorem withoutPlus_toString (n : Nat) :
    withoutPlus (toString n).toList = (toString n).toList := by
  unfold withoutPlus
  split
  · rename_i r h
    have digit := isDigit_of_mem_toString (h ▸ List.mem_cons_self)
    exact absurd digit (by decide)
  · rfl

private theorem readUnsigned?_toString (n : UInt64) : readUnsigned? (toString n) = some n := by
  change ((readDecimal? (withoutPlus (toString n.toNat).toList)).filter _).map _ = _
  rw [withoutPlus_toString, readDecimal?_toString]
  simp [n.toNat_lt_size]

/-- A number that is read from a key counts if it writes back as the key. -/
theorem ofKey_eq_of_read (key : String) : ofKey key =
    (readUnsigned? key).elim (.name key) fun n => if toString n = key then .number n else .name key := by
  by_cases decimal : ∃ n : UInt64, key = toString n
  · obtain ⟨n, rfl⟩ := decimal
    rw [readUnsigned?_toString, ofKey_toString_uint64, Option.elim_some, if_pos rfl]
  · have named : ofKey key = .name key := by
      refine ofKey_of_not_isDecimal fun h => decimal ?_
      obtain ⟨n, plain⟩ := isDecimal_iff.mp h
      exact ⟨n, isPlainDecimal_iff.mp plain⟩
    rw [named]
    cases readUnsigned? key with
    | none => rfl
    | some n => exact (if_neg fun same => decimal ⟨n, same.symm⟩).symm

/-- The id of a key writes back as the key, so no two keys share an id. It is a number exactly if the
key is the plain decimal form of a 64-bit number, and every other key is a name, also one that a
number could be read from, such as one with a plus sign or zeros in front. -/
theorem keys_kept_by_ids (key : String) :
    (ofKey key).rawText = key ∧
    (∀ other, ofKey key = ofKey other → key = other) ∧
    (∀ n : UInt64, ofKey key = .number n ↔ IsPlainDecimal key.toList n.toNat) ∧
    (∀ text, ofKey key = .name text ↔
      key = text ∧ ∀ n : UInt64, ¬ IsPlainDecimal key.toList n.toNat) ∧
    (∀ n : UInt64, ofKey (toString n) = .number n) ∧
    ofKey key = (readUnsigned? key).elim (.name key) fun n =>
      if toString n = key then .number n else .name key := by
  refine ⟨rawText_ofKey key, fun other => ofKey_injective, fun n => ofKey_eq_number_iff,
    fun text => ?_, ofKey_toString_uint64, ofKey_eq_of_read key⟩
  rw [ofKey_eq_name_iff, isDecimal_iff, not_exists]

/-- Keys that a number could be read from, but for a sign and zeros, or but for its size. -/
theorem keys_kept_by_ids_spelled :
    readUnsigned? "+007" = some 7 ∧ ofKey "+007" = .name "+007" ∧ ofKey "7" = .number 7 ∧
      ¬ IsPlainDecimal "+007".toList 7 ∧
    ofKey "18446744073709551616" = .name "18446744073709551616" ∧
      ofKey "18446744073709551615" = .number 18446744073709551615 ∧
      ¬ IsPlainDecimal "18446744073709551616".toList (18446744073709551615 : UInt64).toNat := by
  have signed : ofKey "+007" = .name "+007" := rfl
  have large : ofKey "18446744073709551616" = .name "18446744073709551616" := rfl
  obtain ⟨-, -, -, name, plain, -⟩ := keys_kept_by_ids "+007"
  obtain ⟨-, -, -, name', plain', -⟩ := keys_kept_by_ids "18446744073709551616"
  exact ⟨rfl, signed, plain 7, ((name _).mp signed).2 7, large,
    plain' 18446744073709551615, ((name' _).mp large).2 _⟩

end BundleLens.ModuleId
