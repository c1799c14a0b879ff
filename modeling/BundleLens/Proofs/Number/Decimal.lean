import BundleLens.Proofs.Number.Reading

namespace BundleLens.Number

private theorem ofDigits_concat {front : List Char} {c : Char} (digit : c.isDigit = true) :
    ofDigits 10 (front ++ [c]) = 10 * ofDigits 10 front + (c.toNat - '0'.toNat) := by
  rw [ofDigits_append, List.foldl_cons, List.foldl_nil, digitValue?_of_isDigit digit,
    Option.getD_some, Nat.mul_comm]

private theorem value_lt_ten {c : Char} (digit : c.isDigit = true) : c.toNat - '0'.toNat < 10 := by
  have bounds : 48 ≤ c.toNat ∧ c.toNat ≤ 57 := Char.isDigit_iff_toNat.mp digit
  change c.toNat - 48 < 10
  omega

private theorem toDigits_of_isDigit {c : Char} (digit : c.isDigit = true) :
    Nat.toDigits 10 (c.toNat - '0'.toNat) = [c] := by
  have bounds : 48 ≤ c.toNat ∧ c.toNat ≤ 57 := Char.isDigit_iff_toNat.mp digit
  rw [Nat.toDigits_of_lt_base (value_lt_ten digit), List.singleton_inj, ← Char.toNat_inj,
    Nat.toNat_digitChar_of_lt_ten (value_lt_ten digit)]
  change 48 + (c.toNat - 48) = c.toNat
  omega

/-- The plain decimal form of a number: nothing but digits, of which the first is no zero unless it
is the only one. -/
structure IsPlainDecimal (text : List Char) (n : Nat) : Prop where
  filled : text ≠ []
  digits : ∀ c ∈ text, c.isDigit = true
  unpadded : text.head? = some '0' → text = ['0']
  value : ofDigits 10 text = n

theorem toString_isPlainDecimal (n : Nat) : IsPlainDecimal (toString n).toList n where
  filled := toList_toString_ne_nil n
  digits c hc := isDigit_of_mem_toString hc
  unpadded h := by
    obtain ⟨r, hr⟩ := List.head?_eq_some_iff.mp h
    rw [eq_zero_of_toList_toString hr]
    rfl
  value := ofDigits_toString n

/-- A number has one plain decimal form. -/
theorem IsPlainDecimal.eq_toString {text : List Char} {n : Nat} (h : IsPlainDecimal text n) :
    text = (toString n).toList := by
  obtain ⟨filled, digits, unpadded, rfl⟩ := h
  rw [Nat.toString_eq_ofList_toDigits, String.toList_ofList]
  induction text using List.reverseRecOn with
  | nil => exact absurd rfl filled
  | append_singleton front c ih =>
    obtain ⟨digits, last⟩ := List.forall_mem_append.mp digits
    have digit := last c List.mem_cons_self
    rw [ofDigits_concat digit]
    by_cases single : front = []
    · subst single
      change [c] = Nat.toDigits 10 (0 + (c.toNat - '0'.toNat))
      rw [Nat.zero_add, toDigits_of_isDigit digit]
    · have first : front.head? ≠ some '0' := by
        intro zero
        have alone := unpadded (by rw [List.head?_append_of_ne_nil _ single, zero])
        have := congrArg List.length alone
        simp [single] at this
      have front_eq := ih single digits fun zero => absurd zero first
      have positive : 0 < ofDigits 10 front := by
        by_contra none
        rw [Nat.eq_zero_of_not_pos none] at front_eq
        exact first (front_eq ▸ rfl)
      rw [← Nat.toDigits_append_toDigits (by decide) positive (value_lt_ten digit), ← front_eq,
        toDigits_of_isDigit digit]

theorem isPlainDecimal_iff {text : String} {n : Nat} :
    IsPlainDecimal text.toList n ↔ text = toString n := by
  constructor
  · intro h
    exact String.toList_inj.mp h.eq_toString
  · rintro rfl
    exact toString_isPlainDecimal n

end BundleLens.Number
