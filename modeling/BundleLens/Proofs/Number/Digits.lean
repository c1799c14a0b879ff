import BundleLens.Number.Digits

namespace BundleLens.Number

theorem digitValue?_of_isDigit {c : Char} (h : c.isDigit = true) :
    digitValue? c = some (c.toNat - '0'.toNat) := by
  unfold digitValue?
  rw [if_pos h]

theorem digitValue?_digitChar : ∀ d < 16, digitValue? (Nat.digitChar d) = some d := by decide

private theorem foldl_digitValue (digits : List Char) (n : Nat)
    (h : ∀ c ∈ digits, c.isDigit = true) :
    digits.foldl (fun n c => n * 10 + (digitValue? c).getD 0) n = Nat.ofDigitChars 10 digits n := by
  induction digits generalizing n with
  | nil => rfl
  | cons c digits ih =>
    rw [List.foldl_cons, Nat.ofDigitChars_cons, ih _ fun d hd => h d (List.mem_cons_of_mem _ hd),
      digitValue?_of_isDigit (h c List.mem_cons_self), Option.getD_some, Nat.mul_comm n 10]

theorem isDigit_of_mem_toString {n : Nat} {c : Char} (h : c ∈ (toString n).toList) :
    c.isDigit = true := by
  rw [Nat.toString_eq_ofList_toDigits, String.toList_ofList] at h
  exact Nat.isDigit_of_mem_toDigits (by decide) (by decide) h

theorem toList_toString_ne_nil (n : Nat) : (toString n).toList ≠ [] := by
  rw [Nat.toString_eq_ofList_toDigits, String.toList_ofList]
  exact Nat.toDigits_ne_nil

theorem eq_zero_of_toList_toString {n : Nat} {r : List Char} (h : (toString n).toList = '0' :: r) :
    n = 0 := by
  rw [Nat.toString_eq_ofList_toDigits, String.toList_ofList] at h
  induction n using Nat.strongRecOn generalizing r with
  | ind n ih =>
    rw [Nat.toDigits_eq_if (by decide)] at h
    split at h
    · rw [List.cons.injEq] at h
      exact Nat.digitChar_eq_zero.mp h.1
    · rename_i big
      have shorter := Nat.toDigits_ne_nil (n := n / 10) (b := 10)
      obtain ⟨c, r', hd⟩ := List.exists_cons_of_ne_nil shorter
      rw [hd, List.cons_append, List.cons.injEq] at h
      rw [h.1] at hd
      have := ih (n / 10) (by omega) hd
      omega

theorem readDecimal?_toString (n : Nat) : readDecimal? (toString n).toList = some n := by
  have digits : (toString n).toList.all Char.isDigit = true :=
    List.all_eq_true.mpr fun c hc => isDigit_of_mem_toString hc
  have filled : (toString n).toList.isEmpty = false :=
    List.isEmpty_eq_false_iff.mpr (toList_toString_ne_nil n)
  unfold readDecimal?
  rw [digits, filled]
  unfold ofDigits
  rw [foldl_digitValue _ _ fun c hc => isDigit_of_mem_toString hc,
    Nat.toString_eq_ofList_toDigits, String.toList_ofList, Nat.ofDigitChars_ten_toDigits]
  rfl

end BundleLens.Number
