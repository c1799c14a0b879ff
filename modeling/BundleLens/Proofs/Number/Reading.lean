import BundleLens.Number.Binary64
import BundleLens.Proofs.Number.Digits
import Mathlib

/-! What decimal numerals read as: their digits without the point, at the place of the last one. -/
namespace BundleLens.Number

theorem ofDigits_append (digits more : List Char) :
    ofDigits 10 (digits ++ more) =
      more.foldl (fun n c => n * 10 + (digitValue? c).getD 0) (ofDigits 10 digits) :=
  List.foldl_append

theorem ofDigits_toString (n : Nat) : ofDigits 10 (toString n).toList = n := by
  have h := readDecimal?_toString n
  unfold readDecimal? at h
  split at h
  · exact Option.some.inj h
  · cases h

theorem toString_inj {k n : Nat} : toString k = toString n ↔ k = n := by
  refine ⟨fun h => ?_, congrArg _⟩
  rw [← ofDigits_toString k, h, ofDigits_toString]

private theorem ofDigits_zeros (k : Nat) : ofDigits 10 (List.replicate k '0') = 0 := by
  induction k with
  | zero => rfl
  | succ k ih =>
    rw [List.replicate_succ', ofDigits_append, ih]
    rfl

theorem ofDigits_zeros_append (k : Nat) (digits : List Char) :
    ofDigits 10 (List.replicate k '0' ++ digits) = ofDigits 10 digits := by
  rw [ofDigits_append, ofDigits_zeros]
  rfl

theorem ofDigits_append_zeros (digits : List Char) (k : Nat) :
    ofDigits 10 (digits ++ List.replicate k '0') = ofDigits 10 digits * 10 ^ k := by
  induction k with
  | zero => rw [List.replicate_zero, List.append_nil, Nat.pow_zero, Nat.mul_one]
  | succ k ih =>
    rw [List.replicate_succ', ← List.append_assoc, ofDigits_append, ih, Nat.pow_succ]
    change ofDigits 10 digits * 10 ^ k * 10 + 0 = _
    rw [Nat.add_zero, Nat.mul_assoc]

/-- A power of ten adds zeros to the decimal form. -/
theorem toList_toString_mul_pow {n : Nat} (positive : 0 < n) (k : Nat) :
    (toString (n * 10 ^ k)).toList = (toString n).toList ++ List.replicate k '0' := by
  induction k with
  | zero => rw [Nat.pow_zero, Nat.mul_one, List.replicate_zero, List.append_nil]
  | succ k ih =>
    have some : 0 < n * 10 ^ k := Nat.mul_pos positive (Nat.pow_pos (by decide))
    rw [List.replicate_succ', ← List.append_assoc, ← ih, Nat.toString_eq_ofList_toDigits,
      Nat.toString_eq_ofList_toDigits, String.toList_ofList, String.toList_ofList,
      Nat.pow_succ, ← Nat.mul_assoc, Nat.mul_comm _ 10, ← Nat.add_zero (10 * _),
      ← Nat.toDigits_append_toDigits (by decide) some (by decide)]
    rfl

namespace Binary64

def pointed : List Char → List Char
  | [] => []
  | part => '.' :: part

variable {negative : Bool} {whole part : List Char}

def Ends (rest : List Char) : Prop := rest = [] ∨ ∃ r, rest = 'e' :: r

private theorem takeWhile_isDigit {rest : List Char} (digits : ∀ c ∈ whole, c.isDigit = true)
    (ends : Ends rest) : (whole ++ rest).takeWhile Char.isDigit = whole := by
  rw [List.takeWhile_append_of_pos digits]
  obtain rfl | ⟨r, rfl⟩ := ends
  · exact List.append_nil whole
  · exact List.append_nil whole

private theorem dropWhile_isDigit {rest : List Char} (digits : ∀ c ∈ whole, c.isDigit = true)
    (ends : Ends rest) : (whole ++ rest).dropWhile Char.isDigit = rest := by
  rw [List.dropWhile_append_of_pos digits]
  obtain rfl | ⟨r, rfl⟩ := ends
  · rfl
  · rfl

private theorem readMagnitude?_eq {rest : List Char} (filled : whole ≠ [])
    (digits : ∀ c ∈ whole, c.isDigit = true) (decimals : ∀ c ∈ part, c.isDigit = true)
    (ends : Ends rest) :
    readMagnitude? negative (whole ++ (pointed part ++ rest)) =
      match rest with
      | [] => some (ofScientific negative (ofDigits 10 (whole ++ part)) (-(part.length : Int)))
      | _ :: r => (readExponent? r).map fun x =>
        ofScientific negative (ofDigits 10 (whole ++ part)) (x - part.length) := by
  have leading : (whole ++ (pointed part ++ rest)).takeWhile Char.isDigit = whole := by
    cases part with
    | nil => exact takeWhile_isDigit digits ends
    | cons c part =>
      rw [List.takeWhile_append_of_pos digits]
      exact List.append_nil whole
  unfold readMagnitude?
  simp only [leading, List.drop_left, List.isEmpty_eq_false_iff.mpr filled, Bool.false_and]
  cases part with
  | nil =>
    obtain rfl | ⟨r, rfl⟩ := ends
    · rfl
    · rfl
  | cons c part =>
    simp only [pointed, List.cons_append]
    rw [← List.cons_append, takeWhile_isDigit decimals ends, dropWhile_isDigit decimals ends]
    obtain rfl | ⟨r, rfl⟩ := ends
    · rfl
    · rfl

theorem readMagnitude?_plain (filled : whole ≠ []) (digits : ∀ c ∈ whole, c.isDigit = true)
    (decimals : ∀ c ∈ part, c.isDigit = true) :
    readMagnitude? negative (whole ++ pointed part) =
      some (ofScientific negative (ofDigits 10 (whole ++ part)) (-(part.length : Int))) := by
  have h : readMagnitude? negative (whole ++ (pointed part ++ [])) = _ :=
    readMagnitude?_eq filled digits decimals (.inl rfl)
  rwa [List.append_nil] at h

theorem readMagnitude?_exponent (filled : whole ≠ []) (digits : ∀ c ∈ whole, c.isDigit = true)
    (decimals : ∀ c ∈ part, c.isDigit = true) (power : List Char) :
    readMagnitude? negative (whole ++ (pointed part ++ 'e' :: power)) =
      (readExponent? power).map fun x =>
        ofScientific negative (ofDigits 10 (whole ++ part)) (x - part.length) :=
  readMagnitude?_eq filled digits decimals (.inr ⟨power, rfl⟩)

private theorem toLower_of_isDigit {c : Char} (digit : c.isDigit = true) : c.toLower = c := by
  have small : c.val ≤ '9'.val := of_decide_eq_true (Bool.and_eq_true_iff.mp digit).2
  unfold Char.toLower
  rw [dif_neg fun letter => absurd (UInt32.le_trans letter.1 small) (by decide)]

/-- A text that starts with a digit, perhaps after a minus, is read as a decimal numeral. -/
theorem ofText?_of_isDigit (body : List Char) {c : Char} (digit : c.isDigit = true) :
    ofText? (String.ofList ((if negative then ['-'] else []) ++ c :: body)) =
      readMagnitude? negative (c :: body) := by
  have no_word (first : Char) (letters : List Char) (letter : first.isDigit = false) :
      String.ofList ((c :: body).map Char.toLower) ≠ String.ofList (first :: letters) := by
    intro h
    rw [String.ofList_inj, List.map_cons, toLower_of_isDigit digit] at h
    rw [← (List.cons.inj h).1, digit] at letter
    cases letter
  have not_nan := no_word 'n' ['a', 'n'] rfl
  have not_inf := no_word 'i' ['n', 'f'] rfl
  have not_infinity := no_word 'i' ['n', 'f', 'i', 'n', 'i', 't', 'y'] rfl
  have number (negative : Bool) :
      (if String.ofList ((c :: body).map Char.toLower) = "nan" then some nan
        else if String.ofList ((c :: body).map Char.toLower) = "inf" ∨
          String.ofList ((c :: body).map Char.toLower) = "infinity" then some (infinite negative)
        else readMagnitude? negative (c :: body)) = readMagnitude? negative (c :: body) := by
    rw [if_neg not_nan, if_neg (not_or.mpr ⟨not_inf, not_infinity⟩)]
  unfold ofText?
  rw [String.toList_ofList]
  cases negative with
  | true => exact number true
  | false =>
    simp only [Bool.false_eq_true, if_false, List.nil_append]
    split
    · rename_i h
      rw [(List.cons.inj h).1] at digit
      cases digit
    · rename_i h
      rw [(List.cons.inj h).1] at digit
      cases digit
    · exact number false

theorem readExponent?_plus (n : Nat) : readExponent? ('+' :: (toString n).toList) = some (n : Int) := by
  change (readDecimal? (toString n).toList).map Int.ofNat = _
  rw [readDecimal?_toString]
  rfl

theorem readExponent?_minus (n : Nat) :
    readExponent? ('-' :: (toString n).toList) = some (-(n : Int)) := by
  change ((readDecimal? (toString n).toList).map fun n => -(n : Int)) = _
  rw [readDecimal?_toString]
  rfl

theorem ofText?_toString (n : Nat) : ofText? (toString n) = some (ofScientific false n 0) := by
  obtain ⟨c, r, hd⟩ := List.exists_cons_of_ne_nil (toList_toString_ne_nil n)
  have digits : ∀ d ∈ c :: r, d.isDigit = true := hd ▸ fun d h => isDigit_of_mem_toString h
  have value : ofDigits 10 (c :: r) = n := hd ▸ ofDigits_toString n
  have text : toString n = String.ofList (c :: r) := by rw [← hd, String.ofList_toList]
  have plain : readMagnitude? false (c :: r ++ []) =
      some (ofScientific false (ofDigits 10 (c :: r ++ [])) 0) :=
    @readMagnitude?_plain false (c :: r) [] (List.cons_ne_nil c r) digits (List.forall_mem_nil _)
  rw [List.append_nil, value] at plain
  rw [text, ← plain]
  exact @ofText?_of_isDigit false r c (digits c List.mem_cons_self)

end Binary64

end BundleLens.Number
