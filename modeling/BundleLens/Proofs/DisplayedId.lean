import BundleLens.ModuleId
import BundleLens.Proofs.Number.Digits
import BundleLens.Proofs.Text.Quoted

/-! Ids as they are shown. Names are in quotes, so they are apart from numbers and from each other,
also where a blank and more text follow. -/
namespace BundleLens.ModuleId
open Text Number

variable {id other : ModuleId} {r s : List Char}

theorem isHidden_of_isDigit {c : Char} (digit : c.isDigit = true) : isHidden c = false := by
  have bounds : 48 ≤ c.toNat ∧ c.toNat ≤ 57 := Char.isDigit_iff_toNat.mp digit
  rw [isHidden, if_pos (by omega)]
  simp
  omega

/-- Nothing hidden is shown, in a name neither. -/
theorem isHidden_of_mem_display (id : ModuleId) : ∀ c ∈ id.display.toList, isHidden c = false := by
  cases id with
  | number n =>
    intro c hc
    exact isHidden_of_isDigit (isDigit_of_mem_toString (n := n.toNat) hc)
  | name text => exact isHidden_of_mem_quote text

private theorem toString_append_inj {k n : Nat}
    (h : (toString k).toList ++ ' ' :: r = (toString n).toList ++ ' ' :: s) : k = n ∧ r = s := by
  have digits (m : Nat) (rest : List Char) :
      ((toString m).toList ++ ' ' :: rest).takeWhile Char.isDigit = (toString m).toList := by
    rw [List.takeWhile_append_of_pos fun c hc => isDigit_of_mem_toString hc,
      List.takeWhile_cons_of_neg (by decide), List.append_nil]
  have same := congrArg (List.takeWhile Char.isDigit) h
  rw [digits, digits] at same
  have value := congrArg readDecimal? same
  rw [readDecimal?_toString, readDecimal?_toString, Option.some_inj] at value
  rw [same] at h
  exact ⟨value, (List.cons.inj (List.append_cancel_left h)).2⟩

private theorem toString_append_ne_quote (n : Nat) (text : String) :
    (toString n).toList ++ r ≠ (quote text).toList ++ s := by
  obtain ⟨c, rest, split⟩ := List.exists_cons_of_ne_nil (toList_toString_ne_nil n)
  have digit : c.isDigit = true := isDigit_of_mem_toString (split ▸ List.mem_cons_self)
  intro h
  rw [split, quote, String.toList_ofList] at h
  rw [(List.cons.inj h).1] at digit
  exact absurd digit (by decide)

private theorem quote_append_inj {text more : String}
    (h : (quote text).toList ++ r = (quote more).toList ++ s) : text = more ∧ r = s := by
  simp only [quote, String.toList_ofList, List.cons_append, List.append_assoc, List.nil_append] at h
  obtain ⟨same, rest⟩ := quoted_inj (List.cons.inj h).2
  exact ⟨String.toList_inj.mp same, rest⟩

/-- An id before a blank can be told from all others. -/
theorem display_append_inj
    (h : id.display.toList ++ ' ' :: r = other.display.toList ++ ' ' :: s) : id = other ∧ r = s := by
  cases id with
  | number k =>
    cases other with
    | number n =>
      obtain ⟨same, rest⟩ := toString_append_inj (k := k.toNat) (n := n.toNat) h
      exact ⟨congrArg number (UInt64.toNat_inj.mp same), rest⟩
    | name text => exact (toString_append_ne_quote k.toNat text h).elim
  | name text =>
    cases other with
    | number n => exact (toString_append_ne_quote n.toNat text h.symm).elim
    | name more =>
      obtain ⟨same, rest⟩ := quote_append_inj h
      exact ⟨congrArg name same, (List.cons.inj rest).2⟩

theorem display_inj : id.display = other.display ↔ id = other := by
  constructor
  · intro h
    exact (display_append_inj (r := []) (s := []) (by rw [h])).1
  · exact congrArg display

end BundleLens.ModuleId
