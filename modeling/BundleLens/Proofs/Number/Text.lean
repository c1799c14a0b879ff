import BundleLens.Proofs.Number.Reading
import BundleLens.Proofs.Number.Spelling

/-! Numbers as text: what a script makes of them, and what is printed. Both read back, so neither
gives one text to two numbers. The two differ for infinity, negative zero, ties, and magnitudes that
a script writes with an exponent. -/
namespace BundleLens.Number.Binary64

def sign (negative : Bool) : String := if negative then "-" else ""

theorem sign_false : sign false = "" := rfl

/-- Digits as a script writes them. There is an exponent if the point is more than 21 places after
the first digit, or more than six before it. -/
def layout (s : Nat) (p : Int) : String :=
  let digits := (toString s).toList
  let point := (digits.length : Int) + p
  if -6 < point ∧ point ≤ 21 then
    if 0 ≤ p then String.ofList (digits ++ List.replicate p.toNat '0')
    else if 0 < point then
      String.ofList (digits.take point.toNat ++ '.' :: digits.drop point.toNat)
    else String.ofList ('0' :: '.' :: (List.replicate (-point).toNat '0' ++ digits))
  else
    let power := (if 0 < point then '+' else '-') :: (toString (point - 1).natAbs).toList
    String.ofList (digits.take 1 ++ (pointed (digits.drop 1) ++ 'e' :: power))

inductive Spelled : Binary64 → String → Prop
  | nan : Spelled .nan "NaN"
  | infinite (negative : Bool) : Spelled (.infinite negative) (sign negative ++ "Infinity")
  | zero (negative : Bool) {e : Int} (fits : Fits 0 e) : Spelled (.finite negative 0 e fits) "0"
  | finite {m s : Nat} {e p : Int} (negative : Bool) (fits : Fits m e) (positive : 0 < m)
    (spelling : IsSpelling m e fits s p) :
    Spelled (.finite negative m e fits) (sign negative ++ layout s p)

def plain : Binary64 → Binary64
  | .finite _ 0 e fits => .finite false 0 e fits
  | value => value

variable {m d s : Nat} {e p : Int} {v w : Binary64} {text other : String} {negative : Bool}

theorem exists_spelled (v : Binary64) : ∃ text, Spelled v text := by
  cases v with
  | nan => exact ⟨_, .nan⟩
  | infinite negative => exact ⟨_, .infinite negative⟩
  | finite negative m e fits =>
    rcases Nat.eq_zero_or_pos m with rfl | positive
    · exact ⟨_, .zero negative fits⟩
    · obtain ⟨s, unique, -⟩ := (shortest_isShortest positive fits).exists_spelling positive fits
      exact ⟨_, .finite negative fits positive ((unique _ _).mpr rfl)⟩

theorem IsSpelling.unique {fits : Fits m e} {t : Nat} {q : Int} (positive : 0 < m)
    (h : IsSpelling m e fits s p) (h' : IsSpelling m e fits t q) : (s, p) = (t, q) := by
  obtain ⟨k, unique, -⟩ := (shortest_isShortest positive fits).exists_spelling positive fits
  rw [(unique s p).mp h, (unique t q).mp h']

theorem Spelled.unique (h : Spelled v text) (h' : Spelled v other) : text = other := by
  cases h with
  | nan =>
    cases h'
    rfl
  | infinite =>
    cases h'
    rfl
  | zero =>
    cases h' with
    | zero => rfl
    | finite _ _ positive => cases positive
  | finite _ _ positive spelling =>
    cases h' with
    | zero => cases positive
    | finite _ _ _ spelling' =>
      obtain ⟨rfl, rfl⟩ := Prod.mk.inj (spelling.unique positive spelling')
      rfl

/-- What is printed of a number is what a script spells it with, but for a tie. -/
theorem IsSpelling.shortest_eq {fits : Fits m e} (positive : 0 < m)
    (h : IsSpelling m e fits s p) : Covers m e (s * 10 ^ p) ∧ (shortest m e).2 = p ∧
      ((shortest m e).1 = s ↔ ¬ IsHalfway m e s p) := by
  obtain ⟨k, unique, covered, tie, single⟩ :=
    (shortest_isShortest positive fits).exists_spelling positive fits
  obtain ⟨rfl, rfl⟩ := Prod.mk.inj ((unique s p).mp h)
  refine ⟨covered, rfl, fun same halfway => ?_, single⟩
  have := tie halfway
  omega

/-- Printed digits are the spelling if no tie was settled upwards. -/
theorem isSpelling_of_shortest (positive : 0 < m) (fits : Fits m e) (h : shortest m e = (s, p))
    (single : ¬ IsHalfway m e (s - 1) p) : IsSpelling m e fits s p := by
  obtain ⟨k, unique, -, tie, same⟩ :=
    (shortest_isShortest positive fits).exists_spelling positive fits
  rw [h] at unique tie same
  dsimp only at unique tie same
  refine (unique s p).mpr (congrArg (·, p) (same fun halfway => single ?_))
  rw [tie halfway]
  exact halfway

theorem layout_eq_positional (low : -6 < (width s : Int) + p) (high : (width s : Int) + p ≤ 21) :
    layout s p = positional s p := by
  unfold width at low high
  unfold layout positional
  simp only [String.length_toList]
  rw [if_pos ⟨low, high⟩]
  split_ifs with whole point
  · rfl
  · have none : (-p).toNat + 1 - (toString s).length = 0 := by omega
    have cut : (toString s).length - (-p).toNat = ((toString s).length + p).toNat := by omega
    rw [none, List.replicate_zero, List.nil_append, String.length_toList, cut]
  · have zeros : (-p).toNat + 1 - (toString s).length =
        (-((toString s).length + p)).toNat + 1 := by omega
    rw [zeros, List.length_append, List.length_replicate, String.length_toList,
      show (-(((toString s).length : Int) + p)).toNat + 1 + (toString s).length - (-p).toNat = 1 by omega,
      List.replicate_succ]
    rfl

private theorem positional_parts (s : Nat) (p : Int) : ∃ whole part,
    (positional s p).toList = whole ++ pointed part ∧ whole ≠ [] ∧
      (∀ c ∈ whole ++ part, c.isDigit = true) ∧ part.length = (-p).toNat ∧
      ofDigits 10 (whole ++ part) = s * 10 ^ p.toNat := by
  have digits : ∀ c ∈ (toString s).toList, c.isDigit = true := fun c hc => isDigit_of_mem_toString hc
  have zeros (k : Nat) : ∀ c ∈ List.replicate k '0', c.isDigit = true := fun c hc => by
    rw [List.eq_of_mem_replicate hc]
    rfl
  have filled := toList_toString_ne_nil s
  unfold positional
  dsimp only
  split_ifs with place
  · refine ⟨(toString s).toList ++ List.replicate p.toNat '0', [], ?_, ?_, ?_, ?_, ?_⟩
    · rw [String.toList_ofList]
      exact (List.append_nil _).symm
    · exact List.append_ne_nil_of_left_ne_nil filled _
    · rw [List.append_nil]
      exact List.forall_mem_append.mpr ⟨digits, zeros _⟩
    · rw [Int.toNat_of_nonpos (by omega)]
      rfl
    · rw [List.append_nil, ofDigits_append_zeros, ofDigits_toString]
  · obtain ⟨padded, hp⟩ : ∃ padded, padded =
        List.replicate ((-p).toNat + 1 - (toString s).toList.length) '0' ++ (toString s).toList :=
      ⟨_, rfl⟩
    have long : (-p).toNat < padded.length := by
      rw [hp, List.length_append, List.length_replicate]
      omega
    rw [← hp]
    have after : (padded.drop (padded.length - (-p).toNat)).length = (-p).toNat := by
      rw [List.length_drop]
      omega
    refine ⟨padded.take (padded.length - (-p).toNat), padded.drop (padded.length - (-p).toNat),
      ?_, ?_, ?_, after, ?_⟩
    · obtain ⟨c, r, hr⟩ := List.exists_cons_of_length_pos (by omega : 0 < (padded.drop
        (padded.length - (-p).toNat)).length)
      rw [String.toList_ofList, hr]
      rfl
    · rw [← List.length_pos_iff, List.length_take]
      omega
    · rw [List.take_append_drop, hp]
      exact List.forall_mem_append.mpr ⟨zeros _, digits⟩
    · rw [List.take_append_drop, hp, ofDigits_zeros_append, ofDigits_toString,
        Int.toNat_of_nonpos (by omega), Nat.pow_zero, Nat.mul_one]

private theorem filter_pointed (part : List Char) (digits : ∀ c ∈ part, c.isDigit = true) :
    (pointed part).filter Char.isDigit = part := by
  cases part with
  | nil => rfl
  | cons c part => exact List.filter_eq_self.mpr digits

private theorem positional_injective (h : positional s p = positional d p) : s = d := by
  have value (n : Nat) : ofDigits 10 ((positional n p).toList.filter Char.isDigit) =
      n * 10 ^ p.toNat := by
    obtain ⟨whole, part, text, -, digits, -, value⟩ := positional_parts n p
    obtain ⟨hw, hp⟩ := List.forall_mem_append.mp digits
    rw [text, List.filter_append, List.filter_eq_self.mpr hw, filter_pointed part hp, value]
  have same := (value s).symm.trans ((congrArg _ (by rw [h])).trans (value d))
  exact Nat.eq_of_mul_eq_mul_right (Nat.pow_pos (by decide)) same

def IsNumeral (text : List Char) (q : ℚ) : Prop :=
  (∃ c r, text = c :: r ∧ c.isDigit = true) ∧ ∀ negative, ∃ digits x,
    readMagnitude? negative text = some (ofScientific negative digits x) ∧
      (digits : ℚ) * 10 ^ x = q

private theorem positional_isNumeral (s : Nat) (p : Int) :
    IsNumeral (positional s p).toList (s * 10 ^ p) := by
  obtain ⟨whole, part, text, filled, digits, places, value⟩ := positional_parts s p
  obtain ⟨hw, hp⟩ := List.forall_mem_append.mp digits
  rw [text]
  refine ⟨?_, fun negative => ⟨_, _, readMagnitude?_plain filled hw hp, ?_⟩⟩
  · obtain ⟨c, r, rfl⟩ := List.exists_cons_of_ne_nil filled
    exact ⟨c, _, rfl, hw c List.mem_cons_self⟩
  · rw [value, places, zpow_neg, zpow_natCast, zpow_eq_div 10 p]
    push_cast
    ring

private theorem layout_isNumeral (s : Nat) (p : Int) :
    IsNumeral (layout s p).toList (s * 10 ^ p) := by
  by_cases range : -6 < (width s : Int) + p ∧ (width s : Int) + p ≤ 21
  · rw [layout_eq_positional range.1 range.2]
    exact positional_isNumeral s p
  have digits : ∀ c ∈ (toString s).toList, c.isDigit = true := fun c hc => isDigit_of_mem_toString hc
  have filled := toList_toString_ne_nil s
  unfold width at range
  unfold layout
  simp only [String.length_toList]
  rw [if_neg range, String.toList_ofList]
  have value := ofDigits_toString s
  have long : (toString s).length = (toString s).toList.length := String.length_toList.symm
  generalize (toString s).toList = text at *
  obtain ⟨c, r, rfl⟩ := List.exists_cons_of_ne_nil filled
  rw [List.length_cons] at long
  generalize hp : ((toString s).length : Int) + p = point at *
  have exponent : readExponent?
      ((if 0 < point then '+' else '-') :: (toString (point - 1).natAbs).toList) =
        some (point - 1) := by
    split_ifs with large
    · rw [readExponent?_plus]
      congr 1
      omega
    · rw [readExponent?_minus]
      congr 1
      omega
  have first : ∀ d ∈ [c], d.isDigit = true := List.forall_mem_singleton.mpr (digits c List.mem_cons_self)
  refine ⟨⟨c, _, rfl, digits c List.mem_cons_self⟩, fun negative =>
    ⟨ofDigits 10 (c :: r), point - 1 - r.length, ?_, ?_⟩⟩
  · refine (readMagnitude?_exponent (List.cons_ne_nil c []) first
      (fun d hd => digits d (List.mem_cons_of_mem c hd)) _).trans ?_
    rw [exponent]
    rfl
  · rw [value, show point - 1 - (r.length : Int) = p by omega]

/-- A numeral is read as the double that covers it. -/
theorem IsNumeral.reads {chars : List Char} {q : ℚ} (h : IsNumeral chars q) (positive : 0 < m)
    (fits : Fits m e) (covered : Covers m e q) (negative : Bool) :
    ofText? (sign negative ++ String.ofList chars) = some (.finite negative m e fits) := by
  obtain ⟨⟨c, r, rfl, digit⟩, numeral⟩ := h
  obtain ⟨digits, x, value, rfl⟩ := numeral negative
  have signed : sign negative ++ String.ofList (c :: r) =
      String.ofList ((if negative then ['-'] else []) ++ c :: r) := by
    rw [← String.toList_inj, String.toList_append, String.toList_ofList, String.toList_ofList]
    cases negative <;> rfl
  rw [signed, ofText?_of_isDigit r digit, value,
    (ofScientific_eq_finite_iff (covers_pos positive covered) positive fits).mpr covered]

theorem text_finite (positive : 0 < m) (fits : Fits m e) :
    (Binary64.finite negative m e fits).text =
      sign negative ++ positional (shortest m e).1 (shortest m e).2 := by
  unfold text
  dsimp only
  rw [if_neg positive.ne']
  rfl

/-- What is printed of a number reads back. -/
theorem ofText?_text (v : Binary64) : ofText? v.text = some v := by
  cases v with
  | nan => decide
  | infinite negative => cases negative <;> decide
  | finite negative m e fits =>
    rcases Nat.eq_zero_or_pos m with rfl | positive
    · obtain rfl : e = -1074 := fits.2.2.2.resolve_left (by decide)
      cases negative with
      | true =>
        change ofText? "-0" = _
        rfl
      | false =>
        change ofText? "0" = _
        rfl
    · have read := (positional_isNumeral (shortest m e).1 (shortest m e).2).reads positive fits
        (shortest_isShortest positive fits).covered negative
      rw [String.ofList_toList] at read
      rw [text_finite positive, read]

/-- What a script makes of a number reads back, the sign of a zero aside. -/
theorem Spelled.reads (h : Spelled v text) : ofText? text = some v.plain := by
  cases h with
  | nan => decide
  | infinite negative => cases negative <;> decide
  | zero negative fits =>
    rename_i e
    obtain rfl : e = -1074 := fits.2.2.2.resolve_left (by decide)
    rfl
  | finite negative fits positive spelling =>
    rename_i m s e p
    have read := (layout_isNumeral s p).reads positive fits (spelling.shortest_eq positive).1 negative
    rw [String.ofList_toList] at read
    rw [read]
    cases m with
    | zero => cases positive
    | succ m => rfl

theorem Spelled.plain (h : Spelled v text) : Spelled v.plain text := by
  cases h with
  | nan => exact .nan
  | infinite negative => exact .infinite negative
  | zero negative fits => exact .zero false fits
  | @finite m s e p negative fits positive spelling =>
    cases m with
    | zero => cases positive
    | succ m => exact .finite negative fits positive spelling

/-- Whether digits are written without an exponent. -/
def IsModerate (s : Nat) (p : Int) : Prop :=
  (10 : ℚ) ^ (-6 : Int) ≤ s * 10 ^ p ∧ (s : ℚ) * 10 ^ p < 10 ^ (21 : Int)

theorem isModerate_iff (positive : 0 < s) :
    IsModerate s p ↔ -6 < (width s : Int) + p ∧ (width s : Int) + p ≤ 21 := by
  have some := width_pos (s := s)
  have low : (10 : ℚ) ^ ((width s : Int) + p - 1) ≤ s * 10 ^ p := by
    rw [show (width s : Int) + p - 1 = (width s - 1 : Nat) + p by omega, zpow_add₀ (by norm_num),
      zpow_natCast]
    gcongr
    exact_mod_cast pow_width_le positive
  have high : (s : ℚ) * 10 ^ p < 10 ^ ((width s : Int) + p) := by
    rw [zpow_add₀ (by norm_num), zpow_natCast]
    gcongr
    exact_mod_cast lt_pow_width
  have ten : (1 : ℚ) < 10 := by norm_num
  constructor
  · rintro ⟨least, most⟩
    have above := (zpow_lt_zpow_iff_right₀ ten).mp (least.trans_lt high)
    have below := (zpow_lt_zpow_iff_right₀ ten).mp (low.trans_lt most)
    exact ⟨above, by omega⟩
  · rintro ⟨above, below⟩
    exact ⟨(zpow_le_zpow_right₀ ten.le (by omega)).trans low,
      high.trans_le (zpow_le_zpow_right₀ ten.le below)⟩

private theorem not_mem_positional : 'e' ∉ (positional s p).toList := by
  obtain ⟨whole, part, text, -, digits, -, -⟩ := positional_parts s p
  obtain ⟨hw, hp⟩ := List.forall_mem_append.mp digits
  rw [text, List.mem_append]
  rintro (he | he)
  · exact absurd (hw _ he) (by decide)
  · cases part with
    | nil => cases he
    | cons c part =>
      obtain same | he := List.mem_cons.mp he
      · cases same
      · exact absurd (hp _ he) (by decide)

/-- Digits that are not moderate are written with an exponent, and never printed so. -/
theorem isModerate_of_layout_eq (positive : 0 < s) (h : layout s p = positional d p) :
    IsModerate s p := by
  rw [isModerate_iff positive]
  by_contra range
  apply not_mem_positional (s := d) (p := p)
  rw [← h]
  unfold width at range
  unfold layout
  simp only [String.length_toList]
  rw [if_neg range, String.toList_ofList]
  simp

/-- A number is printed as a script spells it exactly if its digits are moderate and there is no tie. -/
theorem IsSpelling.text_eq_iff {fits : Fits m e} (positive : 0 < m)
    (h : IsSpelling m e fits s p) : (finite negative m e fits).text = sign negative ++ layout s p ↔
      IsModerate s p ∧ ¬ IsHalfway m e s p := by
  obtain ⟨covered, place, same⟩ := h.shortest_eq positive
  have some := covers_pos positive covered
  rw [text_finite positive, place, String.append_right_inj, ← same]
  constructor
  · intro printed
    have moderate := isModerate_of_layout_eq some printed.symm
    obtain ⟨low, high⟩ := (isModerate_iff some).mp moderate
    rw [layout_eq_positional low high] at printed
    exact ⟨moderate, positional_injective printed⟩
  · rintro ⟨moderate, rfl⟩
    obtain ⟨low, high⟩ := (isModerate_iff some).mp moderate
    exact (layout_eq_positional low high).symm

end BundleLens.Number.Binary64
