import BundleLens.Proofs.Bundle.EntryKey
import BundleLens.Proofs.NumberId

/-! Ids of table keys and the property keys they stand for. Texts keep apart what a script keeps apart,
and so do numbers among themselves. A number and a text agree if the id of the number is made from
the text that a script makes of it, which is not so for all numbers. -/
namespace BundleLens.ModuleId
open Number Binary64

variable {v w : Binary64} {text other : String}

def keyOfNumber (v : Binary64) : String :=
  match v.toNat? with
  | some n => if n ≤ UInt64.size then toString (min n (UInt64.size - 1)) else v.text
  | none => v.text

private theorem keyOfNumber_of_toNat? {n : Nat} (h : v.toNat? = some n) (small : n ≤ UInt64.size) :
    keyOfNumber v = toString (min n (UInt64.size - 1)) := by
  unfold keyOfNumber
  rw [h]
  exact if_pos small

private theorem keyOfNumber_eq_text (h : ∀ n, v.toNat? = some n → UInt64.size < n) :
    keyOfNumber v = v.text := by
  unfold keyOfNumber
  cases hv : v.toNat? with
  | none => rfl
  | some n => exact if_neg (Nat.not_le_of_lt (h n hv))

/-- A number is a natural number up to `2 ^ 64`, or its key is its text, which is no such number's. -/
private theorem keyOfNumber_cases (v : Binary64) :
    (∃ n, v.toNat? = some n ∧ n ≤ UInt64.size ∧
      keyOfNumber v = toString (min n (UInt64.size - 1))) ∨
    (∀ n, v.toNat? = some n → UInt64.size < n) ∧ keyOfNumber v = v.text ∧ ¬ IsDecimal v.text := by
  by_cases small : ∃ n, v.toNat? = some n ∧ n ≤ UInt64.size
  · obtain ⟨n, value, small⟩ := small
    exact .inl ⟨n, value, small, keyOfNumber_of_toNat? value small⟩
  · have large : ∀ n, v.toNat? = some n → UInt64.size < n := fun n value =>
      not_le.mp fun le => small ⟨n, value, le⟩
    exact .inr ⟨large, keyOfNumber_eq_text large, fun ⟨k, hk, same⟩ =>
      small (toNat?_of_text_eq same hk)⟩

private theorem ofNumericKey_eq (v : Binary64) : ofNumericKey v = ofKey (keyOfNumber v) := by
  unfold ofNumericKey ofNumber?
  obtain ⟨n, value, small, key⟩ | ⟨large, key, named⟩ := keyOfNumber_cases v
  · rw [key, ofKey_toString (min_lt_size n), value]
    dsimp only
    rw [if_pos small]
    rfl
  · rw [key, ofKey_of_not_isDecimal named]
    cases value : v.toNat? with
    | none => rfl
    | some n =>
      dsimp only
      rw [if_neg (Nat.not_le_of_lt (large n value))]
      rfl

/-- A number whose id is the one of its property key. It is a natural number below `2 ^ 64` that is
spelled with its own digits, or no such number, but one that is spelled without an exponent and not
halfway between two spellings. -/
inductive IsKept : Binary64 → Prop
  | nan : IsKept .nan
  | zero (negative : Bool) {e : Int} (fits : Fits 0 e) : IsKept (.finite negative 0 e fits)
  | whole {m s n : Nat} {e p : Int} (negative : Bool) {fits : Fits m e} (positive : 0 < m)
    (spelling : IsSpelling m e fits s p) (value : (finite negative m e fits).toNat? = some n)
    (small : n < UInt64.size) (exact : (s : ℚ) * 10 ^ p = n) : IsKept (.finite negative m e fits)
  | other {m s : Nat} {e p : Int} (negative : Bool) {fits : Fits m e} (positive : 0 < m)
    (spelling : IsSpelling m e fits s p)
    (large : ∀ n, (finite negative m e fits).toNat? = some n → UInt64.size < n)
    (moderate : IsModerate s p) (single : ¬ IsHalfway m e s p) : IsKept (.finite negative m e fits)

section Finite

variable {m s n : Nat} {e p : Int} {negative : Bool} {fits : Fits m e} (positive : 0 < m)
  (spelling : IsSpelling m e fits s p)

include positive spelling

private theorem isKept_whole_iff (value : (finite negative m e fits).toNat? = some n)
    (small : n ≤ UInt64.size) : IsKept (.finite negative m e fits) ↔
      n < UInt64.size ∧ (s : ℚ) * 10 ^ p = n := by
  constructor
  · intro kept
    cases kept with
    | zero => cases positive
    | whole _ _ spelling' value' small exact =>
      obtain ⟨rfl, rfl⟩ := Prod.mk.inj (spelling.unique positive spelling')
      cases value.symm.trans value'
      exact ⟨small, exact⟩
    | other _ _ _ large =>
      have := large n value
      omega
  · rintro ⟨small, exact⟩
    exact .whole negative positive spelling value small exact

private theorem isKept_other_iff
    (large : ∀ n, (finite negative m e fits).toNat? = some n → UInt64.size < n) :
    IsKept (.finite negative m e fits) ↔ IsModerate s p ∧ ¬ IsHalfway m e s p := by
  constructor
  · intro kept
    cases kept with
    | zero => cases positive
    | whole _ _ _ value small =>
      have := large _ value
      omega
    | other _ _ spelling' _ moderate single =>
      obtain ⟨rfl, rfl⟩ := Prod.mk.inj (spelling.unique positive spelling')
      exact ⟨moderate, single⟩
  · rintro ⟨moderate, single⟩
    exact .other negative positive spelling large moderate single

private theorem keyOfNumber_eq_layout_iff : keyOfNumber (.finite negative m e fits) =
    sign negative ++ layout s p ↔ IsKept (.finite negative m e fits) := by
  obtain ⟨n, value, small, key⟩ | ⟨large, key, -⟩ := keyOfNumber_cases (.finite negative m e fits)
  · obtain ⟨whole, unsigned⟩ := (toNat?_eq_some_iff fits).mp value
    obtain rfl : negative = false := by
      cases negative with
      | true => exact absurd (unsigned rfl) positive.ne'
      | false => rfl
    obtain ⟨exact, -⟩ := spelling.covers_digits positive whole
    rw [key, isKept_whole_iff positive spelling value small, exact, Nat.cast_inj, sign_false,
      String.empty_append, spelling.layout_eq_toString positive whole small, toString_inj]
    rcases small.lt_or_eq with less | rfl
    · rw [Nat.min_eq_left (by omega), and_iff_right less, eq_comm]
    · have := spelling.ne_max positive whole
      omega
  · rw [key, isKept_other_iff positive spelling large]
    exact spelling.text_eq_iff positive

end Finite

/-- The id of a number is made from the text that a script makes of it exactly if it is kept. -/
theorem keyOfNumber_eq_iff (h : Spelled v text) : keyOfNumber v = text ↔ IsKept v := by
  cases h with
  | nan => exact ⟨fun _ => .nan, fun _ => rfl⟩
  | infinite negative =>
    refine ⟨fun same => ?_, nofun⟩
    cases negative with
    | true => exact absurd same (by decide)
    | false => exact absurd same (by decide)
  | zero negative fits =>
    exact ⟨fun _ => .zero negative fits, fun _ =>
      keyOfNumber_of_toNat? (toNat?_zero negative fits) (Nat.zero_le _)⟩
  | finite negative fits positive spelling => exact keyOfNumber_eq_layout_iff positive spelling

private theorem plain_eq_of_keyOfNumber_eq (h : keyOfNumber v = keyOfNumber w) :
    v.plain = w.plain := by
  obtain ⟨n, value, small, hv⟩ | ⟨-, hv, named⟩ := keyOfNumber_cases v
  · obtain ⟨k, value', small', hw⟩ | ⟨-, hw, named⟩ := keyOfNumber_cases w
    · rw [hv, hw, toString_inj] at h
      obtain rfl := eq_of_min_eq value value' small small' h
      exact plain_eq_of_toNat? value value'
    · exact absurd ⟨_, min_lt_size n, (hw ▸ hv ▸ h).symm⟩ named
  · obtain ⟨k, -, -, hw⟩ | ⟨-, hw, -⟩ := keyOfNumber_cases w
    · exact absurd ⟨_, min_lt_size k, hv ▸ hw ▸ h⟩ named
    · rw [hv, hw] at h
      have read := (ofText?_text v).symm.trans (h ▸ ofText?_text w)
      rw [Option.some.inj read]

private theorem keyOfNumber_plain (v : Binary64) : keyOfNumber v.plain = keyOfNumber v := by
  cases v with
  | nan | infinite => rfl
  | finite negative m e fits =>
    cases m with
    | zero =>
      rw [keyOfNumber_of_toNat? (toNat?_zero negative fits) (Nat.zero_le _)]
      exact keyOfNumber_of_toNat? (toNat?_zero false fits) (Nat.zero_le _)
    | succ m => rfl

/-- Two numbers have one id exactly if a script makes one text of them. -/
theorem keyOfNumber_eq_keyOfNumber_iff (hv : Spelled v text) (hw : Spelled w other) :
    keyOfNumber v = keyOfNumber w ↔ text = other := by
  constructor
  · intro same
    have spelled := hv.plain
    rw [plain_eq_of_keyOfNumber_eq same] at spelled
    exact spelled.unique hw.plain
  · rintro rfl
    have read := hv.reads.symm.trans hw.reads
    rw [← keyOfNumber_plain v, Option.some.inj read, keyOfNumber_plain]

private theorem isKept_of_small {n : Nat} (value : v.toNat? = some n) (small : n < 2 ^ 53) :
    IsKept v := by
  cases v with
  | nan | infinite => cases value
  | finite negative m e fits =>
    rcases Nat.eq_zero_or_pos m with rfl | positive
    · exact .zero negative fits
    · obtain ⟨s, unique, -⟩ := (shortest_isShortest positive fits).exists_spelling positive fits
      have spelling := (unique _ _).mpr rfl
      have whole := ((toNat?_eq_some_iff fits).mp value).1
      exact .whole negative positive spelling value (small.trans (by decide))
        (spelling.eq_of_small positive whole small)

end BundleLens.ModuleId

namespace BundleLens.Bundle
open Script Number ModuleId Binary64

variable {key other : Key} {text text' : String} {v : Binary64}

/-- The property key that a key of an object literal denotes: the text it holds, or what a script makes
of its number. -/
inductive Denotes : Key → String → Prop
  | identifier (name : String) : Denotes (.identifier name) name
  | string (text : String) : Denotes (.string text) text
  | number {v : Binary64} {text : String} (h : Spelled v text) : Denotes (.number v) text

def takenText? : Key → Option String
  | .identifier text | .string text => some text
  | .number v => some (keyOfNumber v)
  | .unsupported => none

/-- A number that is not kept, beside a text that has its id or is its property key. -/
def Strays (key other : Key) : Prop :=
  ∃ v text, key = .number v ∧ ¬ IsKept v ∧ (other = .identifier text ∨ other = .string text) ∧
    (Table.idOfKey? key = Table.idOfKey? other ∨ Denotes key text)

theorem idOfKey?_eq (key : Key) : Table.idOfKey? key = (takenText? key).map ofKey := by
  cases key with
  | identifier | string | unsupported => rfl
  | number v => exact congrArg some (ofNumericKey_eq v)

private theorem idOfKey?_eq_iff : Table.idOfKey? key = Table.idOfKey? other ↔
    takenText? key = takenText? other := by
  rw [idOfKey?_eq, idOfKey?_eq]
  exact (Option.map_injective fun _ _ => ofKey_injective).eq_iff

private theorem Denotes.unique (h : Denotes key text) (h' : Denotes key text') : text = text' := by
  cases h with
  | identifier | string =>
    cases h'
    rfl
  | number h =>
    cases h' with
    | number h' => exact h.unique h'

private theorem exists_denotes {id : ModuleId} (h : Table.idOfKey? key = some id) :
    ∃ text, Denotes key text := by
  cases key with
  | identifier name => exact ⟨_, .identifier name⟩
  | string text => exact ⟨_, .string text⟩
  | number v =>
    obtain ⟨text, spelled⟩ := exists_spelled v
    exact ⟨_, .number spelled⟩
  | unsupported => cases h

/-- Numbers below `2 ^ 53` denote their decimal forms. -/
private theorem denotes_of_denotedKey? (h : denotedKey? key = some text) : Denotes key text := by
  cases key with
  | identifier | string =>
    cases h
    constructor
  | number v =>
    obtain ⟨n, counted, rfl⟩ := Option.map_eq_some_iff.mp h
    obtain ⟨value, small⟩ := Option.filter_eq_some_iff.mp counted
    have small : n < 2 ^ 53 := of_decide_eq_true small
    obtain ⟨text, spelled⟩ := exists_spelled v
    have taken := (keyOfNumber_eq_iff spelled).mpr (isKept_of_small value small)
    have size : n < UInt64.size := small.trans (by decide)
    rw [keyOfNumber_of_toNat? value size.le, Nat.min_eq_left (Nat.le_sub_one_of_lt size)] at taken
    exact .number (taken ▸ spelled)
  | unsupported => cases h

private theorem strays_number_iff (spelled : Spelled v text)
    (named : other = .identifier text' ∨ other = .string text') :
    Strays (.number v) other ↔ ¬ IsKept v ∧ (keyOfNumber v = text' ∨ text = text') := by
  have taken : takenText? other = some text' := by
    obtain rfl | rfl := named <;> rfl
  have same : Table.idOfKey? (.number v) = Table.idOfKey? other ↔ keyOfNumber v = text' := by
    rw [idOfKey?_eq_iff, taken]
    exact Option.some_inj
  constructor
  · rintro ⟨_, t, ⟨⟩, stray, named', alike⟩
    obtain rfl : text' = t := by
      obtain rfl | rfl := named <;> obtain h | h := named' <;> cases h <;> rfl
    refine ⟨stray, alike.imp same.mp fun denotes => ?_⟩
    cases denotes with
    | number spelled' => exact spelled.unique spelled'
  · rintro ⟨stray, alike⟩
    refine ⟨v, text', rfl, stray, named, alike.imp same.mpr ?_⟩
    rintro rfl
    exact .number spelled

/-- The key of a number and its text are one, or each of them is apart from the other. -/
theorem keyOfNumber_agrees_iff (spelled : Spelled v text)
    (named : other = .identifier text' ∨ other = .string text') :
    (keyOfNumber v = text' ↔ text = text') ↔ ¬ Strays (.number v) other := by
  rw [strays_number_iff spelled named, ← keyOfNumber_eq_iff spelled]
  constructor
  · rintro agrees ⟨apart, same | same⟩
    · exact apart (same.trans (agrees.mp same).symm)
    · exact apart ((agrees.mpr same).trans same.symm)
  · intro steady
    by_cases same : keyOfNumber v = text
    · rw [same]
    · exact ⟨fun h => absurd ⟨same, .inl h⟩ steady, fun h => absurd ⟨same, .inr h⟩ steady⟩

private theorem not_strays_of_text (named : key = .identifier text ∨ key = .string text) :
    ¬ Strays key other := by
  rintro ⟨v, -, rfl, -⟩
  obtain h | h := named <;> cases h

private theorem not_strays_to_number : ¬ Strays key (.number v) := by
  rintro ⟨_, _, -, -, h | h, -⟩ <;> cases h

private theorem Denotes.cases (h : Denotes key text) :
    (key = .identifier text ∨ key = .string text) ∧ takenText? key = some text ∨
      ∃ v, key = .number v ∧ Spelled v text := by
  cases h with
  | identifier => exact .inl ⟨.inl rfl, rfl⟩
  | string => exact .inl ⟨.inr rfl, rfl⟩
  | number spelled => exact .inr ⟨_, rfl, spelled⟩

private theorem takenText?_agrees_iff (h : Denotes key text) (h' : Denotes other text') :
    (takenText? key = takenText? other ↔ text = text') ↔
      ¬ Strays key other ∧ ¬ Strays other key := by
  obtain ⟨named, taken⟩ | ⟨v, rfl, spelled⟩ := h.cases
  · obtain ⟨named', taken'⟩ | ⟨w, rfl, spelled'⟩ := h'.cases
    · rw [taken, taken', Option.some_inj]
      exact iff_of_true Iff.rfl ⟨not_strays_of_text named, not_strays_of_text named'⟩
    · rw [taken, eq_comm, @eq_comm _ text, and_iff_right not_strays_to_number]
      exact Iff.trans (iff_congr Option.some_inj Iff.rfl) (keyOfNumber_agrees_iff spelled' named)
  · obtain ⟨named', taken'⟩ | ⟨w, rfl, spelled'⟩ := h'.cases
    · rw [taken', and_iff_left not_strays_to_number]
      exact Iff.trans (iff_congr Option.some_inj Iff.rfl) (keyOfNumber_agrees_iff spelled named')
    · exact iff_of_true (Option.some_inj.trans (keyOfNumber_eq_keyOfNumber_iff spelled spelled'))
        ⟨not_strays_to_number, not_strays_to_number⟩

/-- Keys that have ids denote one property key each. The ids are the same exactly if the property keys
are, unless one is a number that is not kept and the other a text that has its id or is its property
key. Natural numbers below `2 ^ 53` are kept. -/
theorem ids_agree_with_keys_iff {id id' : ModuleId} (accepted : Table.idOfKey? key = some id)
    (accepted' : Table.idOfKey? other = some id') : ∃ text text',
      (∀ t, Denotes key t ↔ t = text) ∧ (∀ t, Denotes other t ↔ t = text') ∧
      ((id = id' ↔ text = text') ↔ ¬ Strays key other ∧ ¬ Strays other key) ∧
      ∀ v n, key = .number v → v.toNat? = some n → n < 2 ^ 53 → IsKept v := by
  obtain ⟨text, h⟩ := exists_denotes accepted
  obtain ⟨text', h'⟩ := exists_denotes accepted'
  refine ⟨text, text', fun t => ⟨fun ht => ht.unique h, fun ht => ht ▸ h⟩,
    fun t => ⟨fun ht => ht.unique h', fun ht => ht ▸ h'⟩, ?_, fun v n _ => isKept_of_small⟩
  have same : id = id' ↔ takenText? key = takenText? other := by
    rw [← idOfKey?_eq_iff, accepted, accepted', Option.some_inj]
  rw [same]
  exact takenText?_agrees_iff h h'

private theorem denotes_of_shortest {m s : Nat} {e p : Int} (fits : Fits m e) (positive : 0 < m)
    (h : shortest m e = (s, p)) (single : ¬ IsHalfway m e (s - 1) p) :
    Denotes (.number (.finite false m e fits)) (layout s p) := by
  have spelled := Spelled.finite false fits positive (isSpelling_of_shortest positive fits h single)
  rw [sign_false, String.empty_append] at spelled
  exact .number spelled

/-- Five is kept, so it has the id of its digit. -/
theorem ids_agree_with_keys_iff_five :
    let five : Binary64 := .finite false 5629499534213120 (-50) (by decide)
    Table.idOfKey? (.number five) = some (.number 5) ∧
      Table.idOfKey? (.string "5") = some (.number 5) ∧ Denotes (.number five) "5" ∧ IsKept five ∧
      ¬ Strays (.number five) (.string "5") := by
  intro five
  have accepted : Table.idOfKey? (.number five) = some (.number 5) := by decide +kernel
  have accepted' : Table.idOfKey? (.string "5") = some (.number 5) := by decide +kernel
  have denotes : Denotes (.number five) "5" := denotes_of_denotedKey? (by decide +kernel)
  obtain ⟨text, text', only, sole, agrees, small⟩ := ids_agree_with_keys_iff accepted accepted'
  obtain rfl := (only "5").mp denotes
  obtain rfl := (sole "5").mp (.string "5")
  exact ⟨accepted, accepted', denotes, small five 5 rfl (by decide +kernel) (by decide),
    (agrees.mp (iff_of_true rfl rfl)).1⟩

/-- `2 ^ 64` has the id of the number before it, and `10 ^ 21` another id than its property key. -/
theorem large_numbers_stray :
    let bound : Binary64 := .finite false (2 ^ 52) 12 (by decide)
    let sextillion : Binary64 := .finite false 7629394531250000 17 (by decide)
    (Denotes (.number bound) "18446744073709552000" ∧
      Table.idOfKey? (.number bound) = Table.idOfKey? (.string "18446744073709551615")) ∧
    Denotes (.number sextillion) "1e+21" ∧
      Table.idOfKey? (.number sextillion) ≠ Table.idOfKey? (.string "1e+21") := by
  intro bound sextillion
  have spelled : layout 18446744073709552 3 = "18446744073709552000" := by decide +kernel
  have denotes : Denotes (.number bound) (layout 18446744073709552 3) :=
    denotes_of_shortest _ (by decide) (by decide +kernel) (by unfold IsHalfway exactly; norm_num)
  have spelled' : layout 1 21 = "1e+21" := by decide +kernel
  have denotes' : Denotes (.number sextillion) (layout 1 21) :=
    denotes_of_shortest _ (by decide) (by decide +kernel) (by unfold IsHalfway exactly; norm_num)
  exact ⟨⟨spelled ▸ denotes, by decide +kernel⟩, spelled' ▸ denotes', by decide +kernel⟩

end BundleLens.Bundle
