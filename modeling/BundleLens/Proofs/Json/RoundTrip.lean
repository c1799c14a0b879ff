import BundleLens.Json.Reader
import BundleLens.Json.Writer
import BundleLens.Proofs.Number.Digits
import Mathlib.Data.List.DropRight

/-! Reading back JSON text as it is written. Written text has white space at known places only, and
each value ends before a comma, a new line or the end, so the reader never takes too much. -/
namespace BundleLens.Json
open Number

private theorem skipBlank_newLine (level : Nat) (cs : List Char) :
    skipBlank (newLine level ++ cs) = skipBlank cs := by
  unfold skipBlank newLine
  rw [List.cons_append, List.dropWhile_cons_of_pos (by decide)]
  refine List.dropWhile_append_of_pos fun c hc => ?_
  rw [List.eq_of_mem_replicate hc]
  decide

section Strings
variable (text r : List Char) {c e : Char}

private theorem readString?_plainEscape (h : plainEscape? e = some c) :
    readString? text none true ('\\' :: e :: r) = readString? (c :: text) none true r := by
  have notUnicode : e ≠ 'u' := by
    rintro rfl
    cases h
  rw [readString?]
  · rw [h]
    rfl
  · intro _ _ _ _ _ unicode
    exact absurd unicode notUnicode

private theorem readString?_control (h : c.toNat < 0x20) :
    readString? text none true ('\\' :: 'u' :: '0' :: '0' :: Nat.digitChar (c.toNat / 16) ::
        Nat.digitChar (c.toNat % 16) :: r) =
      readString? (c :: text) none true r := by
  have zero : digitValue? '0' = some 0 := by decide
  have high := digitValue?_digitChar (c.toNat / 16) (by omega)
  have low := digitValue?_digitChar (c.toNat % 16) (Nat.mod_lt _ (by decide))
  have digits : ['0', '0', Nat.digitChar (c.toNat / 16), Nat.digitChar (c.toNat % 16)].all
      (isDigitIn 16) = true := by
    simp only [List.all_cons, List.all_nil, isDigitIn, zero, high, low, Bool.and_true,
      Bool.and_eq_true, decide_eq_true_eq]
    omega
  have unit : ofDigits 16 ['0', '0', Nat.digitChar (c.toNat / 16), Nat.digitChar (c.toNat % 16)] =
      c.toNat := by
    simp only [ofDigits, List.foldl_cons, List.foldl_nil, zero, high, low, Option.getD_some]
    omega
  rw [readString?, if_pos digits, unit, if_pos (by omega), Char.ofNat_toNat]
  rfl

private theorem readString?_raw (quote : c ≠ '\x22') (backslash : c ≠ '\\')
    (control : ¬ c.toNat < 0x20) :
    readString? text none true (c :: r) = readString? (c :: text) none true r := by
  rw [readString?]
  · simp [quote, backslash, control]
  all_goals
    intros
    contradiction

/-- A written character is read as itself. -/
theorem readString?_escapeChar (c : Char) :
    readString? text none true (escapeChar c ++ r) = readString? (c :: text) none true r := by
  unfold escapeChar
  simp only [beq_iff_eq]
  by_cases quote : c = '\x22'
  · subst c
    exact readString?_plainEscape text r rfl
  by_cases backslash : c = '\\'
  · subst c
    exact readString?_plainEscape text r rfl
  rw [if_neg quote, if_neg backslash]
  -- Five controls have an escape of one letter.
  iterate 5
    split
    · subst c
      exact readString?_plainEscape text r rfl
  split
  · exact readString?_control text r ‹_›
  · exact readString?_raw text r quote backslash ‹_›

private theorem readString?_written (cs : List Char) :
    readString? text none true (cs.flatMap escapeChar ++ '\x22' :: r) =
      some (some (String.ofList (text.reverse ++ cs)), r) := by
  induction cs generalizing text with
  | nil => simp [readString?]
  | cons c cs ih =>
    rw [List.flatMap_cons, List.append_assoc, readString?_escapeChar, ih, List.reverse_cons,
      List.append_assoc]
    rfl

/-- A written string is read from behind its opening quote. -/
private theorem writeText_append (s : String) : ∃ cs, writeText (some s) ++ r = '\x22' :: cs ∧
    readString? [] none true cs = some (some s, r) := by
  refine ⟨s.toList.flatMap escapeChar ++ '\x22' :: r, ?_, ?_⟩
  · simp [writeText, writeString]
  · rw [readString?_written, List.reverse_nil, List.nil_append, String.ofList_toList]

end Strings

/-- What may come after a value: nothing, a comma or a new line. -/
inductive Ends : List Char → Prop
  | here : Ends []
  | comma (r : List Char) : Ends (',' :: r)
  | line (level : Nat) (r : List Char) : Ends (newLine level ++ r)

section Numbers
variable {rest : List Char}

private theorem Ends.cases_head (h : Ends rest) :
    rest = [] ∨ (∃ r, rest = ',' :: r) ∨ ∃ r, rest = '\n' :: r := by
  cases h with
  | here => exact .inl rfl
  | comma r => exact .inr (.inl ⟨r, rfl⟩)
  | line level r => exact .inr (.inr ⟨_, rfl⟩)

private theorem Ends.takeWhile_isDigit (h : Ends rest) :
    rest.takeWhile Char.isDigit = [] ∧ rest.dropWhile Char.isDigit = rest := by
  obtain rfl | ⟨r, rfl⟩ | ⟨r, rfl⟩ := h.cases_head <;> exact ⟨rfl, rfl⟩

private theorem readDigits?_append {digits : List Char} (filled : digits ≠ [])
    (all : ∀ c ∈ digits, c.isDigit = true) (ends : Ends rest) :
    readDigits? (digits ++ rest) = some (digits, rest) := by
  have front : (digits ++ rest).takeWhile Char.isDigit = digits := by
    rw [List.takeWhile_append_of_pos all, ends.takeWhile_isDigit.1, List.append_nil]
  have back : (digits ++ rest).dropWhile Char.isDigit = rest := by
    rw [List.dropWhile_append_of_pos all, ends.takeWhile_isDigit.2]
  unfold readDigits?
  rw [front, back]
  simp [filled]

private theorem readWhole?_toString (n : Nat) (ends : Ends rest) :
    readWhole? ((toString n).toList ++ rest) = some ((toString n).toList, rest) := by
  have filled := toList_toString_ne_nil n
  by_cases zero : n = 0
  · subst n
    rfl
  · obtain ⟨c, r, h⟩ := List.exists_cons_of_ne_nil filled
    have nonzero : c ≠ '0' := by
      rintro rfl
      exact zero (eq_zero_of_toList_toString h)
    rw [h, List.cons_append, readWhole?]
    · rw [← List.cons_append, ← h]
      exact readDigits?_append filled (fun c hc => isDigit_of_mem_toString hc) ends
    · intro _ hz
      exact absurd (List.cons.inj hz).1 nonzero

private theorem readNumber?_toString (n : Nat) (ends : Ends rest) :
    readNumber? ((toString n).toList ++ rest) = some ((toString n).toList, rest) := by
  obtain ⟨c, r, h⟩ := List.exists_cons_of_ne_nil (toList_toString_ne_nil n)
  have digit : c.isDigit = true := isDigit_of_mem_toString (h ▸ List.mem_cons_self)
  have positive : c ≠ '-' := by
    rintro rfl
    cases digit
  have fraction : readFraction? rest = some ([], rest) := by
    obtain rfl | ⟨r, rfl⟩ | ⟨r, rfl⟩ := ends.cases_head <;> rfl
  have exponent : readExponent? rest = some ([], rest) := by
    obtain rfl | ⟨r, rfl⟩ | ⟨r, rfl⟩ := ends.cases_head <;> rfl
  have whole := readWhole?_toString n ends
  rw [h] at whole ⊢
  unfold readNumber?
  split
  rename_i sign cs hs
  split at hs
  · rename_i hc
    exact absurd (List.cons.inj hc).1 positive
  · obtain ⟨rfl, rfl⟩ := Prod.mk.inj hs
    simp only [Option.bind_eq_bind, whole, Option.bind_some, fraction, exponent]
    simp

end Numbers

section Blanks

private theorem skipBlank_skipBlank (cs : List Char) : skipBlank (skipBlank cs) = skipBlank cs :=
  List.dropWhile_idempotent _ _

private theorem readValue?_skipBlank (depth : Nat) (cs : List Char) :
    readValue? depth (skipBlank cs) = readValue? depth cs := by
  cases depth with
  | zero => rfl
  | succ depth => rw [readValue?, readValue?, skipBlank_skipBlank]

private theorem readItems?_skipBlank (depth : Nat) (items : List Value) (cs : List Char) :
    readItems? depth items (skipBlank cs) = readItems? depth items cs := by
  cases depth with
  | zero => rfl
  | succ depth => rw [readItems?, readItems?, readValue?_skipBlank]

private theorem readFields?_skipBlank (depth : Nat) (fields : List (Option String × Value))
    (cs : List Char) :
    readFields? depth fields (skipBlank cs) = readFields? depth fields cs := by
  cases depth with
  | zero => rfl
  | succ depth => rw [readFields?, readFields?, skipBlank_skipBlank]

private theorem readValue?_bracket (depth : Nat) {cs r : List Char} (h : skipBlank cs = ']' :: r) :
    readValue? depth cs = none := by
  cases depth with
  | zero => rfl
  | succ depth =>
    rw [readValue?, h]
    rfl

end Blanks

/-- A value of which the text as it is written reads back, whatever ends it. The length of the text
is enough of a bound for the nesting. -/
def Value.ReadsBack (v : Value) : Prop :=
  ∀ level depth rest, Ends rest → (writePretty level v).length ≤ depth →
    readValue? (depth + 1) (writePretty level v ++ rest) = some (v, rest)

private theorem readsBack_null : Value.null.ReadsBack := by
  intro level depth rest ends fuel
  rfl

private theorem readsBack_bool (b : Bool) : (Value.bool b).ReadsBack := by
  intro level depth rest ends fuel
  cases b
  all_goals rfl

private theorem readsBack_ofText (s : String) : (Value.ofText s).ReadsBack := by
  intro level depth rest ends fuel
  obtain ⟨cs, written, read⟩ := writeText_append rest s
  unfold Value.ofText
  rw [writePretty, written, readValue?]
  change (readString? [] none true cs).map _ = _
  rw [read]
  rfl

/-- What begins with a digit is a number. -/
theorem readValue?_digit (depth : Nat) {c : Char} (digit : c.isDigit = true) (r : List Char) :
    readValue? (depth + 1) (c :: r) =
      (readNumber? (c :: r)).map fun (literal, rest) => (.number (String.ofList literal), rest) := by
  have other (b : Char) (h : b.isDigit = false) : c ≠ b := by
    rintro rfl
    rw [digit] at h
    cases h
  have first {b : Char} {t : List Char} (h : b.isDigit = false) : c :: r ≠ b :: t :=
    fun same => other b h (List.cons.inj same).1
  have nonblank : skipBlank (c :: r) = c :: r := by
    unfold skipBlank
    rw [List.dropWhile_cons_of_neg]
    simp [other ' ' rfl, other '\t' rfl, other '\n' rfl, other '\r' rfl]
  rw [readValue?, nonblank]
  split
  case h_7 => rfl
  all_goals exact absurd ‹_› (first rfl)

private theorem readsBack_ofNat (n : Nat) : (Value.ofNat n).ReadsBack := by
  intro level depth rest ends fuel
  have read := readNumber?_toString n ends
  obtain ⟨c, r, h⟩ := List.exists_cons_of_ne_nil (toList_toString_ne_nil n)
  have digit : c.isDigit = true := isDigit_of_mem_toString (h ▸ List.mem_cons_self)
  unfold Value.ofNat
  rw [h, List.cons_append] at read
  rw [writePretty, h, List.cons_append, readValue?_digit depth digit, read, ← h, Option.map_some]
  exact congrArg (fun text => some (Value.number text, rest)) String.ofList_toList

section Items
variable {level outer depth : Nat} {cs after r rest : List Char} {item : Value}

private theorem readItems?_comma {before : List Value}
    (read : readValue? depth cs = some (item, after)) (h : skipBlank after = ',' :: r) :
    readItems? (depth + 1) before cs = readItems? depth (item :: before) r := by
  rw [readItems?, read, Option.bind_eq_bind, Option.bind_some]
  dsimp only
  rw [h]
  rfl

private theorem readItems?_last {before : List Value}
    (read : readValue? depth cs = some (item, after)) (h : skipBlank after = ']' :: r) :
    readItems? (depth + 1) before cs = some ((item :: before).reverse, r) := by
  rw [readItems?, read, Option.bind_eq_bind, Option.bind_some]
  dsimp only
  rw [h]
  rfl

private theorem readItems?_newLine (depth : Nat) (before : List Value) (level : Nat)
    (cs : List Char) :
    readItems? depth before (newLine level ++ cs) = readItems? depth before cs := by
  rw [← readItems?_skipBlank, skipBlank_newLine, readItems?_skipBlank]

private theorem readItems?_written {items before : List Value}
    (all : ∀ v ∈ item :: items, v.ReadsBack)
    (fuel : (writePretty level item ++ writeItems level items).length ≤ depth) :
    readItems? (depth + 2) before
        (writePretty level item ++ (writeItems level items ++ (newLine outer ++ ']' :: rest))) =
      some (before.reverse ++ item :: items, rest) := by
  rw [List.length_append] at fuel
  induction items generalizing item depth before with
  | nil =>
    have read := all item List.mem_cons_self level depth _ (.line outer (']' :: rest)) (by omega)
    rw [writeItems, List.nil_append, readItems?_last read (skipBlank_newLine outer _),
      List.reverse_cons]
  | cons next items ih =>
    rw [writeItems] at fuel ⊢
    simp only [List.length_append, List.length_cons] at fuel
    obtain ⟨first, others⟩ := List.forall_mem_cons.mp all
    have read {r} := first level depth _ (.comma r) (by omega)
    -- The comma is a character more, so the bound suffices for what comes after it.
    obtain ⟨depth, rfl⟩ : ∃ d, depth = d + 1 := ⟨depth - 1, by omega⟩
    rw [List.cons_append, readItems?_comma read rfl, List.append_assoc, List.append_assoc,
      readItems?_newLine, ih others (by omega), List.reverse_cons, List.append_assoc]
    rfl

private theorem readValue?_openBracket (depth : Nat) (cs : List Char) :
    readValue? (depth + 1) ('[' :: cs) =
      match skipBlank cs with
      | ']' :: rest => some (.array [], rest)
      | r => (readItems? depth [] r).map fun (items, rest) => (.array items, rest) := rfl

private theorem readValue?_items {items : List Value}
    (read : readItems? depth [] cs = some (items, rest)) :
    readValue? (depth + 1) ('[' :: cs) = some (.array items, rest) := by
  rw [readValue?_openBracket]
  split
  · rename_i closed
    -- Then there would have been no item to read.
    cases depth with
    | zero => cases read
    | succ depth =>
      rw [readItems?, readValue?_bracket depth closed] at read
      cases read
  · rw [readItems?_skipBlank, read]
    rfl

private theorem readsBack_array {items : List Value} (all : ∀ v ∈ items, v.ReadsBack) :
    (Value.array items).ReadsBack := by
  intro level depth rest ends fuel
  cases items with
  | nil => rfl
  | cons item items =>
    rw [writePretty] at fuel ⊢
    simp only [List.length_append, List.length_cons] at fuel
    obtain ⟨depth, rfl⟩ : ∃ d, depth = d + 2 := ⟨depth - 2, by omega⟩
    simp only [List.cons_append, List.append_assoc, List.nil_append]
    refine readValue?_items ?_
    rw [readItems?_newLine]
    exact readItems?_written all (by rw [List.length_append]; omega)

end Items

section Fields
variable {level outer depth : Nat} {cs after r rest : List Char} {name : String} {value : Value}

private theorem readFields?_field {before : List (Option String × Value)}
    (read : readValue? depth cs = some (value, after)) :
    readFields? (depth + 1) before (writeText (some name) ++ ':' :: cs) =
      match skipBlank after with
      | ',' :: r => readFields? depth ((some name, value) :: before) r
      | '\x7d' :: r => return (((some name, value) :: before).reverse, r)
      | _ => none := by
  obtain ⟨quoted, written, named⟩ := writeText_append (':' :: cs) name
  rw [readFields?, written]
  change (readString? [] none true quoted).bind _ = _
  rw [named, Option.bind_some]
  refine Eq.trans (congrArg (Option.bind · _) read) ?_
  rfl

private theorem readFields?_newLine (depth : Nat) (before : List (Option String × Value))
    (level : Nat) (cs : List Char) :
    readFields? depth before (newLine level ++ cs) = readFields? depth before cs := by
  rw [← readFields?_skipBlank, skipBlank_newLine, readFields?_skipBlank]

private theorem readFields?_written {fields : List (String × Value)}
    {before : List (Option String × Value)} (all : ∀ f ∈ (name, value) :: fields, f.2.ReadsBack)
    (fuel : (writePretty level value ++
      writeFields level (fields.map fun (name, value) => (some name, value))).length ≤ depth) :
    readFields? (depth + 2) before
        (writeText (some name) ++ (':' :: ' ' :: (writePretty level value ++
          (writeFields level (fields.map fun (name, value) => (some name, value)) ++
            (newLine outer ++ '\x7d' :: rest))))) =
      some (before.reverse ++ ((name, value) :: fields).map fun (name, value) => (some name, value),
        rest) := by
  have blank (depth : Nat) (cs : List Char) :
      readValue? depth (' ' :: cs) = readValue? depth cs := by
    rw [← readValue?_skipBlank, ← readValue?_skipBlank depth cs]
    rfl
  rw [List.length_append] at fuel
  induction fields generalizing name value depth before with
  | nil =>
    have first : value.ReadsBack := all _ List.mem_cons_self
    have read := first level depth _ (.line outer ('\x7d' :: rest)) (by omega)
    rw [List.map_nil, writeFields, List.nil_append, readFields?_field ((blank _ _).trans read),
      skipBlank_newLine]
    change some (((some name, value) :: before).reverse, rest) = _
    rw [List.reverse_cons]
    rfl
  | cons next fields ih =>
    obtain ⟨nextName, nextValue⟩ := next
    rw [List.map_cons, writeFields] at fuel ⊢
    simp only [List.length_append, List.length_cons] at fuel
    have first : value.ReadsBack := all _ List.mem_cons_self
    have read {r} := first level depth _ (.comma r) (by omega)
    obtain ⟨depth, rfl⟩ : ∃ d, depth = d + 1 := ⟨depth - 1, by omega⟩
    rw [List.cons_append, readFields?_field ((blank _ _).trans read)]
    simp only [List.append_assoc, List.cons_append, List.nil_append]
    change readFields? (depth + 2) ((some name, value) :: before) (newLine level ++ _) = _
    rw [readFields?_newLine, ih (List.forall_mem_cons.mp all).2 (by dsimp only; omega),
      List.reverse_cons, List.append_assoc]
    rfl

private theorem readValue?_openBrace (depth : Nat) (cs : List Char) :
    readValue? (depth + 1) ('\x7b' :: cs) =
      match skipBlank cs with
      | '\x7d' :: rest => some (.object [], rest)
      | r => (readFields? depth [] r).map fun (fields, rest) => (.object fields, rest) := rfl

private theorem readValue?_fields {fields : List (Option String × Value)}
    (read : readFields? depth [] cs = some (fields, rest)) :
    readValue? (depth + 1) ('\x7b' :: cs) = some (.object fields, rest) := by
  rw [readValue?_openBrace]
  split
  · rename_i closed
    -- Then there would have been no name to read.
    cases depth with
    | zero => cases read
    | succ depth =>
      rw [readFields?, closed] at read
      cases read
  · rw [readFields?_skipBlank, read]
    rfl

private theorem readsBack_ofFields {fields : List (String × Value)}
    (all : ∀ f ∈ fields, f.2.ReadsBack) :
    (Value.ofFields fields).ReadsBack := by
  intro level depth rest ends fuel
  unfold Value.ofFields at *
  cases fields with
  | nil =>
    rfl
  | cons field fields =>
    obtain ⟨name, value⟩ := field
    rw [List.map_cons, writePretty] at fuel ⊢
    simp only [List.length_append, List.length_cons] at fuel
    obtain ⟨depth, rfl⟩ : ∃ d, depth = d + 2 := ⟨depth - 2, by omega⟩
    simp only [List.cons_append, List.append_assoc, List.nil_append]
    refine readValue?_fields ?_
    rw [readFields?_newLine]
    exact readFields?_written all (by simp only [List.length_append]; omega)

end Fields

inductive Value.Plain : Value → Prop
  | null : Plain .null
  | bool (b : Bool) : Plain (.bool b)
  | ofNat (n : Nat) : Plain (.ofNat n)
  | ofText (s : String) : Plain (.ofText s)
  | array {items : List Value} (all : ∀ v ∈ items, Plain v) : Plain (.array items)
  | ofFields {fields : List (String × Value)} (all : ∀ f ∈ fields, Plain f.2) :
    Plain (.ofFields fields)

private theorem Value.Plain.readsBack {v : Value} (plain : v.Plain) : v.ReadsBack := by
  induction plain with
  | null => exact readsBack_null
  | bool b => exact readsBack_bool b
  | ofNat n => exact readsBack_ofNat n
  | ofText s => exact readsBack_ofText s
  | array all ih => exact readsBack_array ih
  | ofFields all ih => exact readsBack_ofFields ih

/-- A plain value reads back from its text. -/
theorem Value.ofString?_pretty {v : Value} (plain : v.Plain) : ofString? v.pretty = some v := by
  have read := plain.readsBack 0 _ [] .here (Nat.le_refl _)
  rw [List.append_nil] at read
  unfold ofString? pretty
  rw [String.toList_ofList]
  dsimp only
  rw [read]
  rfl

end BundleLens.Json
