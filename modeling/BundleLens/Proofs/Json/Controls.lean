import BundleLens.Proofs.Json.RoundTrip

/-! Controls in JSON text. Strings are written with escapes for them, so of the controls of ASCII only
the new lines between values are in the text. -/
namespace BundleLens.Json
open Number

variable {text more : List Char}

def Tidy (text : List Char) : Prop := ∀ c ∈ text, c = '\n' ∨ 0x20 ≤ c.toNat

instance decidableTidy (text : List Char) : Decidable (Tidy text) :=
  List.decidableBAll (fun c => c = '\n' ∨ 0x20 ≤ c.toNat) text

private theorem Tidy.append (first : Tidy text) (second : Tidy more) : Tidy (text ++ more) :=
  List.forall_mem_append.mpr ⟨first, second⟩

private theorem Tidy.cons {c : Char} (first : 0x20 ≤ c.toNat) (rest : Tidy text) :
    Tidy (c :: text) :=
  List.forall_mem_cons.mpr ⟨.inr first, rest⟩

private theorem tidy_newLine (level : Nat) : Tidy (newLine level) := by
  refine List.forall_mem_cons.mpr ⟨.inl rfl, fun c blank => ?_⟩
  rw [List.eq_of_mem_replicate blank]
  decide

private theorem tidy_toString (n : Nat) : Tidy (toString n).toList := by
  intro c written
  have bounds := Char.isDigit_iff_toNat.mp (isDigit_of_mem_toString written)
  exact .inr (Nat.le_trans (by decide) bounds.1)

private theorem tidy_escapeChar (c : Char) : Tidy (escapeChar c) := by
  have hexadecimal : ∀ k < 16, 0x20 ≤ (Nat.digitChar k).toNat := by decide
  unfold escapeChar
  -- seven characters have an escape of one letter
  iterate 7
    split
    · decide
  split
  · rename_i control
    have high := hexadecimal (c.toNat / 16) (by omega)
    have low := hexadecimal (c.toNat % 16) (Nat.mod_lt _ (by decide))
    have front : Tidy ['\\', 'u', '0', '0'] := by decide
    exact front.append (.cons high (.cons low (List.forall_mem_nil _)))
  · rename_i other
    exact List.forall_mem_singleton.mpr (.inr (Nat.not_lt.mp other))

private theorem tidy_writeText (text : Option String) : Tidy (writeText text) := by
  have inside : Tidy ((text.getD "\ufffd").toList.flatMap escapeChar) := by
    intro c written
    obtain ⟨d, -, h⟩ := List.mem_flatMap.mp written
    exact tidy_escapeChar d c h
  exact .cons (by decide) (inside.append (by decide))

def Value.WrittenTidy (v : Value) : Prop := ∀ level, Tidy (writePretty level v)

private theorem tidy_writeItems {items : List Value} (all : ∀ v ∈ items, v.WrittenTidy)
    (level : Nat) :
    Tidy (writeItems level items) := by
  induction items with
  | nil =>
    rw [writeItems]
    exact List.forall_mem_nil _
  | cons item items ih =>
    obtain ⟨first, others⟩ := List.forall_mem_cons.mp all
    rw [writeItems]
    exact .cons (by decide) (((tidy_newLine level).append (first level)).append (ih others))

private theorem writtenTidy_array {items : List Value} (all : ∀ v ∈ items, v.WrittenTidy) :
    (Value.array items).WrittenTidy := by
  intro level
  cases items with
  | nil =>
    rw [writePretty]
    decide
  | cons item items =>
    obtain ⟨first, others⟩ := List.forall_mem_cons.mp all
    have listed := (first (level + 1)).append (tidy_writeItems others (level + 1))
    have lines := ((tidy_newLine (level + 1)).append listed).append (tidy_newLine level)
    rw [writePretty, List.append_assoc (newLine (level + 1))]
    exact .cons (by decide) (lines.append (by decide))

private theorem tidy_field {value : Value} (h : value.WrittenTidy) (name : Option String)
    (level : Nat) :
    Tidy (newLine level ++ writeText name ++ [':', ' '] ++ writePretty level value) :=
  (((tidy_newLine level).append (tidy_writeText name)).append (by decide)).append (h level)

private theorem tidy_writeFields {fields : List (Option String × Value)}
    (all : ∀ f ∈ fields, f.2.WrittenTidy) (level : Nat) : Tidy (writeFields level fields) := by
  induction fields with
  | nil =>
    rw [writeFields]
    exact List.forall_mem_nil _
  | cons field fields ih =>
    obtain ⟨first, others⟩ := List.forall_mem_cons.mp all
    rw [writeFields]
    exact .cons (by decide) ((tidy_field first field.1 level).append (ih others))

private theorem writtenTidy_object {fields : List (Option String × Value)}
    (all : ∀ f ∈ fields, f.2.WrittenTidy) : (Value.object fields).WrittenTidy := by
  intro level
  cases fields with
  | nil =>
    rw [writePretty]
    decide
  | cons field fields =>
    obtain ⟨first, others⟩ := List.forall_mem_cons.mp all
    have listed := (tidy_field first field.1 (level + 1)).append (tidy_writeFields others (level + 1))
    have lines := listed.append (tidy_newLine level)
    rw [writePretty]
    exact .cons (by decide) (lines.append (by decide))

private theorem Value.Plain.writtenTidy {v : Value} (plain : v.Plain) : v.WrittenTidy := by
  induction plain with
  | null => exact fun level => by rw [writePretty]; decide
  | bool b => exact fun level => by cases b <;> rw [writePretty] <;> decide
  | ofNat n =>
    intro level
    unfold Value.ofNat
    rw [writePretty]
    exact tidy_toString n
  | ofText s =>
    intro level
    unfold Value.ofText
    rw [writePretty]
    exact tidy_writeText (some s)
  | array all ih => exact writtenTidy_array ih
  | ofFields all ih =>
    refine writtenTidy_object fun field listed => ?_
    obtain ⟨f, mem, rfl⟩ := List.mem_map.mp listed
    exact ih f mem

/-- The text of a plain value holds no control of ASCII but new lines. -/
theorem Value.Plain.tidy_pretty {v : Value} (plain : v.Plain) : Tidy v.pretty.toList := by
  unfold Value.pretty
  rw [String.toList_ofList]
  exact plain.writtenTidy 0

end BundleLens.Json
