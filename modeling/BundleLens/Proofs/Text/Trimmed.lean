import BundleLens.Text.Word
import Mathlib.Data.List.DropRight

namespace BundleLens.Text

variable {text inner : String}

def IsTrimmed (text : String) : Prop :=
  (∀ c ∈ text.toList.head?, isWhiteSpace c = false) ∧
    ∀ c ∈ text.toList.getLast?, isWhiteSpace c = false

/-- A text is another one, which is trimmed, with white space around it. -/
def Surrounds (text inner : String) : Prop :=
  IsTrimmed inner ∧ ∃ before after, text.toList = before ++ (inner.toList ++ after) ∧
    (∀ c ∈ before, isWhiteSpace c = true) ∧ ∀ c ∈ after, isWhiteSpace c = true

def trimmed (text : String) : String :=
  .ofList ((text.toList.dropWhile isWhiteSpace).rdropWhile isWhiteSpace)

theorem isWhiteSpace_of_isDigit {c : Char} (digit : c.isDigit = true) : isWhiteSpace c = false := by
  have bounds : 48 ≤ c.toNat ∧ c.toNat ≤ 57 := Char.isDigit_iff_toNat.mp digit
  have blank : c ≠ ' ' := by
    rintro rfl
    exact absurd digit (by decide)
  rw [isWhiteSpace, if_pos (by omega)]
  simp [blank]
  omega

private theorem dropWhile_append {before chars : List Char}
    (white : ∀ c ∈ before, isWhiteSpace c = true) (first : ∀ c ∈ chars.head?, isWhiteSpace c = false) :
    (before ++ chars).dropWhile isWhiteSpace = chars := by
  rw [List.dropWhile_append_of_pos white]
  cases chars with
  | nil => rfl
  | cons c r => exact List.dropWhile_cons_of_neg (by simp [first c rfl])

private theorem rdropWhile_append {chars after : List Char}
    (white : ∀ c ∈ after, isWhiteSpace c = true)
    (last : ∀ c ∈ chars.getLast?, isWhiteSpace c = false) :
    (chars ++ after).rdropWhile isWhiteSpace = chars := by
  unfold List.rdropWhile
  rw [List.reverse_append, dropWhile_append, List.reverse_reverse]
  · simpa using white
  · simpa using last

private theorem Surrounds.trimmed_eq (h : Surrounds text inner) : trimmed text = inner := by
  obtain ⟨⟨first, last⟩, before, after, split, white, white'⟩ := h
  unfold trimmed
  rw [← String.toList_inj, String.toList_ofList, split]
  cases chars : inner.toList with
  | nil =>
    -- with nothing inside, the white space is all in front
    have all : ∀ c ∈ before ++ after, isWhiteSpace c = true :=
      List.forall_mem_append.mpr ⟨white, white'⟩
    rw [List.nil_append, List.dropWhile_eq_nil_iff.mpr all]
    rfl
  | cons c r =>
    rw [chars] at first last
    rw [dropWhile_append white (by simpa using first), rdropWhile_append white' last]

private theorem head?_dropWhile (chars : List Char) :
    ∀ c ∈ (chars.dropWhile isWhiteSpace).head?, isWhiteSpace c = false := by
  intro c hc
  have first := List.head?_dropWhile_not isWhiteSpace chars
  rw [Option.mem_def.mp hc] at first
  exact first

theorem surrounds_trimmed (text : String) : Surrounds text (trimmed text) := by
  obtain ⟨chars, rest⟩ : ∃ chars, chars = text.toList.dropWhile isWhiteSpace := ⟨_, rfl⟩
  have inside : (trimmed text).toList = chars.rdropWhile isWhiteSpace := by
    rw [rest, trimmed, String.toList_ofList]
  unfold Surrounds IsTrimmed
  rw [inside]
  refine ⟨⟨fun c hc => ?_, fun c hc => ?_⟩, text.toList.takeWhile isWhiteSpace,
    chars.rtakeWhile isWhiteSpace, ?_, fun c => List.mem_takeWhile_imp,
    fun c => List.mem_rtakeWhile_imp⟩
  · obtain ⟨after, split⟩ := chars.rdropWhile_prefix isWhiteSpace
    apply head?_dropWhile text.toList c
    rw [← rest, ← split, List.head?_append, Option.mem_def.mp hc]
    rfl
  · apply head?_dropWhile chars.reverse c
    rwa [← List.getLast?_reverse]
  · rw [List.rdropWhile_append_rtakeWhile, rest, List.takeWhile_append_dropWhile]

private theorem trimmed_eq_iff : trimmed text = inner ↔ Surrounds text inner := by
  constructor
  · rintro rfl
    exact surrounds_trimmed text
  · exact Surrounds.trimmed_eq

theorem isTrimmed_iff : IsTrimmed text ↔ trimmed text = text := by
  constructor
  · intro h
    exact trimmed_eq_iff.mpr ⟨h, [], [], by simp, nofun, nofun⟩
  · intro h
    exact (trimmed_eq_iff.mp h).1

end BundleLens.Text
