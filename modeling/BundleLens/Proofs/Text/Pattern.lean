import BundleLens.Proofs.Text.Trimmed
import Mathlib.Computability.Language

/-! Patterns for text as formal languages: single texts and classes of characters, put together by the
operations that languages have. -/
namespace BundleLens.Text
open scoped Computability

def literal (text : String) : Language Char := Singleton.singleton text.toList

def oneOf (p : Char → Bool) : Language Char := {word | ∃ c, word = [c] ∧ p c = true}

def anyOf (p : Char → Bool) : Language Char := (oneOf p)∗

def someOf (p : Char → Bool) : Language Char := oneOf p * anyOf p

/-- A text has a piece, anywhere in it, that a pattern matches. -/
def Contains (text : List Char) (pattern : Language Char) : Prop :=
  ∃ piece ∈ pattern, piece <:+: text

variable {p : Char → Bool} {word text : List Char} {one other : Language Char}

theorem mem_literal {words : String} : word ∈ literal words ↔ word = words.toList := Iff.rfl

theorem mem_anyOf : word ∈ anyOf p ↔ ∀ c ∈ word, p c = true := by
  unfold anyOf
  rw [Language.mem_kstar]
  constructor
  · rintro ⟨pieces, rfl, single⟩ c hc
    obtain ⟨piece, listed, hc⟩ := List.mem_flatten.mp hc
    obtain ⟨d, rfl, hd⟩ := single piece listed
    rw [List.mem_singleton.mp hc]
    exact hd
  · intro all
    refine ⟨word.map fun c => [c], ?_, fun piece listed => ?_⟩
    · rw [← List.flatMap_def, List.flatMap_singleton']
    · obtain ⟨c, hc, rfl⟩ := List.mem_map.mp listed
      exact ⟨c, rfl, all c hc⟩

theorem mem_someOf : word ∈ someOf p ↔ word ≠ [] ∧ ∀ c ∈ word, p c = true := by
  unfold someOf
  rw [Language.mem_mul]
  constructor
  · rintro ⟨_, ⟨c, rfl, hc⟩, rest, hr, rfl⟩
    exact ⟨List.cons_ne_nil c rest, List.forall_mem_cons.mpr ⟨hc, mem_anyOf.mp hr⟩⟩
  · rintro ⟨filled, all⟩
    obtain ⟨c, rest, rfl⟩ := List.exists_cons_of_ne_nil filled
    obtain ⟨hc, hr⟩ := List.forall_mem_cons.mp all
    exact ⟨[c], ⟨c, rfl, hc⟩, rest, mem_anyOf.mpr hr, rfl⟩

theorem contains_add : Contains text (one + other) ↔ Contains text one ∨ Contains text other := by
  unfold Contains
  simp only [Language.mem_add, or_and_right, exists_or]

theorem contains_literal {words : String} : Contains text (literal words) ↔ words.toList <:+: text := by
  unfold Contains
  simp only [mem_literal, exists_eq_left]

theorem Contains.embed (h : Contains text one) (before after : List Char) :
    Contains (before ++ text ++ after) one := by
  obtain ⟨piece, matched, inside⟩ := h
  exact ⟨piece, matched, inside.trans ⟨before, after, rfl⟩⟩

private theorem contains_disjoint {set others : CharSet} {c : Char}
    (apart : ∀ range ∈ set, ∀ range' ∈ others, range.2 < range'.1 ∨ range'.2 < range.1)
    (h : set.contains c = true) : others.contains c = false := by
  unfold CharSet.contains at h ⊢
  obtain ⟨range, listed, covers⟩ := List.any_eq_true.mp h
  rw [List.any_eq_false]
  intro range' listed'
  have := apart range listed range' listed'
  simp only [Bool.and_eq_true, decide_eq_true_eq] at covers ⊢
  omega

theorem isWhiteSpace_of_isDecimalDigit {c : Char} (digit : isDecimalDigit c = true) :
    isWhiteSpace c = false := by
  unfold isDecimalDigit at digit
  split at digit
  · exact isWhiteSpace_of_isDigit digit
  · rename_i ascii
    rw [isWhiteSpace, if_neg ascii]
    exact contains_disjoint (by decide) digit

end BundleLens.Text
