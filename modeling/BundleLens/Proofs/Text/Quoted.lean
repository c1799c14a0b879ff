import BundleLens.Proofs.Number.Digits
import BundleLens.Text.Quoted

/-! Reading quoted text back. A character stands for itself or is an escape, and an escape says where
it ends, so quoted text tells one text only, whatever follows it. Nothing in it is hidden. -/
namespace BundleLens.Text
open Number

variable {c : Char} {n : Nat}

def escaped? : Char → Option Char
  | '\x22' => some '\x22'
  | '\\' => some '\\'
  | 't' => some '\t'
  | 'r' => some '\r'
  | 'n' => some '\n'
  | '0' => some '\x00'
  | _ => none

/-- The character at the front of quoted text, and what follows it. -/
def readQuoted? : List Char → Option (Char × List Char)
  | '\\' :: 'u' :: '\x7b' :: r =>
    some (.ofNat (ofDigits 16 (r.takeWhile (· != '\x7d'))), (r.dropWhile (· != '\x7d')).tail)
  | '\\' :: letter :: r => (escaped? letter).map (·, r)
  | '\x22' :: _ => none
  | c :: r => some (c, r)
  | [] => none

private theorem mem_toDigits_sixteen (h : c ∈ Nat.toDigits 16 n) :
    ∃ d < 16, c = Nat.digitChar d := by
  induction n using Nat.strongRecOn with
  | ind n ih =>
    rw [Nat.toDigits_eq_if (by decide)] at h
    split at h
    · rename_i small
      exact ⟨n, small, List.mem_singleton.mp h⟩
    · obtain front | last := List.mem_append.mp h
      · exact ih (n / 16) (by omega) front
      · exact ⟨n % 16, by omega, List.mem_singleton.mp last⟩

private theorem ofDigits_toDigits_sixteen (n : Nat) : ofDigits 16 (Nat.toDigits 16 n) = n := by
  induction n using Nat.strongRecOn with
  | ind n ih =>
    rw [Nat.toDigits_eq_if (by decide)]
    split
    · rename_i small
      simp [ofDigits, digitValue?_digitChar n small]
    · have last := digitValue?_digitChar (n % 16) (by omega)
      have front := ih (n / 16) (by omega)
      unfold ofDigits at front ⊢
      rw [List.foldl_append, front, List.foldl_cons, List.foldl_nil, last, Option.getD_some]
      omega

private theorem readQuoted?_escape {letter : Char} (known : escaped? letter = some c)
    (r : List Char) :
    readQuoted? ('\\' :: letter :: r) = some (c, r) := by
  have notUnicode : letter ≠ 'u' := by
    rintro rfl
    cases known
  rw [readQuoted?]
  · rw [known, Option.map_some]
  · intro _ unicode
    exact absurd unicode notUnicode

private theorem readQuoted?_codePoint (c : Char) (r : List Char) :
    readQuoted? ('\\' :: 'u' :: '\x7b' :: (Nat.toDigits 16 c.toNat ++ '\x7d' :: r)) = some (c, r) := by
  have plain : ∀ k < 16, (Nat.digitChar k != '\x7d') = true := by decide
  have digits : ∀ d ∈ Nat.toDigits 16 c.toNat, (d != '\x7d') = true := by
    intro d hd
    obtain ⟨k, hk, rfl⟩ := mem_toDigits_sixteen hd
    exact plain k hk
  rw [readQuoted?, List.takeWhile_append_of_pos digits, List.dropWhile_append_of_pos digits]
  simp [ofDigits_toDigits_sixteen, Char.ofNat_toNat]

private theorem readQuoted?_raw (quote : c ≠ '\x22') (backslash : c ≠ '\\') (r : List Char) :
    readQuoted? (c :: r) = some (c, r) := by
  rw [readQuoted?]
  all_goals
    intros
    contradiction

/-- A quoted character is read as itself. -/
theorem readQuoted?_quoteChar (c : Char) (r : List Char) :
    readQuoted? (quoteChar c ++ r) = some (c, r) := by
  unfold quoteChar
  simp only [beq_iff_eq]
  by_cases quote : c = '\x22'
  · subst c
    exact readQuoted?_escape rfl r
  by_cases backslash : c = '\\'
  · subst c
    exact readQuoted?_escape rfl r
  rw [if_neg quote, if_neg backslash]
  -- four controls have an escape of one letter
  iterate 4
    split
    · subst c
      exact readQuoted?_escape rfl r
  split
  · simp only [List.cons_append, List.append_assoc, List.nil_append]
    exact readQuoted?_codePoint c r
  · exact readQuoted?_raw quote backslash r

/-- Quoted characters up to a quote tell which they are, and what follows the quote. -/
theorem quoted_inj {cs ds r s : List Char}
    (h : cs.flatMap quoteChar ++ '\x22' :: r = ds.flatMap quoteChar ++ '\x22' :: s) :
    cs = ds ∧ r = s := by
  have closed (rest : List Char) : readQuoted? ('\x22' :: rest) = none := rfl
  induction cs generalizing ds with
  | nil =>
    cases ds with
    | nil => exact ⟨rfl, (List.cons.inj h).2⟩
    | cons d ds =>
      have same := congrArg readQuoted? h
      rw [List.flatMap_cons, List.append_assoc, readQuoted?_quoteChar] at same
      exact nomatch same
  | cons c cs ih =>
    have same := congrArg readQuoted? h
    rw [List.flatMap_cons, List.append_assoc, readQuoted?_quoteChar] at same
    cases ds with
    | nil => exact nomatch same
    | cons d ds =>
      rw [List.flatMap_cons, List.append_assoc, readQuoted?_quoteChar, Option.some_inj,
        Prod.mk.injEq] at same
      obtain ⟨rfl, rest⟩ := same
      obtain ⟨rfl, rfl⟩ := ih rest
      exact ⟨rfl, rfl⟩

private theorem visible_of_all {text : List Char} (h : text.all (fun c => !isHidden c) = true) :
    ∀ c ∈ text, isHidden c = false := by
  simpa using h

private theorem isHidden_codePoint (n : Nat) :
    ∀ d ∈ '\\' :: 'u' :: '\x7b' :: (Nat.toDigits 16 n ++ ['\x7d']), isHidden d = false := by
  have visible : ∀ k < 16, isHidden (Nat.digitChar k) = false := by decide
  have digits : ∀ d ∈ Nat.toDigits 16 n, isHidden d = false := by
    intro d hd
    obtain ⟨k, hk, rfl⟩ := mem_toDigits_sixteen hd
    exact visible k hk
  have front : ∀ d ∈ ['\\', 'u', '\x7b'], isHidden d = false := visible_of_all (by decide)
  have last : ∀ d ∈ ['\x7d'], isHidden d = false := visible_of_all (by decide)
  exact List.forall_mem_append.mpr ⟨front, List.forall_mem_append.mpr ⟨digits, last⟩⟩

/-- What a character is written as holds nothing hidden. -/
theorem isHidden_of_mem_quoteChar (c : Char) : ∀ d ∈ quoteChar c, isHidden d = false := by
  unfold quoteChar
  -- six characters have an escape of one letter
  iterate 6
    split
    · exact visible_of_all (by decide)
  split
  · exact isHidden_codePoint c.toNat
  · rename_i visible
    exact List.forall_mem_singleton.mpr (Bool.eq_false_iff.mpr visible)

theorem isHidden_of_mem_quote (text : String) : ∀ d ∈ (quote text).toList, isHidden d = false := by
  have quoteMark : isHidden '\x22' = false := by decide
  have inside : ∀ d ∈ text.toList.flatMap quoteChar, isHidden d = false := by
    intro d hd
    obtain ⟨c, -, h⟩ := List.mem_flatMap.mp hd
    exact isHidden_of_mem_quoteChar c d h
  rw [quote, String.toList_ofList, List.forall_mem_cons, List.forall_mem_append,
    List.forall_mem_singleton]
  exact ⟨quoteMark, inside, quoteMark⟩

def isControl (c : Char) : Bool := c.toNat < 0x20 || (0x7f ≤ c.toNat && c.toNat ≤ 0x9f)

/-- The characters after which a new line starts: some controls, and the separators of lines and of
paragraphs. -/
def isLineBreak (c : Char) : Bool :=
  [0x0a, 0x0b, 0x0c, 0x0d, 0x85, 0x2028, 0x2029].contains c.toNat

private theorem isHidden_of_range {range : Nat × Nat} (listed : range ∈ hiddenCharacters)
    (beyond : 0x80 ≤ c.toNat) (low : range.1 ≤ c.toNat) (high : c.toNat ≤ range.2) :
    isHidden c = true := by
  rw [isHidden, if_neg (by omega), CharSet.contains]
  exact List.any_eq_true.mpr ⟨_, listed, by simp [low, high]⟩

theorem isHidden_of_isControl (h : isControl c = true) : isHidden c = true := by
  simp only [isControl, Bool.or_eq_true, Bool.and_eq_true, decide_eq_true_eq] at h
  by_cases ascii : c.toNat < 0x80
  · rw [isHidden, if_pos ascii]
    simp
    omega
  · have listed : (0x80, 0xa0) ∈ hiddenCharacters := by decide
    exact isHidden_of_range listed (by omega) (by omega) (by omega)

theorem isHidden_of_isLineBreak (h : isLineBreak c = true) : isHidden c = true := by
  simp only [isLineBreak, List.contains_eq_mem, List.mem_cons, List.not_mem_nil, or_false,
    decide_eq_true_eq] at h
  by_cases separator : c.toNat < 0x2028
  · apply isHidden_of_isControl
    simp [isControl]
    omega
  · have listed : (0x2028, 0x202f) ∈ hiddenCharacters := by decide
    exact isHidden_of_range listed (by omega) (by omega) (by omega)

end BundleLens.Text
