import BundleLens.Marker
import BundleLens.Proofs.Outcome
import BundleLens.Proofs.Text.Pattern

/-! Marks in a text as patterns. The scanner takes as many characters of a class as there are and never
goes back. That loses no mark: what follows such a run in a pattern never belongs to the class. -/
namespace BundleLens.Marker
open Text

variable {text rest : List Char}

/-- The classic runtime's last step, `__webpack_require__(__webpack_require__.s =`. -/
def requireMark : Language Char :=
  literal "__webpack_require__(" * anyOf isWhiteSpace * literal "__webpack_require__.s" *
    anyOf isWhiteSpace * literal "="

/-- The same in a shortened script, such as `n(n.s=8)`. -/
def shortMark : Language Char :=
  someOf isNamePart * literal "(" * someOf isNamePart * literal ".s" * anyOf isWhiteSpace *
    literal "=" * anyOf isWhiteSpace * someOf isDecimalDigit * literal ")"

def classicMark : Language Char := requireMark + shortMark

def chunkMark : Language Char := literal "webpackJsonp" + literal "webpackChunk"

private theorem after?_eq_some_iff {words : List Char} :
    after? words text = some rest ↔ text = words ++ rest := by
  induction words generalizing text with
  | nil => rw [after?, Option.some_inj, List.nil_append]
  | cons c words ih =>
    cases text with
    | nil => simp [after?]
    | cons d text =>
      rw [after?]
      split
      · rename_i same
        rw [ih, eq_of_beq same, List.cons_append, List.cons.injEq, and_iff_right rfl]
      · rename_i other
        simp only [reduceCtorEq, List.cons_append, List.cons.injEq, false_iff]
        exact fun same => other (beq_iff_eq.mpr same.1.symm)

private theorem anywhere_eq_true_iff {p : List Char → Bool} :
    anywhere p text = true ↔ ∃ rest, rest <:+ text ∧ p rest = true := by
  induction text with
  | nil => simp [anywhere]
  | cons c text ih => simp [anywhere, ih, List.suffix_cons_iff, or_and_right, exists_or]

private theorem occurs_iff {words : String} :
    occurs words text = true ↔ Contains text (literal words) := by
  unfold occurs
  rw [contains_literal, anywhere_eq_true_iff]
  simp only [Option.isSome_iff_exists, after?_eq_some_iff]
  constructor
  · rintro ⟨_, ⟨before, rfl⟩, after, rfl⟩
    exact ⟨before, after, List.append_assoc ..⟩
  · rintro ⟨before, after, rfl⟩
    exact ⟨_, ⟨before, (List.append_assoc ..).symm⟩, after, rfl⟩

section Runs
variable {p : Char → Bool} {run : List Char} (all : ∀ c ∈ run, p c = true) {c : Char}
  (stop : p c = false) (rest : List Char)
include all stop

/-- A run of a class ends at a character that does not belong to it. -/
private theorem takeWhile_run : (run ++ c :: rest).takeWhile p = run := by
  rw [List.takeWhile_append_of_pos all, List.takeWhile_cons_of_neg (Bool.eq_false_iff.mp stop),
    List.append_nil]

private theorem dropWhile_run : (run ++ c :: rest).dropWhile p = c :: rest := by
  rw [List.dropWhile_append_of_pos all, List.dropWhile_cons_of_neg (Bool.eq_false_iff.mp stop)]

end Runs

/-- White space, and what is left without it. -/
private theorem exists_skipSpace (text : List Char) :
    ∃ space, (∀ c ∈ space, isWhiteSpace c = true) ∧ text = space ++ skipSpace text :=
  ⟨text.takeWhile isWhiteSpace, fun _ => List.mem_takeWhile_imp,
    List.takeWhile_append_dropWhile.symm⟩

private theorem mem_requireMark {piece : List Char} : piece ∈ requireMark ↔ ∃ space more,
    (∀ c ∈ space, isWhiteSpace c = true) ∧ (∀ c ∈ more, isWhiteSpace c = true) ∧
      piece = "__webpack_require__(".toList ++ (space ++ ("__webpack_require__.s".toList ++
        (more ++ ['=']))) := by
  unfold requireMark
  simp only [mul_assoc, Language.mem_mul, mem_literal, mem_anyOf]
  constructor
  · rintro ⟨_, rfl, _, ⟨space, white, _, ⟨_, rfl, _, ⟨more, white', _, rfl, rfl⟩, rfl⟩, rfl⟩, rfl⟩
    exact ⟨space, more, white, white', rfl⟩
  · rintro ⟨space, more, white, white', rfl⟩
    exact ⟨_, rfl, _, ⟨space, white, _, ⟨_, rfl, _, ⟨more, white', _, rfl, rfl⟩, rfl⟩, rfl⟩, rfl⟩

private theorem startsRequire_steps : startsRequire text = true ↔ ∃ opened named after,
    after? "__webpack_require__(".toList text = some opened ∧
      after? "__webpack_require__.s".toList (skipSpace opened) = some named ∧
        skipSpace named = '=' :: after := by
  unfold startsRequire
  generalize "__webpack_require__(".toList = front, "__webpack_require__.s".toList = self
  cases ho : after? front text with
  | none => simp
  | some opened =>
    cases hn : after? self (skipSpace opened) with
    | none => simp [hn]
    | some named =>
      simp only [Option.bind_eq_bind, Option.bind_some, hn, Option.map_some, Option.some_inj]
      constructor
      · intro h
        split at h
        · rename_i after equals
          exact ⟨opened, named, after, rfl, hn, Option.some.inj equals⟩
        · cases h
      · rintro ⟨_, _, after, rfl, hn', equals⟩
        rw [hn, Option.some_inj] at hn'
        rw [hn', equals]
        rfl

private theorem startsRequire_iff :
    startsRequire text = true ↔ ∃ piece ∈ requireMark, piece <+: text := by
  rw [startsRequire_steps]
  simp only [after?_eq_some_iff]
  constructor
  · rintro ⟨opened, named, after, rfl, split, equals⟩
    obtain ⟨space, white, front⟩ := exists_skipSpace opened
    obtain ⟨more, white', back⟩ := exists_skipSpace named
    rw [split] at front
    rw [equals] at back
    refine ⟨_, mem_requireMark.mpr ⟨space, more, white, white', rfl⟩, after, ?_⟩
    rw [front, back]
    simp only [List.append_assoc, List.cons_append, List.nil_append]
  · rintro ⟨piece, matched, after, rfl⟩
    obtain ⟨space, more, white, white', rfl⟩ := mem_requireMark.mp matched
    obtain ⟨name, self⟩ : ∃ name, "__webpack_require__.s".toList = '_' :: name := ⟨_, rfl⟩
    simp only [List.append_assoc, List.cons_append, List.nil_append]
    refine ⟨_, _, after, rfl, ?_, dropWhile_run white' (by decide) after⟩
    rw [self]
    exact dropWhile_run white (by decide) _

private theorem mem_shortMark {piece : List Char} :
    piece ∈ shortMark ↔ ∃ front name space more digits,
    (front ≠ [] ∧ ∀ c ∈ front, isNamePart c = true) ∧ (name ≠ [] ∧ ∀ c ∈ name, isNamePart c = true) ∧
      (∀ c ∈ space, isWhiteSpace c = true) ∧ (∀ c ∈ more, isWhiteSpace c = true) ∧
        (digits ≠ [] ∧ ∀ c ∈ digits, isDecimalDigit c = true) ∧
          piece = front ++ '(' :: (name ++ '.' :: 's' :: (space ++ '=' :: (more ++ (digits ++ [')'])))) := by
  unfold shortMark
  simp only [mul_assoc, Language.mem_mul, mem_literal, mem_anyOf, mem_someOf]
  constructor
  · rintro ⟨front, hf, _, ⟨_, rfl, _, ⟨name, hn, _, ⟨_, rfl, _, ⟨space, white, _, ⟨_, rfl, _, ⟨more, white',
      _, ⟨digits, hd, _, rfl, rfl⟩, rfl⟩, rfl⟩, rfl⟩, rfl⟩, rfl⟩, rfl⟩, rfl⟩
    exact ⟨front, name, space, more, digits, hf, hn, white, white', hd, rfl⟩
  · rintro ⟨front, name, space, more, digits, hf, hn, white, white', hd, rfl⟩
    exact ⟨front, hf, _, ⟨_, rfl, _, ⟨name, hn, _, ⟨_, rfl, _, ⟨space, white, _, ⟨_, rfl, _, ⟨more, white',
      _, ⟨digits, hd, _, rfl, rfl⟩, rfl⟩, rfl⟩, rfl⟩, rfl⟩, rfl⟩, rfl⟩, rfl⟩

private theorem startsShortArguments_steps :
    startsShortArguments text = true ↔ ∃ r named after tail,
    text = '(' :: r ∧ after? ".s".toList (r.dropWhile isNamePart) = some named ∧
      skipSpace named = '=' :: after ∧ r.takeWhile isNamePart ≠ [] ∧
        (skipSpace after).takeWhile isDecimalDigit ≠ [] ∧
          (skipSpace after).dropWhile isDecimalDigit = ')' :: tail := by
  unfold startsShortArguments
  constructor
  · intro h
    split at h
    · rename_i r
      dsimp only at h
      split at h
      · rename_i after found
        obtain ⟨named, dotted, equals⟩ := Option.map_eq_some_iff.mp found
        simp only [Bool.and_eq_true, Bool.not_eq_true', List.isEmpty_eq_false_iff, beq_iff_eq] at h
        obtain ⟨⟨name, digits⟩, close⟩ := h
        obtain ⟨tail, closed⟩ := List.head?_eq_some_iff.mp close
        exact ⟨r, named, after, tail, rfl, dotted, equals, name, digits, closed⟩
      · cases h
    · cases h
  · rintro ⟨r, named, after, tail, rfl, dotted, equals, name, digits, closed⟩
    simp only [dotted, Option.map_some, equals, closed]
    simp [name, digits]

private theorem startsShortArguments_iff :
    startsShortArguments text = true ↔ ∃ name space more digits after,
    (name ≠ [] ∧ ∀ c ∈ name, isNamePart c = true) ∧ (∀ c ∈ space, isWhiteSpace c = true) ∧
      (∀ c ∈ more, isWhiteSpace c = true) ∧ (digits ≠ [] ∧ ∀ c ∈ digits, isDecimalDigit c = true) ∧
        text = '(' :: (name ++ '.' :: 's' :: (space ++ '=' :: (more ++ (digits ++ ')' :: after)))) := by
  rw [startsShortArguments_steps]
  constructor
  · rintro ⟨r, named, after, tail, rfl, dotted, equals, filled, filled', closed⟩
    obtain ⟨space, white, front⟩ := exists_skipSpace named
    obtain ⟨more, white', back⟩ := exists_skipSpace after
    have digits : skipSpace after = _ := (List.takeWhile_append_dropWhile (p := isDecimalDigit)).symm
    have name : r = _ := (List.takeWhile_append_dropWhile (p := isNamePart)).symm
    rw [closed] at digits
    rw [equals, back, digits] at front
    rw [after?_eq_some_iff.mp dotted, front] at name
    exact ⟨_, space, more, _, tail, ⟨filled, fun _ => List.mem_takeWhile_imp⟩, white, white',
      ⟨filled', fun _ => List.mem_takeWhile_imp⟩, congrArg _ name⟩
  · rintro ⟨name, space, more, digits, after, ⟨filled, hn⟩, white, white', ⟨filled', hd⟩, rfl⟩
    have number : skipSpace (more ++ (digits ++ ')' :: after)) = digits ++ ')' :: after := by
      -- no digit is white space, so the white space ends where the digits start
      obtain ⟨d, r, rfl⟩ := List.exists_cons_of_ne_nil filled'
      have first := isWhiteSpace_of_isDecimalDigit (hd d List.mem_cons_self)
      exact dropWhile_run white' first _
    have dot : isNamePart '.' = false := by decide
    have close : isDecimalDigit ')' = false := by decide
    refine ⟨_, _, _, after, rfl, after?_eq_some_iff.mpr (dropWhile_run hn dot _),
      dropWhile_run white (by decide) _, ?_, ?_, ?_⟩
    · rwa [takeWhile_run hn dot]
    · rwa [number, takeWhile_run hd close]
    · rw [number, dropWhile_run hd close]

/-- Of the name in front only its last character has to be seen. -/
theorem callsShortRequire_iff :
    callsShortRequire text = true ↔ ∃ c r, (c :: r) <:+ text ∧ isNamePart c = true ∧
      startsShortArguments r = true := by
  induction text with
  | nil => simp [callsShortRequire]
  | cons d text ih =>
    simp only [callsShortRequire, Bool.or_eq_true, Bool.and_eq_true, ih, List.suffix_cons_iff]
    constructor
    · rintro (⟨part, starts⟩ | ⟨c, r, inside, part, starts⟩)
      · exact ⟨d, text, .inl rfl, part, starts⟩
      · exact ⟨c, r, .inr inside, part, starts⟩
    · rintro ⟨c, r, same | inside, part, starts⟩
      · cases same
        exact .inl ⟨part, starts⟩
      · exact .inr ⟨c, r, inside, part, starts⟩

private theorem contains_requireMark_iff :
    anywhere startsRequire text = true ↔ Contains text requireMark := by
  rw [anywhere_eq_true_iff]
  simp only [startsRequire_iff]
  unfold Contains
  constructor
  · rintro ⟨rest, inside, piece, matched, front⟩
    exact ⟨piece, matched, front.isInfix.trans inside.isInfix⟩
  · rintro ⟨piece, matched, before, after, rfl⟩
    exact ⟨piece ++ after, ⟨before, (List.append_assoc ..).symm⟩, piece, matched, after, rfl⟩

private theorem contains_shortMark_iff :
    callsShortRequire text = true ↔ Contains text shortMark := by
  rw [callsShortRequire_iff]
  simp only [startsShortArguments_iff]
  unfold Contains
  constructor
  · rintro ⟨c, _, ⟨before, rfl⟩, part, name, space, more, digits, after, hn, white, white', hd, rfl⟩
    have front : [c] ≠ [] ∧ ∀ d ∈ [c], isNamePart d = true :=
      ⟨List.cons_ne_nil c [], List.forall_mem_singleton.mpr part⟩
    refine ⟨_, mem_shortMark.mpr ⟨[c], name, space, more, digits, front, hn, white, white', hd, rfl⟩,
      before, after, ?_⟩
    simp only [List.append_assoc, List.cons_append, List.nil_append]
  · rintro ⟨piece, matched, before, after, rfl⟩
    obtain ⟨front, name, space, more, digits, ⟨filled, hf⟩, hn, white, white', hd, rfl⟩ :=
      mem_shortMark.mp matched
    obtain rfl | ⟨init, c, rfl⟩ := List.eq_nil_or_concat front
    · exact absurd rfl filled
    · have part : isNamePart c = true := hf c (by simp)
      refine ⟨c, _, ⟨before ++ init, ?_⟩, part, name, space, more, digits, after, hn, white, white', hd, rfl⟩
      simp only [List.concat_eq_append, List.append_assoc, List.cons_append, List.nil_append]

private theorem isClassic_iff : isClassic text = true ↔ Contains text classicMark := by
  unfold isClassic classicMark
  rw [Bool.or_eq_true, contains_requireMark_iff, contains_shortMark_iff, contains_add]

private theorem isChunk_iff : isChunk text = true ↔ Contains text chunkMark := by
  unfold isChunk chunkMark
  rw [Bool.or_eq_true, occurs_iff, occurs_iff, contains_add]

private theorem format?_cases (text : String) :
    (format? text = some .classic ∧ Contains text.toList classicMark) ∨
    (format? text = some .chunk ∧ ¬ Contains text.toList classicMark ∧ Contains text.toList chunkMark) ∨
    (format? text = none ∧ ¬ Contains text.toList classicMark ∧ ¬ Contains text.toList chunkMark) := by
  simp only [← isClassic_iff, ← isChunk_iff]
  unfold format?
  dsimp only
  split
  · rename_i classic
    exact .inl ⟨rfl, classic⟩
  · rename_i notClassic
    split
    · rename_i chunk
      exact .inr (.inl ⟨rfl, notClassic, chunk⟩)
    · rename_i notChunk
      exact .inr (.inr ⟨rfl, notClassic, notChunk⟩)

private theorem sniff_value (text : String) : (sniff text).value = format? text := by
  unfold sniff
  cases format? text <;> rfl

private theorem isBundle_iff (text : String) : (isBundle text).value = true ↔
    (format? text).isSome ∨ Contains text.toList (literal "__webpack_require__") := by
  unfold isBundle
  rw [Traced.value_bind, sniff_value, Traced.value_pure, Bool.or_eq_true, occurs_iff]

/-- How much is known of the format: nothing, a chunk, or a classic bundle, whose marks count first. -/
def rank : Option BundleFormat → Nat
  | none => 0
  | some .chunk => 1
  | some .classic => 2

/-- More text around a text takes no mark from it. -/
theorem rank_format?_le (before text after : String) :
    rank (format? text) ≤ rank (format? (before ++ text ++ after)) := by
  have inside (marks : Language Char) (h : Contains text.toList marks) :
      Contains (before ++ text ++ after).toList marks := by
    rw [String.toList_append, String.toList_append]
    exact h.embed before.toList after.toList
  obtain ⟨found, classic⟩ | ⟨found, -, chunk⟩ | ⟨found, -⟩ := format?_cases text
  · obtain ⟨found', -⟩ | ⟨-, notClassic, -⟩ | ⟨-, notClassic, -⟩ := format?_cases (before ++ text ++ after)
    · rw [found, found']
    · exact absurd (inside _ classic) notClassic
    · exact absurd (inside _ classic) notClassic
  · obtain ⟨found', -⟩ | ⟨found', -⟩ | ⟨-, -, notChunk⟩ := format?_cases (before ++ text ++ after)
    · rw [found, found']
      decide
    · rw [found, found']
    · exact absurd (inside _ chunk) notChunk
  · rw [found]
    exact Nat.zero_le _

private theorem isSome_iff_rank {found : Option BundleFormat} :
    found.isSome = true ↔ 1 ≤ rank found := by
  rcases found with _ | _ | _ <;> decide

private theorem isBundle_embed {text : String} (h : (isBundle text).value = true)
    (before after : String) :
    (isBundle (before ++ text ++ after)).value = true := by
  rw [isBundle_iff] at h ⊢
  refine h.imp (fun found => ?_) fun named => ?_
  · rw [isSome_iff_rank] at found ⊢
    exact found.trans (rank_format?_le before text after)
  · rw [String.toList_append, String.toList_append]
    exact named.embed before.toList after.toList

/-- The marks in a text decide its format: a classic bundle if some piece of the text is a mark of the
classic runtime, wherever it is and however its repetitions are split, else a chunk if a loader is named,
else none. A text passes for a bundle if it has a format or names the classic runtime. More text around
it takes no mark away, so the format never falls back. -/
theorem marks_decide_format (text : String) :
    (format? text = some .classic ↔ Contains text.toList classicMark) ∧
    (format? text = some .chunk ↔
      ¬ Contains text.toList classicMark ∧ Contains text.toList chunkMark) ∧
    (format? text = none ↔ ¬ Contains text.toList classicMark ∧ ¬ Contains text.toList chunkMark) ∧
    (sniff text).value = format? text ∧
    ((isBundle text).value = true ↔
      (format? text).isSome ∨ Contains text.toList (literal "__webpack_require__")) ∧
    ∀ before after : String,
      rank (format? text) ≤ rank (format? (before ++ text ++ after)) ∧
      ((isBundle text).value = true → (isBundle (before ++ text ++ after)).value = true) := by
  refine ⟨?_, ?_, ?_, sniff_value text, isBundle_iff text, fun before after =>
    ⟨rank_format?_le before text after, fun h => isBundle_embed h before after⟩⟩
  all_goals
    obtain ⟨found, classic⟩ | ⟨found, notClassic, chunk⟩ | ⟨found, notClassic, notChunk⟩ :=
      format?_cases text
    all_goals simp [*]

/-- A mark inside what starts like another one, with white space of two kinds and a digit that is not
ASCII. -/
theorem marks_decide_format_overlapping :
    let text := "n(n.s(e.s\u3000= \u0663)"
    format? text = some .classic ∧ Contains text.toList classicMark ∧
      (isBundle text).value = true ∧
      rank (format? text) ≤ rank (format? ("webpackChunk;" ++ text ++ ";")) ∧
      (isBundle ("webpackChunk;" ++ text ++ ";")).value = true := by
  intro text
  have found : format? text = some .classic := by decide
  obtain ⟨classic, -, -, -, bundle, embedded⟩ := marks_decide_format text
  have isBundle := bundle.mpr (.inl (by rw [found]; rfl))
  obtain ⟨rises, kept⟩ := embedded "webpackChunk;" ";"
  exact ⟨found, classic.mp found, isBundle, rises, kept isBundle⟩

end BundleLens.Marker
