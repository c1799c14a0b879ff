import BundleLens.Proofs.Console.Colour
import BundleLens.Proofs.Number.Reading

/-! The totals in a summary. What it tells is exact, both of modules and of failures. There is no summary
of more modules than fit into 64 bits. -/
namespace BundleLens.Console
open Number

variable {c : Console} {rs : List Report} {total : UInt64}

def modulesLine (n : Nat) : String := s!"  Modules:  {n}"

def failuresLine (c : Console) (n : Nat) : String := "  " ++ paint c.colour .alarm s!"Failed inputs: {n}"

/-- A line is among the lines of a text. -/
def HasLine (text line : String) : Prop := line.toList ∈ text.toList.splitOnP Text.isLineBreak

private theorem oneLine_toString (n : Nat) : OneLine (toString n).toList :=
  oneLine_of_visible fun _ h => ModuleId.isHidden_of_isDigit (isDigit_of_mem_toString h)

private theorem oneLine_numbered {words : String} (h : OneLine words.toList) (n : Nat) :
    OneLine (words ++ toString n).toList := by
  rw [String.toList_append]
  exact h.append (oneLine_toString n)

private theorem oneLine_summaryLines (c : Console) (rs : List Report) (total : UInt64) :
    ∀ line ∈ c.summaryLines rs total, OneLine line.toList := by
  have empty : OneLine "".toList := by decide
  have rule : OneLine "=== Summary ===".toList := by decide
  have inputs : OneLine "  Inputs:   ".toList := by decide
  have modules : OneLine "  Modules:  ".toList := by decide
  have lead : OneLine "  ".toList := by decide
  have good : OneLine "All inputs recognized.".toList := by decide
  have failed : OneLine "Failed inputs: ".toList := by decide
  unfold summaryLines
  simp only [List.forall_mem_cons]
  refine ⟨empty, rule.paint c.colour .heading, oneLine_numbered inputs rs.length,
    oneLine_numbered modules total.toNat, ?_, empty, List.forall_mem_nil _⟩
  split
  · exact (String.toList_append ▸ lead.append (good.paint c.colour .good))
  · exact (String.toList_append ▸ lead.append
      ((oneLine_numbered failed (failures rs)).paint c.colour .alarm))

/-- The lines that are seen are those that are written, and one without anything, as are some of them. -/
theorem hasLine_iff {line : String} :
    HasLine (unlines (c.summaryLines rs total)) line ↔ line ∈ c.summaryLines rs total := by
  have empty : "" ∈ c.summaryLines rs total := List.mem_cons_self
  unfold HasLine
  rw [splitOnP_unlines (oneLine_summaryLines c rs total), List.mem_append,
    List.mem_map_of_injective fun _ _ => String.toList_inj.mp, List.mem_singleton,
    String.toList_eq_nil_iff]
  exact or_iff_left_of_imp fun last => last ▸ empty

/-- What tells the lines of a summary apart. -/
def opening (line : String) : List Char := line.toList.take 5

private theorem ne_of_opening {line other : String} (h : opening line ≠ opening other) :
    line ≠ other :=
  fun same => h (congrArg opening same)

private theorem opening_append (words more : String) (long : 5 ≤ words.length) :
    opening (words ++ more) = opening words := by
  unfold opening
  rw [String.toList_append, List.take_append_of_le_length (by rwa [String.length_toList])]

private theorem opening_inputs (n : Nat) :
    opening ("  Inputs:   " ++ toString n) = "  Inp".toList :=
  opening_append _ _ (by decide)

private theorem opening_modulesLine (n : Nat) : opening (modulesLine n) = "  Mod".toList :=
  opening_append "  Modules:  " _ (by decide)

private theorem opening_painted (style : Style) (words : String) :
    opening ("  " ++ paint true style words) = ("  ".toList ++ style.on).take 5 := by
  have long : 5 ≤ ("  ".toList ++ style.on).length := by cases style <;> decide
  have painted : (paint true style words).toList =
      style.on ++ (restore style.on words.toList ++ reset) := by
    unfold paint
    rw [if_pos rfl, String.toList_ofList, List.append_assoc]
  unfold opening
  rw [String.toList_append, painted, ← List.append_assoc, List.take_append_of_le_length long]

private theorem opening_failuresLine (c : Console) (n : Nat) :
    opening (c.failuresLine n) = if c.colour then "  \x1b[1".toList else "  Fai".toList := by
  unfold failuresLine
  cases c.colour with
  | true =>
    rw [opening_painted]
    decide
  | false =>
    have words : paint false .alarm s!"Failed inputs: {n}" = "Failed inputs: " ++ toString n := rfl
    rw [words, ← String.append_assoc, opening_append _ _ (by decide)]
    decide

def successLine (c : Console) : String := "  " ++ paint c.colour .good "All inputs recognized."

private theorem summaryLines_eq (c : Console) (rs : List Report) (total : UInt64) :
    c.summaryLines rs total =
      ["", paint c.colour .heading "=== Summary ===", "  Inputs:   " ++ toString rs.length,
        modulesLine total.toNat,
        if failures rs = 0 then c.successLine else c.failuresLine (failures rs), ""] := by
  have verdict := apply_ite ("  " ++ ·) (failures rs = 0)
    (paint c.colour .good "All inputs recognized.")
    (paint c.colour .alarm s!"Failed inputs: {failures rs}")
  unfold successLine failuresLine
  exact verdict ▸ rfl

private theorem modulesLine_inj {k n : Nat} : modulesLine k = modulesLine n ↔ k = n := by
  have line (m : Nat) : modulesLine m = "  Modules:  " ++ toString m := rfl
  rw [line, line, String.append_right_inj, toString_inj]

private theorem modulesLine_mem_iff {n : Nat} :
    modulesLine n ∈ c.summaryLines rs total ↔ n = total.toNat := by
  have other {line : String} (h : opening line ≠ "  Mod".toList) : modulesLine n ≠ line :=
    ne_of_opening (by rw [opening_modulesLine]; exact h.symm)
  have empty : opening "" ≠ "  Mod".toList := by decide
  have title : opening (paint c.colour .heading "=== Summary ===") ≠ "  Mod".toList := by
    cases c.colour <;> decide
  have inputs : opening ("  Inputs:   " ++ toString rs.length) ≠ "  Mod".toList := by
    rw [opening_inputs]
    decide
  have verdict : opening (if failures rs = 0 then c.successLine else c.failuresLine (failures rs)) ≠
      "  Mod".toList := by
    split
    · unfold successLine
      cases c.colour <;> decide
    · rw [opening_failuresLine]
      split <;> decide
  rw [summaryLines_eq]
  simp only [List.mem_cons, List.not_mem_nil, other empty, other title, other inputs,
    other verdict, modulesLine_inj, or_false, false_or]

private theorem paint_inj {words more : String} (plain : NoEscape words) (other : NoEscape more)
    {colour : Bool} {style : Style} :
    paint colour style words = paint colour style more ↔ words = more := by
  refine ⟨fun h => ?_, congrArg _⟩
  cases colour with
  | false => exact h
  | true =>
    have left := shows_paint style plain []
    have right := shows_paint style other []
    rw [h, right] at left
    exact String.toList_inj.mp (List.append_cancel_right left).symm

private theorem failuresLine_inj {k n : Nat} : c.failuresLine k = c.failuresLine n ↔ k = n := by
  have words (m : Nat) : NoEscape ("Failed inputs: " ++ toString m) :=
    NoEscape.append (by decide) (noEscape_toString m)
  have line (m : Nat) : c.failuresLine m =
    "  " ++ paint c.colour .alarm ("Failed inputs: " ++ toString m) := rfl
  rw [line, line, String.append_right_inj, paint_inj (words k) (words n), String.append_right_inj,
    toString_inj]

private theorem failuresLine_mem_iff {n : Nat} :
    c.failuresLine n ∈ c.summaryLines rs total ↔ 0 < n ∧ n = failures rs := by
  have other {line : String}
      (h : opening line ≠ if c.colour then "  \x1b[1".toList else "  Fai".toList) :
      c.failuresLine n ≠ line :=
    ne_of_opening (by rw [opening_failuresLine]; exact h.symm)
  have empty : c.failuresLine n ≠ "" := other (by cases c.colour <;> decide)
  have title : c.failuresLine n ≠ paint c.colour .heading "=== Summary ===" :=
    other (by cases c.colour <;> decide)
  have inputs : c.failuresLine n ≠ "  Inputs:   " ++ toString rs.length :=
    other (by rw [opening_inputs]; cases c.colour <;> decide)
  have modules : c.failuresLine n ≠ modulesLine total.toNat :=
    other (by rw [opening_modulesLine]; cases c.colour <;> decide)
  have success : c.failuresLine n ≠ c.successLine :=
    other (by unfold successLine; cases c.colour <;> decide)
  rw [summaryLines_eq]
  simp only [List.mem_cons, List.not_mem_nil, empty, title, inputs, modules, or_false, false_or]
  split
  · rename_i zero
    simp only [success, false_iff, not_and, zero]
    omega
  · rename_i positive
    rw [failuresLine_inj]
    omega

/-- A summary that is due is shown exactly if the number of modules fits into 64 bits, which is exactly
if no addition on the way to it exceeds them; if not, the program stops. The number of modules that a
summary tells is right. So is the number of failures: it is told exactly if there are any. -/
theorem told_total_exact_iff (json : c.json = false)
    (due : c.quiet = false ∨ ∃ r ∈ rs, r.isOk = false) :
    ((∃ text, c.summary? rs = some text) ↔ moduleSum rs < UInt64.size) ∧
    (SumsFit rs ↔ moduleSum rs < UInt64.size) ∧
    ∀ text, c.summary? rs = some text →
      (∀ n, HasLine text (modulesLine n) ↔ n = moduleSum rs) ∧
      ∀ n, HasLine text (c.failuresLine n) ↔
        0 < n ∧ n = (rs.filter fun r => r.errors ≠ []).length := by
  have counted : failures rs = (rs.filter fun r => r.errors ≠ []).length := by
    unfold failures
    rw [List.countP_eq_length_filter]
    congr 2
    funext r
    unfold Report.isOk
    cases r.errors <;> rfl
  rw [summary?_of_due json due]
  refine ⟨?_, sumsFit_iff, fun text shown => ?_⟩
  · rw [← exists_totalModules?_iff]
    cases totalModules? rs <;> simp
  · obtain ⟨total, sum, rfl⟩ := Option.map_eq_some_iff.mp shown
    have exact_total := totalModules?_eq_some_iff.mp sum
    constructor
    · intro n
      rw [hasLine_iff, modulesLine_mem_iff, exact_total]
    · intro n
      rw [hasLine_iff, failuresLine_mem_iff, counted]

/-- The largest number that fits, and failures among the reports. -/
theorem told_total_exact_iff_largest :
    let console : Console := { quiet := true, colour := true }
    let most : Report := ⟨"a.js", some .chunk, none, some .unresolved, 18446744073709551614, [], []⟩
    let one : Report := ⟨"b.js", some .chunk, none, some .unresolved, 1, [], []⟩
    let failure : Report := ⟨"c.js", none, none, none, 0, [], ["first", "second"]⟩
    let reports := [most, failure, one, failure]
    console.json = false ∧ (∃ r ∈ reports, r.isOk = false) ∧
      moduleSum reports = 18446744073709551615 ∧ SumsFit reports ∧
      ∃ text, console.summary? reports = some text ∧
        HasLine text (modulesLine 18446744073709551615) ∧
        HasLine text (console.failuresLine 2) ∧ ¬ HasLine text (console.failuresLine 1) := by
  intro console most one failure reports
  have due : ∃ r ∈ reports, r.isOk = false := ⟨failure, by simp [reports], rfl⟩
  obtain ⟨shown, fit, told⟩ := @told_total_exact_iff console reports rfl (.inr due)
  have total : moduleSum reports = 18446744073709551615 := by decide
  obtain ⟨text, summary⟩ := shown.mpr (by decide)
  obtain ⟨modules, failed⟩ := told text summary
  refine ⟨rfl, due, total, fit.mpr (by decide), text, summary, (modules _).mpr total.symm,
    (failed 2).mpr (by decide), ?_⟩
  exact fun wrong => absurd ((failed 1).mp wrong).2 (by decide)

/-- Of 2 ^ 64 modules no summary tells: the program stops on the way to their number. -/
theorem large_total_not_told :
    let console : Console := {}
    let most : Report := ⟨"a.js", some .chunk, none, some .unresolved, 18446744073709551615, [], []⟩
    let one : Report := ⟨"b.js", some .chunk, none, some .unresolved, 1, [], []⟩
    console.json = false ∧ console.quiet = false ∧
      moduleSum [most, one] = 18446744073709551616 ∧ ¬ SumsFit [most, one] ∧
      console.summary? [most, one] = none ∧
      ¬ HasLine (console.summary [most, one]) (modulesLine 18446744073709551616) := by
  intro console most one
  have stopped : console.summary? [most, one] = none := by decide
  refine ⟨rfl, rfl, by decide, fun fit => absurd (sumsFit_iff.mp fit) (by decide), stopped, ?_⟩
  unfold HasLine summary
  rw [stopped]
  decide

end BundleLens.Console
