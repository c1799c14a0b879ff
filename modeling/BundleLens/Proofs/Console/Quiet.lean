import BundleLens.Proofs.Console.Lines
import BundleLens.Proofs.Console.ModuleSum

/-! Consoles that show failures only. What they show is what all others show, without the blocks of the
bundles, and they stop where the others do unless there is no failure. -/
namespace BundleLens.Console

variable {c : Console} {r : Report} {rs : List Report}

private theorem unlines_cons_ne_empty (line : String) (lines : List String) :
    unlines (line :: lines) ≠ "" := by
  intro h
  have shown := congrArg String.toList h
  rw [toList_unlines_cons] at shown
  exact nomatch (List.append_eq_nil_iff.mp shown).2

private theorem report_of_failure (json : c.json = false) (failed : r.isOk = false) :
    c.report r = unlines ("" :: (paint c.colour .heading "===" ++ " " ++ paint c.colour .name r.source) ::
      r.errors.map fun error => "    +-- " ++ paint c.colour .error error) := by
  unfold report reportLines
  rw [json, failed, Bool.and_false]
  rfl

def onlyFailures (c : Console) : Console := { c with quiet := true }

def everything (c : Console) : Console := { c with quiet := false }

private theorem report_onlyFailures (json : c.json = false) (r : Report) :
    c.onlyFailures.report r = if r.isOk then "" else c.everything.report r := by
  cases ok : r.isOk with
  | true =>
    unfold report onlyFailures
    rw [ok, Bool.true_and, Bool.or_true]
    rfl
  | false =>
    have quiet : c.onlyFailures.report r = _ := report_of_failure json ok
    have full : c.everything.report r = _ := report_of_failure json ok
    exact quiet.trans full.symm

private theorem report_ne_empty (json : c.json = false) (quiet : c.quiet = false) (r : Report) :
    c.report r ≠ "" := by
  have lines : ∃ line lines, c.reportLines r = line :: lines := by
    unfold reportLines
    split
    · exact ⟨_, _, rfl⟩
    · exact ⟨_, _, rfl⟩
  obtain ⟨line, lines, split⟩ := lines
  unfold report
  rw [json, quiet, split]
  exact unlines_cons_ne_empty line lines

theorem reports_cons (c : Console) (r : Report) (rs : List Report) :
    c.reports (r :: rs) = c.report r ++ c.reports rs := by
  unfold reports
  rw [List.map_cons, String.join_cons]

private theorem reports_append (c : Console) (rs more : List Report) :
    c.reports (rs ++ more) = c.reports rs ++ c.reports more := by
  unfold reports
  rw [List.map_append, String.join_append]

private theorem reports_onlyFailures (json : c.json = false) (rs : List Report) :
    c.onlyFailures.reports rs = c.everything.reports (rs.filter fun r => !r.isOk) := by
  induction rs with
  | nil => rfl
  | cons r rs ih =>
    rw [reports_cons, report_onlyFailures json, ih]
    cases ok : r.isOk with
    | true =>
      rw [List.filter_cons_of_neg (by simp [ok])]
      exact String.empty_append
    | false =>
      rw [List.filter_cons_of_pos (by simp [ok]), reports_cons]
      rfl

private theorem reports_eq_empty_iff (json : c.json = false) (quiet : c.quiet = false) :
    c.reports rs = "" ↔ rs = [] := by
  cases rs with
  | nil => simp [reports]
  | cons r rs => simp [reports_cons, report_ne_empty json quiet r]

private theorem reports_of_mem (c : Console) (listed : r ∈ rs) :
    ∃ before after, c.reports rs = before ++ c.report r ++ after := by
  obtain ⟨front, back, rfl⟩ := List.append_of_mem listed
  exact ⟨_, _, by rw [reports_append, reports_cons, String.append_assoc]⟩

theorem failures_eq_zero_iff : failures rs = 0 ↔ ∀ r ∈ rs, r.isOk = true := by
  unfold failures
  rw [List.countP_eq_zero]
  simp

private theorem summary?_of_bundles (json : c.json = false) (ok : ∀ r ∈ rs, r.isOk = true) :
    c.onlyFailures.summary? rs = some "" := by
  have none : failures rs = 0 := failures_eq_zero_iff.mpr ok
  unfold summary? onlyFailures
  rw [json, none]
  rfl

/-- A summary is due unless nothing but failures is shown and there are none. -/
theorem summary?_of_due (json : c.json = false)
    (due : c.quiet = false ∨ ∃ r ∈ rs, r.isOk = false) :
    c.summary? rs = (totalModules? rs).map fun total => unlines (c.summaryLines rs total) := by
  have loud : (c.quiet && failures rs == 0) = false := by
    obtain loud | ⟨r, listed, failed⟩ := due
    · rw [loud, Bool.false_and]
    · refine Bool.and_eq_false_imp.mpr fun _ => beq_false_of_ne fun none => ?_
      rw [failures_eq_zero_iff.mp none r listed] at failed
      cases failed
  unfold summary?
  rw [json, loud]
  rfl

private theorem summary?_of_failure (json : c.json = false)
    (failed : ∃ r ∈ rs, r.isOk = false) :
    c.onlyFailures.summary? rs = c.everything.summary? rs := by
  have quiet : c.onlyFailures.summary? rs = _ := summary?_of_due json (.inr failed)
  have full : c.everything.summary? rs = _ := summary?_of_due json (.inl rfl)
  exact quiet.trans full.symm

private theorem summary?_eq_none_iff (json : c.json = false)
    (due : c.quiet = false ∨ ∃ r ∈ rs, r.isOk = false) :
    c.summary? rs = none ↔ UInt64.size ≤ moduleSum rs := by
  rw [summary?_of_due json due, Option.map_eq_none_iff, totalModules?_eq_none_iff]

private theorem summary_ne_empty_iff (json : c.json = false)
    (due : c.quiet = false ∨ ∃ r ∈ rs, r.isOk = false) :
    c.summary rs ≠ "" ↔ moduleSum rs < UInt64.size := by
  unfold summary
  rw [summary?_of_due json due, ← exists_totalModules?_iff]
  cases totalModules? rs with
  | none => simp
  | some modules => exact iff_of_true (unlines_cons_ne_empty _ _) ⟨modules, rfl⟩

private theorem all_isOk_or_failure (rs : List Report) :
    (∀ r ∈ rs, r.isOk = true) ∨ ∃ r ∈ rs, r.isOk = false := by
  by_cases ok : ∀ r ∈ rs, r.isOk = true
  · exact .inl ok
  · refine .inr ?_
    simpa only [not_forall, exists_prop, Bool.not_eq_true] using ok

/-- A console for failures only shows the blocks of the failures as they are, in order, and no others.
Without a failure it shows no summary. With a failure its summary of all reports is that of any console,
and it is shown exactly if the number of modules fits into 64 bits; if not, both stop before they show
it. So nothing at all is shown exactly if there is no failure, and else the name and all errors of each,
from which a style takes nothing. -/
theorem only_failures_shown {c : Console} (json : c.json = false) (rs : List Report) :
    (∀ r, c.onlyFailures.report r = if r.isOk then "" else c.everything.report r) ∧
    c.onlyFailures.reports rs = c.everything.reports (rs.filter fun r => !r.isOk) ∧
    ((∀ r ∈ rs, r.isOk = true) → c.onlyFailures.summary? rs = some "") ∧
    ((∃ r ∈ rs, r.isOk = false) → c.onlyFailures.summary? rs = c.everything.summary? rs) ∧
    (c.onlyFailures.summary rs ≠ "" ↔ (∃ r ∈ rs, r.isOk = false) ∧ moduleSum rs < UInt64.size) ∧
    (c.onlyFailures.summary? rs = none ↔
      (∃ r ∈ rs, r.isOk = false) ∧ UInt64.size ≤ moduleSum rs) ∧
    (c.onlyFailures.reports rs ++ c.onlyFailures.summary rs = "" ↔ ∀ r ∈ rs, r.isOk = true) ∧
    (∀ r ∈ rs, r.isOk = false → ∃ before after, c.onlyFailures.reports rs = before ++
      unlines ("" :: (paint c.colour .heading "===" ++ " " ++ paint c.colour .name r.source) ::
        r.errors.map fun error => "    +-- " ++ paint c.colour .error error) ++ after) ∧
    ∀ style (words : String), words.toList.Sublist (paint c.colour style words).toList := by
  have kept := reports_onlyFailures json rs
  have no_failure (ok : ∀ r ∈ rs, r.isOk = true) : ¬ ∃ r ∈ rs, r.isOk = false := by
    rintro ⟨r, listed, failed⟩
    rw [ok r listed] at failed
    cases failed
  refine ⟨report_onlyFailures json, kept, summary?_of_bundles json, summary?_of_failure json,
    ?_, ?_, ?_, fun r listed failed => ?_, sublist_paint c.colour⟩
  · obtain ok | failed := all_isOk_or_failure rs
    · have empty : c.onlyFailures.summary rs = "" :=
        congrArg (·.getD "") (summary?_of_bundles json ok)
      exact iff_of_false (fun shown => shown empty) fun h => no_failure ok h.1
    · rw [and_iff_right failed]
      exact summary_ne_empty_iff json (.inr failed)
  · obtain ok | failed := all_isOk_or_failure rs
    · rw [summary?_of_bundles json ok]
      exact iff_of_false nofun fun h => no_failure ok h.1
    · rw [and_iff_right failed]
      exact summary?_eq_none_iff json (.inr failed)
  · have all_ok_iff : (rs.filter fun r => !r.isOk) = [] ↔ ∀ r ∈ rs, r.isOk = true := by
      rw [List.filter_eq_nil_iff]
      simp
    have empty_iff := @reports_eq_empty_iff c.everything (rs.filter fun r => !r.isOk) json rfl
    rw [String.append_eq_empty_iff, kept, empty_iff, all_ok_iff]
    exact ⟨And.left, fun ok => ⟨ok, congrArg (·.getD "") (summary?_of_bundles json ok)⟩⟩
  · obtain ⟨before, after, split⟩ := reports_of_mem c.onlyFailures listed
    have block : c.onlyFailures.report r = _ := report_of_failure json failed
    rw [block] at split
    exact ⟨before, after, split⟩

/-- A bundle, a failure, and a report that tells of modules and of an error. -/
theorem only_failures_shown_mixed :
    let console : Console := { verbose := true, colour := true }
    let modules := [⟨.number 5, true, 0, 9⟩]
    let bundle : Report := ⟨"a.js", some .chunk, some (.number 5), some .resolved, 1, modules, []⟩
    let failure : Report := ⟨"b.js", none, none, none, 0, [], ["first", "second"]⟩
    let both : Report := ⟨"c.js", some .chunk, none, some .unresolved, 1, modules, ["third"]⟩
    let reports := [bundle, failure, both]
    console.json = false ∧
      console.onlyFailures.reports reports = console.everything.reports [failure, both] ∧
      console.onlyFailures.summary reports = console.everything.summary reports ∧
      console.onlyFailures.reports [bundle] ++ console.onlyFailures.summary [bundle] = "" ∧
      both ∈ reports ∧ both.isOk = false ∧
        ∃ before after, console.onlyFailures.reports reports = before ++ unlines ["",
          paint true .heading "===" ++ " " ++ paint true .name "c.js",
          "    +-- " ++ paint true .error "third"] ++ after := by
  intro console modules bundle failure both reports
  have json : console.json = false := rfl
  obtain ⟨-, kept, -, same, -, -, -, block, -⟩ := only_failures_shown json reports
  obtain ⟨-, -, -, -, -, -, nothing, -, -⟩ := only_failures_shown json [bundle]
  have listed : both ∈ reports := by simp [reports]
  have failed : both.isOk = false := rfl
  exact ⟨json, kept, congrArg (·.getD "") (same ⟨both, listed, failed⟩),
    nothing.mpr (List.forall_mem_singleton.mpr rfl), listed, failed, block both listed failed⟩

/-- A failure among more than 2 ^ 64 modules: it is shown, and the program stops before the summary. -/
theorem overflow_hides_summary :
    let console : Console := {}
    let failure : Report := ⟨"a.js", none, none, none, 18446744073709551615, [], ["first"]⟩
    let bundle : Report := ⟨"b.js", some .chunk, none, some .unresolved, 1, [], []⟩
    console.json = false ∧ failure ∈ [failure, bundle] ∧ failure.isOk = false ∧
      console.onlyFailures.reports [failure, bundle] = "\n=== a.js\n    +-- first\n" ∧
      console.onlyFailures.summary [failure, bundle] = "" ∧
      console.onlyFailures.summary? [failure, bundle] = none := by
  decide

end BundleLens.Console
