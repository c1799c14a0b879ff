import BundleLens.Proofs.FileTree
import BundleLens.Proofs.Report.Json
import BundleLens.Session

/-! Reports as JSON on the console and in a file. The console shows nothing but the one text, the
file holds it without the last new line, and the text tells the reports in full. -/
namespace BundleLens

namespace Console
variable {c : Console}

private theorem report_of_json (h : c.json = true) (r : Report) : c.report r = "" := by
  unfold report
  rw [h, Bool.true_or, if_pos rfl]

private theorem reports_of_json (h : c.json = true) (rs : List Report) : c.reports rs = "" := by
  unfold reports
  induction rs with
  | nil => rfl
  | cons r rs ih => rw [List.map_cons, String.join_cons, report_of_json h, ih, String.empty_append]

private theorem summary_of_json (h : c.json = true) (rs : List Report) :
    c.summary rs = Report.prettyList rs ++ "\n" := by
  unfold summary summary?
  rw [if_pos h]
  rfl

theorem shown_of_json (h : c.json = true) (rs : List Report) :
    c.reports rs ++ c.summary rs = Report.prettyList rs ++ "\n" := by
  rw [reports_of_json h, summary_of_json h, String.empty_append]

end Console

namespace Session

private theorem read_writeReports {tree later : FileTree} {path : String} {reports : List Report}
    (h : (writeReports FileTree.disk path reports).run tree = (.ok (), later)) :
    later.read path = .ok (Report.prettyList reports).toUTF8 := by
  unfold writeReports at h
  rw [FileTree.disk_write] at h
  split at h
  · rename_i wrote
    cases h
    exact FileTree.read_write wrote
  · cases h

end Session

/-- Reports as JSON are read back as they were, so their text stays the same and no id changes its
kind. The console shows this text and a new line whatever else is asked for, and a file holds the
same bytes without the new line. -/
theorem json_tells_reports (reports : List Report) :
    Report.listOfString? (Report.prettyList reports) = some reports ∧
    (Report.listOfString? (Report.prettyList reports)).map Report.prettyList =
      some (Report.prettyList reports) ∧
    (∀ id : ModuleId, ModuleId.ofJsonText? id.jsonText = some id) ∧
    (∀ n text, (ModuleId.number n).jsonText ≠ (ModuleId.name text).jsonText) ∧
    ∀ c : Console, c.json = true →
      c.reports reports ++ c.summary reports = Report.prettyList reports ++ "\n" ∧
      ∀ tree path later,
        (Session.writeReports FileTree.disk path reports).run tree = (.ok (), later) →
        ∃ bytes, later.read path = .ok bytes ∧
          (c.reports reports ++ c.summary reports).toUTF8 = bytes ++ "\n".toUTF8 := by
  have read := Report.listOfString?_prettyList reports
  refine ⟨read, by rw [read, Option.map_some], ModuleId.ofJsonText?_jsonText, ?_, ?_⟩
  · intro n text same
    have number := ModuleId.ofJsonText?_jsonText (.number n)
    rw [same, ModuleId.ofJsonText?_jsonText] at number
    cases number
  · intro c json
    have shown := Console.shown_of_json json reports
    refine ⟨shown, fun tree path later written => ?_⟩
    exact ⟨_, Session.read_writeReports written, by rw [shown]; exact String.toByteArray_append⟩

theorem json_tells_reports_kept :
    let id := ModuleId.name "5"
    let modules := [⟨.number 5, false, 0, 4294967295⟩]
    let report : Report := ⟨"a\t\x22\x01é", some .chunk, some id, some .resolved, 1, modules, []⟩
    let console : Console := { json := true, verbose := true, quiet := true }
    console.json = true ∧ ∃ later,
      (Session.writeReports FileTree.disk "out/r.json" [report]).run ⟨[(["out"], .directory)]⟩ =
        (.ok (), later) ∧
      Report.listOfString? (Report.prettyList [report]) = some [report] ∧
      ∃ bytes, later.read "out/r.json" = .ok bytes ∧
        (console.reports [report] ++ console.summary [report]).toUTF8 = bytes ++ "\n".toUTF8 := by
  intro id modules report console
  have located : FileTree.locate ⟨[(["out"], .directory)]⟩ "out/r.json" =
      .ok ["out", "r.json"] := by decide +kernel
  have written := FileTree.disk_write ⟨[(["out"], .directory)]⟩ "out/r.json"
    (Report.prettyList [report]).toUTF8
  unfold FileTree.write at written
  rw [located, ok_bind] at written
  have kept := json_tells_reports [report]
  refine ⟨rfl, _, written, kept.1, ?_⟩
  exact (kept.2.2.2.2 console rfl).2 _ _ _ written

end BundleLens
