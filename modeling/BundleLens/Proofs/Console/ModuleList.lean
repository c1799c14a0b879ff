import BundleLens.Proofs.Console.Lines
import BundleLens.Proofs.DisplayedId

/-! The list of modules that is shown under a bundle. Each module has a line of its own, and its id can
be told from the line. -/
namespace BundleLens

namespace Console
open Text

variable {c : Console}

def lead (colour isEntry : Bool) : String :=
  "        " ++ (if isEntry then paint colour .mark "*" else " ") ++ " "

def remainder (c : Console) (m : ModuleSummary) : String :=
  String.ofList (List.replicate (12 - m.id.display.length) ' ') ++
    paint c.colour .faint s!"{m.start}..{m.stop}"

private theorem toList_moduleLine (c : Console) (m : ModuleSummary) :
    (c.moduleLine m).toList =
      (lead c.colour m.isEntry).toList ++ (m.id.display.toList ++ ' ' :: (c.remainder m).toList) := by
  -- blanks commute, so the padding may as well stand after the blank
  have blanks (k : Nat) (r : List Char) :
      List.replicate k ' ' ++ ' ' :: r = ' ' :: (List.replicate k ' ' ++ r) := by
    rw [← List.cons_append, ← List.replicate_succ, List.replicate_succ', List.append_assoc]
    rfl
  have line : c.moduleLine m = lead c.colour m.isEntry ++ padRight 12 m.id.display ++ " " ++
      paint c.colour .faint s!"{m.start}..{m.stop}" := rfl
  rw [line, padRight, remainder]
  simp only [String.toList_append, String.toList_ofList, List.append_assoc]
  exact congrArg _ (congrArg _ (blanks _ _))

private theorem oneLine_lead : ∀ colour isEntry, OneLine (lead colour isEntry).toList := by decide

private theorem oneLine_remainder (c : Console) (m : ModuleSummary) :
    OneLine (c.remainder m).toList := by
  have blanks (k : Nat) : OneLine (List.replicate k ' ') := by
    intro ch h
    rw [List.eq_of_mem_replicate h]
    decide
  have number (n : UInt32) : OneLine (toString n).toList := oneLine_of_visible fun ch h =>
    ModuleId.isHidden_of_isDigit (Number.isDigit_of_mem_toString (n := n.toNat) h)
  have extent : OneLine s!"{m.start}..{m.stop}".toList := by
    have parts : s!"{m.start}..{m.stop}" = toString m.start ++ ".." ++ toString m.stop := rfl
    rw [parts, String.toList_append, String.toList_append]
    exact ((number m.start).append (by decide)).append (number m.stop)
  unfold remainder
  rw [String.toList_append, String.toList_ofList]
  exact (blanks _).append (extent.paint c.colour .faint)

private theorem oneLine_moduleLine (c : Console) (m : ModuleSummary) :
    OneLine (c.moduleLine m).toList := by
  have id : OneLine m.id.display.toList := oneLine_of_visible m.id.isHidden_of_mem_display
  rw [toList_moduleLine]
  refine (oneLine_lead c.colour m.isEntry).append (id.append ?_)
  exact List.forall_mem_cons.mpr ⟨rfl, oneLine_remainder c m⟩

/-- A mark can be told from the blank in its place. -/
private theorem lead_append_inj {colour one other : Bool} {r s : List Char}
    (h : (lead colour one).toList ++ r = (lead colour other).toList ++ s) : r = s := by
  have long : ∀ colour one, 9 ≤ (lead colour one).toList.length := by decide
  have apart : ∀ colour one other,
      (lead colour one).toList.take 9 = (lead colour other).toList.take 9 → one = other := by decide
  have front := congrArg (List.take 9) h
  rw [List.take_append_of_le_length (long ..), List.take_append_of_le_length (long ..)] at front
  obtain rfl := apart colour one other front
  exact List.append_cancel_left h

private theorem moduleLine_id {m k : ModuleSummary} (h : c.moduleLine m = c.moduleLine k) :
    m.id = k.id := by
  have line := congrArg String.toList h
  rw [toList_moduleLine, toList_moduleLine] at line
  exact (ModuleId.display_append_inj (lead_append_inj line)).1

private theorem report_of_verbose (verbose : c.verbose = true) (quiet : c.quiet = false)
    (json : c.json = false) {r : Report} (ok : r.isOk = true) :
    c.report r = { c with verbose := false }.report r ++ unlines (r.modules.map c.moduleLine) := by
  have lines : c.reportLines r =
      { c with verbose := false }.reportLines r ++ r.modules.map c.moduleLine := by
    unfold reportLines
    rw [if_pos ok, if_pos ok, verbose]
    exact congrArg (· ++ _) (List.append_nil _).symm
  unfold report
  rw [json, quiet, Bool.false_and, Bool.or_false]
  exact lines ▸ unlines_append ..

end Console

/-- No two ids are shown alike, and no break or other control character is shown, whatever a name
holds. So the list of the modules of a bundle has one line for each of them, in order, that shows its
id, and lines of different ids are different. -/
theorem displayed_ids_unambiguous :
    (∀ id other : ModuleId, id.display = other.display ↔ id = other) ∧
    (∀ id : ModuleId, ∀ ch ∈ id.display.toList,
      Text.isControl ch = false ∧ Text.isLineBreak ch = false) ∧
    (∀ (c : Console) m, m.id.display.toList <:+: (c.moduleLine m).toList) ∧
    (∀ (c : Console) m k, c.moduleLine m = c.moduleLine k → m.id = k.id) ∧
    ∀ (c : Console) (r : Report),
      c.verbose = true → c.quiet = false → c.json = false → r.isOk = true →
        ∃ list : String, c.report r = { c with verbose := false }.report r ++ list ∧
          list.toList.splitOnP Text.isLineBreak =
            r.modules.map (fun m => (c.moduleLine m).toList) ++ [[]] := by
  refine ⟨fun id other => ModuleId.display_inj, fun id ch h => ?_, fun c m => ?_,
    fun c m k => Console.moduleLine_id, fun c r verbose quiet json ok =>
      ⟨_, Console.report_of_verbose verbose quiet json ok, ?_⟩⟩
  · have visible := id.isHidden_of_mem_display ch h
    constructor
    · exact Bool.eq_false_iff.mpr fun control =>
        absurd visible (by rw [Text.isHidden_of_isControl control]; decide)
    · exact Console.oneLine_of_visible id.isHidden_of_mem_display ch h
  · rw [Console.toList_moduleLine]
    exact ⟨_, _, List.append_assoc ..⟩
  · rw [Console.splitOnP_unlines, List.map_map]
    · rfl
    · intro line listed
      obtain ⟨m, -, rfl⟩ := List.mem_map.mp listed
      exact Console.oneLine_moduleLine c m

/-- A number, and names that a careless reader could take for the number or for two lines. -/
theorem displayed_ids_unambiguous_lines :
    let console : Console := { verbose := true, colour := true }
    let modules := [⟨.number 5, true, 0, 9⟩, ⟨.name "5", false, 10, 19⟩, ⟨.name "5\n\u2028", false, 20, 29⟩]
    let report : Report := ⟨"a.js", some .chunk, some (.number 5), some .resolved, 3, modules, []⟩
    ∃ list : String, console.report report = { console with verbose := false }.report report ++ list ∧
      (list.toList.splitOnP Text.isLineBreak).length = 4 ∧
      console.moduleLine ⟨.number 5, true, 0, 9⟩ ≠ console.moduleLine ⟨.name "5", false, 10, 19⟩ := by
  intro console modules report
  obtain ⟨-, -, -, apart, listed⟩ := displayed_ids_unambiguous
  obtain ⟨list, shown, lines⟩ := listed console report rfl rfl rfl rfl
  refine ⟨list, shown, ?_, fun same => nomatch apart console _ _ same⟩
  rw [lines]
  rfl

end BundleLens
