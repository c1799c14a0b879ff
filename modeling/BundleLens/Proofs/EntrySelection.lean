import BundleLens.Proofs.Bundle.EntryOverride
import BundleLens.Proofs.Bundle.NormalIds
import BundleLens.Proofs.CommandLine
import BundleLens.Proofs.Text.Trimmed

/-! Modules selected by the texts of their ids. A text that is given as the entry is read without the
white space around it, while a key keeps its own. So a module is selected by its text exactly if
there is no white space at either end of it. -/
namespace BundleLens

namespace ModuleId
open Text

private theorem ofText_eq (text : String) : ofText text = ofKey (trimmed text) := rfl

private theorem IsNormal.ofText_eq_iff {id : ModuleId} (normal : id.IsNormal) :
    ofText id.rawText = id ↔ IsTrimmed id.rawText := by
  rw [isTrimmed_iff, ofText_eq]
  constructor
  · intro same
    exact ofKey_injective (same.trans normal.symm)
  · intro same
    rw [same]
    exact normal

/-- There is no white space in a number. -/
private theorem isTrimmed_number (n : UInt64) : IsTrimmed (number n).rawText := by
  have visible : ∀ c ∈ (toString n.toNat).toList, isWhiteSpace c = false := fun c hc =>
    isWhiteSpace_of_isDigit (Number.isDigit_of_mem_toString hc)
  exact ⟨fun c hc => visible c (List.mem_of_mem_head? hc),
    fun c hc => visible c (List.mem_of_mem_getLast? hc)⟩

end ModuleId

open BundleLens.Bundle ModuleId Text

namespace Report

variable {r : Report} {id : ModuleId} {m : ModuleSummary}

private theorem overridden_isEntry_iff (h : m ∈ (r.overridden id).modules) :
    m.isEntry = true ↔ m.id = id := by
  obtain ⟨unmarked, -, rfl⟩ := List.mem_map.mp h
  exact decide_eq_true_iff

private theorem mem_overridden_self (h : m ∈ r.modules) :
    { m with isEntry := true } ∈ (r.overridden m.id).modules := by
  refine List.mem_map.mpr ⟨m, h, ?_⟩
  rw [decide_eq_true rfl]

/-- A given entry leaves the ids and the places of the modules alone. -/
theorem overridden_places (r : Report) (id : ModuleId) :
    (r.overridden id).modules.map (fun k => (k.id, k.start, k.stop)) =
      r.modules.map fun k => (k.id, k.start, k.stop) := by
  rw [overridden, List.map_map]
  rfl

end Report

/-- The text of a module's id selects the module, by itself or in an argument in front of others,
exactly if there is no white space at either end of it, as in a number. Then a run with this entry
marks the module and those of the same id. Otherwise the entry is the id of the text without the
white space around it, which is another one, and no module of the given id is marked. -/
theorem argument_selects_module_iff {o : Options} {name source : String} {report : Report}
    (unpacked : (unpackSource o name source).outcome = .ok report) {m : ModuleSummary}
    (listed : m ∈ report.modules) :
    (ofText m.id.rawText = m.id ↔ IsTrimmed m.id.rawText) ∧
    (∀ n, m.id = .number n → IsTrimmed m.id.rawText) ∧
    (∃ inner again, Surrounds m.id.rawText inner ∧
      (unpackSource { o with entry := some (ofText m.id.rawText) } name source).outcome = .ok again ∧
      again.modules.map (fun k => (k.id, k.start, k.stop)) =
        report.modules.map (fun k => (k.id, k.start, k.stop)) ∧
      (∀ k ∈ again.modules, k.isEntry = true ↔ k.id = ofKey inner) ∧
      (IsTrimmed m.id.rawText → { m with isEntry := true } ∈ again.modules ∧
        ∀ k ∈ again.modules, k.isEntry = true ↔ k.id = m.id) ∧
      (¬ IsTrimmed m.id.rawText → ∀ k ∈ again.modules, k.id = m.id → k.isEntry = false)) ∧
    ∀ arguments chunkGlobal config, CommandLine.parse arguments chunkGlobal = .ok config →
      config.entry = none →
        CommandLine.parse (("--entry=" ++ m.id.rawText) :: arguments) chunkGlobal =
          .ok { config with entry := some (ofText m.id.rawText) } := by
  have selects := (unpackSource_isNormal unpacked m listed).ofText_eq_iff
  refine ⟨selects, fun n number => ?_, ?_, fun arguments chunkGlobal config parsed unset =>
    CommandLine.parse_entry parsed unset _⟩
  · rw [number]
    exact isTrimmed_number n
  · refine ⟨trimmed m.id.rawText, report.overridden (ofText m.id.rawText), surrounds_trimmed _,
      unpackSource_overridden _ unpacked, report.overridden_places _,
      fun k => Report.overridden_isEntry_iff, fun whole => ?_, fun padded k hk same => ?_⟩
    · rw [selects.mpr whole]
      exact ⟨Report.mem_overridden_self listed, fun k => Report.overridden_isEntry_iff⟩
    · rw [Bool.eq_false_iff, Ne, Report.overridden_isEntry_iff hk, same]
      exact fun selected => padded (selects.mp selected.symm)

/-- A table with a number, which its text selects, and a name that starts with white space. -/
theorem argument_selects_module_iff_padded :
    ∃ report, (unpackSource ⟨none, none, "f"⟩ "a.js" "f([0,\x7b5:0,' b':0\x7d,[]])").outcome = .ok report ∧
      (∃ m ∈ report.modules, m.id = .number 5 ∧ ofText m.id.rawText = m.id) ∧
      ∃ m ∈ report.modules, m.id = .name " b" ∧ ¬ IsTrimmed m.id.rawText ∧
        (CommandLine.parse ["a.js"] none).map (·.entry) = .ok none ∧
        (CommandLine.parse ["--entry= b", "a.js"] none).map (·.entry) = .ok (some (.name "b")) := by
  obtain ⟨report, unpacked, ⟨m, hm, number⟩, k, hk, name⟩ : ∃ report,
      (unpackSource ⟨none, none, "f"⟩ "a.js" "f([0,\x7b5:0,' b':0\x7d,[]])").outcome = .ok report ∧
        (∃ m ∈ report.modules, m.id = .number 5) ∧ ∃ m ∈ report.modules, m.id = .name " b" :=
    exists_ok (by decide +kernel)
  obtain ⟨selects, trimmed, -, -⟩ := argument_selects_module_iff unpacked hm
  obtain ⟨selects', -, -, argument⟩ := argument_selects_module_iff unpacked hk
  obtain ⟨config, parsed, unset⟩ : ∃ config, CommandLine.parse ["a.js"] none = .ok config ∧
      config.entry = none := exists_ok (by decide +kernel)
  have given := argument _ _ config parsed unset
  rw [name] at selects' given
  have other : ofText (rawText (.name " b")) = .name "b" := rfl
  refine ⟨report, unpacked, ⟨m, hm, number, selects.mpr (trimmed 5 number)⟩, k, hk, name, ?_, ?_, ?_⟩
  · rw [name, ← selects', other]
    decide
  · rw [parsed]
    exact congrArg Except.ok unset
  · rw [other] at given
    exact congrArg _ given

/-- A name in white space is read as another one, so a run with it as the entry marks no module. -/
theorem padded_name_selects_nothing :
    ∃ report, (unpackSource ⟨none, none, "f"⟩ "a.js" "f([0,\x7b' a':1\x7d,[]])").outcome = .ok report ∧
      ∃ m ∈ report.modules, ofText m.id.rawText ≠ m.id ∧
        ∃ again, (unpackSource ⟨none, some (ofText m.id.rawText), "f"⟩ "a.js"
            "f([0,\x7b' a':1\x7d,[]])").outcome = .ok again ∧
          again.modules.map (fun k => (k.id, k.isEntry)) = [(m.id, false)] := by
  obtain ⟨report, unpacked, m, listed, name⟩ : ∃ report,
      (unpackSource ⟨none, none, "f"⟩ "a.js" "f([0,\x7b' a':1\x7d,[]])").outcome = .ok report ∧
        ∃ m ∈ report.modules, m.id = .name " a" := exists_ok (by decide +kernel)
  have other : ofText (rawText (.name " a")) = .name "a" := rfl
  refine ⟨report, unpacked, m, listed, ?_⟩
  rw [name, other]
  exact ⟨by decide, exists_ok (by decide +kernel)⟩

end BundleLens
