import BundleLens.Proofs.Unpack
import Mathlib.Data.List.Forall2

/-! What a report says fits together. Its fields come from five places (the call, the detection, the
options, the table and the failure), and still each report is either wholly a failure or wholly a
success. -/
namespace BundleLens
open BundleLens.Bundle

namespace Bundle

structure Detection.Consistent (found : Detection) (o : Options) (inferred : BundleFormat) :
    Prop where
  format : found.format = o.format.getD inferred
  unresolved_iff : found.entry = none ↔ found.entrySource = .unresolved
  chunk_of_unresolved : found.entrySource = .unresolved → found.format = .chunk
  override_iff : found.entrySource = .override ↔ o.entry.isSome
  entry_of_override : ∀ id, o.entry = some id → found.entry = some id

theorem detect_consistent {call : Call} {o : Options} {found : Detection}
    (h : (detect call o).value.1 = .ok found) : found.Consistent o call.inferredFormat := by
  rw [detect_settle, bind_eq_ok_iff] at h
  obtain ⟨s, -, h⟩ := h
  obtain ⟨id, he, rfl⟩ | ⟨id, he, -, rfl⟩ | ⟨he, -, hf, rfl⟩ := Shape.settle_cases h
  · constructor <;> simp [he]
  · constructor <;> simp [he]
  · constructor <;> simp [he, hf]

end Bundle

namespace Report

structure TellsFailure (r : Report) (failure : Failure) : Prop where
  errors : r.errors = [failure.message]
  format : r.format = none
  entry : r.entry = none
  entrySource : r.entrySource = none
  moduleCount : r.moduleCount = 0
  modules : r.modules = []

/-- A report on a bundle of a call that suggests a format. Its count of modules is a 64-bit number,
as the length of a list in memory is. -/
structure TellsBundle (r : Report) (o : Options) (inferred : BundleFormat) : Prop where
  errors : r.errors = []
  moduleCount : r.moduleCount = .ofNat r.modules.length
  format : r.format = some (o.format.getD inferred)
  entrySource : r.entrySource.isSome
  unresolved_iff : r.entry = none ↔ r.entrySource = some .unresolved
  chunk_of_unresolved : r.entrySource = some .unresolved → r.format = some .chunk
  override_iff : r.entrySource = some .override ↔ o.entry.isSome
  entry_of_override : ∀ id, o.entry = some id → r.entry = some id
  isEntry_iff : ∀ m ∈ r.modules, m.isEntry = true ↔ r.entry = some m.id

private theorem ofFailure_tellsFailure (source : String) (failure : Failure) :
    (ofFailure source failure).TellsFailure failure := by
  constructor <;> rfl

private theorem ofModules_isEntry_iff {name : String} {found : Detection} {modules : List Module}
    (h : found.modules = .ok modules) {m : ModuleSummary}
    (hm : m ∈ (ofModules name found modules).modules) : m.isEntry = true ↔ found.entry = some m.id := by
  obtain ⟨listed, -, rfl⟩ := Detection.modules_ok h
  unfold ofModules at hm
  rw [List.map_map] at hm
  obtain ⟨module, -, rfl⟩ := List.mem_map.mp hm
  exact decide_eq_true_iff

theorem ofModules_ids (name : String) {found : Detection} {modules : List Module}
    (h : found.modules = .ok modules) : ∃ listed, found.table.modules = .ok listed ∧
      (ofModules name found modules).modules.map (·.id) = listed.map (·.id) := by
  obtain ⟨listed, hl, rfl⟩ := Detection.modules_ok h
  refine ⟨listed, hl, ?_⟩
  unfold ofModules
  rw [List.map_map, List.map_map]
  rfl

/-- As many modules are marked as have the entry for their id. -/
theorem TellsBundle.countP_isEntry {r : Report} {o : Options} {inferred : BundleFormat}
    (tells : r.TellsBundle o inferred) :
    r.modules.countP (·.isEntry) = (r.modules.map fun m => some m.id).count r.entry := by
  rw [List.count, List.countP_map]
  refine List.countP_congr fun m hm => ?_
  rw [tells.isEntry_iff m hm, Function.comp_apply, beq_iff_eq, eq_comm]

private theorem ofModules_tellsBundle {name : String} {found : Detection} {modules : List Module}
    {o : Options} {inferred : BundleFormat} (consistent : found.Consistent o inferred)
    (h : found.modules = .ok modules) : (ofModules name found modules).TellsBundle o inferred where
  errors := rfl
  moduleCount := by rw [ofModules, List.length_map]
  format := congrArg some consistent.format
  entrySource := rfl
  unresolved_iff := consistent.unresolved_iff.trans (Option.some_inj.symm)
  chunk_of_unresolved hs := congrArg some (consistent.chunk_of_unresolved (Option.some.inj hs))
  override_iff := Option.some_inj.trans consistent.override_iff
  entry_of_override := consistent.entry_of_override
  isEntry_iff _ hm := ofModules_isEntry_iff h hm

end Report

/-- A report from unpacking tells of the bundle of the located call. -/
theorem unpackSource_tellsBundle {o : Options} {name source : String} {report : Report}
    (h : (unpackSource o name source).outcome = .ok report) :
    report.source = name ∧ ∃ call, (locateCall name source).outcome = .ok call ∧
      report.TellsBundle o call.inferredFormat := by
  obtain ⟨call, found, modules, located, hd, hm, rfl⟩ := unpackSource_ok h
  exact ⟨rfl, call, located, Report.ofModules_tellsBundle (detect_consistent hd) hm⟩

theorem isOk_unpackFile_iff (o : Options) (path : String) (content : Except FileFault ByteArray) :
    (unpackFile o path content).value.isOk = true ↔
      ∃ report, fileOutcome o path content = .ok report := by
  rw [unpackFile_value]
  cases h : fileOutcome o path content with
  | error failure => simp [Report.isOk, Report.ofFailure]
  | ok report =>
    obtain ⟨source, -, unpacked⟩ := bind_eq_ok_iff.mp h
    obtain ⟨-, call, -, tells⟩ := unpackSource_tellsBundle unpacked
    simp [Report.isOk, tells.errors]

/-- There is one report for each path, in order. It tells of the failure that reading or unpacking
ended in and of nothing else, or of the bundle in the file: then its fields agree with each other,
with the options and with the format that the call in the file suggests. -/
theorem reports_consistent (o : Options) (read : String → Except FileFault ByteArray)
    (paths : List String) :
    List.Forall₂ (fun path (report : Report) => report.source = path ∧
      ((∃ failure, fileOutcome o path (read path) = .error failure ∧ report.TellsFailure failure) ∨
        ∃ source call, readText (read path) = .ok source ∧
          (locateCall path source).outcome = .ok call ∧
          fileOutcome o path (read path) = .ok report ∧ report.TellsBundle o call.inferredFormat))
      paths (unpackFiles o read paths).value := by
  rw [unpackFiles_value, List.forall₂_map_right_iff, List.forall₂_same]
  intro path _
  rw [unpackFile_value]
  cases h : fileOutcome o path (read path) with
  | error failure => exact ⟨rfl, .inl ⟨failure, rfl, Report.ofFailure_tellsFailure path failure⟩⟩
  | ok report =>
    obtain ⟨source, hs, hu⟩ := bind_eq_ok_iff.mp h
    obtain ⟨named, call, located, tells⟩ := unpackSource_tellsBundle hu
    exact ⟨named, .inr ⟨source, call, hs, located, rfl, tells⟩⟩

end BundleLens
