import BundleLens.Proofs.Console
import BundleLens.Proofs.Console.ModuleSum
import BundleLens.Proofs.Report
import Mathlib

/-! One run of the program: what it shows, how it ends and what it writes. It reads all inputs before
it writes, so it tells of the files as they were. -/
namespace BundleLens.Session

variable {σ : Type} {disk : Disk (StateM σ)}

def reports (config : Config) (read : String → Except FileFault ByteArray) : List Report :=
  (unpackFiles config.options read config.inputs).value

/-- The one attempt of a run to write, if it is asked to. -/
def attempt (disk : Disk (StateM σ)) (config : Config) (before : σ) : Except FileFault Unit × σ :=
  match config.output with
  | some path => (writeReports disk path (reports config (disk.contents before))).run before
  | none => (.ok (), before)

def seenEvents (config : Config) (unpacked : Traced (List Report))
    (written : Except FileFault Unit) : List Event :=
  (unpacked.events ++ outputEvents config.output written).filter (Event.isShown config.verbose)

def ending (config : Config) (colour : Bool) (unpacked : Traced (List Report)) :
    Except FileFault Unit → Outcome
  | .error fault =>
    ⟨1, (config.console colour).reports unpacked.value, seenEvents config unpacked (.error fault)⟩
  | .ok () =>
    ⟨if unpacked.value.all Report.isOk then 0 else 1,
      (config.console colour).reports unpacked.value ++
        (config.console colour).summary unpacked.value,
      seenEvents config unpacked (.ok ())⟩

private theorem runConfig_run (h : disk.ReadsOnly) (config : Config) (colour : Bool) (before : σ) :
    (runConfig disk config colour).run before =
      (ending config colour (unpackFiles config.options (disk.contents before) config.inputs)
        (attempt disk config before).1, (attempt disk config before).2) := by
  unfold runConfig
  -- the write starts from the state that all inputs were read in
  rw [run_bind_of_run (h.readAll config.inputs before)]
  unfold attempt ending seenEvents
  cases config.output with
  | none => rfl
  | some path =>
    dsimp only
    cases tried : (writeReports disk path (reports config (disk.contents before))).run before with
    | mk written after =>
      refine (run_bind_of_run tried _).trans ?_
      cases written with
      | error fault => rfl
      | ok _ => rfl

/-- What a run shows and how it ends, given whether its output was kept. Without an output there is
nothing to lose. -/
structure Ends (config : Config) (colour : Bool) (read : String → Except FileFault ByteArray)
    (kept : Prop) (outcome : Outcome) : Prop where
  exit_zero_iff : outcome.exitCode = 0 ↔
    kept ∧ ∀ path ∈ config.inputs, ∃ report, fileOutcome config.options path (read path) = .ok report
  exit_one : outcome.exitCode ≠ 0 → outcome.exitCode = 1
  stdout_of_kept : kept → outcome.stdout =
    (config.console colour).reports (reports config read) ++
      (config.console colour).summary (reports config read)
  stdout_of_lost : ¬ kept →
    outcome.stdout = (config.console colour).reports (reports config read)

private theorem moduleCount_le (o : Options) (path : String)
    (content : Except FileFault ByteArray) :
    (unpackFile o path content).value.moduleCount.toNat ≤
      (unpackFile o path content).value.modules.length := by
  rw [unpackFile_value]
  cases h : fileOutcome o path content with
  | error failure => exact Nat.le_refl 0
  | ok report =>
    obtain ⟨source, -, unpacked⟩ := bind_eq_ok_iff.mp h
    obtain ⟨-, call, -, tells⟩ := unpackSource_tellsBundle unpacked
    dsimp only
    rw [tells.moduleCount, UInt64.toNat_ofNat']
    exact Nat.mod_le _ _

/-- A summary could stop a run only if the reports listed more modules than there are addresses. -/
theorem size_le_listed_of_stopped {config : Config} {colour : Bool}
    {read : String → Except FileFault ByteArray}
    (stopped : (config.console colour).summary? (reports config read) = none) :
    UInt64.size ≤ ((reports config read).map fun r => r.modules.length).sum := by
  refine (Console.size_le_moduleSum_of_stopped stopped).trans (List.sum_le_sum fun r listed => ?_)
  unfold reports at listed
  rw [unpackFiles_value] at listed
  obtain ⟨path, -, rfl⟩ := List.mem_map.mp listed
  exact moduleCount_le ..

private theorem all_isOk_reports_iff (config : Config)
    (read : String → Except FileFault ByteArray) :
    (reports config read).all Report.isOk = true ↔
      ∀ path ∈ config.inputs, ∃ report, fileOutcome config.options path (read path) = .ok report := by
  unfold reports
  rw [unpackFiles_value, List.all_map, List.all_eq_true]
  exact forall₂_congr fun path _ => isOk_unpackFile_iff ..

private theorem ending_ends (config : Config) (colour : Bool)
    (read : String → Except FileFault ByteArray) (written : Except FileFault Unit) :
    Ends config colour read (written = .ok ())
      (ending config colour (unpackFiles config.options read config.inputs) written) := by
  cases written with
  | error fault =>
    constructor
    · simp [ending]
    · intro _
      rfl
    · rintro ⟨⟩
    · intro _
      rfl
  | ok _ =>
    constructor
    · rw [← all_isOk_reports_iff]
      simp [ending, reports]
    · intro failed
      simpa [ending] using failed
    · intro _
      rfl
    · intro lost
      exact (lost rfl).elim

private theorem runConfig_ends (h : disk.ReadsOnly) (config : Config) (colour : Bool) (before : σ) :
    ∃ outcome,
      (runConfig disk config colour).run before = (outcome, (attempt disk config before).2) ∧
      Ends config colour (disk.contents before) ((attempt disk config before).1 = .ok ()) outcome :=
  ⟨_, runConfig_run h config colour before, ending_ends ..⟩

private theorem run_of_parsed {arguments : List String} {chunkGlobal : Option String}
    {config : Config} {m : Type → Type} [Monad m] (disk : Disk m) (colour : Bool) (help : String)
    (parsed : CommandLine.parse arguments chunkGlobal = .ok config) :
    run disk arguments chunkGlobal colour help = runConfig disk config colour := by
  unfold run
  rw [parsed]

/-- A tree of files takes the output at a path that can be written at, and else it stays as it is. -/
theorem attempt_files (config : Config) (before : FileTree) :
    ((attempt FileTree.disk config before).1 = .ok () ↔
      ∀ path, config.output = some path → before.Writable path) ∧
    (∀ path, config.output = some path → before.Writable path →
      before.Rewritten (attempt FileTree.disk config before).2 path
        (Report.prettyList (reports config before.read)).toUTF8) ∧
    ((∀ path, config.output = some path → ¬ before.Writable path) →
      (attempt FileTree.disk config before).2 = before) := by
  unfold attempt writeReports
  cases config.output with
  | none => simp
  | some path =>
    obtain ⟨writable, later, wrote, rewritten⟩ | ⟨lost, fault, wrote⟩ :=
      FileTree.disk_write_cases before path (Report.prettyList (reports config before.read)).toUTF8
    · dsimp only
      rw [FileTree.disk_contents, wrote]
      refine ⟨?_, ?_, ?_⟩
      · simp [writable]
      · rintro _ ⟨⟩ _
        exact rewritten
      · intro lost
        exact (lost path rfl writable).elim
    · dsimp only
      rw [FileTree.disk_contents, wrote]
      refine ⟨?_, ?_, ?_⟩
      · simp [lost]
      · rintro _ ⟨⟩ writable
        exact (lost writable).elim
      · intro _
        rfl

/-- A run reads its inputs, tries at most once to write the reports on them, and shows the same with
an output as without one, except that it ends early if the output is lost. The output has the
reports on the inputs as they were before, whichever path it has and whatever is shown. In a tree of
files no other file changes. -/
theorem run_ends {arguments : List String} {chunkGlobal : Option String} {config : Config}
    (parsed : CommandLine.parse arguments chunkGlobal = .ok config) (colour : Bool)
    (help : String) :
    (∀ {σ : Type} (disk : Disk (StateM σ)) (before : σ), disk.ReadsOnly →
      ∃ outcome, (run disk arguments chunkGlobal colour help).run before =
          (outcome, (attempt disk config before).2) ∧
        Ends config colour (disk.contents before) ((attempt disk config before).1 = .ok ())
          outcome ∧
        ∃ silent, (runConfig disk { config with output := none } colour).run before =
            (silent, before) ∧
          ((attempt disk config before).1 = .ok () → outcome.stdout = silent.stdout)) ∧
    ∀ before : FileTree, ∃ outcome after,
      (run FileTree.disk arguments chunkGlobal colour help).run before = (outcome, after) ∧
      Ends config colour before.read (∀ path, config.output = some path → before.Writable path)
        outcome ∧
      (∀ path, config.output = some path → before.Writable path → before.Rewritten after path
        (Report.prettyList (reports config before.read)).toUTF8) ∧
      ((∀ path, config.output = some path → ¬ before.Writable path) → after = before) := by
  constructor
  · intro σ disk before readsOnly
    rw [run_of_parsed disk colour help parsed]
    obtain ⟨outcome, ran, ends⟩ := runConfig_ends readsOnly config colour before
    obtain ⟨silent, ran', ends'⟩ :=
      runConfig_ends readsOnly { config with output := none } colour before
    refine ⟨outcome, ran, ends, silent, ran', fun kept => ?_⟩
    rw [ends.stdout_of_kept kept, ends'.stdout_of_kept rfl]
    rfl
  · intro before
    rw [run_of_parsed FileTree.disk colour help parsed]
    obtain ⟨outcome, ran, ends⟩ := runConfig_ends FileTree.disk_readsOnly config colour before
    obtain ⟨kept, rewritten, unchanged⟩ := attempt_files config before
    rw [kept] at ends
    exact ⟨outcome, _, ran, ends, rewritten, unchanged⟩

/-- The output replaces the only input. -/
theorem run_ends_overwritten :
    let arguments := ["a.js", "-o", "a.js", "--json"]
    let config : Config := ⟨["a.js"], none, none, "webpackJsonp", true, some "a.js", false, false⟩
    let before : FileTree := ⟨[(["a.js"], .file "webpackJsonp([0,[],[[0]]])".toUTF8)]⟩
    CommandLine.parse arguments none = .ok config ∧
    ∃ outcome after, (run FileTree.disk arguments none false).run before = (outcome, after) ∧
      outcome.exitCode = 0 ∧
      outcome.stdout = Report.prettyList (reports config before.read) ++ "\n" ∧
      after.read "a.js" = .ok (Report.prettyList (reports config before.read)).toUTF8 := by
  intro arguments config before
  have parsed : CommandLine.parse arguments none = .ok config := by decide +kernel
  obtain ⟨outcome, after, ran, ends, rewritten, -⟩ := (run_ends parsed false "").2 before
  have located : before.locate "a.js" = .ok ["a.js"] := by decide +kernel
  have writable : before.Writable "a.js" := by
    refine ⟨by decide +kernel, ["a.js"], located, ?_⟩
    rintro ⟨⟩
  have kept (path : String) (given : config.output = some path) : before.Writable path := by
    cases given
    exact writable
  have content : before.read "a.js" = .ok "webpackJsonp([0,[],[[0]]])".toUTF8 := by
    unfold FileTree.read
    rw [located]
    rfl
  have unpacked : ∃ report,
      (unpackSource config.options "a.js" "webpackJsonp([0,[],[[0]]])").outcome = .ok report ∧
        report.errors = [] := exists_ok (by decide +kernel)
  refine ⟨parsed, outcome, after, ran, ?_, ?_, (rewritten "a.js" rfl writable).read⟩
  · refine ends.exit_zero_iff.mpr ⟨kept, fun path given => ?_⟩
    obtain rfl := List.mem_singleton.mp given
    obtain ⟨report, ok, -⟩ := unpacked
    rw [content, fileOutcome_text]
    exact ⟨report, ok⟩
  · rw [ends.stdout_of_kept kept, Console.shown_of_json rfl]

end BundleLens.Session
