import BundleLens.Proofs.Report

/-! A given entry. It is put in the place of whatever entry a bundle has after its shape is known, so
two runs that differ in it find the same bundle with the same modules. -/
namespace BundleLens
open BundleLens.Bundle

namespace Bundle

def Detection.overridden (found : Detection) (id : ModuleId) : Detection :=
  { found with entry := some id, entrySource := .override }

variable {call : Call} {o : Options} {found : Detection} (id : ModuleId)

private theorem detect_given (s : Shape)
    (hs : shapeAs (o.format.getD call.inferredFormat) o.chunkGlobal call = .ok s) :
    (detect call { o with entry := some id }).value.1 =
      .ok ⟨o.format.getD call.inferredFormat, some id, .override, s.table⟩ := by
  rw [detect_settle]
  dsimp only
  rw [hs, ok_bind, Shape.settle_of_entry rfl]

theorem detect_overridden (h : (detect call o).value.1 = .ok found) :
    (detect call { o with entry := some id }).value.1 = .ok (found.overridden id) := by
  rw [detect_settle, bind_eq_ok_iff] at h
  obtain ⟨s, hs, h⟩ := h
  rw [detect_given id s hs]
  obtain ⟨_, -, rfl⟩ | ⟨_, -, -, rfl⟩ | ⟨-, -, -, rfl⟩ := Shape.settle_cases h <;> rfl

theorem detect_overridden_of_noEntry (h : (detect call o).value.1 = .error .noEntry) :
    ∃ found, (detect call { o with entry := some id }).value.1 = .ok found := by
  rw [detect_settle, bind_eq_error_iff] at h
  obtain h | ⟨s, hs, -⟩ := h
  · obtain h | h := shapeAs_error h <;> cases h
  · exact ⟨_, detect_given id s hs⟩

private theorem detect_overridden_of_error {failure : Failure} (other : failure ≠ .noEntry)
    (h : (detect call o).value.1 = .error failure) :
    (detect call { o with entry := some id }).value.1 = .error failure := by
  rw [detect_settle, bind_eq_error_iff] at h
  obtain h | ⟨s, -, h⟩ := h
  · rw [detect_settle]
    dsimp only
    rw [h, error_bind]
  · exact absurd (Shape.settle_error h) other

/-- An entry marks modules and does not select them. -/
theorem Detection.modules_overridden (found : Detection) :
    (found.overridden id).modules =
      found.modules.map (List.map fun m => { m with isEntry := m.id = id }) := by
  unfold modules overridden
  cases found.table.modules with
  | error fault => rfl
  | ok listed =>
    refine congrArg Except.ok ?_
    rw [List.map_map]
    refine List.map_congr_left fun m _ => ?_
    simp [eq_comm]

end Bundle

namespace Report

def overridden (r : Report) (id : ModuleId) : Report :=
  { r with
    entry := some id
    entrySource := some .override
    modules := r.modules.map fun m => { m with isEntry := m.id = id } }

private theorem ofModules_overridden (name : String) (found : Detection) (modules : List Module)
    (id : ModuleId) :
    ofModules name (found.overridden id) (modules.map fun m => { m with isEntry := m.id = id }) =
      (ofModules name found modules).overridden id := by
  unfold ofModules overridden Detection.overridden
  simp only [List.length_map, List.map_map]
  rfl

/-- Giving the entry that a report has already changes only where the entry is from. -/
theorem TellsBundle.overridden_self {r : Report} {o : Options} {inferred : BundleFormat}
    {id : ModuleId} (tells : r.TellsBundle o inferred) (h : r.entry = some id) :
    r.overridden id = { r with entrySource := some .override } := by
  have marked : r.modules.map (fun m => { m with isEntry := m.id = id }) = r.modules := by
    refine (List.map_congr_left fun m hm => ?_).trans (List.map_id _)
    have : decide (m.id = id) = m.isEntry := by
      rw [Bool.eq_iff_iff, decide_eq_true_iff, tells.isEntry_iff m hm, h, Option.some_inj, eq_comm]
    rw [this]
    rfl
  unfold overridden
  rw [marked, h]

end Report

variable {o : Options} {name source : String}

theorem unpackSource_overridden {report : Report} (id : ModuleId)
    (h : (unpackSource o name source).outcome = .ok report) :
    (unpackSource { o with entry := some id } name source).outcome = .ok (report.overridden id) := by
  obtain ⟨call, found, modules, located, hd, hm, rfl⟩ := unpackSource_ok h
  rw [unpackSource_outcome, detectSource_outcome, located, ok_bind, detect_overridden id hd, ok_bind,
    Detection.modules_overridden, hm, ← Report.ofModules_overridden]
  rfl

private theorem unpackSource_overridden_of_noEntry (id : ModuleId)
    (h : (unpackSource o name source).outcome = .error .noEntry) :
    (∃ report, (unpackSource { o with entry := some id } name source).outcome = .ok report) ∨
      ∃ fault, (unpackSource { o with entry := some id } name source).outcome =
        .error (.malformedTable fault) := by
  obtain h | ⟨call, located, h | ⟨_, _, _, _, h⟩⟩ := unpackSource_error h
  · obtain ⟨_, h⟩ | h := locateCall_error h <;> cases h
  · obtain ⟨found, hd⟩ := detect_overridden_of_noEntry id h
    rw [unpackSource_outcome, detectSource_outcome, located, ok_bind, hd, ok_bind]
    cases found.modules with
    | ok modules => exact .inl ⟨_, rfl⟩
    | error fault => exact .inr ⟨fault, rfl⟩
  · cases h

private theorem unpackSource_overridden_of_error {failure : Failure} (id : ModuleId)
    (other : failure ≠ .noEntry) (h : (unpackSource o name source).outcome = .error failure) :
    (unpackSource { o with entry := some id } name source).outcome = .error failure := by
  rw [unpackSource_outcome, detectSource_outcome]
  obtain h | ⟨call, located, h | ⟨found, fault, hd, hm, rfl⟩⟩ := unpackSource_error h
  · rw [h]
    rfl
  · rw [located, ok_bind, detect_overridden_of_error id other h]
    rfl
  · rw [located, ok_bind, detect_overridden id hd, ok_bind, Detection.modules_overridden, hm]
    rfl

/-- A given entry changes the entry of a report and nothing else: not the format, the modules, their
ids or their places. It saves a bundle that lacks an entry, whose table may still be malformed, and
every other failure is the same with it. Giving the entry that was found without it changes only
where the entry is from. -/
theorem given_entry_changes_only_entry (o : Options) (name source : String) (id : ModuleId) :
    (∀ report, (unpackSource o name source).outcome = .ok report →
      (unpackSource { o with entry := some id } name source).outcome =
          .ok (report.overridden id) ∧
        report.errors = [] ∧
        (report.entry = some id →
          report.overridden id = { report with entrySource := some .override })) ∧
    ((unpackSource o name source).outcome = .error .noEntry →
      (∃ report, (unpackSource { o with entry := some id } name source).outcome = .ok report) ∨
        ∃ fault, (unpackSource { o with entry := some id } name source).outcome =
          .error (.malformedTable fault)) ∧
    ∀ failure, failure ≠ .noEntry → (unpackSource o name source).outcome = .error failure →
      (unpackSource { o with entry := some id } name source).outcome = .error failure := by
  refine ⟨fun report h => ?_, unpackSource_overridden_of_noEntry id,
    fun failure other => unpackSource_overridden_of_error id other⟩
  obtain ⟨-, call, -, tells⟩ := unpackSource_tellsBundle h
  exact ⟨unpackSource_overridden id h, tells.errors, tells.overridden_self⟩

/-- An entry for a chunk that names another, for a classic bundle that names none, and for a call
that starts no bundle. -/
theorem given_entry_changes_only_entry_cases :
    (∃ report, (unpackSource ⟨none, none, "f"⟩ "a.js" "f([0,{a:0,5:0},[['a']]])").outcome =
        .ok report ∧
      (unpackSource ⟨none, some (.number 5), "f"⟩ "a.js" "f([0,{a:0,5:0},[['a']]])").outcome =
        .ok (report.overridden (.number 5)) ∧
      report.overridden (.name "a") = { report with entrySource := some .override }) ∧
    ((unpackSource {} "a.js" "(function(){})([...a])").outcome = .error .noEntry ∧
      ((∃ report, (unpackSource { entry := some (.number 0) } "a.js"
          "(function(){})([...a])").outcome = .ok report) ∨
        ∃ fault, (unpackSource { entry := some (.number 0) } "a.js"
          "(function(){})([...a])").outcome = .error (.malformedTable fault))) ∧
    (unpackSource {} "a.js" "f()").outcome = .error .notBootstrap ∧
      (unpackSource { entry := some (.number 0) } "a.js" "f()").outcome = .error .notBootstrap := by
  obtain ⟨report, unpacked, entry⟩ :
      ∃ report, (unpackSource ⟨none, none, "f"⟩ "a.js" "f([0,{a:0,5:0},[['a']]])").outcome =
        .ok report ∧ report.entry = some (.name "a") := exists_ok (by decide +kernel)
  have unnamed : (unpackSource {} "a.js" "(function(){})([...a])").outcome = .error .noEntry := by
    decide +kernel
  have rejected : (unpackSource {} "a.js" "f()").outcome = .error .notBootstrap := by decide +kernel
  exact ⟨⟨report, unpacked, ((given_entry_changes_only_entry _ _ _ _).1 report unpacked).1,
      ((given_entry_changes_only_entry _ _ _ _).1 report unpacked).2.2 entry⟩,
    ⟨unnamed, (given_entry_changes_only_entry {} _ _ _).2.1 unnamed⟩,
    rejected, (given_entry_changes_only_entry {} _ _ _).2.2 _ (by decide) rejected⟩

end BundleLens
