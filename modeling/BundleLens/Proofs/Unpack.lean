import BundleLens.Proofs.Bundle.Shape

namespace BundleLens
open BundleLens.Bundle

private theorem locateCall_outcome (name source : String) :
    (locateCall name source).outcome =
      match Script.Program.ofSource source with
      | .error fault => .error (.invalidScript name fault)
      | .ok program => (findCall program).value.elim (.error (.noCall name)) .ok := by
  unfold locateCall parseScript
  cases Script.Program.ofSource source with
  | error fault => rfl
  | ok program =>
    by_cases h : program.warnings = 0
    · simp [h]
    · simp [h]

theorem locateCall_ok_iff {name source : String} {call : Call} :
    (locateCall name source).outcome = .ok call ↔
      ∃ program, Script.Program.ofSource source = .ok program ∧
        (findCall program).value = some call := by
  rw [locateCall_outcome]
  cases Script.Program.ofSource source with
  | error fault => simp
  | ok program => cases h : (findCall program).value <;> simp [h]

theorem locateCall_error {name source : String} {failure : Failure}
    (h : (locateCall name source).outcome = .error failure) :
    (∃ fault, failure = .invalidScript name fault) ∨ failure = .noCall name := by
  rw [locateCall_outcome] at h
  cases hp : Script.Program.ofSource source with
  | error fault =>
    rw [hp] at h
    exact .inl ⟨fault, (Except.error.inj h).symm⟩
  | ok program =>
    cases hc : (findCall program).value with
    | none =>
      simp only [hp, hc, Option.elim_none, Except.error.injEq] at h
      exact .inr h.symm
    | some call => simp [hp, hc] at h

private theorem chooseFormat_value (o : Options) (call : Call) (source : String) :
    (chooseFormat o call source).value =
      { o with format := some (o.format.getD call.inferredFormat) } := by
  unfold chooseFormat
  rcases o with ⟨_ | f, entry, loader⟩ <;> rfl

/-- The format is chosen before detection, which does not change what is detected. -/
theorem detect_chosen (o : Options) (call : Call) (source : String) :
    (detect call (chooseFormat o call source).value).value.1 = (detect call o).value.1 := by
  rw [chooseFormat_value, detect_result, detect_result]
  exact detectAs_ignores_format ..

theorem detectSource_outcome (o : Options) (name source : String) :
    (detectSource o name source).outcome =
      (locateCall name source).outcome >>= fun call => (detect call o).value.1 := by
  unfold detectSource
  simp only [Detecting.outcome_bind, Detecting.outcome_lift, ok_bind]
  congr 1
  funext call
  rw [← detect_chosen o call source]
  rcases (detect call (chooseFormat o call source).value).value with ⟨_ | _, _⟩ <;> rfl

theorem unpackSource_outcome (o : Options) (name source : String) :
    (unpackSource o name source).outcome =
      (detectSource o name source).outcome >>= fun found =>
        (found.modules.mapError .malformedTable).map (Report.ofModules name found) := by
  unfold unpackSource
  simp only [Detecting.outcome_bind]
  congr 1
  funext found
  cases found.modules with
  | error fault => rfl
  | ok modules => rfl

theorem unpackSource_ok_of_detected {o : Options} {name source : String} {found : Detection}
    {report : Report} (detected : (detectSource o name source).outcome = .ok found)
    (h : (unpackSource o name source).outcome = .ok report) :
    ∃ modules, found.modules = .ok modules ∧ report = .ofModules name found modules := by
  rw [unpackSource_outcome, detected, ok_bind] at h
  cases hm : found.modules with
  | error fault =>
    rw [hm] at h
    cases h
  | ok modules =>
    rw [hm] at h
    cases h
    exact ⟨modules, rfl, rfl⟩

/-- A report tells of a located call, what was detected in it and the modules listed there. -/
theorem unpackSource_ok {o : Options} {name source : String} {report : Report}
    (h : (unpackSource o name source).outcome = .ok report) :
    ∃ call found modules, (locateCall name source).outcome = .ok call ∧
      (detect call o).value.1 = .ok found ∧ found.modules = .ok modules ∧
      report = .ofModules name found modules := by
  have steps := h
  rw [unpackSource_outcome] at steps
  obtain ⟨found, detected, -⟩ := bind_eq_ok_iff.mp steps
  obtain ⟨modules, hm, hr⟩ := unpackSource_ok_of_detected detected h
  rw [detectSource_outcome] at detected
  obtain ⟨call, hc, hd⟩ := bind_eq_ok_iff.mp detected
  exact ⟨call, found, modules, hc, hd, hm, hr⟩

/-- Unpacking fails where the call is located, where the bundle is detected, or where its modules are
listed. -/
theorem unpackSource_error {o : Options} {name source : String} {failure : Failure}
    (h : (unpackSource o name source).outcome = .error failure) :
    (locateCall name source).outcome = .error failure ∨
      ∃ call, (locateCall name source).outcome = .ok call ∧
        ((detect call o).value.1 = .error failure ∨
          ∃ found fault, (detect call o).value.1 = .ok found ∧ found.modules = .error fault ∧
            failure = .malformedTable fault) := by
  rw [unpackSource_outcome, detectSource_outcome, bind_eq_error_iff, bind_eq_error_iff] at h
  obtain (h | ⟨call, hc, h⟩) | ⟨found, hd, h⟩ := h
  · exact .inl h
  · exact .inr ⟨call, hc, .inl h⟩
  · obtain ⟨call, hc, hd⟩ := bind_eq_ok_iff.mp hd
    cases hm : found.modules with
    | error fault =>
      rw [hm] at h
      exact .inr ⟨call, hc, .inr ⟨found, fault, hd, hm, (Except.error.inj h).symm⟩⟩
    | ok modules =>
      rw [hm] at h
      cases h

def readText (content : Except FileFault ByteArray) : Except Failure String :=
  content.mapError .unreadable >>= fun bytes =>
    (String.fromUTF8? bytes).elim (.error (.unreadable .notText)) .ok

/-- The result of unpacking the bundle in a file, before it is put into a report. -/
def fileOutcome (o : Options) (path : String) (content : Except FileFault ByteArray) :
    Except Failure Report :=
  readText content >>= fun source => (unpackSource o path source).outcome

theorem fileOutcome_text (o : Options) (path source : String) :
    fileOutcome o path (.ok source.toUTF8) = (unpackSource o path source).outcome := by
  have text : String.fromUTF8? source.toUTF8 = some source := dif_pos source.isValidUTF8
  unfold fileOutcome readText
  rw [mapError_ok, ok_bind, text, Option.elim_some, ok_bind]

theorem unpackFile_value (o : Options) (path : String) (content : Except FileFault ByteArray) :
    (unpackFile o path content).value =
      match fileOutcome o path content with
      | .ok report => report
      | .error failure => .ofFailure path failure := by
  unfold unpackFile fileOutcome readText
  cases content with
  | error fault => rfl
  | ok bytes =>
    cases h : String.fromUTF8? bytes with
    | none => simp [h]
    | some source =>
      have ran : (unpackSource o path source).run.value = (unpackSource o path source).outcome := rfl
      simp only [h, Traced.value_bind, ran, mapError_ok, ok_bind, Option.elim_some]
      cases (unpackSource o path source).outcome <;> rfl

theorem unpackFiles_value (o : Options) (read : String → Except FileFault ByteArray)
    (paths : List String) :
    (unpackFiles o read paths).value = paths.map fun path => (unpackFile o path (read path)).value := by
  unfold unpackFiles unpackInputs
  rw [Traced.value_mapM, List.map_map]
  rfl

end BundleLens
