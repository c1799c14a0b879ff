import BundleLens.Proofs.Unpack

/-! The format of a call. Each call has the shape of at most one format, and it is the one that its
callee suggests, so choosing a format automatically is as good as knowing it. -/
namespace BundleLens.Bundle
open Script

namespace Classic

theorem shape_ok_function {call : Call} {s : Shape} (h : shape call = .ok s) :
    isFunction call.callee = true := by
  obtain ⟨span, body, hc, _⟩ := shape_ok h
  unfold isFunction
  rw [hc]

private theorem shape_mismatch {call : Call} {expected : BundleFormat}
    (h : shape call = .error (.wrongFormat expected)) :
    expected = .chunk ∧ isFunction call.callee = false := by
  unfold shape at h
  unfold isFunction
  cases hc : call.callee.bare with
  | function span body =>
    simp only [hc] at h
    split at h <;> cases h
  | identifier span name =>
    simp only [hc, Except.error.injEq, Failure.wrongFormat.injEq] at h
    exact ⟨h.symm, rfl⟩
  | _ => simp [hc] at h

end Classic

namespace Chunk

private theorem shape_mismatch {loader : String} {call : Call} {expected : BundleFormat}
    (h : shape loader call = .error (.wrongFormat expected)) :
    expected = .classic ∧ isFunction call.callee = true := by
  unfold shape at h
  repeat' split at h
  all_goals cases h
  rename_i hf
  exact ⟨rfl, hf⟩

end Chunk

variable {format expected : BundleFormat} {loader : String} {call : Call} {s : Shape}

/-- A call has the shape of no other format than the one that its callee suggests. -/
theorem shapeAs_ok_format (h : shapeAs format loader call = .ok s) :
    call.inferredFormat = format := by
  unfold Call.inferredFormat
  cases format with
  | classic => rw [Classic.shape_ok_function h, if_pos rfl]
  | chunk => rw [(Chunk.shape_ok h).1, if_neg Bool.false_ne_true]

/-- A mismatch names the other format, and the callee suggests it too. -/
theorem shapeAs_mismatch (h : shapeAs format loader call = .error (.wrongFormat expected)) :
    expected = format.other ∧ call.inferredFormat = format.other := by
  unfold Call.inferredFormat
  cases format with
  | classic =>
    obtain ⟨he, hf⟩ := Classic.shape_mismatch h
    exact ⟨he, by rw [hf]; rfl⟩
  | chunk =>
    obtain ⟨he, hf⟩ := Chunk.shape_mismatch h
    exact ⟨he, by rw [hf]; rfl⟩

private theorem Shape.settle_not_mismatch (o : Options) :
    s.settle format o ≠ .error (.wrongFormat expected) := by
  intro h
  cases settle_error h

private theorem detectAs_ok_format {o : Options} {found : Detection}
    (h : (detectAs format call o).outcome = .ok found) : call.inferredFormat = format := by
  rw [detectAs_outcome, bind_eq_ok_iff] at h
  obtain ⟨s, hs, _⟩ := h
  exact shapeAs_ok_format hs

private theorem detectAs_mismatch {o : Options}
    (h : (detectAs format call o).outcome = .error (.wrongFormat expected)) :
    expected = format.other ∧ call.inferredFormat = format.other := by
  rw [detectAs_outcome, bind_eq_error_iff] at h
  obtain h | ⟨s, _, hs⟩ := h
  · exact shapeAs_mismatch h
  · exact absurd hs (Shape.settle_not_mismatch o)

private theorem other_ne (f : BundleFormat) : f.other ≠ f := by cases f <;> decide

private theorem detectAs_inferred_not_mismatch (o : Options) :
    (detectAs call.inferredFormat call o).outcome ≠ .error (.wrongFormat expected) := by
  intro h
  exact other_ne _ (detectAs_mismatch h).2.symm

/-- Without a format, detection accepts what one of the two formats accepts. -/
theorem detect_auto_ok_iff {o : Options} {found : Detection} :
    (detect call { o with format := none }).value.1 = .ok found ↔
      (detectAs .classic call o).outcome = .ok found ∨
        (detectAs .chunk call o).outcome = .ok found := by
  rw [detect_result, detectAs_ignores_format, Option.getD_none]
  constructor
  · intro h
    cases hf : call.inferredFormat with
    | classic => exact .inl (hf ▸ h)
    | chunk => exact .inr (hf ▸ h)
  · rintro (h | h)
    · rwa [detectAs_ok_format h]
    · rwa [detectAs_ok_format h]

/-- Unpacking never meets a mismatch if no format is given. -/
theorem unpackSource_auto_not_mismatch (o : Options) (name source : String) :
    (unpackSource { o with format := none } name source).outcome ≠
      .error (.wrongFormat expected) := by
  intro h
  obtain h | ⟨call, _, h | ⟨_, _, _, _, h⟩⟩ := unpackSource_error h
  · obtain ⟨_, h⟩ | h := locateCall_error h <;> cases h
  · rw [detect_result, detectAs_ignores_format] at h
    exact detectAs_inferred_not_mismatch o h
  · cases h

/-- Choosing the format automatically is coherent with giving it: the result is that of the format
which the callee suggests, no call has the shape of both formats, and a mismatch names a format
that does not mismatch. -/
theorem inferred_format_coherent (o : Options) :
    (∀ (name source : String) (program : Program) (call : Call),
      Program.ofSource source = .ok program → (findCall program).value = some call →
        (unpackSource { o with format := none } name source).outcome =
          (unpackSource { o with format := some call.inferredFormat } name source).outcome) ∧
    (∀ (name source : String) (expected : BundleFormat),
      (unpackSource { o with format := none } name source).outcome ≠
        .error (.wrongFormat expected)) ∧
    (∀ call : Call,
      (∀ found other, (detectAs .classic call o).outcome = .ok found →
        (detectAs .chunk call o).outcome ≠ .ok other) ∧
      ∀ found, (detect call { o with format := none }).value.1 = .ok found ↔
        (detectAs .classic call o).outcome = .ok found ∨
          (detectAs .chunk call o).outcome = .ok found) ∧
    ∀ (call : Call) (format expected : BundleFormat),
      (detect call { o with format := some format }).value.1 = .error (.wrongFormat expected) →
        expected = format.other ∧ ∀ again,
          (detect call { o with format := some expected }).value.1 ≠ .error (.wrongFormat again) := by
  refine ⟨?_, fun name source expected => unpackSource_auto_not_mismatch o name source, ?_, ?_⟩
  · intro name source program call hp hc
    have located : (locateCall name source).outcome = .ok call :=
      locateCall_ok_iff.mpr ⟨program, hp, hc⟩
    rw [unpackSource_outcome, unpackSource_outcome, detectSource_outcome, detectSource_outcome,
      located, ok_bind, ok_bind, detect_result, detect_result, detectAs_ignores_format,
      detectAs_ignores_format]
    rfl
  · intro call
    refine ⟨fun found other hf ho => ?_, fun found => detect_auto_ok_iff⟩
    have := (detectAs_ok_format hf).symm.trans (detectAs_ok_format ho)
    contradiction
  · intro call format expected h
    rw [detect_result, detectAs_ignores_format] at h
    obtain ⟨he, hi⟩ := detectAs_mismatch h
    refine ⟨he, fun again => ?_⟩
    rw [detect_result, detectAs_ignores_format, Option.getD_some, he, ← hi]
    exact detectAs_inferred_not_mismatch o

/-- A chunk of a loader named `f`, with the format chosen automatically and with the wrong one. -/
theorem inferred_format_coherent_loader :
    let loader : Options := ⟨none, none, "f"⟩
    ∃ program, Program.ofSource "f([0,{},0])" = .ok program ∧
      ∃ call, (findCall program).value = some call ∧ call.inferredFormat = .chunk ∧
        (unpackSource loader "<input>" "f([0,{},0])").outcome =
          (unpackSource { loader with format := some call.inferredFormat } "<input>"
            "f([0,{},0])").outcome ∧
        (detect call { loader with format := some .classic }).value.1 =
          .error (.wrongFormat .chunk) ∧
        ∀ again, (detect call { loader with format := some .chunk }).value.1 ≠
          .error (.wrongFormat again) := by
  intro loader
  obtain ⟨program, hp, call, hc, hf, failed⟩ :
      ∃ program, Program.ofSource "f([0,{},0])" = .ok program ∧
        ∃ call ∈ (findCall program).value, call.inferredFormat = .chunk ∧
          (detect call { loader with format := some .classic }).value.1.map (fun _ => ()) =
            .error (.wrongFormat .chunk) :=
    exists_ok (by decide +kernel)
  have mismatch : (detect call { loader with format := some .classic }).value.1 =
      .error (.wrongFormat .chunk) := eq_error_of_map failed
  obtain ⟨automatic, -, -, retried⟩ := inferred_format_coherent loader
  exact ⟨program, hp, call, hc, hf, automatic "<input>" "f([0,{},0])" program call hp hc, mismatch,
    (retried call .classic .chunk mismatch).2⟩

end BundleLens.Bundle
