import BundleLens.Proofs.Bundle.FormatChoice

/-! Which call at the top level is taken for the bundle. The looks of a call are a coarse filter:
every accepted call passes it, but so do calls that detection rejects. -/
namespace BundleLens.Bundle
open Script

private theorem isArray_or_isObject_of_ofExpr? {e : Expr} {table : Table}
    (h : Table.ofExpr? e = some table) :
    (isArray e || isObject e) = true := by
  unfold Table.ofExpr? at h
  unfold isArray isObject
  cases hb : e.bare with
  | array span elements => rfl
  | object span properties => rfl
  | _ => simp [hb] at h

theorem Classic.looksLikeBootstrap_of_shape {call : Call} {s : Shape} (h : shape call = .ok s) :
    call.looksLikeBootstrap = true := by
  obtain ⟨_, _, _, ht, _⟩ := shape_ok h
  obtain ⟨e, he, ht⟩ := Option.bind_eq_some_iff.mp ht
  unfold Call.looksLikeBootstrap
  rw [if_pos (shape_ok_function h), he, Option.any_some]
  exact isArray_or_isObject_of_ofExpr? ht

private theorem Chunk.arguments_of_slots? {call : Call} {slots : Element × Element}
    (h : slots? call = some slots) : ∃ e, call.arguments = [.item e] ∧ isArray e = true := by
  unfold slots? at h
  split at h
  · rename_i e ha
    refine ⟨e, ha, ?_⟩
    unfold isArray
    split at h
    · rename_i hb
      rw [hb]
    · cases h
  · cases h

theorem Chunk.looksLikeBootstrap_of_shape {loader : String} {call : Call} {s : Shape}
    (h : shape loader call = .ok s) : call.looksLikeBootstrap = true := by
  obtain ⟨hf, _, _, _, hs, _⟩ := shape_ok h
  obtain ⟨e, ha, he⟩ := arguments_of_slots? hs
  unfold Call.looksLikeBootstrap Call.firstArgument?
  simp [hf, ha, Argument.expr?, he]

def Accepted (o : Options) (call : Call) : Prop := ∃ found, (detect call o).value.1 = .ok found

instance (o : Options) (call : Call) : Decidable (Accepted o call) :=
  match h : (detect call o).value.1 with
  | .ok found => .isTrue ⟨found, h⟩
  | .error _ => .isFalse fun ⟨_, hf⟩ => by simp [h] at hf

private theorem Accepted.looksLikeBootstrap {o : Options} {call : Call} (h : Accepted o call) :
    call.looksLikeBootstrap = true := by
  obtain ⟨found, h⟩ := h
  rw [detect_settle, bind_eq_ok_iff] at h
  obtain ⟨s, hs, _⟩ := h
  cases hf : o.format.getD call.inferredFormat with
  | classic =>
    rw [hf] at hs
    exact Classic.looksLikeBootstrap_of_shape hs
  | chunk =>
    rw [hf] at hs
    exact Chunk.looksLikeBootstrap_of_shape hs

/-- The call that is taken is the leftmost one with the looks of a bootstrap, or else the first. -/
theorem findCall_value (program : Program) :
    (findCall program).value =
      ((topLevelCalls program).find? Call.looksLikeBootstrap).or (topLevelCalls program).head? := by
  unfold findCall
  cases topLevelCalls program with
  | nil => rfl
  | cons first others =>
    by_cases h : first.looksLikeBootstrap = true
    · simp [h]
    · cases hf : others.find? Call.looksLikeBootstrap <;> simp [h, hf]

/-- Every call that looks like a bootstrap and is rejected stands after an accepted one. -/
def Unobstructed (o : Options) (calls : List Call) : Prop :=
  ∀ before call after, calls = before ++ call :: after → call.looksLikeBootstrap = true →
    ¬ Accepted o call → ∃ a ∈ before, Accepted o a

private theorem find?_accepted_iff {o : Options} {calls : List Call} {call : Call}
    (h : calls.find? Call.looksLikeBootstrap = some call) :
    Accepted o call ↔ Unobstructed o calls := by
  obtain ⟨hl, before, after, rfl, hb⟩ := List.find?_eq_some_iff_append.mp h
  constructor
  · intro ha before' call' after' hs hl' hr
    rw [hs, List.find?_append, List.find?_cons_of_pos hl'] at h
    cases hf : before'.find? Call.looksLikeBootstrap with
    | none =>
      rw [hf, Option.none_or, Option.some.injEq] at h
      exact absurd (h ▸ ha) hr
    | some first =>
      rw [hf, Option.some_or, Option.some.injEq] at h
      exact ⟨call, h ▸ List.mem_of_find?_eq_some hf, ha⟩
  · intro hu
    by_cases hr : Accepted o call
    · exact hr
    · obtain ⟨a, hm, ha⟩ := hu before call after rfl hl hr
      simpa [ha.looksLikeBootstrap] using hb a hm

/-- A failure of detection, and not of parsing before it or of listing modules after it. -/
def isRejection : Failure → Bool
  | .wrongFormat _ | .notBootstrap | .noEntry => true
  | _ => false

theorem detect_isRejection {o : Options} {call : Call} {f : Failure}
    (h : (detect call o).value.1 = .error f) : isRejection f = true := by
  rw [detect_settle, bind_eq_error_iff] at h
  obtain h | ⟨s, -, h⟩ := h
  · obtain rfl | rfl := shapeAs_error h <;> rfl
  · rw [Shape.settle_error h]
    rfl

/-- Once the call is located, unpacking fails in detection exactly if the call is not accepted. -/
theorem unpackSource_isRejection_iff {o : Options} {name source : String} {call : Call}
    (located : (locateCall name source).outcome = .ok call) :
    (∃ f, (unpackSource o name source).outcome = .error f ∧ isRejection f = true) ↔
      ¬ Accepted o call := by
  rw [unpackSource_outcome, detectSource_outcome, located, ok_bind]
  unfold Accepted
  cases h : (detect call o).value.1 with
  | error f => simp [detect_isRejection h]
  | ok found =>
    cases hm : found.modules <;> simp [hm, Except.map, isRejection]

/-- If some call at the top level is accepted, the call that is taken is accepted too unless a
rejected call with the looks of a bootstrap stands before all that are. Calls without these looks
hide nothing. -/
theorem located_call_accepted_iff (o : Options) (program : Program)
    (accepted : ∃ call ∈ topLevelCalls program, Accepted o call) :
    (∃ call, (findCall program).value = some call ∧
      (Accepted o call ↔ Unobstructed o (topLevelCalls program))) ∧
    ∀ name source, Program.ofSource source = .ok program →
      ((∃ f, (unpackSource o name source).outcome = .error f ∧ isRejection f = true) ↔
        ¬ Unobstructed o (topLevelCalls program)) := by
  obtain ⟨a, hm, ha⟩ := accepted
  obtain ⟨call, hc⟩ := Option.isSome_iff_exists.mp
    (List.find?_isSome.mpr ⟨a, hm, ha.looksLikeBootstrap⟩)
  have found : (findCall program).value = some call := by rw [findCall_value, hc, Option.some_or]
  refine ⟨⟨call, found, find?_accepted_iff hc⟩, fun name source hp => ?_⟩
  rw [unpackSource_isRejection_iff (locateCall_ok_iff.mpr ⟨program, hp, found⟩),
    find?_accepted_iff hc]

/-- A call without the looks of a bootstrap stands before the bundle and does not hide it. -/
theorem located_call_accepted_after_other_call :
    ∃ program, Program.ofSource "init();webpackJsonp([[0],{},[[0]]]);" = .ok program ∧
      (∃ call ∈ topLevelCalls program, Accepted {} call) ∧
      (∃ call, (findCall program).value = some call ∧
        (Accepted {} call ↔ Unobstructed {} (topLevelCalls program))) := by
  obtain ⟨program, hp, ha⟩ : ∃ program,
      Program.ofSource "init();webpackJsonp([[0],{},[[0]]]);" = .ok program ∧
        ∃ call ∈ topLevelCalls program, Accepted {} call := exists_ok (by decide +kernel)
  exact ⟨program, hp, ha, (located_call_accepted_iff {} program ha).1⟩

/-- A call of anything with an array has the looks of a chunk and hides the one after it. -/
theorem array_call_hides_chunk :
    ∃ program, Program.ofSource "foo([1]);webpackJsonp([[0],{},[[0]]]);" = .ok program ∧
      (∃ call ∈ topLevelCalls program, Accepted {} call) ∧
      (∃ call ∈ (findCall program).value, ¬ Accepted {} call) ∧
      (unpackSource {} "<input>" "foo([1]);webpackJsonp([[0],{},[[0]]]);").outcome =
        .error .notBootstrap := by
  obtain ⟨program, hp, ha, hf⟩ : ∃ program,
      Program.ofSource "foo([1]);webpackJsonp([[0],{},[[0]]]);" = .ok program ∧
        (∃ call ∈ topLevelCalls program, Accepted {} call) ∧
        ∃ call ∈ (findCall program).value, ¬ Accepted {} call := exists_ok (by decide +kernel)
  exact ⟨program, hp, ha, hf, by decide +kernel⟩

end BundleLens.Bundle
