import BundleLens.Proofs.Bundle.EntryOverride

/-! Options that remember an entry. Detections in a row share them: the first entry that a bundle names
is kept in them, and from then on it counts as given. -/
namespace BundleLens.Bundle

structure Step where
  call : Call
  before : Options
  result : Except Failure Detection
  after : Options

namespace Step

def of (o : Options) (call : Call) : Step :=
  ⟨call, o, (detect call o).value.1, (detect call o).value.2⟩

def resolved? (step : Step) : Option ModuleId :=
  match step.result with
  | .ok found => if found.entrySource = .resolved then found.entry else none
  | .error _ => none

def Resolved (step : Step) : Prop :=
  ∃ found, step.result = .ok found ∧ found.entrySource = .resolved

/-- The step left the options as they are given and took the entry in them for whatever it found. -/
structure Overridden (step : Step) (given : Options) (id : ModuleId) : Prop where
  before : step.before = given
  after : step.after = given
  not_noEntry : step.result ≠ .error .noEntry
  entry : ∀ found, step.result = .ok found → found.entry = some id
  entrySource : ∀ found, step.result = .ok found → found.entrySource = .override

end Step

def detectAll (o : Options) : List Call → Traced (List Step)
  | [] => return []
  | call :: calls => do
    let (result, after) ← detect call o
    return ⟨call, o, result, after⟩ :: (← detectAll after calls)

private theorem detectAll_cons (o : Options) (call : Call) (calls : List Call) :
    (detectAll o (call :: calls)).value =
      Step.of o call :: (detectAll (Step.of o call).after calls).value := rfl

namespace Step
variable {o : Options} {call : Call} {found : Detection} {id : ModuleId}

theorem of_resolved (h : (of o call).result = .ok found) (hr : found.entrySource = .resolved) :
    o.entry = none ∧ ∃ id, found.entry = some id := by
  have consistent := detect_consistent h
  constructor
  · cases he : o.entry with
    | none => rfl
    | some id =>
      have := consistent.override_iff.mpr (by rw [he]; rfl)
      rw [hr] at this
      cases this
  · cases he : found.entry with
    | none =>
      have := consistent.unresolved_iff.mp he
      rw [hr] at this
      cases this
    | some id => exact ⟨id, rfl⟩

private theorem resolved?_of {step : Step} (h : step.result = .ok found)
    (hr : found.entrySource = .resolved) : step.resolved? = found.entry := by
  unfold resolved?
  rw [h]
  exact if_pos hr

private theorem resolved_iff : (of o call).Resolved ↔ (of o call).resolved? ≠ none := by
  unfold Resolved resolved?
  cases h : (of o call).result with
  | error failure => simp
  | ok found =>
    by_cases hr : found.entrySource = .resolved
    · obtain ⟨_, id, hi⟩ := of_resolved h hr
      simp [hr, hi]
    · simp [hr]

private theorem of_after :
    (of o call).after = { o with entry := o.entry.or (of o call).resolved? } := by
  have left : (of o call).after = remember o (of o call).result := detect_options call o
  rw [left]
  unfold remember resolved?
  cases h : (of o call).result with
  | error failure => simp
  | ok found =>
    by_cases hr : found.entrySource = .resolved
    · have unset : o.entry = none := (of_resolved h hr).1
      simp [hr, unset]
    · simp [hr]

private theorem of_changed_iff : (of o call).after ≠ (of o call).before ↔ (of o call).Resolved := by
  constructor
  · intro changed
    rw [resolved_iff]
    intro hn
    refine changed ?_
    rw [of_after, hn, Option.or_none]
    rfl
  · rintro ⟨found, hf, hr⟩ same
    obtain ⟨unset, id, hid⟩ := of_resolved hf hr
    rw [of_after, resolved?_of hf hr, unset, hid] at same
    have := (congrArg Options.entry same).trans unset
    cases this

private theorem of_overridden (h : o.entry = some id) : (of o call).Overridden o id where
  before := rfl
  after := by rw [of_after, h, Option.some_or, ← h]
  not_noEntry hn := by
    obtain ⟨found, hf⟩ := detect_overridden_of_noEntry id hn
    have same : { o with entry := some id } = o := by rw [← h]
    rw [same] at hf
    exact absurd (hf.symm.trans hn) (by simp)
  entry found hf := (detect_consistent hf).entry_of_override id h
  entrySource found hf := (detect_consistent hf).override_iff.mpr (by rw [h]; rfl)

private theorem Overridden.not_resolved {step : Step} (h : step.Overridden o id) :
    ¬ step.Resolved := by
  rintro ⟨found, hf, hr⟩
  rw [h.entrySource found hf] at hr
  cases hr

end Step

variable {o : Options} {calls : List Call} {past future : List Step} {step : Step} {id : ModuleId}

/-- Every step starts from the options at the start with the entry that was resolved first. -/
theorem detectAll_split (h : (detectAll o calls).value = past ++ step :: future) :
    ∃ call rest, step = Step.of { o with entry := o.entry.or (past.findSome? Step.resolved?) } call ∧
      future = (detectAll step.after rest).value := by
  induction calls generalizing o past with
  | nil => simp [detectAll] at h
  | cons call calls ih =>
    rw [detectAll_cons] at h
    cases past with
    | nil =>
      rw [List.nil_append, List.cons.injEq] at h
      obtain ⟨rfl, rfl⟩ := h
      exact ⟨call, calls, by rw [List.findSome?_nil, Option.or_none], rfl⟩
    | cons first past =>
      rw [List.cons_append, List.cons.injEq] at h
      obtain ⟨rfl, h⟩ := h
      obtain ⟨last, rest, hs, hf⟩ := ih h
      refine ⟨last, rest, ?_, hf⟩
      -- What the first step resolves goes before what the others do.
      rw [hs, Step.of_after, List.findSome?_cons, Option.or_assoc]
      cases (Step.of o call).resolved? <;> rfl

private theorem resolved?_eq_none {s : Step} (hs : s ∈ (detectAll o calls).value)
    (h : s.resolved? = none) : ¬ s.Resolved := by
  obtain ⟨past, future, split⟩ := List.append_of_mem hs
  obtain ⟨call, rest, rfl, -⟩ := detectAll_split split
  rw [Step.resolved_iff, not_not]
  exact h

private theorem detectAll_overridden (h : o.entry = some id) {later : Step}
    (hl : later ∈ (detectAll o calls).value) : later.Overridden o id ∧ later = Step.of o later.call := by
  induction calls with
  | nil => cases hl
  | cons call calls ih =>
    have overridden : (Step.of o call).Overridden o id := Step.of_overridden h
    rw [detectAll_cons, overridden.after, List.mem_cons] at hl
    obtain rfl | hl := hl
    · exact ⟨overridden, rfl⟩
    · exact ih hl

private theorem detectAll_followed (h : (detectAll o calls).value = past ++ step :: future)
    (hid : step.after.entry = some id) {later : Step} (hl : later ∈ future) :
    later.Overridden step.after id ∧ later = Step.of step.after later.call := by
  obtain ⟨_, rest, -, rfl⟩ := detectAll_split h
  exact detectAll_overridden hid hl

/-- A step that resolves an entry is the first to do so, as it had none to start from. -/
theorem detectAll_resolved (h : (detectAll o calls).value = past ++ step :: future)
    {found : Detection} (hf : step.result = .ok found) (hr : found.entrySource = .resolved) :
    (∀ s ∈ past, ¬ s.Resolved) ∧ o.entry = none ∧ step = Step.of o step.call ∧
      ∃ id, found.entry = some id ∧ step.after = { o with entry := some id } := by
  obtain ⟨call, rest, hs, -⟩ := detectAll_split h
  rw [hs] at hf
  obtain ⟨unset, id, hid⟩ := Step.of_resolved hf hr
  obtain ⟨ho, hp⟩ := Option.or_eq_none_iff.mp unset
  have unchanged : { o with entry := o.entry.or (past.findSome? Step.resolved?) } = o := by
    rw [hp, Option.or_none]
  rw [unchanged] at hs hf
  refine ⟨fun s hm => ?_, ho, by rw [hs]; rfl, id, hid, ?_⟩
  · have inRun : s ∈ (detectAll o calls).value := h ▸ List.mem_append_left _ hm
    exact resolved?_eq_none inRun (List.findSome?_eq_none_iff.mp hp s hm)
  · rw [hs, Step.of_after, ho, Option.none_or, Step.resolved?_of hf hr, hid]

/-- What holds at each of the detections in a row that start with some options. -/
structure Remembers (o : Options) (past : List Step) (step : Step) (future : List Step) : Prop where
  format : step.after.format = o.format
  chunkGlobal : step.after.chunkGlobal = o.chunkGlobal
  changed_iff : step.after ≠ step.before ↔ step.Resolved
  resolved_once : step.Resolved → (∀ s ∈ past, ¬ s.Resolved) ∧ ∀ s ∈ future, ¬ s.Resolved
  resolved : ∀ found, step.result = .ok found → found.entrySource = .resolved →
    step.before = o ∧ o.entry = none ∧
      ∃ id, found.entry = some id ∧ step.after = { o with entry := some id }
  repeated : ∀ found, step.result = .ok found → found.entrySource = .resolved →
    ∀ later ∈ future, later.call = step.call →
      later.result = .ok { found with entrySource := .override }
  given : ∀ id, step.before.entry = some id →
    ∀ later ∈ step :: future, later.Overridden step.before id
  remembered : ∀ id, step.after.entry = some id → ∀ later ∈ future, later.Overridden step.after id

/-- Detections in a row remember one entry. It is the one that is resolved first, unless one is given
at the start; the step that resolves it is the only one to change the options, and all after it take
the entry for theirs. -/
theorem detections_remember_first_entry
    (h : (detectAll o calls).value = past ++ step :: future) : Remembers o past step future := by
  obtain ⟨call, rest, hs, -⟩ := detectAll_split h
  constructor
  case format => rw [hs, Step.of_after]
  case chunkGlobal => rw [hs, Step.of_after]
  case changed_iff =>
    rw [hs]
    exact Step.of_changed_iff
  case resolved_once =>
    rintro ⟨found, hf, hr⟩
    obtain ⟨hp, -, -, id, -, ha⟩ := detectAll_resolved h hf hr
    have set : step.after.entry = some id := by rw [ha]
    exact ⟨hp, fun s hm => (detectAll_followed h set hm).1.not_resolved⟩
  case resolved =>
    intro found hf hr
    obtain ⟨-, ho, hstep, hid⟩ := detectAll_resolved h hf hr
    exact ⟨by rw [hstep]; rfl, ho, hid⟩
  case repeated =>
    intro found hf hr later hm same
    obtain ⟨-, -, hstep, id, hid, ha⟩ := detectAll_resolved h hf hr
    have set : step.after.entry = some id := by rw [ha]
    rw [(detectAll_followed h set hm).2, ha, same]
    rw [hstep] at hf
    refine (detect_overridden id hf).trans ?_
    rw [Detection.overridden, hid]
  case given =>
    intro id hid later hm
    have overridden : step.Overridden step.before id := by
      rw [hs] at hid ⊢
      exact Step.of_overridden hid
    obtain rfl | hm := List.mem_cons.mp hm
    · exact overridden
    · rw [← overridden.after] at hid ⊢
      exact (detectAll_followed h hid hm).1
  case remembered => exact fun id hid later hm => (detectAll_followed h hid hm).1

/-- The same chunk twice: the entry that it names the first time is given the second time. -/
theorem detections_remember_first_entry_twice :
    ∃ call, (locateCall "a.js" "webpackJsonp([0,{},[['a']]])").outcome = .ok call ∧
      ∃ first second, (detectAll {} [call, call]).value = [] ++ first :: [second] ∧
        first.resolved? = some (.name "a") ∧ Remembers {} [] first [second] := by
  obtain ⟨call, located, resolved⟩ :
      ∃ call, (locateCall "a.js" "webpackJsonp([0,{},[['a']]])").outcome = .ok call ∧
        (Step.of {} call).resolved? = some (.name "a") := exists_ok (by decide +kernel)
  have run : (detectAll {} [call, call]).value =
      [] ++ Step.of {} call :: [Step.of (Step.of {} call).after call] := rfl
  exact ⟨call, located, _, _, run, resolved, detections_remember_first_entry run⟩

end BundleLens.Bundle
