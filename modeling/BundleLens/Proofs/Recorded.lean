import BundleLens.Proofs.Bundle.DetectionEvents
import BundleLens.Proofs.Unpacker

/-! What is recorded of a source that is unpacked. It is reported as such once and at the end, and if it
cannot be unpacked, users do not get to see any event. An unpacker records the same. -/
namespace BundleLens
open BundleLens.Bundle Bundle.Detecting

/-- None of the events is of the level that users always see. -/
def Unseen (events : List Event) : Prop := ∀ e ∈ events, e.level ≠ .info

private theorem Unseen.append {events more : List Event} (first : Unseen events)
    (rest : Unseen more) :
    Unseen (events ++ more) :=
  List.forall_mem_append.mpr ⟨first, rest⟩

private theorem unseen_nil : Unseen [] := List.forall_mem_nil _

private theorem unseen_bind {α β : Type} {x : Detecting α} {f : α → Detecting β}
    (first : Unseen x.recorded) (rest : ∀ a, Unseen (f a).recorded) : Unseen (x >>= f).recorded := by
  rw [recorded_bind]
  refine first.append ?_
  cases x.outcome with
  | error failure => exact unseen_nil
  | ok a => exact rest a

private theorem detect_unseen (call : Call) (o : Options) : Unseen (detect call o).events := by
  intro e listed
  obtain ⟨s, hs⟩ := subject_of_mem listed
  cases e with
  | classicTable | classicEntry | chunkTable | chunkWithoutEntry | entryRemembered => exact nofun
  | _ => cases hs

private theorem findCall_unseen (program : Script.Program) : Unseen (findCall program).events := by
  unfold findCall
  split
  · exact unseen_nil
  split
  · exact unseen_nil
  split
  · exact List.forall_mem_singleton.mpr nofun
  · exact unseen_nil

private theorem parseScript_unseen (name source : String) :
    Unseen (parseScript name source).recorded := by
  unfold parseScript
  split
  · exact unseen_nil
  split
  · exact List.forall_mem_singleton.mpr nofun
  · exact unseen_nil

private theorem locateCall_unseen (name source : String) :
    Unseen (locateCall name source).recorded := by
  unfold locateCall
  refine unseen_bind (parseScript_unseen name source) fun program => unseen_bind ?_ fun found => ?_
  · rw [recorded_lift]
    exact findCall_unseen program
  · rw [recorded_require]
    exact unseen_nil

private theorem sniff_unseen (source : String) : Unseen (Marker.sniff source).events := by
  unfold Marker.sniff
  split
  · exact List.forall_mem_singleton.mpr nofun
  · exact unseen_nil

private theorem chooseFormat_unseen (o : Options) (call : Call) (source : String) :
    Unseen (chooseFormat o call source).events := by
  unfold chooseFormat
  cases o.format with
  | some format => exact unseen_nil
  | none =>
    refine (sniff_unseen source).append ?_
    cases (Marker.sniff source).value with
    | none => exact List.forall_mem_singleton.mpr nofun
    | some hint =>
      by_cases same : hint = call.inferredFormat
      · dsimp only
        rw [if_pos same]
        exact List.forall_mem_singleton.mpr nofun
      · dsimp only
        rw [if_neg same]
        exact List.forall_mem_singleton.mpr nofun

private theorem detectSource_recorded (o : Options) (name source : String) :
    (detectSource o name source).recorded = (locateCall name source).recorded ++
      onwards (fun call => (chooseFormat o call source).events ++
        (detect call (chooseFormat o call source).value).events) (locateCall name source).outcome := by
  unfold detectSource
  rw [recorded_bind]
  congr 2
  funext call
  rw [recorded_bind, recorded_lift, outcome_lift, onwards_ok, recorded_bind, recorded_lift,
    outcome_lift, onwards_ok]
  rcases (detect call (chooseFormat o call source).value).value with ⟨_ | _, _⟩ <;>
    exact congrArg _ (List.append_nil _)

private theorem detectSource_unseen (o : Options) (name source : String) :
    Unseen (detectSource o name source).recorded := by
  rw [detectSource_recorded]
  refine (locateCall_unseen name source).append ?_
  cases (locateCall name source).outcome with
  | error failure => exact unseen_nil
  | ok call => exact (chooseFormat_unseen o call source).append (detect_unseen call _)

/-- A source that is unpacked is reported at the end, and only there. -/
theorem unpackSource_recorded (o : Options) (name source : String) :
    (unpackSource o name source).recorded = (detectSource o name source).recorded ++
      onwards (fun found => (found.modules.toOption.map fun modules =>
          .unpacked name found.format modules.length found.entry).toList)
        (detectSource o name source).outcome := by
  unfold unpackSource
  rw [recorded_bind]
  congr 2
  funext found
  cases found.modules <;> rfl

namespace Unpacker
variable {α β : Type} {u : Unpacker}

def eventsOf (u : Unpacker) (work : Unpacking α) : List Event := (work.run.run u).events

@[simp] theorem eventsOf_get : u.eventsOf get = [] := rfl

@[simp] theorem eventsOf_setCopy (copy : Options) : u.eventsOf (setCopy copy) = [] := rfl

@[simp] theorem eventsOf_step (x : Detecting α) : u.eventsOf (step x) = x.recorded :=
  List.append_nil _

@[simp] theorem eventsOf_lift (x : Traced α) : u.eventsOf (liftM x : Unpacking α) = x.events := by
  change (x.events ++ []) ++ [] = x.events
  simp

@[simp] theorem eventsOf_ofExcept (x : Except Failure α) :
    u.eventsOf (MonadExcept.ofExcept x : Unpacking α) = [] := by
  cases x <;> rfl

private theorem eventsOf_bind (work : Unpacking α) (next : α → Unpacking β) :
    u.eventsOf (work >>= next) = u.eventsOf work ++
      onwards ((u.perform work).2.eventsOf ∘ next) (u.perform work).1 := by
  unfold eventsOf perform
  rw [ExceptT.run_bind, StateT.run_bind, Traced.events_bind]
  rcases (work.run.run u).value with ⟨_ | _, _⟩ <;> rfl

private theorem eventsOf_recognize (call : Call) (source : String) :
    u.eventsOf (recognize call source) = (chooseFormat u.copy call source).events ++
      (detect call (chooseFormat u.copy call source).value).events := by
  unfold recognize
  simp [eventsOf_bind]

/-- An unpacker records what its own options alone lead to. -/
theorem eventsOf_unpackSource (name source : String) :
    u.eventsOf (unpackSource name source) =
      (BundleLens.unpackSource u.options name source).recorded := by
  rw [unpackSource_recorded, detectSource_recorded, detectSource_outcome, List.append_assoc]
  unfold unpackSource
  rw [eventsOf_bind, eventsOf_step, perform_step]
  congr 1
  cases (locateCall name source).outcome with
  | error failure => rfl
  | ok call =>
    simp only [onwards_ok, Function.comp_apply, eventsOf_bind, eventsOf_get, eventsOf_setCopy,
      eventsOf_recognize, perform_get, perform_setCopy, perform_recognize, ok_bind, List.nil_append]
    congr 1
    cases (detect call u.options).value.1 with
    | error failure => rfl
    | ok found =>
      dsimp only [onwards_ok, Function.comp_apply]
      cases found.modules <;> rfl

end Unpacker

/-- The events of unpacking a source tell the truth about its result. What users always see is the last
event, which is recorded exactly if there is a report and tells its format, its number of modules and
its entry. -/
structure UnpackingTold (name : String) (result : Except Failure Report) (events : List Event) :
    Prop where
  ok : ∀ report, result = .ok report →
    ∃ before format, events = before ++ [.unpacked name format report.modules.length report.entry] ∧
      Unseen before ∧ report.format = some format ∧
      report.moduleCount = .ofNat report.modules.length
  error : ∀ failure, result = .error failure → Unseen events

private theorem unpackingTold (o : Options) (name source : String) :
    UnpackingTold name (unpackSource o name source).outcome (unpackSource o name source).recorded where
  ok report unpacked := by
    have steps := unpacked
    rw [unpackSource_outcome] at steps
    obtain ⟨found, detected, -⟩ := bind_eq_ok_iff.mp steps
    obtain ⟨modules, listed, rfl⟩ := unpackSource_ok_of_detected detected unpacked
    have count : (Report.ofModules name found modules).modules.length = modules.length :=
      List.length_map _
    refine ⟨_, found.format, ?_, detectSource_unseen o name source, rfl, by rw [count]; rfl⟩
    rw [unpackSource_recorded, detected, onwards_ok, listed, count]
    rfl
  error failure failed := by
    rw [unpackSource_recorded]
    refine (detectSource_unseen o name source).append ?_
    rw [unpackSource_outcome] at failed
    obtain undetected | ⟨found, detected, unlisted⟩ := bind_eq_error_iff.mp failed
    · rw [undetected]
      exact unseen_nil
    · rw [detected, onwards_ok]
      cases listed : found.modules with
      | error fault => exact unseen_nil
      | ok modules =>
        rw [listed] at unlisted
        cases unlisted

private theorem Unpacker.unpackingTold (u : Unpacker) (name source : String) :
    UnpackingTold name (u.perform (unpackSource name source)).1
      (u.eventsOf (unpackSource name source)) := by
  obtain ⟨copy, result⟩ := confined_unpackSource name source u
  change u.perform (unpackSource name source) = _ at result
  rw [result, eventsOf_unpackSource]
  exact BundleLens.unpackingTold u.options name source

/-- The events that are recorded tell the truth about what they are recorded of: about every detection
in any call and with any options, and about every source that is unpacked or is not, also by an
unpacker that has worked before. -/
theorem events_tell_results :
    (∀ call o, DetectionTold call o) ∧
      (∀ o name source, UnpackingTold name (unpackSource o name source).outcome
        (unpackSource o name source).recorded) ∧
      ∀ (u : Unpacker) (name source : String),
        UnpackingTold name (u.perform (Unpacker.unpackSource name source)).1
          (u.eventsOf (Unpacker.unpackSource name source)) :=
  ⟨detectionTold, unpackingTold, Unpacker.unpackingTold⟩

/-- A chunk that names its entry, detected and then unpacked, and a call that starts no bundle. -/
theorem events_tell_results_named :
    (∃ call, (locateCall "a.js" "webpackJsonp([0,{},[['a']]])").outcome = .ok call ∧
      .entryRemembered (some (.name "a")) ∈ (detect call {}).events ∧
      ∀ span, .chunkWithoutEntry span ∉ (detect call {}).events) ∧
    (∃ report, (unpackSource {} "a.js" "webpackJsonp([0,{},[['a']]])").outcome = .ok report ∧
      ∃ before, Unseen before ∧
        (unpackSource {} "a.js" "webpackJsonp([0,{},[['a']]])").recorded =
          before ++ [.unpacked "a.js" .chunk 0 (some (.name "a"))]) ∧
    ((Unpacker.new {}).perform (Unpacker.unpackSource "b.js" "f()")).1 = .error .notBootstrap ∧
      Unseen ((Unpacker.new {}).eventsOf (Unpacker.unpackSource "b.js" "f()")) := by
  obtain ⟨detections, unpackings, unpackers⟩ := events_tell_results
  obtain ⟨call, located, kept, source⟩ :
      ∃ call, (locateCall "a.js" "webpackJsonp([0,{},[['a']]])").outcome = .ok call ∧
        (detect call {}).value.2.entry = some (.name "a") ∧
        ∀ found ∈ (detect call {}).value.1.toOption, found.entrySource = .resolved :=
    exists_ok (by decide +kernel)
  obtain ⟨report, unpacked, format, entry, modules⟩ :
      ∃ report, (unpackSource {} "a.js" "webpackJsonp([0,{},[['a']]])").outcome = .ok report ∧
        report.format = some .chunk ∧ report.entry = some (.name "a") ∧ report.modules = [] :=
    exists_ok (by decide +kernel)
  have rejected :
      ((Unpacker.new {}).perform (Unpacker.unpackSource "b.js" "f()")).1 = .error .notBootstrap := by
    decide +kernel
  refine ⟨⟨call, located, ?_, fun span listed => ?_⟩, ⟨report, unpacked, ?_⟩, rejected,
    (unpackers (.new {}) "b.js" "f()").error _ rejected⟩
  · exact ((detections call {}).remembered_iff _).mpr ⟨by rw [kept]; exact nofun, kept.symm⟩
  · obtain ⟨-, found, detected, unresolved⟩ := ((detections call {}).missing_iff span).mp listed
    rw [source found (by rw [detected]; rfl)] at unresolved
    cases unresolved
  · obtain ⟨before, f, events, unseen, told, -⟩ := (unpackings {} "a.js" _).ok report unpacked
    rw [format] at told
    cases told
    rw [entry, modules] at events
    exact ⟨before, unseen, events⟩

end BundleLens
