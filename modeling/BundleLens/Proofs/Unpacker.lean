import BundleLens.Unpacker
import BundleLens.Proofs.Bundle.Location
import Mathlib.Data.List.Perm.Basic

/-! Unpackers and their inputs. All that an unpacker notes about an input goes to its copy of the
options, and the copy is made anew for the next input. So its own options stay what they were, and
what it finds out about an input depends on them alone. -/
namespace BundleLens
open BundleLens.Bundle

private theorem detectFormat_outcome (o : Options) (source : String) :
    (detectFormat o source).outcome =
      (detectSource o "<input>" source).outcome.map Detection.format := by
  unfold detectFormat
  rw [Detecting.outcome_bind]
  cases (detectSource o "<input>" source).outcome <;> rfl

private theorem detectSource_not_malformed {o : Options} {name source : String}
    {fault : TableFault} :
    (detectSource o name source).outcome ≠ .error (.malformedTable fault) := by
  intro h
  rw [detectSource_outcome, bind_eq_error_iff] at h
  obtain h | ⟨call, -, h⟩ := h
  · obtain ⟨_, h⟩ | h := locateCall_error h <;> cases h
  · have := detect_isRejection h
    cases this

namespace Unpacker
variable {α β : Type} {u : Unpacker}

def perform (u : Unpacker) (work : Unpacking α) : Except Failure α × Unpacker :=
  (work.run.run u).value

@[simp] theorem perform_pure (a : α) : u.perform (pure a) = (.ok a, u) := rfl

@[simp] theorem perform_throw (f : Failure) : u.perform (throw f : Unpacking α) = (.error f, u) := rfl

@[simp] theorem perform_get : u.perform get = (.ok u, u) := rfl

@[simp] theorem perform_setCopy (copy : Options) :
    u.perform (setCopy copy) = (.ok (), { u with copy }) := rfl

@[simp] theorem perform_step (x : Detecting α) : u.perform (step x) = (x.outcome, u) := rfl

@[simp] theorem perform_lift (x : Traced α) :
    u.perform (liftM x : Unpacking α) = (.ok x.value, u) := rfl

@[simp] theorem perform_ofExcept (x : Except Failure α) :
    u.perform (MonadExcept.ofExcept x) = (x, u) := by
  cases x <;> rfl

private theorem perform_bind (work : Unpacking α) (next : α → Unpacking β) :
    u.perform (work >>= next) =
      match u.perform work with
      | (.ok a, v) => v.perform (next a)
      | (.error f, v) => (.error f, v) := by
  unfold perform
  rw [ExceptT.run_bind, StateT.run_bind, Traced.value_bind]
  rcases (work.run.run u).value with ⟨_ | _, _⟩ <;> rfl

/-- What is noted changes the copy only, and what is found is what the copy at the start asks for. -/
theorem perform_recognize (call : Call) (source : String) :
    u.perform (recognize call source) =
      ((detect call u.copy).value.1,
        { u with copy := (detect call (chooseFormat u.copy call source).value).value.2 }) := by
  unfold recognize
  rw [← detect_chosen u.copy call source]
  simp only [perform_bind, perform_get, perform_lift, perform_setCopy, perform_ofExcept]

/-- The result of work depends on the options of the unpacker alone, and nothing but its copy of them
changes. -/
def Confined (work : StateT Unpacker Traced α) (result : Options → α) : Prop :=
  ∀ u : Unpacker, ∃ copy, (work.run u).value = (result u.options, { u with copy })

theorem confined_unpackSource (name source : String) :
    Confined (unpackSource name source).run
      fun o => (BundleLens.unpackSource o name source).outcome := by
  intro u
  change ∃ copy, u.perform (unpackSource name source) = _
  unfold unpackSource
  dsimp only
  rw [unpackSource_outcome, detectSource_outcome]
  simp only [perform_bind, perform_get, perform_setCopy, perform_step, perform_recognize]
  cases (locateCall name source).outcome with
  | error f => exact ⟨u.copy, rfl⟩
  | ok call =>
    refine ⟨(detect call (chooseFormat u.options call source).value).value.2, ?_⟩
    dsimp only [ok_bind]
    cases (detect call u.options).value.1 with
    | error f => rfl
    | ok found =>
      dsimp only
      cases hm : found.modules with
      | error fault =>
        rw [ok_bind, hm]
        rfl
      | ok modules =>
        rw [ok_bind, hm]
        rfl

private theorem confined_detectFormat (source : String) :
    Confined (detectFormat source).run fun o => (BundleLens.detectFormat o source).outcome := by
  intro u
  change ∃ copy, u.perform (detectFormat source) = _
  unfold detectFormat
  dsimp only
  rw [detectFormat_outcome, detectSource_outcome]
  simp only [perform_bind, perform_get, perform_setCopy, perform_step, perform_recognize]
  cases (locateCall "<input>" source).outcome with
  | error f => exact ⟨u.copy, rfl⟩
  | ok call =>
    refine ⟨(detect call (chooseFormat u.options call source).value).value.2, ?_⟩
    dsimp only [ok_bind]
    cases (detect call u.options).value.1 <;> rfl

/-- The format of a source is known without its report, and even if its modules cannot be listed.
Otherwise both fail alike, and neither touches the options of the unpacker. -/
theorem detected_format_agrees (u : Unpacker) (source : String) :
    (∀ report, (u.perform (unpackSource "<input>" source)).1 = .ok report →
      ∃ format, (u.perform (detectFormat source)).1 = .ok format ∧ report.format = some format) ∧
    (∀ fault, (u.perform (unpackSource "<input>" source)).1 = .error (.malformedTable fault) →
      ∃ format, (u.perform (detectFormat source)).1 = .ok format) ∧
    (∀ failure, (∀ fault, failure ≠ .malformedTable fault) →
      (u.perform (unpackSource "<input>" source)).1 = .error failure →
        (u.perform (detectFormat source)).1 = .error failure) ∧
    (∀ failure, (u.perform (detectFormat source)).1 = .error failure →
      (u.perform (unpackSource "<input>" source)).1 = .error failure) ∧
    (u.perform (unpackSource "<input>" source)).2.options = u.options ∧
    (u.perform (detectFormat source)).2.options = u.options := by
  obtain ⟨_, unpacked⟩ := confined_unpackSource "<input>" source u
  obtain ⟨_, detected⟩ := confined_detectFormat source u
  change u.perform (unpackSource "<input>" source) = _ at unpacked
  change u.perform (detectFormat source) = _ at detected
  rw [unpacked, detected]
  dsimp only
  rw [detectFormat_outcome, unpackSource_outcome]
  refine ⟨?_, ?_, ?_, ?_, rfl, rfl⟩
  · intro report h
    obtain ⟨found, hd, h⟩ := bind_eq_ok_iff.mp h
    rw [hd]
    cases hm : found.modules with
    | error fault =>
      rw [hm] at h
      cases h
    | ok modules =>
      rw [hm] at h
      cases h
      exact ⟨found.format, rfl, rfl⟩
  · intro fault h
    obtain h | ⟨found, hd, -⟩ := bind_eq_error_iff.mp h
    · exact absurd h detectSource_not_malformed
    · exact ⟨found.format, by rw [hd]; rfl⟩
  · intro failure other h
    obtain h | ⟨found, -, h⟩ := bind_eq_error_iff.mp h
    · rw [h]
      rfl
    · cases hm : found.modules with
      | error fault =>
        rw [hm] at h
        cases h
        exact absurd rfl (other fault)
      | ok modules =>
        rw [hm] at h
        cases h
  · intro failure h
    cases hd : (detectSource u.options "<input>" source).outcome with
    | error f =>
      rw [hd] at h
      cases h
      rfl
    | ok found =>
      rw [hd] at h
      cases h

/-- A chunk, a bundle whose modules cannot be listed, and a call that starts no bundle. -/
theorem detected_format_agrees_cases :
    (∃ report, ((new {}).perform (unpackSource "<input>" "webpackJsonp([0,{},0])")).1 = .ok report ∧
      ∃ format, ((new {}).perform (detectFormat "webpackJsonp([0,{},0])")).1 = .ok format ∧
        report.format = some format) ∧
    (∃ fault, ((new {}).perform (unpackSource "<input>" "(function(){return r(0)})([...a])")).1 =
        .error (.malformedTable fault) ∧
      ∃ format, ((new {}).perform (detectFormat "(function(){return r(0)})([...a])")).1 =
        .ok format) ∧
    ((new {}).perform (unpackSource "<input>" "f()")).1 = .error .notBootstrap ∧
      ((new {}).perform (detectFormat "f()")).1 = .error .notBootstrap := by
  obtain ⟨report, unpacked, -⟩ : ∃ report,
      ((new {}).perform (unpackSource "<input>" "webpackJsonp([0,{},0])")).1 = .ok report ∧
        report.errors = [] := exists_ok (by decide +kernel)
  have malformed :
      ((new {}).perform (unpackSource "<input>" "(function(){return r(0)})([...a])")).1 =
        .error (.malformedTable (.spreadElement 27)) := by decide +kernel
  have rejected : ((new {}).perform (unpackSource "<input>" "f()")).1 = .error .notBootstrap := by
    decide +kernel
  exact ⟨⟨report, unpacked, (detected_format_agrees _ _).1 report unpacked⟩,
    ⟨_, malformed, (detected_format_agrees _ _).2.1 _ malformed⟩,
    rejected, (detected_format_agrees _ _).2.2.1 _ nofun rejected⟩

private theorem confined_unpackFile (path : String) (content : Except FileFault ByteArray) :
    Confined (unpackFile path content) fun o => (BundleLens.unpackFile o path content).value := by
  intro u
  unfold unpackFile
  dsimp only
  rw [unpackFile_value]
  unfold fileOutcome readText
  cases content with
  | error fault => exact ⟨u.copy, rfl⟩
  | ok bytes =>
    cases h : String.fromUTF8? bytes with
    | none =>
      refine ⟨u.copy, ?_⟩
      dsimp only [mapError_ok, ok_bind]
      rw [h]
      rfl
    | some source =>
      obtain ⟨copy, unpacked⟩ := confined_unpackSource path source u
      refine ⟨copy, ?_⟩
      dsimp only [mapError_ok, ok_bind]
      rw [h, StateT.run_bind, Traced.value_bind]
      dsimp only
      rw [unpacked, Option.elim_some, ok_bind]
      dsimp only
      cases (BundleLens.unpackSource u.options path source).outcome <;> rfl

private theorem confined_step (input : String × String) :
    Confined (do
        let result ← (unpackSource input.1 input.2).run
        return (result, (← get).options))
      fun o => ((BundleLens.unpackSource o input.1 input.2).outcome, o) := by
  intro u
  obtain ⟨copy, unpacked⟩ := confined_unpackSource input.1 input.2 u
  refine ⟨copy, ?_⟩
  rw [StateT.run_bind, Traced.value_bind, unpacked]
  rfl

private theorem Confined.mapM {work : α → StateT Unpacker Traced β} {result : α → Options → β}
    (h : ∀ a, Confined (work a) (result a)) (inputs : List α) :
    Confined (inputs.mapM work) fun o => inputs.map fun a => result a o := by
  intro u
  induction inputs generalizing u with
  | nil => exact ⟨u.copy, rfl⟩
  | cons a inputs ih =>
    obtain ⟨first, ha⟩ := h a u
    obtain ⟨last, hr⟩ := ih { u with copy := first }
    refine ⟨last, ?_⟩
    rw [List.mapM_cons, StateT.run_bind, Traced.value_bind, ha]
    dsimp only
    rw [StateT.run_bind, Traced.value_bind, hr]
    rfl

/-- Inputs one after another do not interact: each has the result that it has alone, in any order,
and whatever one of them results in, the others have the same results without it. -/
structure Independent (results : List α → List β) (alone : α → β) : Prop where
  each : ∀ inputs, results inputs = inputs.map alone
  permuted : ∀ inputs others : List α, inputs.Perm others →
    (inputs.zip (results inputs)).Perm (others.zip (results others))
  apart : ∀ before input after,
    results (before ++ input :: after) = results before ++ alone input :: results after

private theorem Independent.of_each {results : List α → List β} {alone : α → β}
    (each : ∀ inputs, results inputs = inputs.map alone) : Independent results alone where
  each := each
  permuted inputs others same := by
    rw [each, each, ← List.map_prod_left_eq_zip, ← List.map_prod_left_eq_zip]
    exact same.map _
  apart before input after := by
    rw [each, each, each, List.map_append, List.map_cons]

def sourceResults (u : Unpacker) (inputs : List (String × String)) :
    List (Except Failure Report × Options) := ((unpackSources inputs).run u).value.1

def fileReports (u : Unpacker) (read : String → Except FileFault ByteArray) (paths : List String) :
    List Report := ((unpackFiles read paths).run u).value.1

private theorem fileReports_eq (u : Unpacker) (read : String → Except FileFault ByteArray)
    (paths : List String) :
    fileReports u read paths = (BundleLens.unpackFiles u.options read paths).value := by
  obtain ⟨_, all⟩ := Confined.mapM (fun path => confined_unpackFile path (read path)) paths u
  rw [unpackFiles_value]
  exact congrArg Prod.fst all

/-- What an unpacker finds out about an input is what a new one with the same options does, whatever
inputs it has worked on before, and its options are the same after each. So it is for sources and for
files, as long as the files do not change. -/
theorem inputs_do_not_interact (u : Unpacker) :
    (Independent (sourceResults u) (fun input =>
        (((new u.options).perform (unpackSource input.1 input.2)).1, u.options)) ∧
      ∀ inputs, ((unpackSources inputs).run u).value.2.options = u.options) ∧
    ∀ read : String → Except FileFault ByteArray,
      Independent (fileReports u read)
        (fun path => ((unpackFile path (read path)).run (new u.options)).value.1) ∧
      ∀ paths, ((unpackFiles read paths).run u).value.2.options = u.options := by
  refine ⟨⟨.of_each fun inputs => ?_, fun inputs => ?_⟩,
    fun read => ⟨.of_each fun paths => ?_, fun paths => ?_⟩⟩
  · obtain ⟨_, all⟩ := Confined.mapM confined_step inputs u
    refine (congrArg Prod.fst all).trans (List.map_congr_left fun input _ => ?_)
    obtain ⟨_, alone⟩ := confined_unpackSource input.1 input.2 (new u.options)
    rw [perform, alone]
    rfl
  · obtain ⟨_, all⟩ := Confined.mapM confined_step inputs u
    exact congrArg (fun after => after.2.options) all
  · rw [fileReports_eq, unpackFiles_value]
    refine List.map_congr_left fun path _ => ?_
    obtain ⟨_, alone⟩ := confined_unpackFile path (read path) (new u.options)
    rw [alone]
    rfl
  · obtain ⟨_, all⟩ := Confined.mapM (fun path => confined_unpackFile path (read path)) paths u
    exact congrArg (fun after => after.2.options) all

/-- A chunk that names its entry, a script that is broken off and a chunk that names no entry. The
first one leaves its entry in the copy of the options, and still the last has none. -/
theorem inputs_do_not_interact_mixed :
    ∃ named broken unnamed, named = ("a.js", "webpackJsonp([0,{},[['a']]])") ∧
      broken = ("b.js", "webpackJsonp([0,{}") ∧ unnamed = ("c.js", "webpackJsonp([0,{},0])") ∧
      ([named, broken, unnamed].zip (sourceResults (new {}) [named, broken, unnamed])).Perm
        ([broken, named, unnamed].zip (sourceResults (new {}) [broken, named, unnamed])) ∧
      (sourceResults (new {}) [named, broken, unnamed]).map
          (fun step => step.1.toOption.map Report.entry) = [some (some (.name "a")), none, some none] ∧
      ((unpackSources [named]).run (new {})).value.2 =
        ⟨{}, { format := some .chunk, entry := some (.name "a") }⟩ :=
  ⟨_, _, _, rfl, rfl, rfl, (inputs_do_not_interact (new {})).1.1.permuted _ _ (.swap _ _ _),
    by decide +kernel, by decide +kernel⟩

end Unpacker

end BundleLens
