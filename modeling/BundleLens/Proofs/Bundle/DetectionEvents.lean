import BundleLens.Proofs.Bundle.EntryCache

/-! What is recorded of a detection. Its events say what it results in and what becomes of the
options. -/
namespace BundleLens
open BundleLens.Bundle

namespace Traced
variable {α β : Type}

@[simp] theorem events_bind (x : Traced α) (f : α → Traced β) :
    (x >>= f).events = x.events ++ (f x.value).events := rfl

end Traced

namespace Bundle.Detecting
variable {α β : Type}

def recorded (x : Detecting α) : List Event := x.run.events

/-- What is recorded from a result on. After a failure it is nothing. -/
def onwards (next : α → List Event) : Except Failure α → List Event
  | .ok a => next a
  | .error _ => []

@[simp] theorem onwards_ok (next : α → List Event) (a : α) : onwards next (.ok a) = next a := rfl

@[simp] theorem onwards_error (next : α → List Event) (f : Failure) : onwards next (.error f) = [] := rfl

@[simp] theorem recorded_pure (a : α) : recorded (pure a) = [] := rfl

@[simp] theorem recorded_throw (f : Failure) : recorded (throw f : Detecting α) = [] := rfl

@[simp] theorem recorded_record (e : Event) : recorded (record e) = [e] := rfl

@[simp] theorem recorded_lift (x : Traced α) : recorded (ExceptT.lift x) = x.events := by
  unfold recorded
  rw [ExceptT.run_lift]
  exact List.append_nil _

@[simp] theorem recorded_require (value : Option α) (f : Failure) :
    recorded (require value f) = [] := by
  cases value <;> rfl

@[simp] theorem recorded_bind (x : Detecting α) (f : α → Detecting β) :
    recorded (x >>= f) = recorded x ++ onwards (fun a => recorded (f a)) (outcome x) := by
  unfold recorded outcome
  rw [ExceptT.run_bind, Traced.events_bind]
  cases x.run.value <;> rfl

@[simp] theorem recorded_map (f : α → β) (x : Detecting α) : recorded (f <$> x) = recorded x := by
  rw [← bind_pure_comp, recorded_bind]
  cases outcome x <;> exact List.append_nil _

@[simp] theorem recorded_ite (c : Prop) [Decidable c] (x y : Detecting α) :
    recorded (if c then x else y) = if c then recorded x else recorded y := apply_ite _ c x y

end Bundle.Detecting

namespace Bundle
open Detecting
variable {call : Call} {o : Options} {e : Event}

def tableEvent : BundleFormat → Nat → Event
  | .classic => .classicTable
  | .chunk => .chunkTable

def entryEvents (call : Call) (found : Detection) : List Event :=
  match found.format with
  | .classic => [.classicEntry found.entry]
  | .chunk => if found.entrySource = .unresolved then [.chunkWithoutEntry call.span] else []

def detectionEvents (format : BundleFormat) (call : Call) (o : Options) : List Event :=
  onwards (fun s => tableEvent format s.table.size ::
    onwards (entryEvents call) (s.settle format o)) (shapeAs format o.chunkGlobal call)

private theorem entryEvents_classic (call : Call) {found : Detection}
    (h : found.format = .classic) :
    entryEvents call found = [.classicEntry found.entry] := by
  unfold entryEvents
  rw [h]

private theorem entryEvents_chunk (call : Call) {found : Detection} (h : found.format = .chunk) :
    entryEvents call found =
      if found.entrySource = .unresolved then [.chunkWithoutEntry call.span] else [] := by
  unfold entryEvents
  rw [h]

private theorem Classic.detect_recorded (call : Call) (o : Options) :
    (detect call o).recorded = detectionEvents .classic call o := by
  unfold detectionEvents shapeAs detect bootstrapBody shape
  cases call.callee.bare with
  | function span body =>
    cases call.firstArgument?.bind Table.ofExpr? with
    | none => rfl
    | some table =>
      have entry := entryEvents_classic call
        (Detection.withEntry_format .classic table o (namedId? body))
      by_cases h : (Detection.withEntry .classic table o (namedId? body)).entrySource = .unresolved
      · simp [Shape.settle, tableEvent, h]
      · simp [Shape.settle, tableEvent, h, entry]
  | _ => rfl

private theorem Chunk.slots_recorded (loader : String) (call : Call) :
    (slots loader call).recorded = [] := by
  unfold slots
  simp only [recorded_bind, recorded_ite, recorded_throw, List.nil_append]
  repeat' split
  all_goals rfl

private theorem Chunk.detect_recorded (call : Call) (o : Options) :
    (detect call o).recorded = detectionEvents .chunk call o := by
  unfold detectionEvents shapeAs detect shape
  simp only [recorded_bind, slots_recorded, slots_outcome, List.nil_append]
  split
  · rfl
  split
  · rcases slots? call with _ | ⟨tableSlot, entrySlot⟩
    · rfl
    · cases h : tableSlot.expr?.bind Table.ofExpr? with
      | none => simp [h]
      | some table =>
        have entry := entryEvents_chunk call
          (Detection.withEntry_format .chunk table o (namedId? entrySlot))
        simp [h, Shape.settle, entry, tableEvent]
  · rfl

private theorem detectAs_recorded (format : BundleFormat) (call : Call) (o : Options) :
    (detectAs format call o).recorded = detectionEvents format call o := by
  cases format with
  | classic => exact Classic.detect_recorded call o
  | chunk => exact Chunk.detect_recorded call o

def memoryEvents (found : Detection) : List Event :=
  if found.entrySource = .resolved then [.entryRemembered found.entry] else []

/-- The events of a detection: the table of a call that has the shape of a bundle, and if the bundle is
detected, its entry. -/
theorem detect_events (call : Call) (o : Options) :
    ∃ tables, (∀ e ∈ tables, ∃ format size, e = tableEvent format size) ∧
      (detect call o).events = tables ++
        onwards (fun found => entryEvents call found ++ memoryEvents found) (detect call o).value.1 := by
  have events : (detect call o).events =
      (detectAs (o.format.getD call.inferredFormat) call o).recorded ++
        onwards memoryEvents (detectAs (o.format.getD call.inferredFormat) call o).outcome := by
    unfold detect recorded outcome
    rw [Traced.events_bind]
    cases (detectAs (o.format.getD call.inferredFormat) call o).run.value with
    | error failure => rfl
    | ok found =>
      unfold memoryEvents
      dsimp only [onwards_ok]
      split <;> rfl
  rw [events, detect_result, detectAs_recorded, detectAs_outcome]
  generalize o.format.getD call.inferredFormat = format
  unfold detectionEvents
  cases shapeAs format o.chunkGlobal call with
  | error failure => exact ⟨[], nofun, rfl⟩
  | ok s =>
    refine ⟨[tableEvent format s.table.size], fun e listed => ?_, ?_⟩
    · exact ⟨format, s.table.size, List.mem_singleton.mp listed⟩
    · rw [ok_bind, onwards_ok]
      cases s.settle format o <;> rfl

def isTableEvent : Event → Bool
  | .classicTable _ | .chunkTable _ => true
  | _ => false

private theorem isTableEvent_tableEvent (format : BundleFormat) (size : Nat) :
    isTableEvent (tableEvent format size) = true := by
  cases format <;> rfl

/-- Events that do not tell the size of a table are recorded of bundles that are detected, about the
entry. -/
theorem mem_detect_events (other : isTableEvent e = false) :
    e ∈ (detect call o).events ↔
      ∃ found, (detect call o).value.1 = .ok found ∧
        (e ∈ entryEvents call found ∨ e ∈ memoryEvents found) := by
  obtain ⟨tables, sizes, events⟩ := detect_events call o
  have absent : e ∉ tables := by
    intro listed
    obtain ⟨format, size, rfl⟩ := sizes e listed
    rw [isTableEvent_tableEvent] at other
    cases other
  rw [events, List.mem_append, or_iff_right absent]
  cases (detect call o).value.1 with
  | error failure => simp
  | ok found => simp

private theorem mem_memoryEvents {found : Detection} :
    e ∈ memoryEvents found ↔ found.entrySource = .resolved ∧ e = .entryRemembered found.entry := by
  unfold memoryEvents
  split <;> simp [*]

private theorem mem_entryEvents {found : Detection} :
    e ∈ entryEvents call found ↔
      found.format = .classic ∧ e = .classicEntry found.entry ∨
      found.format = .chunk ∧ found.entrySource = .unresolved ∧ e = .chunkWithoutEntry call.span := by
  cases h : found.format with
  | classic =>
    rw [entryEvents_classic call h]
    simp
  | chunk =>
    rw [entryEvents_chunk call h]
    split <;> simp [*]

private theorem entryRemembered_mem_iff {id : Option ModuleId} :
    .entryRemembered id ∈ (detect call o).events ↔
      (detect call o).value.2.entry ≠ o.entry ∧ id = (detect call o).value.2.entry := by
  rw [mem_detect_events rfl, detect_options]
  cases h : (detect call o).value.1 with
  | error failure => simp [remember]
  | ok found =>
    by_cases resolved : found.entrySource = .resolved
    · obtain ⟨unset, named, entry⟩ := Step.of_resolved h resolved
      simp [remember, mem_entryEvents, mem_memoryEvents, resolved, unset, entry]
    · simp [remember, mem_entryEvents, mem_memoryEvents, resolved]

private theorem chunkWithoutEntry_mem_iff {span : Script.Span} :
    .chunkWithoutEntry span ∈ (detect call o).events ↔
      span = call.span ∧
        ∃ found, (detect call o).value.1 = .ok found ∧ found.entrySource = .unresolved := by
  rw [mem_detect_events rfl]
  constructor
  · rintro ⟨found, detected, listed⟩
    simp only [mem_entryEvents, mem_memoryEvents, reduceCtorEq, and_false, false_or, or_false,
      Event.chunkWithoutEntry.injEq] at listed
    exact ⟨listed.2.2, found, detected, listed.2.1⟩
  · rintro ⟨rfl, found, detected, unresolved⟩
    have chunk := (detect_consistent detected).chunk_of_unresolved unresolved
    exact ⟨found, detected, .inl (mem_entryEvents.mpr (.inr ⟨chunk, unresolved, rfl⟩))⟩

private theorem classicEntry_mem_iff {id : Option ModuleId} :
    .classicEntry id ∈ (detect call o).events ↔
      ∃ found, (detect call o).value.1 = .ok found ∧ found.format = .classic ∧ id = found.entry := by
  rw [mem_detect_events rfl]
  refine exists_congr fun found => and_congr_right fun _ => ?_
  simp [mem_entryEvents, mem_memoryEvents]

inductive Subject where
  | classicTable | classicEntry | chunkTable | missingEntry | memory

def Subject.words : Subject → String
  | .classicTable => "Classic webpack table with"
  | .classicEntry => "Classic webpack entry id"
  | .chunkTable => "Jsonp chunk table with"
  | .missingEntry => "No entry id in jsonp chunk at"
  | .memory => "Caching resolved entry id"

def subject? : Event → Option Subject
  | .classicTable _ => some .classicTable
  | .classicEntry _ => some .classicEntry
  | .chunkTable _ => some .chunkTable
  | .chunkWithoutEntry _ => some .missingEntry
  | .entryRemembered _ => some .memory
  | _ => none

def Says (e : Event) (words : String) : Prop := words.toList <+: e.message.toList

private theorem says_of_subject {s : Subject} (h : subject? e = some s) : Says e s.words := by
  unfold Says Event.message
  cases e with
  | classicTable | classicEntry | chunkTable | chunkWithoutEntry | entryRemembered =>
    cases h
    simp only [toString, String.toList_append, List.append_assoc]
    refine List.IsPrefix.trans ?_ (List.prefix_append _ _)
    decide
  | _ => cases h

/-- No words of one subject are at the front of those of another. -/
private theorem words_apart {s t : Subject} (h : s.words.toList <+: t.words.toList) : s = t := by
  cases s <;> cases t
  all_goals first
    | rfl
    | exact absurd h (by decide)

private theorem says_words_iff {s t : Subject} (h : subject? e = some s) :
    Says e t.words ↔ s = t := by
  constructor
  · intro said
    obtain front | front := List.prefix_or_prefix_of_prefix (says_of_subject h) said
    · exact words_apart front
    · exact (words_apart front).symm
  · rintro rfl
    exact says_of_subject h

theorem subject_of_mem (listed : e ∈ (detect call o).events) : ∃ s, subject? e = some s := by
  cases h : isTableEvent e with
  | true =>
    cases e with
    | classicTable | chunkTable => exact ⟨_, rfl⟩
    | _ => cases h
  | false =>
    obtain ⟨found, -, entry | memory⟩ := (mem_detect_events h).mp listed
    · obtain ⟨-, rfl⟩ | ⟨-, -, rfl⟩ := mem_entryEvents.mp entry
      · exact ⟨_, rfl⟩
      · exact ⟨_, rfl⟩
    · obtain ⟨-, rfl⟩ := mem_memoryEvents.mp memory
      exact ⟨_, rfl⟩

/-- The events of a detection tell the truth. An entry is remembered exactly if it is new in the
options, a chunk is said to lack an entry exactly if it is detected without one, and the entry of a
classic bundle is told exactly if one is detected. Each kind of event is known by its words. -/
structure DetectionTold (call : Call) (o : Options) : Prop where
  remembered_iff : ∀ id, .entryRemembered id ∈ (detect call o).events ↔
    (detect call o).value.2.entry ≠ o.entry ∧ id = (detect call o).value.2.entry
  missing_iff : ∀ span, .chunkWithoutEntry span ∈ (detect call o).events ↔
    span = call.span ∧ ∃ found, (detect call o).value.1 = .ok found ∧ found.entrySource = .unresolved
  classic_iff : ∀ id, .classicEntry id ∈ (detect call o).events ↔
    ∃ found, (detect call o).value.1 = .ok found ∧ found.format = .classic ∧ id = found.entry
  says_remembered_iff : ∀ e ∈ (detect call o).events,
    (Says e "Caching resolved entry id" ↔ ∃ id, e = .entryRemembered id)
  says_missing_iff : ∀ e ∈ (detect call o).events,
    (Says e "No entry id in jsonp chunk at" ↔ ∃ span, e = .chunkWithoutEntry span)
  says_classic_iff : ∀ e ∈ (detect call o).events,
    (Says e "Classic webpack entry id" ↔ ∃ id, e = .classicEntry id)

theorem detectionTold (call : Call) (o : Options) : DetectionTold call o where
  remembered_iff _ := entryRemembered_mem_iff
  missing_iff _ := chunkWithoutEntry_mem_iff
  classic_iff _ := classicEntry_mem_iff
  says_remembered_iff e listed := by
    obtain ⟨s, hs⟩ := subject_of_mem listed
    refine (says_words_iff (t := .memory) hs).trans ?_
    cases e <;> cases hs <;> simp
  says_missing_iff e listed := by
    obtain ⟨s, hs⟩ := subject_of_mem listed
    refine (says_words_iff (t := .missingEntry) hs).trans ?_
    cases e <;> cases hs <;> simp
  says_classic_iff e listed := by
    obtain ⟨s, hs⟩ := subject_of_mem listed
    refine (says_words_iff (t := .classicEntry) hs).trans ?_
    cases e <;> cases hs <;> simp

end Bundle

end BundleLens
