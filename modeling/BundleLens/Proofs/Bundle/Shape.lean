import BundleLens.Proofs.Outcome

/-! Recognizing a bundle in two parts: what its call says alone, and what the options make of it. -/
namespace BundleLens.Bundle
open Script

structure Shape where
  table : Table
  named : Option ModuleId

namespace Shape

/-- The detection of a bundle with this shape. Only a classic bundle must have an entry. -/
def settle (format : BundleFormat) (o : Options) (s : Shape) : Except Failure Detection :=
  let found := Detection.withEntry format s.table o s.named
  if format = .classic ∧ found.entrySource = .unresolved then .error .noEntry else .ok found

variable {format : BundleFormat} {o : Options} {s : Shape} {found : Detection}

private theorem settle_ok (h : s.settle format o = .ok found) :
    found = Detection.withEntry format s.table o s.named := by
  unfold settle at h
  dsimp only at h
  split at h
  · cases h
  · exact (Except.ok.inj h).symm

/-- A shape is settled by the entry in the options, by the one that it names, or without any. -/
theorem settle_cases (h : s.settle format o = .ok found) :
    (∃ id, o.entry = some id ∧ found = ⟨format, some id, .override, s.table⟩) ∨
    (∃ id, o.entry = none ∧ s.named = some id ∧ found = ⟨format, some id, .resolved, s.table⟩) ∨
    o.entry = none ∧ s.named = none ∧ format = .chunk ∧
      found = ⟨format, none, .unresolved, s.table⟩ := by
  unfold settle Detection.withEntry at h
  cases he : o.entry with
  | some id =>
    simp only [he, reduceCtorEq, and_false, if_false, Except.ok.injEq] at h
    exact .inl ⟨id, rfl, h.symm⟩
  | none =>
    cases hn : s.named with
    | some id =>
      simp only [he, hn, reduceCtorEq, and_false, if_false, Except.ok.injEq] at h
      exact .inr (.inl ⟨id, rfl, rfl, h.symm⟩)
    | none =>
      cases format with
      | classic => simp [he, hn] at h
      | chunk =>
        simp only [he, hn, reduceCtorEq, false_and, if_false, Except.ok.injEq] at h
        exact .inr (.inr ⟨rfl, rfl, rfl, h.symm⟩)

theorem settle_error {f : Failure} (h : s.settle format o = .error f) : f = .noEntry := by
  unfold settle at h
  dsimp only at h
  split at h
  · exact (Except.error.inj h).symm
  · cases h

theorem settle_of_entry {id : ModuleId} (h : o.entry = some id) :
    s.settle format o = .ok ⟨format, some id, .override, s.table⟩ := by
  unfold settle Detection.withEntry
  simp [h]

end Shape

namespace Detection
variable (format : BundleFormat) (table : Table) (o : Options) (named : Option ModuleId)

@[simp] theorem withEntry_format : (withEntry format table o named).format = format := by
  unfold withEntry
  split <;> rfl

@[simp] theorem withEntry_table : (withEntry format table o named).table = table := by
  unfold withEntry
  split <;> rfl

@[simp] theorem withEntry_entry : (withEntry format table o named).entry = o.entry.or named := by
  unfold withEntry
  split <;> simp [*]

theorem modules_ok {d : Detection} {modules : List Module} (h : d.modules = .ok modules) :
    ∃ listed, d.table.modules = .ok listed ∧
      modules = listed.map fun m => { m with isEntry := d.entry = some m.id } := by
  obtain ⟨listed, hl, h⟩ := bind_eq_ok_iff.mp h
  exact ⟨listed, hl, (Except.ok.inj h).symm⟩

end Detection

namespace Classic

def shape (call : Call) : Except Failure Shape :=
  match call.callee.bare with
  | .function _ body =>
    match call.firstArgument?.bind Table.ofExpr? with
    | some table => .ok ⟨table, namedId? body⟩
    | none => .error .notBootstrap
  | .identifier .. => .error (.wrongFormat .chunk)
  | _ => .error .notBootstrap

theorem shape_ok {call : Call} {s : Shape} (h : shape call = .ok s) :
    ∃ span body, call.callee.bare = .function span body ∧
      call.firstArgument?.bind Table.ofExpr? = some s.table ∧ s.named = namedId? body := by
  unfold shape at h
  repeat' split at h
  all_goals cases h
  rename_i span body hc _ table ht
  exact ⟨span, body, hc, ht, rfl⟩

theorem detect_outcome (call : Call) (o : Options) :
    (detect call o).outcome = shape call >>= Shape.settle .classic o := by
  unfold detect bootstrapBody shape
  cases call.callee.bare with
  | function span body =>
    cases call.firstArgument?.bind Table.ofExpr? with
    | none => rfl
    | some table => simp [Shape.settle]
  | _ => rfl

end Classic

namespace Chunk

def slots? (call : Call) : Option (Element × Element) :=
  match call.arguments with
  | [.item e] =>
    match e.bare with
    | .array _ [_, table, entry] => some (table, entry)
    | _ => none
  | _ => none

def only? : Element → Option Element
  | .item (.array _ [element]) => some element
  | _ => none

/-- The literal of an entry slot: the only element of an array that is alone in an array. -/
def entryLiteral? (entry : Element) : Option Element := (only? entry).bind only?

private theorem only?_eq_some {element inner : Element} (h : only? element = some inner) :
    ∃ span, element = .item (.array span [inner]) := by
  unfold only? at h
  split at h
  · rename_i span _
    cases h
    exact ⟨span, rfl⟩
  · cases h

theorem namedId?_eq (entry : Element) :
    namedId? entry = (entryLiteral? entry).bind idOfLiteral? := by
  unfold namedId?
  split
  · rfl
  · rename_i other
    cases hl : entryLiteral? entry with
    | none => rfl
    | some literal =>
      obtain ⟨inner, hi, hl⟩ := Option.bind_eq_some_iff.mp hl
      obtain ⟨span, rfl⟩ := only?_eq_some hi
      obtain ⟨span, rfl⟩ := only?_eq_some hl
      exact (other _ _ _ rfl).elim

def shape (loader : String) (call : Call) : Except Failure Shape :=
  if isFunction call.callee then .error (.wrongFormat .classic)
  else if isLoaderCallee loader call.callee.bare then
    match slots? call with
    | some (tableSlot, entrySlot) =>
      match tableSlot.expr?.bind Table.ofExpr? with
      | some table => .ok ⟨table, namedId? entrySlot⟩
      | none => .error .notBootstrap
    | none => .error .notBootstrap
  else .error .notBootstrap

theorem shape_ok {loader : String} {call : Call} {s : Shape} (h : shape loader call = .ok s) :
    isFunction call.callee = false ∧ isLoaderCallee loader call.callee.bare = true ∧
      ∃ tableSlot entrySlot, slots? call = some (tableSlot, entrySlot) ∧
        tableSlot.expr?.bind Table.ofExpr? = some s.table ∧ s.named = namedId? entrySlot := by
  unfold shape at h
  repeat' split at h
  all_goals cases h
  rename_i hf hl _ tableSlot entrySlot hs _ table ht
  exact ⟨Bool.eq_false_iff.mpr hf, hl, tableSlot, entrySlot, hs, ht, rfl⟩

theorem slots_outcome (loader : String) (call : Call) :
    (slots loader call).outcome =
      if isFunction call.callee then .error (.wrongFormat .classic)
      else if isLoaderCallee loader call.callee.bare then
        (slots? call).elim (.error .notBootstrap) .ok
      else .error .notBootstrap := by
  unfold slots slots?
  by_cases hf : isFunction call.callee = true
  · simp [hf]
  by_cases hl : isLoaderCallee loader call.callee.bare = true
  · simp only [hf, hl, if_true, Bool.false_eq_true, if_false]
    rcases call.arguments with _ | ⟨_ | e, _ | ⟨_, _⟩⟩
    case cons.item.nil =>
      dsimp only
      cases e.bare with
      | array span elements =>
        rcases elements with _ | ⟨_, _ | ⟨_, _ | ⟨_, _ | ⟨_, _⟩⟩⟩⟩ <;> rfl
      | _ => rfl
    all_goals rfl
  · simp [hf, hl]

theorem detect_outcome (call : Call) (o : Options) :
    (detect call o).outcome = shape o.chunkGlobal call >>= Shape.settle .chunk o := by
  unfold detect shape
  simp only [Detecting.outcome_bind, slots_outcome]
  split
  · rfl
  split
  · rcases slots? call with _ | ⟨tableSlot, entrySlot⟩
    · rfl
    · cases h : tableSlot.expr?.bind Table.ofExpr? with
      | none => simp [h]
      | some table => simp [h, Shape.settle]
  · rfl

end Chunk

def shapeAs (format : BundleFormat) (loader : String) (call : Call) : Except Failure Shape :=
  match format with
  | .classic => Classic.shape call
  | .chunk => Chunk.shape loader call

/-- A call without the shape is no bundle at all, or looks like one of the other format. -/
theorem shapeAs_error {format : BundleFormat} {loader : String} {call : Call} {failure : Failure}
    (h : shapeAs format loader call = .error failure) :
    failure = .notBootstrap ∨ failure = .wrongFormat format.other := by
  cases format with
  | classic =>
    unfold shapeAs Classic.shape at h
    dsimp only at h
    repeat' split at h
    all_goals cases h <;> simp [BundleFormat.other]
  | chunk =>
    unfold shapeAs Chunk.shape at h
    dsimp only at h
    repeat' split at h
    all_goals cases h <;> simp [BundleFormat.other]

/-- Detection reads two of the options: the name of the loader for the shape, the entry after it. -/
theorem detectAs_outcome (format : BundleFormat) (call : Call) (o : Options) :
    (detectAs format call o).outcome =
      shapeAs format o.chunkGlobal call >>= Shape.settle format o := by
  cases format with
  | classic => exact Classic.detect_outcome call o
  | chunk => exact Chunk.detect_outcome call o

theorem detectAs_ok {format : BundleFormat} {call : Call} {o : Options} {found : Detection}
    (h : (detectAs format call o).outcome = .ok found) :
    ∃ s, shapeAs format o.chunkGlobal call = .ok s ∧
      found = Detection.withEntry format s.table o s.named := by
  rw [detectAs_outcome, bind_eq_ok_iff] at h
  obtain ⟨s, hs, h⟩ := h
  exact ⟨s, hs, Shape.settle_ok h⟩

/-- The options after a detection. Only an entry that the bundle names is kept. -/
def remember (o : Options) : Except Failure Detection → Options
  | .ok found => if found.entrySource = .resolved then { o with entry := found.entry } else o
  | .error _ => o

/-- The format in the options is not read once a format is chosen. -/
theorem detectAs_ignores_format (format : BundleFormat) (call : Call) (o : Options)
    (other : Option BundleFormat) :
    (detectAs format call { o with format := other }).outcome =
      (detectAs format call o).outcome := by
  rw [detectAs_outcome, detectAs_outcome]
  rfl

private theorem detect_value (call : Call) (o : Options) :
    (detect call o).value =
      ((detectAs (o.format.getD call.inferredFormat) call o).outcome,
        remember o (detectAs (o.format.getD call.inferredFormat) call o).outcome) := by
  unfold detect Detecting.outcome
  simp only [Traced.value_bind]
  cases (detectAs (o.format.getD call.inferredFormat) call o).run.value with
  | error failure => rfl
  | ok found =>
    by_cases h : found.entrySource = .resolved
    · simp [remember, h]
    · simp [remember, h]

/-- Detection takes the format in the options, or else the one that the call suggests. -/
theorem detect_result (call : Call) (o : Options) :
    (detect call o).value.1 = (detectAs (o.format.getD call.inferredFormat) call o).outcome := by
  rw [detect_value]

theorem detect_settle (call : Call) (o : Options) :
    (detect call o).value.1 =
      shapeAs (o.format.getD call.inferredFormat) o.chunkGlobal call >>=
        Shape.settle (o.format.getD call.inferredFormat) o := by
  rw [detect_result, detectAs_outcome]

theorem detect_options (call : Call) (o : Options) :
    (detect call o).value.2 = remember o (detect call o).value.1 := by
  rw [detect_value]

end BundleLens.Bundle
