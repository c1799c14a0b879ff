import BundleLens.Proofs.Bundle.Form

/-! The calls that are chunks, as a grammar, and that detection accepts these and no others. -/
namespace BundleLens.Bundle.Chunk
open Script

inductive GlobalObject : Expr → Prop
  | window (span : Span) : GlobalObject (.identifier span "window")
  | self (span : Span) : GlobalObject (.identifier span "self")
  | global (span : Span) : GlobalObject (.identifier span "global")
  | globalThis (span : Span) : GlobalObject (.identifier span "globalThis")
  | this (span : Span) : GlobalObject (.this span)

/-- The place of a loader: a property of the global object, by its name or by a string. -/
inductive Slot (loader : String) : Expr → Prop
  | member (span : Span) {object : Expr} :
      Enclosed GlobalObject object → Slot loader (.member span object loader)
  | index (span : Span) {object key : Expr} :
      Enclosed GlobalObject object → Enclosed (StringOf loader) key →
        Slot loader (.index span object key)

inductive Fallback (loader : String) : Expr → Prop
  | or (span : Span) {left : Expr} (right : Expr) :
      Enclosed (Slot loader) left → Fallback loader (.logical span .or left right)

/-- The plain assignment that keeps a loader or makes one. A target has no parentheses around it. -/
inductive LoaderInit (loader : String) : Expr → Prop
  | assign (span : Span) {target value : Expr} :
      Slot loader target → Enclosed (Fallback loader) value →
        LoaderInit loader (.assign span .plain target value)

inductive LoaderCallee (loader : String) : Expr → Prop
  | identifier (span : Span) : LoaderCallee loader (.identifier span loader)
  | member (span : Span) {object : Expr} :
      Enclosed (LoaderInit loader) object → LoaderCallee loader (.member span object "push")
  | index (span : Span) {object key : Expr} :
      Enclosed (LoaderInit loader) object → Enclosed (StringOf "push") key →
        LoaderCallee loader (.index span object key)

inductive SlotsOf (table entry : Element) : Expr → Prop
  | array (span : Span) (ids : Element) : SlotsOf table entry (.array span [ids, table, entry])

structure IsChunk (loader : String) (call : Call) (table : Table) (entry : Element) : Prop where
  callee : Enclosed (LoaderCallee loader) call.callee
  slots : ∃ argument slot, call.arguments = [.item argument] ∧
    Enclosed (SlotsOf (.item slot) entry) argument ∧ Enclosed (TableOf table) slot

/-- The id of a literal: of a number that is one, of a string, or of a template that has no
substitutions and hence one chunk, unless an escape in it has no meaning. -/
inductive LiteralOf : ModuleId → Element → Prop
  | number (span : Span) {value : Number.Binary64} {id : ModuleId} :
      ModuleId.ofNumber? value = some id → LiteralOf id (.item (.number span value))
  | string (span : Span) (text : String) : LiteralOf (.name text) (.item (.string span text))
  | template (span : Span) (text : String) (chunks : List (Option String)) :
      LiteralOf (.name text) (.item (.template span (some text :: chunks) []))

/-- An entry slot that names an id: an array of one array of one literal. -/
inductive EntryOf (id : ModuleId) : Element → Prop
  | nested (outer inner : Span) {literal : Element} :
      LiteralOf id literal → EntryOf id (.item (.array outer [.item (.array inner [literal])]))

variable {loader : String} {e : Expr} {call : Call}

private theorem isGlobal_iff : isGlobal e = true ↔ Enclosed GlobalObject e := by
  rw [Enclosed.iff_bare nofun]
  unfold isGlobal globalNames
  constructor
  · intro h
    split at h
    · rename_i span name hb
      simp only [List.contains_eq_mem, List.mem_cons, List.not_mem_nil, or_false,
        decide_eq_true_eq] at h
      rw [hb]
      obtain rfl | rfl | rfl | rfl := h
      · exact .window span
      · exact .self span
      · exact .global span
      · exact .globalThis span
    · rename_i span hb
      exact hb ▸ .this span
    · cases h
  · intro h
    generalize e.bare = bare at h
    cases h <;> rfl

private theorem isString_iff {text : String} :
    isString text e = true ↔ Enclosed (StringOf text) e := by
  rw [Enclosed.iff_bare nofun]
  unfold isString
  constructor
  · intro h
    split at h
    · rename_i span other hb
      obtain rfl := eq_of_beq h
      exact hb ▸ .string span
    · cases h
  · intro h
    generalize e.bare = bare at h
    cases h
    exact beq_self_eq_true text

private theorem isBareSlot_iff : isBareSlot loader e = true ↔ Slot loader e := by
  unfold isBareSlot
  constructor
  · intro h
    split at h
    · rename_i span object name
      obtain ⟨named, global⟩ := Bool.and_eq_true_iff.mp h
      obtain rfl := eq_of_beq named
      exact .member span (isGlobal_iff.mp global)
    · rename_i span object key
      obtain ⟨named, global⟩ := Bool.and_eq_true_iff.mp h
      exact .index span (isGlobal_iff.mp global) (isString_iff.mp named)
    · cases h
  · rintro (⟨span, global⟩ | ⟨span, global, named⟩)
    · exact Bool.and_eq_true_iff.mpr ⟨beq_self_eq_true loader, isGlobal_iff.mpr global⟩
    · exact Bool.and_eq_true_iff.mpr ⟨isString_iff.mpr named, isGlobal_iff.mpr global⟩

private theorem slot_bare_iff : isBareSlot loader e.bare = true ↔ Enclosed (Slot loader) e := by
  rw [Enclosed.iff_bare nofun, isBareSlot_iff]

private theorem isLoaderInit_iff :
    isLoaderInit loader e = true ↔ Enclosed (LoaderInit loader) e := by
  rw [Enclosed.iff_bare nofun]
  unfold isLoaderInit
  constructor
  · intro h
    split at h
    · rename_i span target value hb
      rw [hb]
      split at h
      · rename_i inner op left right hv
        simp only [Bool.and_eq_true, decide_eq_true_eq] at h
        obtain ⟨⟨kept, rfl⟩, read⟩ := h
        refine .assign span (isBareSlot_iff.mp kept) ?_
        rw [Enclosed.iff_bare nofun, hv]
        exact .or inner right (slot_bare_iff.mp read)
      · cases h
    · cases h
  · intro h
    generalize e.bare = bare at h
    obtain ⟨span, kept, value⟩ := h
    rw [Enclosed.iff_bare nofun] at value
    rename_i target value'
    dsimp only
    generalize value'.bare = fallback at value
    obtain ⟨inner, right, read⟩ := value
    rw [isBareSlot_iff.mpr kept]
    exact slot_bare_iff.mpr read

private theorem isLoaderCallee_iff :
    isLoaderCallee loader e.bare = true ↔ Enclosed (LoaderCallee loader) e := by
  rw [Enclosed.iff_bare nofun]
  generalize e.bare = bare
  unfold isLoaderCallee
  constructor
  · intro h
    split at h
    · rename_i span name
      obtain rfl := eq_of_beq h
      exact .identifier span
    · rename_i span object name
      obtain ⟨method, init⟩ := Bool.and_eq_true_iff.mp h
      obtain rfl := eq_of_beq method
      exact .member span (isLoaderInit_iff.mp init)
    · rename_i span object key
      obtain ⟨method, init⟩ := Bool.and_eq_true_iff.mp h
      exact .index span (isLoaderInit_iff.mp init) (isString_iff.mp method)
    · cases h
  · rintro (⟨span⟩ | ⟨span, init⟩ | ⟨span, init, method⟩)
    · exact beq_self_eq_true loader
    · exact Bool.and_eq_true_iff.mpr ⟨rfl, isLoaderInit_iff.mpr init⟩
    · exact Bool.and_eq_true_iff.mpr ⟨isString_iff.mpr method, isLoaderInit_iff.mpr init⟩

private theorem slots?_eq_some_iff {table entry : Element} :
    slots? call = some (table, entry) ↔
      ∃ argument, call.arguments = [.item argument] ∧ Enclosed (SlotsOf table entry) argument := by
  unfold slots?
  constructor
  · intro h
    split at h
    · rename_i argument passed
      refine ⟨argument, passed, ?_⟩
      rw [Enclosed.iff_bare nofun]
      split at h
      · rename_i span ids table' entry' hb
        cases h
        exact hb ▸ .array span ids
      · cases h
    · cases h
  · rintro ⟨argument, passed, slots⟩
    rw [Enclosed.iff_bare nofun] at slots
    rw [passed]
    dsimp only
    generalize argument.bare = bare at slots
    cases slots
    rfl

private theorem idOfLiteral?_eq_some_iff {literal : Element} {id : ModuleId} :
    idOfLiteral? literal = some id ↔ LiteralOf id literal := by
  unfold idOfLiteral?
  constructor
  · intro h
    split at h
    · exact .number _ h
    · cases h
      exact .string _ _
    · cases h
      exact .template _ _ _
    · cases h
  · rintro (⟨span, h⟩ | ⟨span, text⟩ | ⟨span, text, chunks⟩)
    · exact h
    · rfl
    · rfl

private theorem namedId?_eq_some_iff {entry : Element} {id : ModuleId} :
    namedId? entry = some id ↔ EntryOf id entry := by
  unfold namedId?
  constructor
  · intro h
    split at h
    · exact .nested _ _ (idOfLiteral?_eq_some_iff.mp h)
    · cases h
  · rintro ⟨outer, inner, literal⟩
    exact idOfLiteral?_eq_some_iff.mpr literal

/-- No function is a loader. -/
private theorem not_function_of_callee (h : Enclosed (LoaderCallee loader) e) :
    isFunction e = false := by
  rw [Enclosed.iff_bare nofun] at h
  unfold isFunction
  generalize e.bare = bare at h
  cases h <;> rfl

private theorem isChunk_iff {table : Table} {entry : Element} :
    IsChunk loader call table entry ↔ isLoaderCallee loader call.callee.bare = true ∧
      ∃ slot, slots? call = some (.item slot, entry) ∧ Table.ofExpr? slot = some table := by
  simp only [slots?_eq_some_iff, Table.ofExpr?_eq_some_iff, isLoaderCallee_iff]
  constructor
  · rintro ⟨callee, argument, slot, passed, slots, literal⟩
    exact ⟨callee, slot, ⟨argument, passed, slots⟩, literal⟩
  · rintro ⟨callee, slot, ⟨argument, passed, slots⟩, literal⟩
    exact ⟨callee, argument, slot, passed, slots, literal⟩

theorem shape_ok_iff {s : Shape} : shape loader call = .ok s ↔
    ∃ entry, IsChunk loader call s.table entry ∧ s.named = namedId? entry := by
  simp only [isChunk_iff]
  constructor
  · intro h
    obtain ⟨-, callee, tableSlot, entry, slots, table, named⟩ := shape_ok h
    obtain ⟨slot, hs, literal⟩ := Option.bind_eq_some_iff.mp table
    cases tableSlot with
    | item e =>
      cases hs
      exact ⟨entry, ⟨callee, slot, slots, literal⟩, named⟩
    | _ => cases hs
  · rintro ⟨entry, ⟨callee, slot, slots, literal⟩, named⟩
    unfold shape
    rw [not_function_of_callee (isLoaderCallee_iff.mp callee), callee, slots]
    simp [Element.expr?, literal, ← named]

private theorem shape_error_iff {failure : Failure} : shape loader call = .error failure ↔
    (failure = .wrongFormat .classic ∧ isFunction call.callee = true) ∨
      (failure = .notBootstrap ∧ isFunction call.callee = false ∧
        ∀ table entry, ¬ IsChunk loader call table entry) := by
  have accepted : (∃ s, shape loader call = .ok s) ↔
      ∃ table entry, IsChunk loader call table entry := by
    simp only [shape_ok_iff]
    constructor
    · rintro ⟨s, entry, chunk, -⟩
      exact ⟨s.table, entry, chunk⟩
    · rintro ⟨table, entry, chunk⟩
      exact ⟨⟨table, namedId? entry⟩, entry, chunk, rfl⟩
  simp only [← not_exists, ← accepted]
  unfold shape
  cases isFunction call.callee with
  | true => simp [eq_comm]
  | false =>
    cases isLoaderCallee loader call.callee.bare with
    | false => simp [eq_comm]
    | true =>
      rcases slots? call with _ | ⟨tableSlot, entry⟩
      · simp [eq_comm]
      · cases h : tableSlot.expr?.bind Table.ofExpr? <;> simp [h, eq_comm]

variable {o : Options} {found : Detection} {failure : Failure}

theorem detect_ok_iff : (detect call o).outcome = .ok found ↔ found.format = .chunk ∧
    ∃ entry, IsChunk o.chunkGlobal call found.table entry ∧
      EntryChoice o.entry (EntryOf · entry) found.entry found.entrySource := by
  rw [detect_outcome, bind_eq_ok_iff]
  constructor
  · rintro ⟨s, hs, settled⟩
    obtain ⟨entry, chunk, named⟩ := shape_ok_iff.mp hs
    have agree (id : ModuleId) : s.named = some id ↔ EntryOf id entry := by
      rw [named, namedId?_eq_some_iff]
    obtain ⟨format, table, choice, -⟩ := (Shape.settle_ok_iff agree).mp settled
    exact ⟨format, entry, table ▸ chunk, choice⟩
  · rintro ⟨format, entry, chunk, choice⟩
    refine ⟨⟨found.table, namedId? entry⟩, shape_ok_iff.mpr ⟨entry, chunk, rfl⟩, ?_⟩
    exact (Shape.settle_ok_iff fun _ => namedId?_eq_some_iff).mpr ⟨format, rfl, choice, nofun⟩

private theorem detect_accepts_iff : (∃ found, (detect call o).outcome = .ok found) ↔
    ∃ table entry, IsChunk o.chunkGlobal call table entry := by
  constructor
  · rintro ⟨found, h⟩
    obtain ⟨-, entry, chunk, -⟩ := detect_ok_iff.mp h
    exact ⟨found.table, entry, chunk⟩
  · rintro ⟨table, entry, chunk⟩
    have shaped : shape o.chunkGlobal call = .ok ⟨table, namedId? entry⟩ :=
      shape_ok_iff.mpr ⟨entry, chunk, rfl⟩
    rw [detect_outcome, shaped]
    exact ⟨_, rfl⟩

private theorem detect_error_iff : (detect call o).outcome = .error failure ↔
    (failure = .wrongFormat .classic ∧ ∃ body, Enclosed (FunctionOf body) call.callee) ∨
    (failure = .notBootstrap ∧ (∀ body, ¬ Enclosed (FunctionOf body) call.callee) ∧
      ∀ table entry, ¬ IsChunk o.chunkGlobal call table entry) := by
  have settled : ¬ ∃ s, shape o.chunkGlobal call = .ok s ∧ s.settle .chunk o = .error failure := by
    rintro ⟨s, -, h⟩
    obtain ⟨-, ⟨⟩, -⟩ := (Shape.settle_error_iff fun _ => Iff.rfl).mp h
  rw [detect_outcome, bind_eq_error_iff, shape_error_iff, ← Bool.not_eq_true, isFunction_iff,
    not_exists]
  exact or_iff_left settled

/-- Detection accepts the calls of the grammar and finds in them what the grammar says, with the entry
that is given, else the one that the entry slot names, else none. It rejects a function as the start
of a classic bundle, and any other call because it is no bundle. -/
theorem accepts_grammar (call : Call) (o : Options) :
    (∀ found, (detect call o).outcome = .ok found ↔ found.format = .chunk ∧
      ∃ entry, IsChunk o.chunkGlobal call found.table entry ∧
        EntryChoice o.entry (EntryOf · entry) found.entry found.entrySource) ∧
    ((∃ found, (detect call o).outcome = .ok found) ↔
      ∃ table entry, IsChunk o.chunkGlobal call table entry) ∧
    ∀ failure, (detect call o).outcome = .error failure ↔
      (failure = .wrongFormat .classic ∧ ∃ body, Enclosed (FunctionOf body) call.callee) ∨
      (failure = .notBootstrap ∧ (∀ body, ¬ Enclosed (FunctionOf body) call.callee) ∧
        ∀ table entry, ¬ IsChunk o.chunkGlobal call table entry) :=
  ⟨fun _ => detect_ok_iff, detect_accepts_iff, fun _ => detect_error_iff⟩

end BundleLens.Bundle.Chunk
