import BundleLens.Proofs.Bundle.Unplaced

namespace BundleLens.Bundle
open Script

/-- The same expression with parentheses put around it, any number of times, or around its inspected
parts: `parts` relates an expression to itself with those in parentheses. -/
inductive Wrapping (parts : Expr → Expr → Prop) : Expr → Expr → Prop
  | same (e : Expr) : Wrapping parts e e
  | inside {e e' : Expr} : parts e e' → Wrapping parts e e'
  | around (span : Span) {e e' : Expr} : Wrapping parts e e' → Wrapping parts e (.paren span e')
  | under (span : Span) {e e' : Expr} :
      Wrapping parts e e' → Wrapping parts (.paren span e) (.paren span e')

abbrev NoParts (_ _ : Expr) : Prop := False

abbrev Parenthesized := Wrapping NoParts

inductive ElementWrapping (parts : Expr → Expr → Prop) : Element → Element → Prop
  | same (element : Element) : ElementWrapping parts element element
  | item {e e' : Expr} : Wrapping parts e e' → ElementWrapping parts (.item e) (.item e')

inductive FirstWrapping (parts : Expr → Expr → Prop) : List Argument → List Argument → Prop
  | same (passed : List Argument) : FirstWrapping parts passed passed
  | first {e e' : Expr} (r : List Argument) :
      Wrapping parts e e' → FirstWrapping parts (.item e :: r) (.item e' :: r)

inductive SlotParts : Expr → Expr → Prop
  | member (span : Span) (name : String) {object object' : Expr} :
      Parenthesized object object' → SlotParts (.member span object name) (.member span object' name)
  | index (span : Span) {object object' key key' : Expr} :
      Parenthesized object object' → Parenthesized key key' →
        SlotParts (.index span object key) (.index span object' key')

inductive FallbackParts : Expr → Expr → Prop
  | logical (span : Span) (op : LogicalOp) (right : Expr) {left left' : Expr} :
      Wrapping SlotParts left left' →
        FallbackParts (.logical span op left right) (.logical span op left' right)

/-- The target and the right side of the loader's assignment. There are no parentheses around a
target. -/
inductive InitParts : Expr → Expr → Prop
  | assign (span : Span) (op : AssignOp) {target target' value value' : Expr} :
      target = target' ∨ SlotParts target target' → Wrapping FallbackParts value value' →
        InitParts (.assign span op target value) (.assign span op target' value')

inductive RequiredParts : Expr → Expr → Prop
  | assign (span : Span) (op : AssignOp) (target : Expr) {value value' : Expr} :
      Parenthesized value value' →
        RequiredParts (.assign span op target value) (.assign span op target value')

inductive RequireParts : Expr → Expr → Prop
  | call (span : Span) (callee : Expr) {passed passed' : List Argument} :
      FirstWrapping RequiredParts passed passed' →
        RequireParts (.call span callee passed) (.call span callee passed')

inductive ReturnedParts : Expr → Expr → Prop
  | call {e e' : Expr} : RequireParts e e' → ReturnedParts e e'
  | sequence (span : Span) (items : List Expr) {last last' : Expr} :
      Wrapping RequireParts last last' →
        ReturnedParts (.sequence span (items ++ [last])) (.sequence span (items ++ [last']))

/-- The expression that a bootstrap function returns, or the loader's assignment and the computed
name of its method. -/
inductive CalleeParts : Expr → Expr → Prop
  | function (span inner : Span) (stmts : List Stmt) {e e' : Expr} :
      Wrapping ReturnedParts e e' →
        CalleeParts (.function span (stmts ++ [.returning inner (some e)]))
          (.function span (stmts ++ [.returning inner (some e')]))
  | member (span : Span) (name : String) {object object' : Expr} :
      Wrapping InitParts object object' →
        CalleeParts (.member span object name) (.member span object' name)
  | index (span : Span) {object object' key key' : Expr} :
      Wrapping InitParts object object' → Parenthesized key key' →
        CalleeParts (.index span object key) (.index span object' key')

inductive InnerParts : Expr → Expr → Prop
  | array (span : Span) {literal literal' : Element} :
      ElementWrapping NoParts literal literal' →
        InnerParts (.array span [literal]) (.array span [literal'])

inductive EntryParts : Expr → Expr → Prop
  | array (span : Span) {inner inner' : Element} :
      ElementWrapping InnerParts inner inner' →
        EntryParts (.array span [inner]) (.array span [inner'])

inductive ChunkParts : Expr → Expr → Prop
  | array (span : Span) (ids : Element) {table table' entry entry' : Element} :
      ElementWrapping NoParts table table' → ElementWrapping EntryParts entry entry' →
        ChunkParts (.array span [ids, table, entry]) (.array span [ids, table', entry'])

/-- A call with parentheses around any of the expressions that detection inspects. Those in the
argument depend on the callee: a function gets the table itself. -/
inductive Call.Wrapped : Call → Call → Prop
  | classic (span : Span) {callee callee' : Expr} {passed passed' : List Argument} :
      isFunction callee = true → Wrapping CalleeParts callee callee' →
        FirstWrapping NoParts passed passed' →
          Call.Wrapped ⟨span, callee, passed⟩ ⟨span, callee', passed'⟩
  | chunk (span : Span) {callee callee' : Expr} {passed passed' : List Argument} :
      isFunction callee = false → Wrapping CalleeParts callee callee' →
        FirstWrapping ChunkParts passed passed' →
          Call.Wrapped ⟨span, callee, passed⟩ ⟨span, callee', passed'⟩

variable {parts : Expr → Expr → Prop} {e e' : Expr}

/-- Parentheses around an expression go away with the bare expression. Those around its parts stay. -/
theorem Wrapping.bare (h : Wrapping parts e e') :
    e'.bare = e.bare ∨ ∃ f f', parts f f' ∧ e.bare = f.bare ∧ e'.bare = f'.bare := by
  induction h with
  | same e => exact .inl rfl
  | inside h => exact .inr ⟨_, _, h, rfl, rfl⟩
  | around span _ ih => exact ih
  | under span _ ih => exact ih

theorem Parenthesized.bare (h : Parenthesized e e') : e'.bare = e.bare := by
  obtain h | ⟨_, _, h, _⟩ := Wrapping.bare h
  · exact h
  · exact h.elim

private theorem Parenthesized.isGlobal (h : Parenthesized e e') :
    Chunk.isGlobal e' = Chunk.isGlobal e := by
  unfold Chunk.isGlobal
  rw [h.bare]

private theorem Parenthesized.isString (h : Parenthesized e e') (value : String) :
    Chunk.isString value e' = Chunk.isString value e := by
  unfold Chunk.isString
  rw [h.bare]

private theorem Parenthesized.ofExpr? (h : Parenthesized e e') :
    Table.ofExpr? e' = Table.ofExpr? e := by
  unfold Table.ofExpr?
  rw [h.bare]

private theorem SlotParts.isBareSlot (h : SlotParts e e') (loader : String) :
    Chunk.isBareSlot loader e' = Chunk.isBareSlot loader e := by
  cases h with
  | member span name ho =>
    unfold Chunk.isBareSlot
    dsimp only
    rw [ho.isGlobal]
  | index span ho hk =>
    unfold Chunk.isBareSlot
    dsimp only
    rw [ho.isGlobal, hk.isString]

private theorem Wrapping.isBareSlot (h : Wrapping SlotParts e e') (loader : String) :
    Chunk.isBareSlot loader e'.bare = Chunk.isBareSlot loader e.bare := by
  obtain h | ⟨f, f', h, hf, hf'⟩ := h.bare
  · rw [h]
  · have plain : f.bare = f ∧ f'.bare = f' := by cases h <;> exact ⟨rfl, rfl⟩
    rw [hf, hf', plain.1, plain.2, h.isBareSlot loader]

private theorem Wrapping.isLoaderInit (h : Wrapping InitParts e e') (loader : String) :
    Chunk.isLoaderInit loader e' = Chunk.isLoaderInit loader e := by
  unfold Chunk.isLoaderInit
  obtain h | ⟨_, _, ⟨span, op, ht, hv⟩, hf, hf'⟩ := h.bare
  · rw [h]
  rename_i target target' value value'
  have same : Chunk.isBareSlot loader target' = Chunk.isBareSlot loader target := by
    obtain rfl | ht := ht
    · rfl
    · exact ht.isBareSlot loader
  rw [hf, hf']
  cases op with
  | plain =>
    simp only [Expr.bare]
    obtain hv | ⟨_, _, ⟨_, _, _, hl⟩, hg, hg'⟩ := hv.bare
    · rw [hv, same]
    · rw [hg, hg']
      simp only [Expr.bare]
      rw [same, hl.isBareSlot loader]
  | _ => rfl

theorem Wrapping.isFunction (h : Wrapping CalleeParts e e') : isFunction e' = isFunction e := by
  unfold Bundle.isFunction
  obtain h | ⟨_, _, h, hf, hf'⟩ := h.bare
  · rw [h]
  · rw [hf, hf']
    cases h <;> rfl

theorem Wrapping.isLoaderCallee (h : Wrapping CalleeParts e e') (loader : String) :
    Chunk.isLoaderCallee loader e'.bare = Chunk.isLoaderCallee loader e.bare := by
  obtain h | ⟨_, _, h, hf, hf'⟩ := h.bare
  · rw [h]
  rw [hf, hf']
  cases h with
  | function => rfl
  | member span name ho =>
    simp only [Expr.bare, Chunk.isLoaderCallee]
    rw [ho.isLoaderInit]
  | index span ho hk =>
    simp only [Expr.bare, Chunk.isLoaderCallee]
    rw [ho.isLoaderInit, hk.isString]

theorem FirstWrapping.table {passed passed' : List Argument}
    (h : FirstWrapping NoParts passed passed') :
    (passed'.head?.bind Argument.expr?).bind Table.ofExpr? =
      (passed.head?.bind Argument.expr?).bind Table.ofExpr? := by
  cases h with
  | same => rfl
  | first r he => exact Parenthesized.ofExpr? he

theorem ElementWrapping.table {element element' : Element}
    (h : ElementWrapping NoParts element element') :
    element'.expr?.bind Table.ofExpr? = element.expr?.bind Table.ofExpr? := by
  cases h with
  | same => rfl
  | item he => exact Parenthesized.ofExpr? he

end BundleLens.Bundle
