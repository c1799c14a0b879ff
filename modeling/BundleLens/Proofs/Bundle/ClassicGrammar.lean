import BundleLens.Proofs.Bundle.Form
import BundleLens.Proofs.Bundle.Unplaced

/-! The calls that are classic bundles, as a grammar of three parts: the callee, the first argument
and the tail of the bootstrap function. Detection reads nothing else. -/
namespace BundleLens.Bundle.Classic
open Script Number

inductive CallOf (passed : List Argument) : Expr → Prop
  | call (span : Span) (callee : Expr) : CallOf passed (.call span callee passed)

inductive EndsInCall (passed : List Argument) : Expr → Prop
  | call (span : Span) (callee : Expr) : EndsInCall passed (.call span callee passed)
  | sequence (span : Span) (earlier : List Expr) {last : Expr} :
      Enclosed (CallOf passed) last → EndsInCall passed (.sequence span (earlier ++ [last]))

inductive Requires (passed : List Argument) : List Stmt → Prop
  | returning (earlier : List Stmt) (span : Span) {e : Expr} :
      Enclosed (EndsInCall passed) e → Requires passed (earlier ++ [.returning span (some e)])

/-- An argument that is a number literal, or an assignment of one by an operator. It is not in
parentheses, but the literal on the right may be. -/
inductive PassesNumber (value : Binary64) : Option AssignOp → Argument → Prop
  | literal (span : Span) : PassesNumber value none (.item (.number span value))
  | assign (span : Span) (op : AssignOp) (target : Expr) {right : Expr} :
      Enclosed (NumberOf value) right →
        PassesNumber value (some op) (.item (.assign span op target right))

def NamesEntry (body : List Stmt) (id : ModuleId) : Prop :=
  ∃ first rest value op, Requires (first :: rest) body ∧ PassesNumber value op first ∧
    ModuleId.ofNumber? value = some id

inductive PassesTable (table : Table) : List Argument → Prop
  | first {e : Expr} (rest : List Argument) :
      Enclosed (TableOf table) e → PassesTable table (.item e :: rest)

/-- A call of a bootstrap function with a table, and the arguments of the call that the function
ends with. -/
structure Bootstraps (call : Call) (table : Table) (passed : List Argument) : Prop where
  table : PassesTable table call.arguments
  tail : ∃ body, Enclosed (FunctionOf body) call.callee ∧ Requires passed body

variable {e : Expr} {call : Call} {body : List Stmt} {passed : List Argument} {id : ModuleId}

private theorem finalCall?_eq_some_iff :
    finalCall? e = some passed ↔ Enclosed (EndsInCall passed) e := by
  rw [Enclosed.iff_bare nofun]
  unfold finalCall?
  constructor
  · intro h
    split at h
    · rename_i span callee passed' hb
      cases h
      exact hb ▸ .call span callee
    · rename_i span items hb
      rw [hb]
      split at h
      · rename_i inner callee passed' hl
        cases h
        obtain ⟨last, ends, called⟩ := Option.map_eq_some_iff.mp hl
        obtain ⟨earlier, rfl⟩ := List.getLast?_eq_some_iff.mp ends
        refine .sequence span earlier ?_
        rw [Enclosed.iff_bare nofun, called]
        exact .call inner callee
      · cases h
    · cases h
  · intro h
    generalize e.bare = bare at h
    obtain ⟨span, callee⟩ | ⟨span, earlier, last⟩ := h
    · rfl
    · rw [Enclosed.iff_bare nofun] at last
      rename_i item
      dsimp only
      rw [List.getLast?_concat, Option.map_some]
      generalize item.bare = bare at last
      cases last
      rfl

private theorem idOfArgument?_eq_some_iff {argument : Argument} : idOfArgument? argument = some id ↔
    ∃ value op, PassesNumber value op argument ∧ ModuleId.ofNumber? value = some id := by
  unfold idOfArgument?
  constructor
  · intro h
    split at h
    · rename_i span value
      exact ⟨value, none, .literal span, h⟩
    · rename_i span op target right
      split at h
      · rename_i inner value hr
        refine ⟨value, some op, .assign span op target ?_, h⟩
        rw [Enclosed.iff_bare nofun, hr]
        exact .number inner
      · cases h
    · cases h
  · rintro ⟨value, op, ⟨span⟩ | ⟨span, op, target, literal⟩, h⟩
    · exact h
    · rw [Enclosed.iff_bare nofun] at literal
      rename_i right
      dsimp only
      generalize right.bare = bare at literal
      cases literal
      exact h

/-- What is required at the end of a body depends on the first argument there alone. -/
theorem namedId?_of_requires (h : Requires passed body) :
    namedId? body = passed.head?.bind idOfArgument? := by
  obtain ⟨earlier, span, tail⟩ := h
  unfold namedId?
  rw [List.getLast?_concat]
  dsimp only
  rw [finalCall?_eq_some_iff.mpr tail, Option.bind_some]

private theorem namedId?_eq_some_iff : namedId? body = some id ↔ NamesEntry body id := by
  constructor
  · intro h
    unfold namedId? at h
    split at h
    · rename_i span e ends
      obtain ⟨passed, called, h⟩ := Option.bind_eq_some_iff.mp h
      obtain ⟨first, head, h⟩ := Option.bind_eq_some_iff.mp h
      obtain ⟨rest, rfl⟩ := List.head?_eq_some_iff.mp head
      obtain ⟨earlier, rfl⟩ := List.getLast?_eq_some_iff.mp ends
      obtain ⟨value, op, passes, h⟩ := idOfArgument?_eq_some_iff.mp h
      have requires : Requires (first :: rest) (earlier ++ [.returning span (some e)]) :=
        .returning earlier span (finalCall?_eq_some_iff.mp called)
      exact ⟨first, rest, value, op, requires, passes, h⟩
    · cases h
  · rintro ⟨first, rest, value, op, requires, passes, h⟩
    rw [namedId?_of_requires requires, List.head?_cons, Option.bind_some]
    exact idOfArgument?_eq_some_iff.mpr ⟨value, op, passes, h⟩

private theorem firstTable?_eq_some_iff {table : Table} :
    call.firstArgument?.bind Table.ofExpr? = some table ↔ PassesTable table call.arguments := by
  unfold Call.firstArgument?
  constructor
  · intro h
    obtain ⟨e, first, literal⟩ := Option.bind_eq_some_iff.mp h
    obtain ⟨argument, head, item⟩ := Option.bind_eq_some_iff.mp first
    obtain ⟨rest, passed⟩ := List.head?_eq_some_iff.mp head
    cases argument with
    | spread span value => cases item
    | item e' =>
      cases item
      rw [passed]
      exact .first rest (Table.ofExpr?_eq_some_iff.mp literal)
  · intro h
    generalize call.arguments = passed at h
    obtain ⟨rest, literal⟩ := h
    exact Table.ofExpr?_eq_some_iff.mpr literal

theorem shape_ok_iff {s : Shape} : shape call = .ok s ↔
    ∃ body, Enclosed (FunctionOf body) call.callee ∧ PassesTable s.table call.arguments ∧
      s.named = namedId? body := by
  simp only [← firstTable?_eq_some_iff]
  constructor
  · intro h
    obtain ⟨span, body, callee, table, named⟩ := shape_ok h
    refine ⟨body, ?_, table, named⟩
    rw [Enclosed.iff_bare nofun, callee]
    exact .function span
  · rintro ⟨body, callee, table, named⟩
    rw [Enclosed.iff_bare nofun] at callee
    unfold shape
    generalize call.callee.bare = bare at callee
    cases callee
    simp [table, ← named]

/-- The callee is looked at before the first argument. -/
theorem shape_error_iff {failure : Failure} : shape call = .error failure ↔
    (failure = .wrongFormat .chunk ∧ Enclosed IsIdentifier call.callee) ∨
    (failure = .notBootstrap ∧
      (¬ Enclosed IsIdentifier call.callee ∧ (∀ body, ¬ Enclosed (FunctionOf body) call.callee) ∨
        (∃ body, Enclosed (FunctionOf body) call.callee) ∧
          ∀ table, ¬ PassesTable table call.arguments)) := by
  have identifier : Enclosed IsIdentifier call.callee ↔ IsIdentifier call.callee.bare :=
    Enclosed.iff_bare nofun
  have function (body : List Stmt) :
      Enclosed (FunctionOf body) call.callee ↔ FunctionOf body call.callee.bare :=
    Enclosed.iff_bare nofun
  have unlisted : (∀ table, ¬ PassesTable table call.arguments) ↔
      call.firstArgument?.bind Table.ofExpr? = none := by
    simp only [← firstTable?_eq_some_iff]
    exact Option.eq_none_iff_forall_not_mem.symm
  rw [identifier, unlisted]
  simp only [function, isIdentifier_iff, functionOf_iff]
  unfold shape
  cases call.callee.bare with
  | function span body =>
    cases call.firstArgument?.bind Table.ofExpr? <;> simp [eq_comm]
  | _ => simp [eq_comm]

variable {o : Options} {found : Detection} {failure : Failure}

theorem detect_ok_iff : (detect call o).outcome = .ok found ↔ found.format = .classic ∧
    ∃ body, Enclosed (FunctionOf body) call.callee ∧ PassesTable found.table call.arguments ∧
      EntryChoice o.entry (NamesEntry body) found.entry found.entrySource ∧
        found.entrySource ≠ .unresolved := by
  rw [detect_outcome, bind_eq_ok_iff]
  constructor
  · rintro ⟨s, hs, settled⟩
    obtain ⟨body, callee, passes, named⟩ := shape_ok_iff.mp hs
    have agree (id : ModuleId) : s.named = some id ↔ NamesEntry body id := by
      rw [named, namedId?_eq_some_iff]
    obtain ⟨format, table, choice, present⟩ := (Shape.settle_ok_iff agree).mp settled
    exact ⟨format, body, callee, table ▸ passes, choice, fun missing => present ⟨rfl, missing⟩⟩
  · rintro ⟨format, body, callee, passes, choice, present⟩
    refine ⟨⟨found.table, namedId? body⟩, shape_ok_iff.mpr ⟨body, callee, passes, rfl⟩, ?_⟩
    exact (Shape.settle_ok_iff fun _ => namedId?_eq_some_iff).mpr
      ⟨format, rfl, choice, fun missing => present missing.2⟩

/-- The entry is looked for last. -/
theorem detect_noEntry_iff :
    (∃ s, shape call = .ok s ∧ s.settle .classic o = .error failure) ↔
      failure = .noEntry ∧ o.entry = none ∧ (∃ table, PassesTable table call.arguments) ∧
        ∃ body, Enclosed (FunctionOf body) call.callee ∧ ∀ id, ¬ NamesEntry body id := by
  constructor
  · rintro ⟨s, hs, settled⟩
    obtain ⟨body, callee, passes, named⟩ := shape_ok_iff.mp hs
    have agree (id : ModuleId) : s.named = some id ↔ NamesEntry body id := by
      rw [named, namedId?_eq_some_iff]
    obtain ⟨noEntry, -, given, unnamed⟩ := (Shape.settle_error_iff agree).mp settled
    exact ⟨noEntry, given, ⟨s.table, passes⟩, body, callee, unnamed⟩
  · rintro ⟨noEntry, given, ⟨table, passes⟩, body, callee, unnamed⟩
    refine ⟨⟨table, namedId? body⟩, shape_ok_iff.mpr ⟨body, callee, passes, rfl⟩, ?_⟩
    exact (Shape.settle_error_iff fun _ => namedId?_eq_some_iff).mpr
      ⟨noEntry, rfl, given, unnamed⟩

private theorem Bootstraps.shape {table : Table} (h : Bootstraps call table passed) :
    shape call = .ok ⟨table, passed.head?.bind idOfArgument?⟩ := by
  obtain ⟨body, callee, requires⟩ := h.tail
  exact shape_ok_iff.mpr ⟨body, callee, h.table, (namedId?_of_requires requires).symm⟩

private theorem idOfFirst?_unplaced (passed : List Argument) :
    (passed.head?.map Argument.unplaced).bind idOfArgument? = passed.head?.bind idOfArgument? := by
  cases passed with
  | nil => rfl
  | cons first rest => exact idOfArgument?_unplaced first

/-- The result of detection is determined by the callee, the first argument and what the bootstrap
function passes first in the call that it ends with. Failures come in this order, and two bundles
with the same table and the same last call have the same entry, whatever else their functions do
and wherever they stand. -/
theorem outcome_determined (o : Options) :
    (∀ call : Call,
      (∀ found, (detect call o).outcome = .ok found ↔ found.format = .classic ∧
        ∃ body, Enclosed (FunctionOf body) call.callee ∧ PassesTable found.table call.arguments ∧
          EntryChoice o.entry (NamesEntry body) found.entry found.entrySource ∧
            found.entrySource ≠ .unresolved) ∧
      ∀ failure, (detect call o).outcome = .error failure ↔
        (failure = .wrongFormat .chunk ∧ Enclosed IsIdentifier call.callee) ∨
        (failure = .notBootstrap ∧
          (¬ Enclosed IsIdentifier call.callee ∧ (∀ body, ¬ Enclosed (FunctionOf body) call.callee) ∨
            (∃ body, Enclosed (FunctionOf body) call.callee) ∧
              ∀ table, ¬ PassesTable table call.arguments)) ∨
        (failure = .noEntry ∧ o.entry = none ∧ (∃ table, PassesTable table call.arguments) ∧
          ∃ body, Enclosed (FunctionOf body) call.callee ∧ ∀ id, ¬ NamesEntry body id)) ∧
    ∀ (call other : Call) (table table' : Table) (passed passed' : List Argument),
      Bootstraps call table passed → Bootstraps other table' passed' →
      table'.unplaced = table.unplaced →
      passed'.head?.map Argument.unplaced = passed.head?.map Argument.unplaced →
        (detect other o).outcome.map Detection.unplaced =
          (detect call o).outcome.map Detection.unplaced := by
  refine ⟨fun call => ⟨fun found => detect_ok_iff, fun failure => ?_⟩, ?_⟩
  · rw [detect_outcome, bind_eq_error_iff, shape_error_iff, detect_noEntry_iff, or_assoc]
  · intro call other table table' passed passed' h h' sameTable sameFirst
    have required : passed'.head?.bind idOfArgument? = passed.head?.bind idOfArgument? := by
      rw [← idOfFirst?_unplaced, sameFirst, idOfFirst?_unplaced]
    rw [detect_outcome, detect_outcome, h.shape, h'.shape, ok_bind, ok_bind, ← Shape.settle_unplaced,
      ← Shape.settle_unplaced, Shape.unplaced, Shape.unplaced, sameTable, required]

/-- A function that returns the call at once, and one that does other things first, in a statement
and in a sequence, and returns it in parentheses. -/
theorem outcome_determined_earlier :
    let s : Span := default
    let required (span : Span) : Argument := .item (.assign span .plain
      (.member s (.identifier s "n") "s") (.paren s (.number span .zero)))
    let last (span : Span) : Expr := .call span (.identifier span "n") [required span]
    let start (span : Span) (body : List Stmt) : Call :=
      ⟨span, .paren s (.function s body), [.item (.paren s (.array span []))]⟩
    let call := start ⟨0, 9⟩ [.returning s (some (last ⟨3, 4⟩))]
    let other := start ⟨5, 90⟩ [.expression s (.other s),
      .returning s (some (.paren s (.sequence s [.this s, .paren s (last ⟨30, 40⟩)])))]
    Bootstraps call (.array ⟨0, 9⟩ []) [required ⟨3, 4⟩] ∧
      Bootstraps other (.array ⟨5, 90⟩ []) [required ⟨30, 40⟩] ∧
      (detect other {}).outcome.map Detection.unplaced =
        (detect call {}).outcome.map Detection.unplaced ∧
      (detect call {}).outcome.map (·.entry) = .ok (some (.number 0)) := by
  intro s required last start call other
  have h : Bootstraps call (.array ⟨0, 9⟩ []) [required ⟨3, 4⟩] :=
    ⟨.first [] (.paren s (.plain (.array _ []))), _, .paren s (.plain (.function s)),
      .returning [] s (.plain (.call _ _))⟩
  have h' : Bootstraps other (.array ⟨5, 90⟩ []) [required ⟨30, 40⟩] :=
    ⟨.first [] (.paren s (.plain (.array _ []))), _, .paren s (.plain (.function s)),
      .returning [.expression s (.other s)] s (.paren s (.plain
        (.sequence s [.this s] (.paren s (.plain (.call _ _))))))⟩
  exact ⟨h, h', (outcome_determined {}).2 _ _ _ _ _ _ h h' rfl rfl, by decide +kernel⟩

end BundleLens.Bundle.Classic
