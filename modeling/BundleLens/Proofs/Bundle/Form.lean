import BundleLens.Proofs.Bundle.Shape

/-! Forms of expressions as grammars, and where the entry of a detection comes from. Both formats are
described in these terms. -/
namespace BundleLens.Bundle
open Script Number

inductive Enclosed (form : Expr → Prop) : Expr → Prop
  | plain {e : Expr} : form e → Enclosed form e
  | paren (span : Span) {inner : Expr} : Enclosed form inner → Enclosed form (.paren span inner)

inductive IsIdentifier : Expr → Prop
  | identifier (span : Span) (name : String) : IsIdentifier (.identifier span name)

inductive FunctionOf (body : List Stmt) : Expr → Prop
  | function (span : Span) : FunctionOf body (.function span body)

inductive NumberOf (value : Binary64) : Expr → Prop
  | number (span : Span) : NumberOf value (.number span value)

inductive StringOf (text : String) : Expr → Prop
  | string (span : Span) : StringOf text (.string span text)

inductive TableOf : Table → Expr → Prop
  | array (span : Span) (elements : List Element) :
      TableOf (.array span elements) (.array span elements)
  | object (span : Span) (properties : List Property) :
      TableOf (.object span properties) (.object span properties)

variable {form : Expr → Prop} {e : Expr}

theorem isIdentifier_iff : IsIdentifier e ↔ ∃ span name, e = .identifier span name := by
  constructor
  · rintro ⟨span, name⟩
    exact ⟨span, name, rfl⟩
  · rintro ⟨span, name, rfl⟩
    exact .identifier span name

theorem functionOf_iff {body : List Stmt} : FunctionOf body e ↔ ∃ span, e = .function span body := by
  constructor
  · rintro ⟨span⟩
    exact ⟨span, rfl⟩
  · rintro ⟨span, rfl⟩
    exact .function span

/-- Parentheses do not count for a form that has none itself. -/
theorem Enclosed.iff_bare (unwrapped : ∀ span inner, ¬ form (.paren span inner)) :
    Enclosed form e ↔ form e.bare := by
  constructor
  · intro h
    induction h with
    | @plain e h =>
      cases e with
      | paren span inner => exact (unwrapped span inner h).elim
      | _ => exact h
    | paren span _ ih => exact ih
  · intro h
    induction e using Expr.bare.induct with
    | case1 span inner ih => exact .paren span (ih h)
    | case2 e notParen =>
      cases e with
      | paren span inner => exact (notParen span inner rfl).elim
      | _ => exact .plain h

theorem isFunction_iff : isFunction e = true ↔ ∃ body, Enclosed (FunctionOf body) e := by
  have bare (body : List Stmt) : Enclosed (FunctionOf body) e ↔ FunctionOf body e.bare :=
    Enclosed.iff_bare nofun
  simp only [bare]
  unfold isFunction
  constructor
  · intro h
    split at h
    · rename_i span body hb
      exact ⟨body, hb ▸ .function span⟩
    · cases h
  · rintro ⟨body, h⟩
    generalize e.bare = bare at h
    cases h
    rfl

theorem Table.ofExpr?_eq_some_iff {table : Table} :
    Table.ofExpr? e = some table ↔ Enclosed (TableOf table) e := by
  rw [Enclosed.iff_bare nofun]
  unfold Table.ofExpr?
  constructor
  · intro h
    split at h
    all_goals cases h
    · rename_i hb
      exact hb ▸ .array _ _
    · rename_i hb
      exact hb ▸ .object _ _
  · intro h
    generalize e.bare = bare at h
    cases h <;> rfl

/-- The entry of a detection and its source: the entry that is given, else the one that is named,
else none. -/
inductive EntryChoice (given : Option ModuleId) (names : ModuleId → Prop) :
    Option ModuleId → EntrySource → Prop
  | override {id : ModuleId} : given = some id → EntryChoice given names (some id) .override
  | resolved {id : ModuleId} :
      given = none → names id → EntryChoice given names (some id) .resolved
  | unresolved : given = none → (∀ id, ¬ names id) → EntryChoice given names none .unresolved

variable {format : BundleFormat} {o : Options} {found : Detection} {s : Shape}
  {names : ModuleId → Prop}

private theorem Detection.eq_withEntry_iff {table : Table} {named : Option ModuleId}
    (agree : ∀ id, named = some id ↔ names id) :
    found = withEntry format table o named ↔ found.format = format ∧ found.table = table ∧
      EntryChoice o.entry names found.entry found.entrySource := by
  constructor
  · rintro rfl
    refine ⟨withEntry_format .., withEntry_table .., ?_⟩
    unfold withEntry
    cases given : o.entry with
    | some id => exact .override rfl
    | none =>
      cases named with
      | some id => exact .resolved rfl ((agree id).mp rfl)
      | none => exact .unresolved rfl fun id h => nomatch (agree id).mpr h
  · obtain ⟨format', entry, source, table'⟩ := found
    rintro ⟨rfl, rfl, choice⟩
    unfold withEntry
    cases choice with
    | override given => rw [given]
    | resolved given h => rw [given, (agree _).mpr h]
    | unresolved given none =>
      have unnamed : named = Option.none :=
        Option.eq_none_iff_forall_not_mem.mpr fun id h => none id ((agree id).mp h)
      rw [given, unnamed]

/-- A shape is settled as its format and the choice of its entry say. Only a classic bundle without
an entry is none. -/
theorem Shape.settle_ok_iff (agree : ∀ id, s.named = some id ↔ names id) :
    s.settle format o = .ok found ↔ found.format = format ∧ found.table = s.table ∧
      EntryChoice o.entry names found.entry found.entrySource ∧
        ¬ (format = .classic ∧ found.entrySource = .unresolved) := by
  rw [← and_assoc, ← and_assoc, and_assoc (a := found.format = format),
    ← Detection.eq_withEntry_iff agree]
  unfold settle
  dsimp only
  split
  · rename_i missing
    constructor
    · rintro ⟨⟩
    · rintro ⟨rfl, present⟩
      exact (present missing).elim
  · rename_i present
    rw [Except.ok.injEq, eq_comm]
    refine ⟨?_, And.left⟩
    rintro rfl
    exact ⟨rfl, present⟩

theorem Shape.settle_error_iff (agree : ∀ id, s.named = some id ↔ names id) {failure : Failure} :
    s.settle format o = .error failure ↔
      failure = .noEntry ∧ format = .classic ∧ o.entry = none ∧ ∀ id, ¬ names id := by
  have unnamed : s.named = none ↔ ∀ id, ¬ names id := by
    rw [Option.eq_none_iff_forall_not_mem]
    exact forall_congr' fun id => not_congr (agree id)
  rw [← unnamed]
  unfold settle Detection.withEntry
  rcases o with ⟨_, _ | id, _⟩ <;> cases s.named <;> cases format <;> simp [eq_comm]

end BundleLens.Bundle
