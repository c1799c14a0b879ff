import BundleLens.Proofs.Bundle.Location
import Mathlib.Logic.Relation

/-! The choice among the calls at the top level of a script. Once some call has the looks of a
bootstrap, the choice is the leftmost of these, so it stays the same while other statements come and
go and while statements get further parentheses, `!` and `void`. -/
namespace BundleLens.Bundle
open Script
open Relation (ReflTransGen)

/-- One layer around an expression that the search for calls looks through. -/
inductive Layer : Expr → Expr → Prop
  | paren (span : Span) (inner : Expr) : Layer inner (.paren span inner)
  | not (span : Span) (inner : Expr) : Layer inner (.unary span .not inner)
  | void (span : Span) (inner : Expr) : Layer inner (.unary span .void inner)

def Call.toExpr (call : Call) : Expr := .call call.span call.callee call.arguments

/-- A statement is an expression that is a call under layers, any number of each kind in any order. -/
def ConsistsOf (stmt : Stmt) (call : Call) : Prop :=
  ∃ span e, stmt = .expression span e ∧ ReflTransGen Layer call.toExpr e

def Ordinary (stmt : Stmt) : Prop := ∀ call, ConsistsOf stmt call → call.looksLikeBootstrap = false

/-- The leftmost call with the looks of a bootstrap, or the leftmost call if none has them. -/
def Preferred (body : List Stmt) (call : Call) : Prop :=
  ∃ before stmt after, body = before ++ stmt :: after ∧ ConsistsOf stmt call ∧
    (call.looksLikeBootstrap = true ∧ (∀ s ∈ before, Ordinary s) ∨
      (∀ s ∈ body, Ordinary s) ∧ ∀ s ∈ before, ∀ other, ¬ ConsistsOf s other)

/-- One change to the statements of a script. A statement that comes or goes is ordinary, and a
statement that is wrapped may be any expression. -/
inductive Edit : List Stmt → List Stmt → Prop
  | insert (before after : List Stmt) {stmt : Stmt} :
      Ordinary stmt → Edit (before ++ after) (before ++ stmt :: after)
  | delete (before after : List Stmt) {stmt : Stmt} :
      Ordinary stmt → Edit (before ++ stmt :: after) (before ++ after)
  | wrap (before after : List Stmt) (span span' : Span) {e e' : Expr} :
      Layer e e' → Edit (before ++ .expression span e :: after) (before ++ .expression span' e' :: after)

variable {e e' : Expr} {call : Call} {stmt : Stmt} {body edited : List Stmt} {program : Program}

private theorem Layer.ofExpr? (h : Layer e e') : Call.ofExpr? e' = Call.ofExpr? e := by
  cases h <;> rfl

private theorem Layer.ofExpr?_of_reflTransGen (h : ReflTransGen Layer e e') :
    Call.ofExpr? e' = Call.ofExpr? e := by
  induction h with
  | refl => rfl
  | tail _ last ih => rw [last.ofExpr?, ih]

private theorem Call.ofExpr?_eq_some_iff :
    Call.ofExpr? e = some call ↔ ReflTransGen Layer call.toExpr e := by
  constructor
  · intro h
    induction e using Call.ofExpr?.induct with
    | case1 span inner ih => exact (ih h).tail (.paren span inner)
    | case2 span callee passed =>
      cases h
      exact .refl
    | case3 span op operand hop ih =>
      rw [Call.ofExpr?, if_pos hop] at h
      obtain rfl | rfl := hop
      · exact (ih h).tail (.not span operand)
      · exact (ih h).tail (.void span operand)
    | case4 span op operand hop =>
      rw [Call.ofExpr?, if_neg hop] at h
      cases h
    | case5 e paren called unary => simp [Call.ofExpr?] at h
  · intro h
    rw [Layer.ofExpr?_of_reflTransGen h]
    rfl

private theorem Call.ofStmt?_eq_some_iff :
    Call.ofStmt? stmt = some call ↔ ConsistsOf stmt call := by
  unfold ConsistsOf
  cases stmt with
  | expression span e =>
    refine Call.ofExpr?_eq_some_iff.trans ⟨fun h => ⟨span, e, rfl, h⟩, ?_⟩
    rintro ⟨_, _, ⟨⟩, h⟩
    exact h
  | _ => simp [Call.ofStmt?]

private theorem Call.ofStmt?_eq_none_iff :
    Call.ofStmt? stmt = none ↔ ∀ call, ¬ ConsistsOf stmt call := by
  simp only [← Call.ofStmt?_eq_some_iff, Option.eq_none_iff_forall_not_mem, Option.mem_def]

def bootstrap? (stmt : Stmt) : Option Call := (Call.ofStmt? stmt).filter Call.looksLikeBootstrap

private theorem bootstrap?_eq_some_iff :
    bootstrap? stmt = some call ↔ ConsistsOf stmt call ∧ call.looksLikeBootstrap = true := by
  unfold bootstrap?
  rw [Option.filter_eq_some_iff, Call.ofStmt?_eq_some_iff]

private theorem bootstrap?_eq_none_iff : bootstrap? stmt = none ↔ Ordinary stmt := by
  unfold bootstrap? Ordinary
  simp only [Option.filter_eq_none_iff, Call.ofStmt?_eq_some_iff, Bool.not_eq_true]

private theorem findCall_eq_findSome? (program : Program) :
    (findCall program).value =
      (program.body.findSome? bootstrap?).or (program.body.findSome? Call.ofStmt?) := by
  rw [findCall_value, ← List.head?_filter, topLevelCalls, List.filter_filterMap,
    List.head?_filterMap, List.head?_filterMap]
  rfl

private theorem findCall_eq_none_iff :
    (findCall program).value = none ↔ ∀ stmt ∈ program.body, ∀ call, ¬ ConsistsOf stmt call := by
  rw [findCall_value, Option.or_eq_none_iff, List.head?_eq_none_iff]
  constructor
  · rintro ⟨-, hn⟩ stmt hm
    exact Call.ofStmt?_eq_none_iff.mp (List.filterMap_eq_nil_iff.mp hn stmt hm)
  · intro hn
    have calls : topLevelCalls program = [] :=
      List.filterMap_eq_nil_iff.mpr fun stmt hm => Call.ofStmt?_eq_none_iff.mpr (hn stmt hm)
    rw [calls]
    exact ⟨rfl, rfl⟩

theorem findCall_eq_some_iff :
    (findCall program).value = some call ↔ Preferred program.body call := by
  rw [findCall_eq_findSome?, Option.or_eq_some_iff, List.findSome?_eq_some_iff,
    List.findSome?_eq_some_iff, List.findSome?_eq_none_iff]
  simp only [bootstrap?_eq_some_iff, bootstrap?_eq_none_iff, Call.ofStmt?_eq_some_iff,
    Call.ofStmt?_eq_none_iff]
  constructor
  · rintro (⟨before, stmt, after, split, ⟨consists, looks⟩, first⟩ |
      ⟨ordinary, before, stmt, after, split, consists, first⟩)
    · exact ⟨before, stmt, after, split, consists, .inl ⟨looks, first⟩⟩
    · exact ⟨before, stmt, after, split, consists, .inr ⟨ordinary, first⟩⟩
  · rintro ⟨before, stmt, after, split, consists, ⟨looks, first⟩ | ⟨ordinary, first⟩⟩
    · exact .inl ⟨before, stmt, after, split, ⟨consists, looks⟩, first⟩
    · exact .inr ⟨ordinary, before, stmt, after, split, consists, first⟩

/-- An edit leaves alone what is searched for. -/
theorem Edit.bootstraps (h : Edit body edited) :
    edited.filterMap bootstrap? = body.filterMap bootstrap? := by
  cases h with
  | insert before after ordinary =>
    rw [List.filterMap_append, List.filterMap_cons_none (bootstrap?_eq_none_iff.mpr ordinary),
      List.filterMap_append]
  | delete before after ordinary =>
    rw [List.filterMap_append, List.filterMap_append,
      List.filterMap_cons_none (bootstrap?_eq_none_iff.mpr ordinary)]
  | @wrap before after span span' e e' layer =>
    have same : bootstrap? (.expression span' e') = bootstrap? (.expression span e) :=
      congrArg (Option.filter Call.looksLikeBootstrap) layer.ofExpr?
    rw [List.filterMap_append, List.filterMap_append, List.filterMap_cons, List.filterMap_cons, same]

private theorem Edit.bootstraps_of_reflTransGen (h : ReflTransGen Edit body edited) :
    edited.filterMap bootstrap? = body.filterMap bootstrap? := by
  induction h with
  | refl => rfl
  | tail _ last ih => rw [last.bootstraps, ih]

private theorem findCall_edited {after : Program}
    (edits : ReflTransGen Edit program.body after.body)
    (looking : ∃ stmt ∈ program.body, ¬ Ordinary stmt) :
    (findCall after).value = (findCall program).value := by
  have same : after.body.findSome? bootstrap? = program.body.findSome? bootstrap? := by
    rw [← List.head?_filterMap, ← List.head?_filterMap, Edit.bootstraps_of_reflTransGen edits]
  obtain ⟨stmt, hm, looks⟩ := looking
  have found : program.body.findSome? bootstrap? ≠ none := by
    intro hn
    exact looks (bootstrap?_eq_none_iff.mp (List.findSome?_eq_none_iff.mp hn stmt hm))
  obtain ⟨call, hc⟩ := Option.ne_none_iff_exists'.mp found
  rw [findCall_eq_findSome?, findCall_eq_findSome?, same, hc, Option.some_or, Option.some_or]

/-- Layers around a statement change nothing at all in the search, which looks through them. -/
theorem findCall_wrapped {other : Program} {before after : List Stmt} {span span' : Span}
    (hb : program.body = before ++ .expression span e :: after) (layers : ReflTransGen Layer e e')
    (ho : other.body = before ++ .expression span' e' :: after) :
    findCall other = findCall program := by
  have calls : topLevelCalls other = topLevelCalls program := by
    have same : Call.ofStmt? (.expression span' e') = Call.ofStmt? (.expression span e) :=
      Layer.ofExpr?_of_reflTransGen layers
    unfold topLevelCalls
    rw [hb, ho, List.filterMap_append, List.filterMap_append, List.filterMap_cons,
      List.filterMap_cons, same]
  unfold findCall
  rw [calls]

/-- Whatever the options and the format, detection accepts no call without the looks of a bootstrap. -/
theorem looksLikeBootstrap_of_detectAs {format : BundleFormat} {o : Options} {found : Detection}
    (h : (detectAs format call o).outcome = .ok found) : call.looksLikeBootstrap = true := by
  obtain ⟨s, hs, -⟩ := detectAs_ok h
  cases format with
  | classic => exact Classic.looksLikeBootstrap_of_shape hs
  | chunk => exact Chunk.looksLikeBootstrap_of_shape hs

/-- The search for the call ends without one if there is none, and else with the leftmost that looks
like a bootstrap, or the first if none does; then no call of the script starts a bundle, whatever the
options. Statements without the looks of a bootstrap do not count once another has them, and layers
around a statement never do. -/
theorem preferred_call_stable (program : Program) :
    ((findCall program).value = none ↔ ∀ stmt ∈ program.body, ∀ call, ¬ ConsistsOf stmt call) ∧
    (∀ call, (findCall program).value = some call ↔ Preferred program.body call) ∧
    (∀ (format : BundleFormat) (call : Call) (o : Options) (found : Detection),
      (detectAs format call o).outcome = .ok found → call.looksLikeBootstrap = true) ∧
    (∀ call, (findCall program).value = some call → call.looksLikeBootstrap = false →
      ∀ stmt ∈ program.body, ∀ other, ConsistsOf stmt other →
        ∀ (format : BundleFormat) (o : Options) (found : Detection),
          (detectAs format other o).outcome ≠ .ok found) ∧
    (∀ edited : Program, ReflTransGen Edit program.body edited.body →
      (∃ stmt ∈ program.body, ∃ call, ConsistsOf stmt call ∧ call.looksLikeBootstrap = true) →
        (findCall edited).value = (findCall program).value) ∧
    ∀ (before : List Stmt) (span : Span) (e : Expr) (after : List Stmt) (span' : Span) (e' : Expr)
      (wrapped : Program), program.body = before ++ .expression span e :: after →
        ReflTransGen Layer e e' → wrapped.body = before ++ .expression span' e' :: after →
          findCall wrapped = findCall program := by
  refine ⟨findCall_eq_none_iff, fun _ => findCall_eq_some_iff,
    fun _ _ _ _ => looksLikeBootstrap_of_detectAs, ?_, ?_,
    fun _ _ _ _ _ _ _ hb layers ho => findCall_wrapped hb layers ho⟩
  · intro call hc plain stmt hm other consists format o found accepted
    obtain ⟨_, _, _, -, -, ⟨looks, -⟩ | ⟨ordinary, -⟩⟩ := findCall_eq_some_iff.mp hc
    · rw [plain] at looks
      cases looks
    · have looks := looksLikeBootstrap_of_detectAs accepted
      rw [ordinary stmt hm other consists] at looks
      cases looks
  · rintro edited edits ⟨stmt, hm, call, consists, looks⟩
    refine findCall_edited edits ⟨stmt, hm, fun ordinary => ?_⟩
    rw [ordinary call consists] at looks
    cases looks

/-- Beside a chunk, another statement goes and is negated without effect. Alone it is taken and starts
no bundle. The chunk's call is accepted. -/
theorem preferred_call_stable_chunk :
    (∃ program, Program.ofSource "init();webpackJsonp([0,{},0]);" = .ok program ∧
      ∃ span e rest, program.body = .expression span e :: rest ∧ Ordinary (.expression span e) ∧
        (findCall ⟨rest, 0⟩).value = (findCall program).value ∧
        findCall ⟨.expression span (.unary span .not e) :: rest, 0⟩ = findCall program) ∧
    (∃ program, Program.ofSource "init();" = .ok program ∧
      ∃ call stmt, (findCall program).value = some call ∧ stmt ∈ program.body ∧
        ConsistsOf stmt call ∧ ∀ found, (detectAs .chunk call {}).outcome ≠ .ok found) ∧
    ∃ program, Program.ofSource "webpackJsonp([0,{},0]);" = .ok program ∧
      ∃ call found, (findCall program).value = some call ∧
        (detectAs call.inferredFormat call {}).outcome = .ok found ∧
        call.looksLikeBootstrap = true := by
  refine ⟨?_, ?_, ?_⟩
  · obtain ⟨program, hp, ⟨first, hf, plain, hc, tame⟩, stmt, hm, looks⟩ : ∃ program,
        Program.ofSource "init();webpackJsonp([0,{},0]);" = .ok program ∧
          (∃ first ∈ program.body.head?, ∃ plain ∈ Call.ofStmt? first, bootstrap? first = none) ∧
            ∃ stmt ∈ program.body.tail, (bootstrap? stmt).isSome := exists_ok (by decide +kernel)
    obtain ⟨rest, hb⟩ := List.head?_eq_some_iff.mp hf
    obtain ⟨span, e, rfl, -⟩ := Call.ofStmt?_eq_some_iff.mp hc
    have ordinary : Ordinary (.expression span e) := bootstrap?_eq_none_iff.mp tame
    obtain ⟨call, hl⟩ := Option.isSome_iff_exists.mp looks
    have looking : ∃ stmt ∈ program.body, ∃ call, ConsistsOf stmt call ∧
        call.looksLikeBootstrap = true :=
      ⟨stmt, List.mem_of_mem_tail hm, call, bootstrap?_eq_some_iff.mp hl⟩
    have removed : ReflTransGen Edit program.body rest := by
      rw [hb]
      exact .single (.delete [] rest ordinary)
    refine ⟨program, hp, span, e, rest, hb, ordinary, ?_, ?_⟩
    · exact (preferred_call_stable program).2.2.2.2.1 ⟨rest, 0⟩ removed looking
    · exact (preferred_call_stable program).2.2.2.2.2 [] span e rest span _
        ⟨.expression span (.unary span .not e) :: rest, 0⟩ hb (.single (.not span e)) rfl
  · obtain ⟨program, hp, call, hc, looks⟩ : ∃ program, Program.ofSource "init();" = .ok program ∧
        ∃ call ∈ (findCall program).value, call.looksLikeBootstrap = false :=
      exists_ok (by decide +kernel)
    obtain ⟨before, stmt, after, hb, consists, -⟩ :=
      ((preferred_call_stable program).2.1 call).mp hc
    have hm : stmt ∈ program.body := hb ▸ List.mem_append_right before List.mem_cons_self
    exact ⟨program, hp, call, stmt, hc, hm, consists,
      (preferred_call_stable program).2.2.2.1 call hc looks stmt hm call consists .chunk {}⟩
  · obtain ⟨program, hp, call, hc, found, accepted⟩ : ∃ program,
        Program.ofSource "webpackJsonp([0,{},0]);" = .ok program ∧
          ∃ call ∈ (findCall program).value, Accepted {} call := exists_ok (by decide +kernel)
    rw [detect_result] at accepted
    exact ⟨program, hp, call, found, hc, accepted,
      (preferred_call_stable program).2.2.1 call.inferredFormat call {} found accepted⟩

end BundleLens.Bundle
