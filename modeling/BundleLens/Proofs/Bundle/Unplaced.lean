import BundleLens.Proofs.Bundle.Shape

namespace BundleLens.Script

mutual

/-- The same expression with every extent set to the empty one. -/
def Expr.unplaced : Expr → Expr
  | .identifier _ name => .identifier default name
  | .this _ => .this default
  | .number _ value => .number default value
  | .string _ value => .string default value
  | .template _ chunks items => .template default chunks (unplacedExprs items)
  | .array _ elements => .array default (unplacedElements elements)
  | .object _ properties => .object default (unplacedProperties properties)
  | .function _ body => .function default (unplacedStmts body)
  | .unary _ op operand => .unary default op operand.unplaced
  | .logical _ op left right => .logical default op left.unplaced right.unplaced
  | .assign _ op target value => .assign default op target.unplaced value.unplaced
  | .member _ object name => .member default object.unplaced name
  | .index _ object key => .index default object.unplaced key.unplaced
  | .privateMember _ object name => .privateMember default object.unplaced name
  | .call _ callee passed => .call default callee.unplaced (unplacedArguments passed)
  | .sequence _ items => .sequence default (unplacedExprs items)
  | .paren _ inner => .paren default inner.unplaced
  | .other _ => .other default

def Element.unplaced : Element → Element
  | .hole _ => .hole default
  | .spread _ value => .spread default value.unplaced
  | .item value => .item value.unplaced

def Argument.unplaced : Argument → Argument
  | .spread _ value => .spread default value.unplaced
  | .item value => .item value.unplaced

def Property.unplaced : Property → Property
  | .entry _ key value => .entry default key value.unplaced
  | .spread _ value => .spread default value.unplaced

def Stmt.unplaced : Stmt → Stmt
  | .expression _ value => .expression default value.unplaced
  | .returning _ none => .returning default none
  | .returning _ (some value) => .returning default (some value.unplaced)
  | .other _ => .other default

def unplacedExprs : List Expr → List Expr
  | [] => []
  | e :: r => e.unplaced :: unplacedExprs r

def unplacedElements : List Element → List Element
  | [] => []
  | e :: r => e.unplaced :: unplacedElements r

def unplacedArguments : List Argument → List Argument
  | [] => []
  | a :: r => a.unplaced :: unplacedArguments r

def unplacedProperties : List Property → List Property
  | [] => []
  | p :: r => p.unplaced :: unplacedProperties r

def unplacedStmts : List Stmt → List Stmt
  | [] => []
  | s :: r => s.unplaced :: unplacedStmts r

end

private theorem eq_map {α : Type} {f : List α → List α} {g : α → α} (nil : f [] = [])
    (cons : ∀ a r, f (a :: r) = g a :: f r) (l : List α) : f l = l.map g := by
  induction l with
  | nil => exact nil
  | cons a r ih => rw [cons, ih, List.map_cons]

@[simp] theorem unplacedExprs_eq (items : List Expr) :
    unplacedExprs items = items.map Expr.unplaced := eq_map rfl (fun _ _ => rfl) items

@[simp] theorem unplacedElements_eq (elements : List Element) :
    unplacedElements elements = elements.map Element.unplaced := eq_map rfl (fun _ _ => rfl) elements

@[simp] theorem unplacedArguments_eq (passed : List Argument) :
    unplacedArguments passed = passed.map Argument.unplaced := eq_map rfl (fun _ _ => rfl) passed

@[simp] theorem unplacedProperties_eq (properties : List Property) :
    unplacedProperties properties = properties.map Property.unplaced := eq_map rfl (fun _ _ => rfl) properties

@[simp] theorem unplacedStmts_eq (body : List Stmt) :
    unplacedStmts body = body.map Stmt.unplaced := eq_map rfl (fun _ _ => rfl) body

section Forms
variable (span : Span) {e key left right : Expr}

private theorem Expr.unplaced_array (elements : List Element) :
    (array span elements).unplaced = .array default (elements.map Element.unplaced) :=
  congrArg (array default) (unplacedElements_eq elements)

private theorem Expr.unplaced_object (properties : List Property) :
    (object span properties).unplaced = .object default (properties.map Property.unplaced) :=
  congrArg (object default) (unplacedProperties_eq properties)

theorem Expr.unplaced_function (body : List Stmt) :
    (function span body).unplaced = .function default (body.map Stmt.unplaced) :=
  congrArg (function default) (unplacedStmts_eq body)

private theorem Expr.unplaced_call (passed : List Argument) :
    (call span e passed).unplaced = .call default e.unplaced (passed.map Argument.unplaced) :=
  congrArg (call default e.unplaced) (unplacedArguments_eq passed)

private theorem Expr.unplaced_sequence (items : List Expr) :
    (sequence span items).unplaced = .sequence default (items.map Expr.unplaced) :=
  congrArg (sequence default) (unplacedExprs_eq items)

theorem Expr.unplaced_logical (op : LogicalOp) :
    (logical span op left right).unplaced = .logical default op left.unplaced right.unplaced := rfl

theorem Expr.unplaced_assign (op : AssignOp) :
    (assign span op left right).unplaced = .assign default op left.unplaced right.unplaced := rfl

theorem Expr.unplaced_member (name : String) :
    (member span e name).unplaced = .member default e.unplaced name := rfl

theorem Expr.unplaced_index :
    (index span e key).unplaced = .index default e.unplaced key.unplaced := rfl

theorem Argument.unplaced_item : (item e).unplaced = .item e.unplaced := rfl

theorem Stmt.unplaced_returning :
    (returning span (some e)).unplaced = .returning default (some e.unplaced) := rfl

end Forms

theorem Expr.unplaced_bare (e : Expr) : e.unplaced.bare = e.bare.unplaced := by
  induction e using Expr.bare.induct with
  | case1 span inner ih => exact ih
  | case2 e h => cases e <;> first | rfl | exact (h _ _ rfl).elim

private theorem Element.unplaced_expr? (element : Element) :
    element.unplaced.expr? = element.expr?.map Expr.unplaced := by
  cases element <;> rfl

private theorem Argument.unplaced_expr? (passed : Argument) :
    passed.unplaced.expr? = passed.expr?.map Expr.unplaced := by
  cases passed <;> rfl

end BundleLens.Script

namespace BundleLens.Bundle
open Script

def Table.unplaced : Table → Table
  | .array _ elements => .array default (elements.map Element.unplaced)
  | .object _ properties => .object default (properties.map Property.unplaced)

def Call.unplaced (call : Call) : Call :=
  ⟨default, call.callee.unplaced, call.arguments.map Argument.unplaced⟩

def Shape.unplaced (s : Shape) : Shape := ⟨s.table.unplaced, s.named⟩

def Detection.unplaced (d : Detection) : Detection := { d with table := d.table.unplaced }

private theorem Table.ofExpr?_unplaced (e : Expr) :
    ofExpr? e.unplaced = (ofExpr? e).map Table.unplaced := by
  unfold ofExpr?
  rw [e.unplaced_bare]
  cases e.bare with
  | array span elements => rw [Expr.unplaced_array]; rfl
  | object span properties => rw [Expr.unplaced_object]; rfl
  | _ => rfl

private theorem Table.ofElement?_unplaced (element : Element) :
    element.unplaced.expr?.bind Table.ofExpr? =
      (element.expr?.bind Table.ofExpr?).map Table.unplaced := by
  rw [element.unplaced_expr?]
  cases element.expr? with
  | none => rfl
  | some e => exact Table.ofExpr?_unplaced e

private theorem isFunction_unplaced (e : Expr) : isFunction e.unplaced = isFunction e := by
  unfold isFunction
  rw [e.unplaced_bare]
  cases e.bare <;> rfl

private theorem Call.firstArgument?_unplaced (call : Call) :
    call.unplaced.firstArgument? = call.firstArgument?.map Expr.unplaced := by
  unfold firstArgument? unplaced
  cases call.arguments with
  | nil => rfl
  | cons passed r => exact passed.unplaced_expr?

private theorem Call.table?_unplaced (call : Call) :
    call.unplaced.firstArgument?.bind Table.ofExpr? =
      (call.firstArgument?.bind Table.ofExpr?).map Table.unplaced := by
  rw [call.firstArgument?_unplaced]
  cases call.firstArgument? with
  | none => rfl
  | some e => exact Table.ofExpr?_unplaced e

private theorem Call.inferredFormat_unplaced (call : Call) :
    call.unplaced.inferredFormat = call.inferredFormat := by
  unfold inferredFormat unplaced
  rw [isFunction_unplaced]

namespace Classic

theorem finalCall?_unplaced (e : Expr) :
    finalCall? e.unplaced = (finalCall? e).map (List.map Argument.unplaced) := by
  unfold finalCall?
  rw [e.unplaced_bare]
  cases e.bare with
  | call span callee passed => rw [Expr.unplaced_call]; rfl
  | sequence span items =>
    simp only [Expr.unplaced_sequence, List.getLast?_map]
    cases items.getLast? with
    | none => rfl
    | some last =>
      simp only [Option.map_some, last.unplaced_bare]
      cases last.bare with
      | call span callee passed => rw [Expr.unplaced_call]; rfl
      | _ => rfl
  | _ => rfl

theorem idOfArgument?_unplaced (passed : Argument) :
    idOfArgument? passed.unplaced = idOfArgument? passed := by
  cases passed with
  | spread => rfl
  | item e =>
    cases e with
    | assign span op target value =>
      simp only [Argument.unplaced_item, Expr.unplaced_assign, idOfArgument?,
        value.unplaced_bare]
      cases value.bare <;> rfl
    | _ => rfl

private theorem namedId?_unplaced (body : List Stmt) :
    namedId? (body.map Stmt.unplaced) = namedId? body := by
  unfold namedId?
  rw [List.getLast?_map]
  rcases body.getLast? with _ | ⟨_ | ⟨span, _ | e⟩ | _⟩
  case some.returning.some =>
    simp only [Option.map_some, Stmt.unplaced_returning, finalCall?_unplaced]
    rcases finalCall? e with _ | _ | ⟨passed, r⟩
    · rfl
    · rfl
    · exact idOfArgument?_unplaced passed
  all_goals rfl

private theorem shape_unplaced (call : Call) :
    shape call.unplaced = (shape call).map Shape.unplaced := by
  unfold shape
  rw [call.table?_unplaced]
  have callee : call.unplaced.callee.bare = call.callee.bare.unplaced := call.callee.unplaced_bare
  rw [callee]
  cases call.callee.bare with
  | function span body =>
    simp only [Expr.unplaced_function, namedId?_unplaced]
    cases call.firstArgument?.bind Table.ofExpr? <;> rfl
  | _ => rfl

end Classic

namespace Chunk

private theorem isGlobal_unplaced (e : Expr) : isGlobal e.unplaced = isGlobal e := by
  unfold isGlobal
  rw [e.unplaced_bare]
  cases e.bare <;> rfl

private theorem isString_unplaced (value : String) (e : Expr) :
    isString value e.unplaced = isString value e := by
  unfold isString
  rw [e.unplaced_bare]
  cases e.bare <;> rfl

private theorem isBareSlot_unplaced (loader : String) (e : Expr) :
    isBareSlot loader e.unplaced = isBareSlot loader e := by
  cases e with
  | member span object name => simp only [Expr.unplaced_member, isBareSlot, isGlobal_unplaced]
  | index span object key =>
    simp only [Expr.unplaced_index, isBareSlot, isGlobal_unplaced, isString_unplaced]
  | _ => rfl

private theorem isLoaderInit_unplaced (loader : String) (e : Expr) :
    isLoaderInit loader e.unplaced = isLoaderInit loader e := by
  unfold isLoaderInit
  rw [e.unplaced_bare]
  cases e.bare with
  | assign span op target value =>
    cases op with
    | plain =>
      simp only [Expr.unplaced_assign, value.unplaced_bare]
      cases value.bare with
      | logical span op left right =>
        simp only [Expr.unplaced_logical, isBareSlot_unplaced, left.unplaced_bare]
      | _ => rfl
    | _ => rfl
  | _ => rfl

private theorem isLoaderCallee_unplaced (loader : String) (e : Expr) :
    isLoaderCallee loader e.unplaced = isLoaderCallee loader e := by
  cases e with
  | member span object name =>
    simp only [Expr.unplaced_member, isLoaderCallee, isLoaderInit_unplaced]
  | index span object key =>
    simp only [Expr.unplaced_index, isLoaderCallee, isLoaderInit_unplaced, isString_unplaced]
  | _ => rfl

theorem slots?_unplaced (call : Call) :
    slots? call.unplaced = (slots? call).map (Prod.map Element.unplaced Element.unplaced) := by
  unfold slots? Call.unplaced
  rcases call.arguments with _ | ⟨_ | e, _ | _⟩
  case cons.item.nil =>
    simp only [List.map_cons, List.map_nil, Argument.unplaced_item, e.unplaced_bare]
    cases e.bare with
    | array span elements =>
      rcases elements with _ | ⟨_, _ | ⟨_, _ | ⟨_, _ | _⟩⟩⟩ <;> rfl
    | _ => rfl
  all_goals rfl

private theorem idOfLiteral?_unplaced (literal : Element) :
    idOfLiteral? literal.unplaced = idOfLiteral? literal := by
  cases literal with
  | item e =>
    cases e with
    | template span chunks items => rcases chunks with _ | ⟨_ | _, _⟩ <;> cases items <;> rfl
    | _ => rfl
  | _ => rfl

theorem only?_unplaced (element : Element) :
    only? element.unplaced = (only? element).map Element.unplaced := by
  rcases element with _ | _ | e
  case item =>
    cases e with
    | array span elements => rcases elements with _ | ⟨_, _ | _⟩ <;> rfl
    | _ => rfl
  all_goals rfl

private theorem namedId?_unplaced (entry : Element) : namedId? entry.unplaced = namedId? entry := by
  rw [namedId?_eq, namedId?_eq]
  unfold entryLiteral?
  rw [only?_unplaced]
  cases only? entry with
  | none => rfl
  | some inner =>
    simp only [Option.map_some, Option.bind_some, only?_unplaced]
    cases only? inner with
    | none => rfl
    | some literal => exact idOfLiteral?_unplaced literal

private theorem shape_unplaced (loader : String) (call : Call) :
    shape loader call.unplaced = (shape loader call).map Shape.unplaced := by
  have function : isFunction call.unplaced.callee = isFunction call.callee :=
    isFunction_unplaced call.callee
  have callee :
      isLoaderCallee loader call.unplaced.callee.bare = isLoaderCallee loader call.callee.bare := by
    rw [← isLoaderCallee_unplaced loader call.callee.bare, ← call.callee.unplaced_bare]
    rfl
  unfold shape
  rw [function, callee, slots?_unplaced]
  split
  · rfl
  split
  · rcases slots? call with _ | ⟨tableSlot, entrySlot⟩
    · rfl
    · simp only [Option.map_some, Prod.map_apply, namedId?_unplaced, Table.ofElement?_unplaced]
      cases tableSlot.expr?.bind Table.ofExpr? <;> rfl
  · rfl

end Chunk

private theorem shapeAs_unplaced (format : BundleFormat) (loader : String) (call : Call) :
    shapeAs format loader call.unplaced = (shapeAs format loader call).map Shape.unplaced := by
  cases format with
  | classic => exact Classic.shape_unplaced call
  | chunk => exact Chunk.shape_unplaced loader call

private theorem Detection.withEntry_unplaced (format : BundleFormat) (table : Table) (o : Options)
    (named : Option ModuleId) :
    withEntry format table.unplaced o named = (withEntry format table o named).unplaced := by
  unfold withEntry
  split <;> rfl

theorem Shape.settle_unplaced (format : BundleFormat) (o : Options) (s : Shape) :
    s.unplaced.settle format o = (s.settle format o).map Detection.unplaced := by
  have found : Detection.withEntry format s.unplaced.table o s.unplaced.named =
      (Detection.withEntry format s.table o s.named).unplaced := Detection.withEntry_unplaced ..
  unfold settle
  rw [found]
  dsimp only
  rw [apply_ite (Except.map Detection.unplaced)]
  rfl

def detectUnplaced (call : Call) (o : Options) : Except Failure Detection × Options :=
  ((detect call o).value.1.map Detection.unplaced, (detect call o).value.2)

theorem detect_unplaced (call : Call) (o : Options) :
    (detect call.unplaced o).value = detectUnplaced call o := by
  have result : (detect call.unplaced o).value.1 =
      (detect call o).value.1.map Detection.unplaced := by
    rw [detect_result, detect_result, call.inferredFormat_unplaced, detectAs_outcome,
      detectAs_outcome, shapeAs_unplaced]
    cases shapeAs (o.format.getD call.inferredFormat) o.chunkGlobal call with
    | error failure => rfl
    | ok s => exact s.settle_unplaced ..
  refine Prod.ext result ?_
  rw [detect_options, result]
  unfold detectUnplaced
  rw [detect_options]
  cases (detect call o).value.1 <;> rfl

end BundleLens.Bundle
