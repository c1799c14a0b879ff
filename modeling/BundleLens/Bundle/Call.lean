import BundleLens.Event

namespace BundleLens.Bundle

open Script

structure Call where
  span : Span
  callee : Expr
  arguments : List Argument

/-- The call under the parentheses and the operators `!` and `void` of an expression. -/
def Call.ofExpr? : Expr → Option Call
  | .paren _ inner => ofExpr? inner
  | .call span callee passed => some ⟨span, callee, passed⟩
  | .unary _ op operand => if op = .not ∨ op = .void then ofExpr? operand else none
  | _ => none

def Call.ofStmt? : Stmt → Option Call
  | .expression _ e => ofExpr? e
  | _ => none

def isArray (e : Expr) : Bool :=
  match e.bare with
  | .array .. => true
  | _ => false

def isObject (e : Expr) : Bool :=
  match e.bare with
  | .object .. => true
  | _ => false

def isFunction (e : Expr) : Bool :=
  match e.bare with
  | .function .. => true
  | _ => false

namespace Call

def firstArgument? (call : Call) : Option Expr := call.arguments.head?.bind Argument.expr?

/-- Whether a call looks like the start of a bundle: a function is called with a table, or anything
else with nothing but an array. -/
def looksLikeBootstrap (call : Call) : Bool :=
  if isFunction call.callee then call.firstArgument?.any fun e => isArray e || isObject e
  else call.arguments.length == 1 && call.firstArgument?.any isArray

def inferredFormat (call : Call) : BundleFormat :=
  if isFunction call.callee then .classic else .chunk

end Call

def topLevelCalls (program : Program) : List Call := program.body.filterMap Call.ofStmt?

/-- The first call at the top level that looks like the start of a bundle, or else the first call. -/
def findCall (program : Program) : Traced (Option Call) := do
  match topLevelCalls program with
  | [] => return none
  | first :: others =>
    if first.looksLikeBootstrap then return some first
    match others.find? Call.looksLikeBootstrap with
    | some call =>
      Traced.record (.callFound call.span.start)
      return some call
    | none => return some first

end BundleLens.Bundle
