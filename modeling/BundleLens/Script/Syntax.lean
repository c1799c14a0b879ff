import BundleLens.Number.Binary64

/-! Syntax trees of scripts, as far as the search for bundles looks into them. An expression or
statement of any other shape keeps its extent only. -/
namespace BundleLens.Script

open Number (Binary64)

/-- A stretch of the source in UTF-8 bytes; `stop` is the first byte after it. -/
structure Span where
  start : Nat
  stop : Nat
  deriving DecidableEq, Inhabited

inductive UnaryOp where
  | not | void | typeof | delete | plus | minus | complement
  deriving DecidableEq

/-- The operators that may skip their right operand. -/
inductive LogicalOp where
  | or | and | coalesce
  deriving DecidableEq

inductive AssignOp where
  | plain | add | subtract | multiply | divide | remainder | power
  | shiftLeft | shiftRight | shiftRightZero | bitOr | bitXor | bitAnd | or | and | coalesce
  deriving DecidableEq

/-- The name of a property in an object literal. A computed key that is a plain string or number
literal counts as that literal; every other computed key and a big integer is `unsupported`. -/
inductive Key where
  | identifier (name : String)
  | string (value : String)
  | number (value : Binary64)
  | unsupported
  deriving DecidableEq

mutual

/-- An expression. Parentheses are part of the tree. -/
inductive Expr where
  | identifier (span : Span) (name : String)
  | this (span : Span)
  | number (span : Span) (value : Binary64)
  | string (span : Span) (value : String)
  /-- A template without tag. A chunk is `none` when an escape in it has no meaning. -/
  | template (span : Span) (chunks : List (Option String)) (substitutions : List Expr)
  | array (span : Span) (elements : List Element)
  | object (span : Span) (properties : List Property)
  /-- A function expression, generators and asynchronous functions included. Directives at the
  start of the body are not among its statements. -/
  | function (span : Span) (body : List Stmt)
  | unary (span : Span) (op : UnaryOp) (operand : Expr)
  | logical (span : Span) (op : LogicalOp) (left right : Expr)
  /-- An assignment. Parentheses around a target are not kept. -/
  | assign (span : Span) (op : AssignOp) (target value : Expr)
  | member (span : Span) (object : Expr) (name : String)
  | index (span : Span) (object key : Expr)
  | privateMember (span : Span) (object : Expr) (name : String)
  | call (span : Span) (callee : Expr) (arguments : List Argument)
  | sequence (span : Span) (items : List Expr)
  | paren (span : Span) (inner : Expr)
  | other (span : Span)

inductive Element where
  | hole (span : Span)
  | spread (span : Span) (value : Expr)
  | item (value : Expr)

inductive Argument where
  | spread (span : Span) (value : Expr)
  | item (value : Expr)

/-- A property of an object literal. A method, getter or setter is an entry whose value is a
function that starts at the parameter list. -/
inductive Property where
  | entry (span : Span) (key : Key) (value : Expr)
  | spread (span : Span) (value : Expr)

inductive Stmt where
  | expression (span : Span) (value : Expr)
  | returning (span : Span) (value : Option Expr)
  | other (span : Span)

end

instance : Inhabited Expr := ⟨.other default⟩
instance : Inhabited Stmt := ⟨.other default⟩

def Expr.span : Expr → Span
  | .identifier s _ | .this s | .number s _ | .string s _ | .template s _ _ | .array s _
  | .object s _ | .function s _ | .unary s _ _ | .logical s _ _ _ | .assign s _ _ _
  | .member s _ _ | .index s _ _ | .privateMember s _ _ | .call s _ _ | .sequence s _
  | .paren s _ | .other s => s

def Expr.bare : Expr → Expr
  | .paren _ inner => inner.bare
  | e => e

def Element.expr? : Element → Option Expr
  | .item e => some e
  | _ => none

def Argument.expr? : Argument → Option Expr
  | .item e => some e
  | .spread .. => none

/-- A parsed script: its statements without leading directives, and how many faults the parser
passed over. -/
structure Program where
  body : List Stmt
  warnings : Nat
  deriving Inhabited

end BundleLens.Script
