import BundleLens.Script.Reading

/-! The recursive productions of the grammar, and the surroundings that they depend on. -/
namespace BundleLens.Script

structure Scope where
  /-- The operator `in`; the head of a `for` loop excludes it. -/
  admitsIn : Bool
  /-- `await` is an operator. -/
  inAsync : Bool
  /-- `yield` is an operator. -/
  inGenerator : Bool
  /-- `return` has a function to leave. -/
  inFunction : Bool

def Scope.top : Scope := ⟨true, false, false, false⟩

def Scope.function (async generator : Bool) : Scope := ⟨true, async, generator, true⟩

def Scope.withIn (s : Scope) : Scope := { s with admitsIn := true }

/-- The productions that occur inside others. Every other production is a function of these, and
reaches one level deeper only through them; `limit` bounds every repetition at this level. -/
structure Grammar where
  limit : Nat
  /-- An expression without commas at its top. -/
  assignment : Scope → Parse Expr
  /-- Operands joined by binary operators that bind tighter than the given level. -/
  binary : Scope → Nat → Parse Expr
  /-- An operand with the operators before it. -/
  unary : Scope → Parse Expr
  /-- An operand with member accesses, calls and templates after it. -/
  leftHand : Scope → Parse Expr
  /-- An operand with member accesses after it, which `new` constructs. -/
  constructed : Scope → Parse (Expr × Bool)
  /-- A pattern that binds names. -/
  pattern : Scope → Parse Unit
  /-- A statement. The flag says that it stands alone as the body of another one. -/
  statement : Scope → Bool → Parse Stmt

namespace Grammar

def exhausted : Grammar where
  limit := 0
  assignment _ := throw .nestingTooDeep
  binary _ _ := throw .nestingTooDeep
  unary _ := throw .nestingTooDeep
  leftHand _ := throw .nestingTooDeep
  constructed _ := throw .nestingTooDeep
  pattern _ := throw .nestingTooDeep
  statement _ _ := throw .nestingTooDeep

def expression (g : Grammar) (s : Scope) : Parse Expr := do
  let start ← Parse.here
  let head ← g.assignment s
  let step : Parse (Option Expr) := do
    if ← Parse.eatMark "," then return some (← g.assignment s) else return none
  let tail ← Parse.collect step g.limit []
  if tail.isEmpty then return head
  else return .sequence (← Parse.spanFrom start) (head :: tail)

end Grammar

end BundleLens.Script
