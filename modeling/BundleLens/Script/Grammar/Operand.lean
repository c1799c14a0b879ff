import BundleLens.Script.Grammar.Class
import BundleLens.Script.Grammar.Literal

namespace BundleLens.Script.Grammar

private def regExp : Parse Expr := do
  let t ← Parse.token
  let literal ← t.asRegExp
  Parse.takeAnew literal
  return .other (← Parse.spanFrom t.start)

/-- An expression in parentheses. A sequence extends from its first item to its last. -/
private def parenthesized (g : Grammar) (s : Scope) : Parse Expr := do
  let start ← Parse.here
  Parse.expectMark "("
  let inner ← g.expression s.withIn
  Parse.expectMark ")"
  return .paren (← Parse.spanFrom start) inner

private def wordOperand (g : Grammar) (s : Scope) (t : Token) : Parse Expr := do
  if t.isWord "function" then functionExpression g
  else if t.isWord "class" then classExpression g s
  else if t.isWord "this" then
    let _ ← Parse.eatWord "this"
    return .this (← Parse.spanFrom t.start)
  else if ["null", "true", "false"].any t.isWord then
    Parse.advance
    return .other (← Parse.spanFrom t.start)
  else
    if t.isPlainWord "async" then
      let following ← Parse.peek
      if following.isWord "function" && !following.newline then return (← functionExpression g)
    let name ← Parse.expectName
    return .identifier (← Parse.spanFrom t.start) name

def primary (g : Grammar) (s : Scope) : Parse Expr := do
  let t ← Parse.token
  match t.kind with
  | .number value =>
    Parse.advance
    return .number (← Parse.spanFrom t.start) value
  | .string value =>
    Parse.advance
    return .string (← Parse.spanFrom t.start) value
  | .bigInteger =>
    Parse.advance
    return .other (← Parse.spanFrom t.start)
  | .template .. => templateLiteral g s
  | .word .. => wordOperand g s t
  | .mark "(" => parenthesized g s
  | .mark "[" => arrayLiteral g s
  | .mark "\x7b" => objectLiteral g s
  | .mark "/" | .mark "/=" => regExp
  | .mark "@" => classExpression g s
  | _ => Parse.unexpected

def arguments (g : Grammar) (s : Scope) : Parse (List Argument) := do
  Parse.expectMark "("
  let item : Parse Argument := do
    let start ← Parse.here
    if ← Parse.eatMark "..." then
      let value ← g.assignment s.withIn
      return .spread (← Parse.spanFrom start) value
    else return .item (← g.assignment s.withIn)
  Parse.commaSeparated g.limit ")" item

private def namedMember (start : Nat) (object : Expr) : Parse Expr := do
  match (← Parse.token).kind with
  | .word name _ =>
    Parse.advance
    return .member (← Parse.spanFrom start) object name
  | .privateName name =>
    Parse.advance
    return .privateMember (← Parse.spanFrom start) object name
  | _ => Parse.unexpected

private def computedMember (g : Grammar) (s : Scope) (start : Nat) (object : Expr) :
    Parse Expr := do
  Parse.expectMark "["
  let name ← g.expression s.withIn
  Parse.expectMark "]"
  return .index (← Parse.spanFrom start) object name

/-- A tagged template. As part of an optional chain it is a fault. -/
private def taggedTemplate (g : Grammar) (s : Scope) (start : Nat) (optional : Bool) :
    Parse Expr := do
  let _ ← templateParts g s
  if optional then Parse.warn
  return .other (← Parse.spanFrom start)

private def atTemplate : Parse Bool := do
  match (← Parse.token).kind with
  | .template .. => return true
  | _ => return false

/-- One member access or template after an operand, if one follows. The flag says whether any so far
was optional. -/
private def access (g : Grammar) (s : Scope) (start : Nat) :
    Expr × Bool → Parse (Option (Expr × Bool)) := fun (object, optional) => do
  let t ← Parse.token
  if t.isMark "." then
    Parse.advance
    return some (← namedMember start object, optional)
  else if t.isMark "[" then return some (← computedMember g s start object, optional)
  else if t.isMark "?." then
    let following ← Parse.peek
    if following.isMark "[" then
      Parse.advance
      return some (← computedMember g s start object, true)
    match following.kind with
    | .word .. | .privateName _ =>
      Parse.advance
      return some (← namedMember start object, true)
    | _ => return none
  else if ← atTemplate then return some (← taggedTemplate g s start optional, optional)
  else return none

private def invocation (g : Grammar) (s : Scope) (start : Nat) :
    Expr × Bool → Parse (Option (Expr × Bool)) := fun (callee, optional) => do
  let question ← Parse.eatMark "?."
  let optional := optional || question
  if question && (← atTemplate) then
    return some (← taggedTemplate g s start optional, optional)
  else if (← Parse.token).isMark "(" then
    let passed ← arguments g s
    return some (.call (← Parse.spanFrom start) callee passed, optional)
  else if question then Parse.unexpected
  else return none

private def construction (g : Grammar) (s : Scope) (start : Nat) : Parse Expr := do
  if ← Parse.eatMark "." then
    Parse.expectWord "target"
  else
    let (_, optional) ← g.constructed s
    if (← Parse.token).isMark "(" then
      let _ ← arguments g s
    if optional then Parse.warn
  return .other (← Parse.spanFrom start)

private def importExpression (g : Grammar) (s : Scope) (start : Nat) : Parse Expr := do
  if ← Parse.eatMark "." then
    match (← Parse.token).kind with
    | .word .. => Parse.advance
    | _ => Parse.unexpected
  else
    let _ ← arguments g s
  return .other (← Parse.spanFrom start)

private def superExpression (start : Nat) : Parse Expr := do
  let t ← Parse.token
  unless [".", "[", "("].any t.isMark do Parse.unexpected
  return .other (← Parse.spanFrom start)

def constructedBody (g : Grammar) (s : Scope) : Parse (Expr × Bool) := do
  let start ← Parse.here
  let operand ←
    if ← Parse.eatWord "new" then construction g s start
    else if ← Parse.eatWord "import" then importExpression g s start
    else if ← Parse.eatWord "super" then superExpression start
    else primary g s
  Parse.extend (access g s start) g.limit (operand, false)

/-- The calls, member accesses and templates after an operand. An optional chain is no call and no
member access, whatever it ends with. -/
def callTail (g : Grammar) (s : Scope) (start : Nat) (operand : Expr × Bool) : Parse Expr := do
  let step : Expr × Bool → Parse (Option (Expr × Bool)) := fun operand => do
    match ← access g s start operand with
    | some longer => return some longer
    | none => invocation g s start operand
  let (e, optional) ← Parse.extend step g.limit operand
  return if optional then .other e.span else e

def leftHandBody (g : Grammar) (s : Scope) : Parse Expr := do
  let start ← Parse.here
  let operand ← constructedBody g s
  callTail g s start operand

end BundleLens.Script.Grammar
