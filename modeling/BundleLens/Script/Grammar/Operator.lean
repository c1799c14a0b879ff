import BundleLens.Script.Grammar.Operand
import BundleLens.Script.Grammar.Target

namespace BundleLens.Script.Grammar

def unaryOp? (t : Token) : Option UnaryOp :=
  match t.kind with
  | .mark "!" => some .not
  | .mark "+" => some .plus
  | .mark "-" => some .minus
  | .mark "~" => some .complement
  | .word "void" _ => some .void
  | .word "typeof" _ => some .typeof
  | .word "delete" _ => some .delete
  | _ => none

def assignOp? (t : Token) : Option AssignOp :=
  match t.kind with
  | .mark "=" => some .plain
  | .mark "+=" => some .add
  | .mark "-=" => some .subtract
  | .mark "*=" => some .multiply
  | .mark "/=" => some .divide
  | .mark "%=" => some .remainder
  | .mark "**=" => some .power
  | .mark "<<=" => some .shiftLeft
  | .mark ">>=" => some .shiftRight
  | .mark ">>>=" => some .shiftRightZero
  | .mark "|=" => some .bitOr
  | .mark "^=" => some .bitXor
  | .mark "&=" => some .bitAnd
  | .mark "||=" => some .or
  | .mark "&&=" => some .and
  | .mark "??=" => some .coalesce
  | _ => none

/-- How tightly the binary operator that a token stands for binds. -/
def level? (t : Token) : Option Nat :=
  match t.kind with
  | .mark "??" => some 1
  | .mark "||" => some 2
  | .mark "&&" => some 3
  | .mark "|" => some 4
  | .mark "^" => some 5
  | .mark "&" => some 6
  | .mark "==" | .mark "!=" | .mark "===" | .mark "!==" => some 7
  | .mark "<" | .mark ">" | .mark "<=" | .mark ">=" => some 8
  | .word "in" _ | .word "instanceof" _ => some 8
  | .mark "<<" | .mark ">>" | .mark ">>>" => some 9
  | .mark "+" | .mark "-" => some 10
  | .mark "*" | .mark "/" | .mark "%" => some 11
  | .mark "**" => some 12
  | _ => none

def logicalOp? (t : Token) : Option LogicalOp :=
  match t.kind with
  | .mark "||" => some .or
  | .mark "&&" => some .and
  | .mark "??" => some .coalesce
  | _ => none

/-- Whether a token on the same line makes a word before it an operator even where the surroundings
do not say so: a literal or a word that is no operator itself. -/
private def beginsOperand (t : Token) : Bool :=
  !t.newline &&
  match t.kind with
  | .word text _ => text != "in" && text != "instanceof"
  | .number _ | .bigInteger | .string _ => true
  | _ => false

private def atAwait (s : Scope) : Parse Bool := do
  if !(← Parse.token).isPlainWord "await" then return false
  let following ← Parse.peek
  if following.isMark "=>" then return false
  return s.inAsync || (beginsOperand following && !following.isWord "of")

private def atYield (s : Scope) : Parse Bool := do
  if !(← Parse.token).isPlainWord "yield" then return false
  if s.inGenerator then return true
  return beginsOperand (← Parse.peek)

private def atUpdate : Parse Bool := do
  let t ← Parse.token
  return t.isMark "++" || t.isMark "--"

private def requireSimpleTarget (e : Expr) : Parse Unit := do
  unless e.isSimpleTarget do throw (.invalidTarget e.span.start)

private def updateTail (start : Nat) (operand : Expr) : Parse Expr := do
  if (← atUpdate) && !(← Parse.token).newline then
    requireSimpleTarget operand
    Parse.advance
    return .other (← Parse.spanFrom start)
  else return operand

def unaryBody (g : Grammar) (s : Scope) : Parse Expr := do
  let start ← Parse.here
  let t ← Parse.token
  if ← atUpdate then
    Parse.advance
    requireSimpleTarget (← g.unary s)
    return .other (← Parse.spanFrom start)
  else if ← atAwait s then
    Parse.advance
    let _ ← g.unary s
    return .other (← Parse.spanFrom start)
  else
    match unaryOp? t with
    | some op =>
      Parse.advance
      let operand ← g.unary s
      return .unary (← Parse.spanFrom start) op operand
    | none => updateTail start (← leftHandBody g s)

/-- The binary operators above a level that follow an operand, with their right operands. The power
operator groups to the right, every other one to the left. -/
def binaryTail (g : Grammar) (s : Scope) (above start : Nat) (left : Expr) : Parse Expr := do
  let step : Expr → Parse (Option Expr) := fun left => do
    let t ← Parse.token
    match level? t with
    | none => return none
    | some level =>
      let ends := if t.isMark "**" then level < above else level ≤ above
      if ends || (t.isWord "in" && !s.admitsIn) then return none
      Parse.advance
      let right ← g.binary s level
      let span ← Parse.spanFrom start
      match logicalOp? t with
      | some op => return some (.logical span op left right)
      | none => return some (.other span)
  Parse.extend step g.limit left

def binaryBody (g : Grammar) (s : Scope) (above : Nat) : Parse Expr := do
  let start ← Parse.here
  match (← Parse.token).kind with
  | .privateName _ =>
    Parse.advance
    unless s.admitsIn && (← Parse.token).isWord "in" do Parse.unexpected
    binaryTail g s above start (.other (← Parse.spanFrom start))
  | _ => binaryTail g s above start (← g.unary s)

/-- Accepts a literal as a pattern: the default values of its shorthand properties are no faults. -/
def acceptPattern (pattern : Expr) : Parse Unit :=
  let starts := pattern.patternStarts
  modify fun r => { r with shorthands := r.shorthands.filter fun n => !starts.contains n }

private def assignmentTail (g : Grammar) (s : Scope) (start : Nat) (left : Expr) : Parse Expr := do
  let t ← Parse.token
  if t.isMark "?" then
    Parse.advance
    let _ ← g.assignment s.withIn
    Parse.expectMark ":"
    let _ ← g.assignment s
    return .other (← Parse.spanFrom start)
  else
    match assignOp? t with
    | none => return left
    | some op =>
      let fits := if op = .plain then left.isTarget else left.isSimpleTarget
      unless fits do throw (.invalidTarget left.span.start)
      acceptPattern left
      Parse.advance
      let value ← g.assignment s
      return .assign (← Parse.spanFrom start) op left.bare value

private def arrowTail (g : Grammar) (s : Scope) (start : Nat) (async : Bool) : Parse Expr := do
  if (← Parse.token).newline then Parse.unexpected
  Parse.expectMark "=>"
  let inner := { Scope.function async false with admitsIn := s.admitsIn }
  if (← Parse.token).isMark "\x7b" then
    let _ ← functionBody g inner.withIn
  else
    let _ ← g.assignment inner
  return .other (← Parse.spanFrom start)

private def operandTail (g : Grammar) (s : Scope) (start : Nat) (operand : Expr) : Parse Expr := do
  let operand ← callTail g s start (operand, false)
  let operand ← updateTail start operand
  let left ← binaryTail g s 0 start operand
  assignmentTail g s start left

/-- The contents of a parenthesis where an arrow function may stand: the items in reverse, and the
stretch from the first to the last. An empty list, a rest and a comma at the end are `arrowOnly`. -/
private structure Group where
  items : List Expr
  span : Span
  arrowOnly : Bool

/-- The contents of a parenthesis up to its end. Items are read alike for an expression and for the
parameters of an arrow function. -/
private def group (g : Grammar) (s : Scope) : Parse Group := do
  let start ← Parse.here
  let step : Group → Parse (Option Group) := fun seen => do
    if (← Parse.token).isMark ")" then return none
    else if ← Parse.eatMark "..." then
      g.pattern s
      unless (← Parse.token).isMark ")" do Parse.unexpected
      return some { seen with arrowOnly := true }
    else
      let item ← g.assignment s.withIn
      let span ← Parse.spanFrom start
      let comma ← Parse.eatMark ","
      unless comma || (← Parse.token).isMark ")" do Parse.unexpected
      return some ⟨item :: seen.items, span, comma⟩
  Parse.extend step g.limit ⟨[], ⟨start, start⟩, true⟩

private def groupOrArrow (g : Grammar) (s : Scope) : Parse Expr := do
  let start ← Parse.here
  Parse.expectMark "("
  let contents ← group g s
  Parse.expectMark ")"
  let items := contents.items.reverse
  if (← Parse.token).isMark "=>" then
    unless items.all Expr.isParameter do throw (.invalidTarget start)
    items.forM acceptPattern
    arrowTail g s start false
  else
    if contents.arrowOnly then Parse.unexpected
    let inner := match items with
      | [item] => item
      | items => .sequence contents.span items
    operandTail g s start (.paren (← Parse.spanFrom start) inner)

/-- What the word `async` begins where an arguments list follows it on its line: a call, or an
asynchronous arrow function. -/
private def asyncCallOrArrow (g : Grammar) (s : Scope) : Parse Expr := do
  let start ← Parse.here
  let name ← Parse.expectName
  let callee : Expr := .identifier (← Parse.spanFrom start) name
  let passed ← arguments g s
  if (← Parse.token).isMark "=>" then
    unless argumentsAreParameters passed do throw (.invalidTarget start)
    passed.forM fun
      | .item e | .spread _ e => acceptPattern e
    arrowTail g s start true
  else operandTail g s start (.call (← Parse.spanFrom start) callee passed)

private def yieldExpression (g : Grammar) (s : Scope) : Parse Expr := do
  let start ← Parse.here
  Parse.advance
  unless (← Parse.token).newline do
    let delegates ← Parse.eatMark "*"
    let t ← Parse.token
    let bare := [";", "\x7d", ")", "]", ":", ","].any t.isMark || t.isWord "in" || t.kind == .ending
    if delegates || !bare then
      let _ ← g.assignment s
  return .other (← Parse.spanFrom start)

def assignmentBody (g : Grammar) (s : Scope) : Parse Expr := do
  let t ← Parse.token
  if t.isMark "(" then groupOrArrow g s
  else if ← atYield s then yieldExpression g s
  else
    if t.name?.isSome then
      let following ← Parse.peek
      if following.isMark "=>" then
        Parse.advance
        return (← arrowTail g s t.start false)
      if t.isPlainWord "async" && !following.newline then
        if following.isMark "(" then return (← asyncCallOrArrow g s)
        if following.name?.isSome then
          let arrow ← following.after
          if arrow.isMark "=>" then
            Parse.advance
            Parse.advance
            return (← arrowTail g s t.start true)
    let left ← g.binary s 0
    assignmentTail g s t.start left

end BundleLens.Script.Grammar
