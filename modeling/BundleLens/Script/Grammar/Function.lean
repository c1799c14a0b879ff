import BundleLens.Script.Grammar.ModuleDeclaration

namespace BundleLens.Script.Grammar

def parameters (g : Grammar) (s : Scope) : Parse Unit := do
  Parse.expectMark "("
  let item : Parse Unit := do
    if ← Parse.eatMark "..." then
      g.pattern s
      unless (← Parse.token).isMark ")" do Parse.unexpected
    else patternWithDefault g s
  let _ ← Parse.commaSeparated g.limit ")" item

/-- Whether a statement is a directive: a string without parentheses. -/
def isDirective : Stmt → Bool
  | .expression span (.string inner _) => span.start = inner.start
  | _ => false

def statements (g : Grammar) (parse : Parse Stmt) : Parse (List Stmt) := do
  let step : Parse (Option Stmt) := do
    let t ← Parse.token
    if t.isMark "\x7d" || t.kind == .ending then return none
    return some (← parse)
  Parse.collect step g.limit []

/-- A statement at the top of a script or function body, where module declarations may stand too. -/
def bodyStatement (g : Grammar) (s : Scope) : Parse Stmt := do
  let t ← Parse.token
  if t.isWord "export" then exportDeclaration g s
  else if t.isWord "import" then
    let following ← Parse.peek
    if following.isMark "(" || following.isMark "." then g.statement s false
    else importDeclaration g s
  else g.statement s false

def body (g : Grammar) (s : Scope) : Parse (List Stmt) := do
  let all ← statements g (bodyStatement g s)
  return all.dropWhile isDirective

def functionBody (g : Grammar) (s : Scope) : Parse (List Stmt) := do
  Parse.expectMark "\x7b"
  let stmts ← body g s
  Parse.expectMark "\x7d"
  return stmts

def functionTail (g : Grammar) (async generator : Bool) : Parse (List Stmt) := do
  let s := Scope.function async generator
  parameters g s
  functionBody g s

/-- A method, getter or setter as a value: a function that starts at its parameter list. -/
def method (g : Grammar) (async generator : Bool) : Parse Expr := do
  let start ← Parse.here
  let stmts ← functionTail g async generator
  return .function (← Parse.spanFrom start) stmts

def functionExpression (g : Grammar) : Parse Expr := do
  let start ← Parse.here
  let async ← Parse.eatWord "async"
  Parse.expectWord "function"
  let generator ← Parse.eatMark "*"
  unless (← Parse.token).isMark "(" do
    let _ ← Parse.expectName
  let stmts ← functionTail g async generator
  return .function (← Parse.spanFrom start) stmts

/-- A function declaration, which has a name. A generator or asynchronous function that stands alone
as the body of another statement is a fault. -/
def functionDeclaration (g : Grammar) (alone : Bool) : Parse Stmt := do
  let start ← Parse.here
  let async ← Parse.eatWord "async"
  Parse.expectWord "function"
  let generator ← Parse.eatMark "*"
  let _ ← Parse.expectName
  let _ ← functionTail g async generator
  if alone && (async || generator) then Parse.warn
  return .other (← Parse.spanFrom start)

end BundleLens.Script.Grammar
