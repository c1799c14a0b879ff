import BundleLens.Script.Grammar.Operator

namespace BundleLens.Script.Grammar

private def condition (g : Grammar) (s : Scope) : Parse Unit := do
  Parse.expectMark "("
  let _ ← g.expression s.withIn
  Parse.expectMark ")"

private def block (g : Grammar) (s : Scope) : Parse Unit := do
  Parse.expectMark "\x7b"
  let _ ← statements g (g.statement s false)
  Parse.expectMark "\x7d"

/-- The names and patterns of a variable declaration with their initial values. In the head of a
loop over values the initial value may be absent; elsewhere a constant or a pattern without one is
a fault. -/
private def declarators (g : Grammar) (s : Scope) (constant : Bool) (inHead : Bool) :
    Parse Unit := do
  let one : Parse Unit := do
    let t ← Parse.token
    let isPattern := t.isMark "[" || t.isMark "\x7b"
    g.pattern s
    if ← Parse.eatMark "=" then
      let _ ← g.assignment s
    else
      let t ← Parse.token
      let loops := inHead && (t.isWord "in" || t.isWord "of")
      if (constant || isPattern) && !loops then Parse.warn
  one
  let step : Parse (Option Unit) := do
    if ← Parse.eatMark "," then return some (← one) else return none
  let _ ← Parse.collect step g.limit []

private def variableStatement (g : Grammar) (s : Scope) (alone : Bool) : Parse Stmt := do
  let start ← Parse.here
  let t ← Parse.token
  Parse.advance
  declarators g s.withIn (t.isWord "const") false
  Parse.endStatement
  if alone && !t.isWord "var" then Parse.warn
  return .other (← Parse.spanFrom start)

/-- A statement made of an expression, and a labelled statement, which begins like one. -/
private def expressionOrLabelled (g : Grammar) (s : Scope) : Parse Stmt := do
  let start ← Parse.here
  let e ← g.expression s.withIn
  match e with
  | .identifier .. =>
    if ← Parse.eatMark ":" then
      let _ ← g.statement s true
      return (.other (← Parse.spanFrom start))
  | _ => pure ()
  Parse.endStatement
  return .expression (← Parse.spanFrom start) e

/-- A statement that begins with `let`, which is a name unless a declaration can follow. Before a
point or a parenthesis it starts an expression, and the semicolon after that is not part of the
statement. -/
private def letStatement (g : Grammar) (s : Scope) (alone : Bool) : Parse Stmt := do
  let start ← Parse.here
  let following ← Parse.peek
  if (assignOp? following).isSome || (level? following).isSome then
    let e ← g.assignment s.withIn
    Parse.endStatement
    return .expression (← Parse.spanFrom start) e
  else if following.isMark "." || following.isMark "(" then
    let e ← g.expression s.withIn
    return .expression (← Parse.spanFrom start) e
  else if following.isMark ";" || (alone && !following.isMark "[") then
    let name ← Parse.expectName
    let e : Expr := .identifier (← Parse.spanFrom start) name
    Parse.endStatement
    return .expression (← Parse.spanFrom start) e
  else variableStatement g s alone

private def forClauses (g : Grammar) (s : Scope) : Parse Unit := do
  Parse.expectMark ";"
  unless (← Parse.token).isMark ";" do
    let _ ← g.expression s.withIn
  Parse.expectMark ";"
  unless (← Parse.token).isMark ")" do
    let _ ← g.expression s.withIn

private def forValues (g : Grammar) (s : Scope) : Parse Unit := do
  if ← Parse.eatWord "in" then
    let _ ← g.expression s.withIn
  else
    Parse.expectWord "of"
    let _ ← g.assignment s.withIn

private def declaresInHead (following : Token) : Bool :=
  match following.kind with
  | .word text _ => text != "in" && text != "of"
  | .mark m => m == "[" || m == "\x7b"
  | _ => false

private def forHead (g : Grammar) (s : Scope) : Parse Unit := do
  let t ← Parse.token
  let following ← if t.isPlainWord "let" then Parse.peek else pure t
  let head := { s with admitsIn := false }
  let rest : Parse Unit := do
    let t ← Parse.token
    if t.isWord "in" || t.isWord "of" then forValues g s else forClauses g s
  if t.isMark ";" then forClauses g s
  else if t.isWord "var" || t.isWord "const" ||
      (t.isPlainWord "let" && declaresInHead following) then
    Parse.advance
    declarators g head (t.isWord "const") true
    rest
  else
    let e ← g.expression head
    let t ← Parse.token
    if t.isWord "in" || t.isWord "of" then
      unless e.isTarget do throw (.invalidTarget e.span.start)
      acceptPattern e
      forValues g s
    else forClauses g s

private def forLoop (g : Grammar) (s : Scope) : Parse Unit := do
  Parse.expectWord "for"
  let _ ← Parse.eatWord "await"
  Parse.expectMark "("
  forHead g s
  Parse.expectMark ")"
  let _ ← g.statement s true

/-- A `do` loop. The semicolon after it may always be left out. -/
private def doLoop (g : Grammar) (s : Scope) : Parse Unit := do
  Parse.expectWord "do"
  let _ ← g.statement s true
  Parse.expectWord "while"
  condition g s
  let _ ← Parse.eatMark ";"

private def ifStatement (g : Grammar) (s : Scope) : Parse Unit := do
  Parse.expectWord "if"
  condition g s
  let _ ← g.statement s true
  if ← Parse.eatWord "else" then
    let _ ← g.statement s true

private def jump : Parse Unit := do
  Parse.advance
  unless ← Parse.atStatementEnd do
    let _ ← Parse.expectName
  Parse.endStatement

/-- A `return` with its value, if it has one. Outside functions it is a fault. -/
private def returnStatement (g : Grammar) (s : Scope) : Parse Stmt := do
  let start ← Parse.here
  Parse.expectWord "return"
  let value ← if ← Parse.atStatementEnd then pure none
    else some <$> g.expression s.withIn
  Parse.endStatement
  unless s.inFunction do Parse.warn
  return .returning (← Parse.spanFrom start) value

private def cases (g : Grammar) (s : Scope) : Parse Unit := do
  Parse.expectMark "\x7b"
  let step : Parse (Option Unit) := do
    if ← Parse.eatMark "\x7d" then return none
    if ← Parse.eatWord "case" then
      let _ ← g.expression s.withIn
    else Parse.expectWord "default"
    Parse.expectMark ":"
    let stmt : Parse (Option Stmt) := do
      let t ← Parse.token
      if t.isWord "case" || t.isWord "default" || t.isMark "\x7d" || t.kind == .ending then
        return none
      return some (← g.statement s false)
    let _ ← Parse.collect stmt g.limit []
    return some ()
  let _ ← Parse.collect step g.limit []

private def tryStatement (g : Grammar) (s : Scope) : Parse Unit := do
  Parse.expectWord "try"
  block g s
  let catches ← Parse.eatWord "catch"
  if catches then
    if ← Parse.eatMark "(" then
      g.pattern s
      Parse.expectMark ")"
    block g s
  let finishes ← Parse.eatWord "finally"
  if finishes then block g s
  unless catches || finishes do Parse.warn

/-- A `throw`. Its value has to start on the same line. -/
private def throwStatement (g : Grammar) (s : Scope) : Parse Unit := do
  Parse.expectWord "throw"
  if (← Parse.token).newline then Parse.warn
  let _ ← g.expression s.withIn
  Parse.endStatement

/-- The words that begin a statement without a value of interest, and what follows them. -/
private def keywordStatement (g : Grammar) (s : Scope) : String → Option (Parse Unit)
  | "if" => some (ifStatement g s)
  | "for" => some (forLoop g s)
  | "do" => some (doLoop g s)
  | "while" | "with" => some do
    Parse.advance
    condition g s
    let _ ← g.statement s true
  | "switch" => some do
    Parse.advance
    condition g s
    cases g s
  | "break" | "continue" => some jump
  | "throw" => some (throwStatement g s)
  | "try" => some (tryStatement g s)
  | "debugger" => some do
    Parse.advance
    Parse.endStatement
  | _ => none

private def wordStatement (g : Grammar) (s : Scope) (alone : Bool) (t : Token) (word : String) :
    Parse Stmt := do
  match keywordStatement g s word with
  | some parse =>
    unless t.isPlainWord word do Parse.warn
    parse
    return .other (← Parse.spanFrom t.start)
  | none =>
    if word == "var" || word == "const" then variableStatement g s alone
    else if word == "return" then returnStatement g s
    else if word == "function" then functionDeclaration g alone
    else if word == "class" then
      if alone then Parse.warn
      classTail g s true
      return .other (← Parse.spanFrom t.start)
    else if t.isPlainWord "let" then letStatement g s alone
    else
      if t.isPlainWord "async" then
        let following ← Parse.peek
        if following.isWord "function" && !following.newline then
          return (← functionDeclaration g alone)
      expressionOrLabelled g s

/-- A statement. The flag says that it stands alone as the body of another one. -/
def statementBody (g : Grammar) (s : Scope) (alone : Bool) : Parse Stmt := do
  let t ← Parse.token
  match t.kind with
  | .mark "\x7b" =>
    block g s
    return .other (← Parse.spanFrom t.start)
  | .mark ";" =>
    Parse.advance
    return .other (← Parse.spanFrom t.start)
  | .mark "@" =>
    decorators g s
    if (← Parse.token).isWord "export" then exportDeclaration g s
    else
      classTail g s true
      return .other (← Parse.spanFrom t.start)
  | .word word _ => wordStatement g s alone t word
  | _ => expressionOrLabelled g s

end BundleLens.Script.Grammar
