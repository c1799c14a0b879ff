import BundleLens.Script.Grammar.Pattern

/-! Import and export declarations. A script may hold them as a module does. -/
namespace BundleLens.Script.Grammar

private def fromClause (g : Grammar) (s : Scope) : Parse Unit := do
  match (← Parse.token).kind with
  | .string _ =>
    Parse.advance
    if (← Parse.token).isWord "with" then
      Parse.advance
      Parse.expectMark "\x7b"
      let pair : Parse Unit := do
        let _ ← key g s
        Parse.expectMark ":"
        let _ ← g.assignment s.withIn
      let _ ← Parse.commaSeparated g.limit "\x7d" pair
  | _ => Parse.unexpected

private def moduleName : Parse Unit := do
  match (← Parse.token).kind with
  | .word .. | .string _ => Parse.advance
  | _ => Parse.unexpected

private def moduleNames (g : Grammar) : Parse Unit := do
  let item : Parse Unit := do
    moduleName
    if ← Parse.eatWord "as" then moduleName
  let _ ← Parse.commaSeparated g.limit "\x7d" item

private def importBindings (g : Grammar) (s : Scope) : Parse Unit := do
  if ← Parse.eatMark "*" then
    Parse.expectWord "as"
    let _ ← Parse.expectName
  else if ← Parse.eatMark "\x7b" then moduleNames g
  else
    let _ ← Parse.expectName
    if ← Parse.eatMark "," then
      if ← Parse.eatMark "*" then
        Parse.expectWord "as"
        let _ ← Parse.expectName
      else
        Parse.expectMark "\x7b"
        moduleNames g
  Parse.expectWord "from"
  fromClause g s

def importDeclaration (g : Grammar) (s : Scope) : Parse Stmt := do
  let start ← Parse.here
  Parse.expectWord "import"
  match (← Parse.token).kind with
  | .string _ => fromClause g s
  | _ => importBindings g s
  Parse.endStatement
  return .other (← Parse.spanFrom start)

def exportDeclaration (g : Grammar) (s : Scope) : Parse Stmt := do
  let start ← Parse.here
  Parse.expectWord "export"
  if ← Parse.eatMark "*" then
    if ← Parse.eatWord "as" then moduleName
    Parse.expectWord "from"
    fromClause g s
    Parse.endStatement
  else if ← Parse.eatMark "\x7b" then
    moduleNames g
    if ← Parse.eatWord "from" then fromClause g s
    Parse.endStatement
  else if (← Parse.token).isWord "default" then
    Parse.advance
    let t ← Parse.token
    let following ← Parse.peek
    if t.isWord "function" || t.isWord "class" ||
        (t.isPlainWord "async" && following.isWord "function" && !following.newline) then
      let _ ← g.leftHand s
    else
      let _ ← g.assignment s.withIn
      Parse.endStatement
  else
    let t ← Parse.token
    if ["var", "let", "const", "function", "class", "async"].any t.isWord || t.isMark "@" then
      let _ ← g.statement s false
    else Parse.unexpected
  return .other (← Parse.spanFrom start)

end BundleLens.Script.Grammar
