import BundleLens.Script.Grammar.Function

namespace BundleLens.Script.Grammar

def decorators (g : Grammar) (s : Scope) : Parse Unit := do
  let step : Parse (Option Unit) := do
    if ← Parse.eatMark "@" then
      let _ ← g.leftHand s
      return some ()
    else return none
  let _ ← Parse.collect step g.limit []

private def memberName (g : Grammar) (s : Scope) : Parse Unit := do
  match (← Parse.token).kind with
  | .privateName _ => Parse.advance
  | _ =>
    let _ ← key g s

/-- Whether a token after a word makes the word a name of its own and not a modifier. -/
private def endsMemberName (t : Token) : Bool :=
  ["(", "=", ";", "\x7d"].any t.isMark || t.kind == .ending

private def fieldTail (g : Grammar) (s : Scope) : Parse Unit := do
  if ← Parse.eatMark "=" then
    let _ ← g.assignment { s with admitsIn := true, inFunction := true }
  Parse.endStatement

/-- Takes a word if it stands before a member name as a modifier. -/
private def eatModifier (text : String) (sameLine star : Bool) : Parse Bool := do
  let t ← Parse.token
  if !t.isPlainWord text then return false
  let following ← Parse.peek
  if (startsKey following || (star && following.isMark "*")) &&
      !(sameLine && following.newline) then
    Parse.advance
    return true
  else return false

private def classMember (g : Grammar) (s : Scope) : Parse Unit := do
  let t ← Parse.token
  let following ← Parse.peek
  if t.isPlainWord "static" && following.isMark "\x7b" then
    Parse.advance
    Parse.advance
    let _ ← statements g (g.statement { s with inAsync := true, inGenerator := false } false)
    Parse.expectMark "\x7d"
  else
    if t.isPlainWord "static" && !endsMemberName following then
      Parse.advance
    let async ← eatModifier "async" true true
    let generator ← Parse.eatMark "*"
    if !async && !generator then
      unless ← eatModifier "get" false false do
        let _ ← eatModifier "set" false false
    memberName g s
    if (← Parse.token).isMark "(" then
      let _ ← method g async generator
    else if async || generator then Parse.unexpected
    else fieldTail g s

def classTail (g : Grammar) (s : Scope) (named : Bool) : Parse Unit := do
  Parse.expectWord "class"
  let t ← Parse.token
  if t.isMark "\x7b" || t.isWord "extends" then
    if named then Parse.unexpected
  else
    let _ ← Parse.expectName
  if ← Parse.eatWord "extends" then
    let _ ← g.leftHand s
  Parse.expectMark "\x7b"
  let step : Parse (Option Unit) := do
    if ← Parse.eatMark "\x7d" then return none
    unless ← Parse.eatMark ";" do
      decorators g s
      classMember g s
    return some ()
  let _ ← Parse.collect step g.limit []

def classExpression (g : Grammar) (s : Scope) : Parse Expr := do
  let start ← Parse.here
  decorators g s
  classTail g s false
  return .other (← Parse.spanFrom start)

end BundleLens.Script.Grammar
