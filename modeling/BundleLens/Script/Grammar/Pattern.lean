import BundleLens.Script.Grammar

namespace BundleLens.Script.Grammar

def startsKey (t : Token) : Bool :=
  match t.kind with
  | .word .. | .string _ | .number _ | .bigInteger | .privateName _ => true
  | .mark m => m == "["
  | _ => false

def computedKey : Expr → Key
  | .string _ value => .string value
  | .number _ value => .number value
  | _ => .unsupported

def key (g : Grammar) (s : Scope) : Parse Key := do
  match (← Parse.token).kind with
  | .word text _ =>
    Parse.advance
    return .identifier text
  | .string value =>
    Parse.advance
    return .string value
  | .number value =>
    Parse.advance
    return .number value
  | .bigInteger =>
    Parse.advance
    return .unsupported
  | _ =>
    Parse.expectMark "["
    let e ← g.assignment s.withIn
    Parse.expectMark "]"
    return computedKey e

def patternWithDefault (g : Grammar) (s : Scope) : Parse Unit := do
  g.pattern s
  if ← Parse.eatMark "=" then
    let _ ← g.assignment s.withIn

def arrayPattern (g : Grammar) (s : Scope) : Parse Unit := do
  let item : Parse Unit := do
    if (← Parse.token).isMark "," then return
    else if ← Parse.eatMark "..." then
      g.pattern s
      unless (← Parse.token).isMark "]" do Parse.unexpected
    else patternWithDefault g s
  let _ ← Parse.commaSeparated g.limit "]" item

def patternProperty (g : Grammar) (s : Scope) : Parse Unit := do
  if ← Parse.eatMark "..." then
    let _ ← Parse.expectName
    unless (← Parse.token).isMark "\x7d" do Parse.unexpected
  else
    let name := (← Parse.token).name?
    let _ ← key g s
    if ← Parse.eatMark ":" then patternWithDefault g s
    else
      if name.isNone then Parse.unexpected
      if ← Parse.eatMark "=" then
        let _ ← g.assignment s.withIn

def patternBody (g : Grammar) (s : Scope) : Parse Unit := do
  if ← Parse.eatMark "[" then arrayPattern g s
  else if ← Parse.eatMark "\x7b" then
    let _ ← Parse.commaSeparated g.limit "\x7d" (patternProperty g s)
  else
    let _ ← Parse.expectName

end BundleLens.Script.Grammar
