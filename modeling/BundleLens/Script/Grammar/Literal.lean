import BundleLens.Script.Grammar.Function

namespace BundleLens.Script.Grammar

/-- An element of an array literal. Before a comma there may be none, which leaves a hole. -/
private def element (g : Grammar) (s : Scope) : Parse Element := do
  let start ← Parse.here
  if (← Parse.token).isMark "," then return .hole ⟨start, start⟩
  else if ← Parse.eatMark "..." then
    let value ← g.assignment s.withIn
    return .spread (← Parse.spanFrom start) value
  else return .item (← g.assignment s.withIn)

def arrayLiteral (g : Grammar) (s : Scope) : Parse Expr := do
  let start ← Parse.here
  Parse.expectMark "["
  let elements ← Parse.commaSeparated g.limit "]" (element g s)
  return .array (← Parse.spanFrom start) elements

private def methodProperty (g : Grammar) (s : Scope) (start : Nat) (async generator : Bool) :
    Parse Property := do
  let name ← key g s
  let value ← method g async generator
  return .entry (← Parse.spanFrom start) name value

/-- A property that is a name alone; the name is its value. A default value after it makes sense in
a pattern only, so its place is kept until the literal turns out to be one. -/
private def shorthandProperty (g : Grammar) (s : Scope) (start : Nat) : Parse Property := do
  let name ← Parse.expectName
  let span ← Parse.spanFrom start
  if ← Parse.eatMark "=" then
    let _ ← g.assignment s.withIn
    modify fun r => { r with shorthands := start :: r.shorthands }
  return .entry (← Parse.spanFrom start) (.identifier name) (.identifier span name)

/-- A property of an object literal. The words `get`, `set` and `async` are modifiers only if a
property name follows them. -/
private def property (g : Grammar) (s : Scope) : Parse Property := do
  let start ← Parse.here
  let t ← Parse.token
  let following ← Parse.peek
  if ← Parse.eatMark "..." then
    let value ← g.assignment s.withIn
    return .spread (← Parse.spanFrom start) value
  else if (t.isPlainWord "get" || t.isPlainWord "set") && startsKey following then
    Parse.advance
    methodProperty g s start false false
  else if t.isPlainWord "async" && (startsKey following || following.isMark "*") &&
      !following.newline then
    Parse.advance
    let generator ← Parse.eatMark "*"
    methodProperty g s start true generator
  else if t.isMark "*" && startsKey following then
    Parse.advance
    methodProperty g s start false true
  else if t.name?.isSome && [",", "\x7d", "="].any following.isMark then
    shorthandProperty g s start
  else
    let name ← key g s
    if (← Parse.token).isMark "(" then
      let value ← method g false false
      return .entry (← Parse.spanFrom start) name value
    else
      Parse.expectMark ":"
      let value ← g.assignment s.withIn
      return .entry (← Parse.spanFrom start) name value

def objectLiteral (g : Grammar) (s : Scope) : Parse Expr := do
  let start ← Parse.here
  Parse.expectMark "\x7b"
  let properties ← Parse.commaSeparated g.limit "\x7d" (property g s)
  return .object (← Parse.spanFrom start) properties

def templateParts (g : Grammar) (s : Scope) : Parse (List (Option String) × List Expr) := do
  let t ← Parse.token
  match t.kind with
  | .template text last =>
    Parse.advance
    if last then return ([text], [])
    let step : Bool → Parse (Option (Expr × Option String × Bool)) := fun done => do
      if done then return none
      let value ← g.expression s.withIn
      let brace ← Parse.token
      unless brace.isMark "\x7d" do Parse.unexpected
      let chunk ← brace.asTemplate
      match chunk.kind with
      | .template text last =>
        Parse.takeAnew chunk
        return some (value, text, last)
      | _ => Parse.unexpected
    let advance : Bool × List (Expr × Option String) →
        Parse (Option (Bool × List (Expr × Option String))) := fun (done, parts) => do
      match ← step done with
      | some (value, text, last) => return some (last, (value, text) :: parts)
      | none => return none
    let (_, parts) ← Parse.extend advance g.limit (false, [])
    let parts := parts.reverse
    return (text :: parts.map (·.2), parts.map (·.1))
  | _ => Parse.unexpected

/-- A template without tag. A chunk whose escapes have no meaning is a fault. -/
def templateLiteral (g : Grammar) (s : Scope) : Parse Expr := do
  let start ← Parse.here
  let (chunks, substitutions) ← templateParts g s
  let faults := chunks.countP Option.isNone
  modify fun r => { r with warnings := r.warnings + faults }
  return .template (← Parse.spanFrom start) chunks substitutions

end BundleLens.Script.Grammar
