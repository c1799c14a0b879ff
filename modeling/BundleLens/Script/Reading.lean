import BundleLens.Script.Syntax
import BundleLens.Script.Token

/-! Reading a script token by token: the state of a parse and its basic steps. -/
namespace BundleLens.Script

/-- The state of a parse: the token that comes next, where the one before it ended, how many faults
were passed over, and where shorthand properties with a default value stand. Such a property is a
fault unless its literal turns out to be a pattern. -/
structure Reading where
  token : Token
  last : Nat
  warnings : Nat
  shorthands : List Nat

abbrev Parse := StateT Reading (Except SyntaxError)

namespace Parse

def token : Parse Token := return (← get).token

def peek : Parse Token := do (← token).after

def unexpected {α : Type} : Parse α := do throw (.unexpectedToken (← token).start)

/-- Counts a fault that does not end the parse. -/
def warn : Parse Unit := modify fun r => { r with warnings := r.warnings + 1 }

def takeToken (t : Token) : Parse Unit := do
  let following ← t.after
  modify fun r => { r with
    token := following, last := t.stop, warnings := r.warnings + following.warnings }

/-- Takes a token that was read anew in place of the next one. -/
def takeAnew (t : Token) : Parse Unit := do
  modify fun r => { r with warnings := r.warnings + t.warnings }
  takeToken t

def advance : Parse Unit := do takeToken (← token)

def eatMark (text : String) : Parse Bool := do
  if (← token).isMark text then
    advance
    return true
  else return false

/-- Takes the next token if it is the keyword. A keyword with escapes is a fault. -/
def eatWord (text : String) : Parse Bool := do
  let t ← token
  if t.isWord text then
    unless t.isPlainWord text do warn
    advance
    return true
  else return false

def expectMark (text : String) : Parse Unit := do
  unless ← eatMark text do unexpected

def expectWord (text : String) : Parse Unit := do
  unless ← eatWord text do unexpected

def expectName : Parse String := do
  match (← token).name? with
  | some name =>
    advance
    return name
  | none => unexpected

def here : Parse Nat := return (← token).start

def spanFrom (start : Nat) : Parse Span := return ⟨start, (← get).last⟩

/-- Whether a statement may end here: at a semicolon, at a closing brace, at the end of the source
or after the end of a line. -/
def atStatementEnd : Parse Bool := do
  let t ← token
  return t.isMark ";" || t.isMark "\x7d" || t.kind == .ending || t.newline

def endStatement : Parse Unit := do
  unless ← atStatementEnd do unexpected
  let _ ← eatMark ";"

/-- Runs a step until it declines, and collects the results. The number bounds the repetitions. -/
def collect {α : Type} (step : Parse (Option α)) : Nat → List α → Parse (List α)
  | 0, _ => throw .nestingTooDeep
  | limit + 1, taken => do
    match ← step with
    | some a => collect step limit (a :: taken)
    | none => return taken.reverse

def extend {α : Type} (step : α → Parse (Option α)) : Nat → α → Parse α
  | 0, _ => throw .nestingTooDeep
  | limit + 1, a => do
    match ← step a with
    | some longer => extend step limit longer
    | none => return a

/-- The items up to a closing mark, which is taken, with commas between them. A comma may follow
the last item. -/
def commaSeparated {α : Type} (limit : Nat) (close : String) (item : Parse α) :
    Parse (List α) := do
  let step : Parse (Option α) := do
    if ← eatMark close then return none
    let a ← item
    unless (← token).isMark close do expectMark ","
    return some a
  collect step limit []

end Parse

end BundleLens.Script
