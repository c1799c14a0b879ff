import BundleLens.Script.Grammar.Statement

namespace BundleLens.Script

/-- The grammar with a number of levels of nesting. A level is made when a production reaches it. -/
def Grammar.ofDepth : Nat → Grammar
  | 0 => .exhausted
  | depth + 1 => {
      limit := depth + 1
      assignment := fun s => (ofDepth depth).assignmentBody s
      binary := fun s above => (ofDepth depth).binaryBody s above
      unary := fun s => (ofDepth depth).unaryBody s
      leftHand := fun s => (ofDepth depth).leftHandBody s
      constructed := fun s => (ofDepth depth).constructedBody s
      pattern := fun s => (ofDepth depth).patternBody s
      statement := fun s alone => (ofDepth depth).statementBody s alone }

/-- The depth that suffices for a source of the given length: no source nests deeper than a few
levels for each of its characters. -/
def Grammar.sufficientDepth (length : Nat) : Nat := 8 * (length + 4)

/-- The script that a source holds. Faults that leave its structure clear are counted, any other
ends the parse. Places in a source are 32-bit numbers, so a longer source is none. -/
def Program.ofSource (source : String) : Except SyntaxError Program := do
  unless source.utf8ByteSize < UInt32.size do throw .sourceTooLong
  let cs := source.toList
  let first ← Token.first cs
  let g := Grammar.ofDepth (Grammar.sufficientDepth cs.length)
  let parse : Parse (List Stmt) := do
    let stmts ← g.body .top
    unless (← Parse.token).kind == .ending do Parse.unexpected
    return stmts
  let (body, final) ← parse.run ⟨first, 0, first.warnings, []⟩
  return ⟨body, final.warnings + final.shorthands.length⟩

end BundleLens.Script
