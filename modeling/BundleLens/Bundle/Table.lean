import BundleLens.Failure
import BundleLens.ModuleId
import BundleLens.Script.Syntax

namespace BundleLens.Bundle

open Script

/-- The literal that holds the modules of a bundle. In an array, positions are ids; in an object,
keys are. -/
inductive Table where
  | array (span : Span) (elements : List Element)
  | object (span : Span) (properties : List Property)

structure Module where
  id : ModuleId
  factory : Expr
  isEntry : Bool

namespace Table

def ofExpr? (e : Expr) : Option Table :=
  match e.bare with
  | .array span elements => some (.array span elements)
  | .object span properties => some (.object span properties)
  | _ => none

def span : Table → Span
  | array span _ | object span _ => span

/-- The number of entries, holes included. -/
def size : Table → Nat
  | array _ elements => elements.length
  | object _ properties => properties.length

def idOfKey? : Key → Option ModuleId
  | .identifier name => some (.ofKey name)
  | .string value => some (.ofKey value)
  | .number value => some (.ofNumericKey value)
  | .unsupported => none

/-- The modules of array elements, the first of which has the given position. Holes are no modules
but count as positions. -/
def elementModules (position : Nat) : List Element → Except TableFault (List Module)
  | [] => .ok []
  | .hole _ :: r => elementModules (position + 1) r
  | .spread span _ :: _ => .error (.spreadElement span.start)
  | .item factory :: r => do
    return ⟨.number (.ofNat position), factory, false⟩ :: (← elementModules (position + 1) r)

def propertyModules : List Property → Except TableFault (List Module)
  | [] => .ok []
  | .spread .. :: _ => .error .spreadProperty
  | .entry span key factory :: r =>
    match idOfKey? key with
    | some id => do return ⟨id, factory, false⟩ :: (← propertyModules r)
    | none => .error (.unsupportedKey span.start)

def modules : Table → Except TableFault (List Module)
  | array _ elements => elementModules 0 elements
  | object _ properties => propertyModules properties

end Table

end BundleLens.Bundle
