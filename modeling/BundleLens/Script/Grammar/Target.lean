import BundleLens.Script.Syntax

/-! Expressions that can be assigned to, and expressions that can be read as parameters. Both are
parsed as expressions first, because only the mark after them tells which they are. -/
namespace BundleLens.Script

def Expr.isSimpleTarget : Expr → Bool
  | .identifier .. | .member .. | .index .. | .privateMember .. => true
  | .paren _ inner => inner.isSimpleTarget
  | _ => false

mutual

/-- What a plain assignment may assign to: a simple target, or an array or object literal read as a
pattern. -/
def Expr.isTarget : Expr → Bool
  | .identifier .. | .member .. | .index .. | .privateMember .. => true
  | .paren _ inner => inner.isSimpleTarget
  | .array _ elements => elementsAreTargets elements
  | .object _ properties => propertiesAreTargets properties
  | _ => false

def Expr.isTargetWithDefault : Expr → Bool
  | .assign _ op _ _ => op = .plain
  | .identifier .. | .member .. | .index .. | .privateMember .. => true
  | .paren _ inner => inner.isSimpleTarget
  | .array _ elements => elementsAreTargets elements
  | .object _ properties => propertiesAreTargets properties
  | _ => false

/-- Only the last element may be a spread. -/
def elementsAreTargets : List Element → Bool
  | [] => true
  | .hole _ :: r => elementsAreTargets r
  | .item e :: r => e.isTargetWithDefault && elementsAreTargets r
  | .spread _ e :: r => e.isTarget && r.isEmpty

def propertiesAreTargets : List Property → Bool
  | [] => true
  | .entry _ _ e :: r => e.isTargetWithDefault && propertiesAreTargets r
  | .spread _ e :: r => e.isSimpleTarget && r.isEmpty

end

mutual

/-- A parameter without default value: a name, or a literal read as a pattern of names. -/
def Expr.isBinding : Expr → Bool
  | .identifier .. => true
  | .array _ elements => elementsAreBindings elements
  | .object _ properties => propertiesAreBindings properties
  | _ => false

def Expr.isParameter : Expr → Bool
  | .assign _ op target _ => op = .plain && target.isBinding
  | .identifier .. => true
  | .array _ elements => elementsAreBindings elements
  | .object _ properties => propertiesAreBindings properties
  | _ => false

def elementsAreBindings : List Element → Bool
  | [] => true
  | .hole _ :: r => elementsAreBindings r
  | .item e :: r => e.isParameter && elementsAreBindings r
  | .spread _ e :: r => e.isBinding && r.isEmpty

def propertiesAreBindings : List Property → Bool
  | [] => true
  | .entry _ _ e :: r => e.isParameter && propertiesAreBindings r
  | .spread _ e :: r => e.isBinding && r.isEmpty

end

def argumentsAreParameters : List Argument → Bool
  | [] => true
  | .item e :: r => e.isParameter && argumentsAreParameters r
  | .spread _ e :: r => e.isBinding && r.isEmpty

mutual

/-- Where the properties of a literal start that is read as a pattern, those of nested patterns
included. -/
def Expr.patternStarts : Expr → List Nat
  | .array _ elements => elementStarts elements
  | .object _ properties => propertyStarts properties
  | .assign _ _ target _ => target.patternStarts
  | _ => []

def elementStarts : List Element → List Nat
  | [] => []
  | .hole _ :: r => elementStarts r
  | .item e :: r | .spread _ e :: r => e.patternStarts ++ elementStarts r

def propertyStarts : List Property → List Nat
  | [] => []
  | .entry span _ e :: r => span.start :: (e.patternStarts ++ propertyStarts r)
  | .spread _ e :: r => e.patternStarts ++ propertyStarts r

end

end BundleLens.Script
