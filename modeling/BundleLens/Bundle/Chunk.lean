import BundleLens.Bundle.Detection

/-! Chunks: a call of the loader, or of the `push` method of the loader's array, with the chunk's
ids, its module table and its entry. -/
namespace BundleLens.Bundle.Chunk

open Script

def globalNames : List String := ["window", "self", "global", "globalThis"]

def isGlobal (e : Expr) : Bool :=
  match e.bare with
  | .identifier _ name => globalNames.contains name
  | .this _ => true
  | _ => false

def isString (value : String) (e : Expr) : Bool :=
  match e.bare with
  | .string _ text => text == value
  | _ => false

/-- Whether an expression without parentheses is the loader's place in the global object. -/
def isBareSlot (loader : String) : Expr → Bool
  | .member _ object name => name == loader && isGlobal object
  | .index _ object key => isString loader key && isGlobal object
  | _ => false

/-- Whether an expression creates the loader if there is none: an assignment of the loader's place,
or a fallback for it, to the loader's place. -/
def isLoaderInit (loader : String) (e : Expr) : Bool :=
  match e.bare with
  | .assign _ .plain target value =>
    match value.bare with
    | .logical _ op left _ => isBareSlot loader target && op = .or && isBareSlot loader left.bare
    | _ => false
  | _ => false

/-- Whether a callee without parentheses is the loader or its `push` method. -/
def isLoaderCallee (loader : String) : Expr → Bool
  | .identifier _ name => name == loader
  | .member _ object name => name == "push" && isLoaderInit loader object
  | .index _ object key => isString "push" key && isLoaderInit loader object
  | _ => false

def slots (loader : String) (call : Call) : Detecting (Element × Element) := do
  if isFunction call.callee then throw (.wrongFormat .classic)
  unless isLoaderCallee loader call.callee.bare do throw .notBootstrap
  match call.arguments with
  | [.item e] =>
    match e.bare with
    | .array _ [_, table, entry] => pure (table, entry)
    | _ => throw .notBootstrap
  | _ => throw .notBootstrap

def idOfLiteral? : Element → Option ModuleId
  | .item (.number _ value) => ModuleId.ofNumber? value
  | .item (.string _ value) => some (.name value)
  | .item (.template _ (some text :: _) []) => some (.name text)
  | _ => none

/-- The entry that an entry slot names: the one literal of the one array in an array. -/
def namedId? : Element → Option ModuleId
  | .item (.array _ [.item (.array _ [literal])]) => idOfLiteral? literal
  | _ => none

/-- Recognizes a chunk. It may lack an entry. -/
def detect (call : Call) (options : Options) : Detecting Detection := do
  let (tableSlot, entrySlot) ← slots options.chunkGlobal call
  let table ← Detecting.require (tableSlot.expr?.bind Table.ofExpr?) .notBootstrap
  Detecting.record (.chunkTable table.size)
  let found := Detection.withEntry .chunk table options (namedId? entrySlot)
  if found.entrySource = .unresolved then Detecting.record (.chunkWithoutEntry call.span)
  return found

end BundleLens.Bundle.Chunk
