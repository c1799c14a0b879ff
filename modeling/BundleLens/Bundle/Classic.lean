import BundleLens.Bundle.Detection

/-! Classic bundles: a bootstrap function called with the module table, whose body ends by requiring
the entry module. -/
namespace BundleLens.Bundle.Classic

open Script

def bootstrapBody (call : Call) : Detecting (List Stmt) :=
  match call.callee.bare with
  | .function _ body => pure body
  | .identifier .. => throw (.wrongFormat .chunk)
  | _ => throw .notBootstrap

/-- The arguments of the call that an expression is, or that ends the sequence that it is. -/
def finalCall? (e : Expr) : Option (List Argument) :=
  match e.bare with
  | .call _ _ passed => some passed
  | .sequence _ items =>
    match items.getLast?.map Expr.bare with
    | some (.call _ _ passed) => some passed
    | _ => none
  | _ => none

/-- The id that an argument passes: a number, or an assignment of one. -/
def idOfArgument? : Argument → Option ModuleId
  | .item (.number _ value) => ModuleId.ofNumber? value
  | .item (.assign _ _ _ value) =>
    match value.bare with
    | .number _ value => ModuleId.ofNumber? value
    | _ => none
  | _ => none

def namedId? (body : List Stmt) : Option ModuleId :=
  match body.getLast? with
  | some (.returning _ (some e)) => (finalCall? e).bind fun passed => passed.head?.bind idOfArgument?
  | _ => none

/-- Recognizes a classic bundle. It must have an entry. -/
def detect (call : Call) (options : Options) : Detecting Detection := do
  let body ← bootstrapBody call
  let table ← Detecting.require (call.firstArgument?.bind Table.ofExpr?) .notBootstrap
  Detecting.record (.classicTable table.size)
  let found := Detection.withEntry .classic table options (namedId? body)
  if found.entrySource = .unresolved then throw .noEntry
  Detecting.record (.classicEntry found.entry)
  return found

end BundleLens.Bundle.Classic
