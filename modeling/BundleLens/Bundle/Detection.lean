import BundleLens.Bundle.Call
import BundleLens.Bundle.Table
import BundleLens.Options

namespace BundleLens.Bundle

structure Detection where
  format : BundleFormat
  entry : Option ModuleId
  entrySource : EntrySource
  table : Table

namespace Detection

/-- A bundle whose entry is the one in the options, or else the one that it names itself. -/
def withEntry (format : BundleFormat) (table : Table) (options : Options)
    (named : Option ModuleId) : Detection :=
  match options.entry, named with
  | some id, _ => ⟨format, some id, .override, table⟩
  | none, some id => ⟨format, some id, .resolved, table⟩
  | none, none => ⟨format, none, .unresolved, table⟩

/-- The modules of a bundle. A module is marked if its id is the entry. -/
def modules (d : Detection) : Except TableFault (List Module) := do
  return (← d.table.modules).map fun m => { m with isEntry := d.entry = some m.id }

end Detection

/-- A detection step: it records events and may fail. -/
abbrev Detecting := ExceptT Failure Traced

namespace Detecting

def record (e : Event) : Detecting Unit := ExceptT.lift (Traced.record e)

def require {α : Type} (value : Option α) (failure : Failure) : Detecting α :=
  match value with
  | some a => pure a
  | none => throw failure

end Detecting

end BundleLens.Bundle
