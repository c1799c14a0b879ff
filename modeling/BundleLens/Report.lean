import BundleLens.Bundle.Recognition

namespace BundleLens

structure ModuleSummary where
  id : ModuleId
  isEntry : Bool
  start : UInt32
  stop : UInt32
  deriving DecidableEq, Inhabited

def ModuleSummary.ofModule (m : Bundle.Module) : ModuleSummary :=
  ⟨m.id, m.isEntry, .ofNat m.factory.span.start, .ofNat m.factory.span.stop⟩

structure Report where
  source : String
  format : Option BundleFormat
  entry : Option ModuleId
  entrySource : Option EntrySource
  moduleCount : UInt64
  modules : List ModuleSummary
  errors : List String
  deriving DecidableEq, Inhabited

namespace Report

def ofFailure (source : String) (failure : Failure) : Report :=
  ⟨source, none, none, none, 0, [], [failure.message]⟩

def ofModules (source : String) (found : Bundle.Detection) (modules : List Bundle.Module) :
    Report where
  source
  format := found.format
  entry := found.entry
  entrySource := found.entrySource
  moduleCount := .ofNat modules.length
  modules := modules.map .ofModule
  errors := []

def isOk (r : Report) : Bool := r.errors.isEmpty

end Report

end BundleLens
