import BundleLens.Json.Decode
import BundleLens.Json.Reader
import BundleLens.Json.Writer
import BundleLens.Report

namespace BundleLens

open Json (Value)

def ModuleId.toJson : ModuleId → Value
  | .number n => .ofNat n.toNat
  | .name text => .ofText text

/-- Strings are names even if they hold digits alone. -/
def ModuleId.ofJson? : Value → Option ModuleId
  | .string text => text.map .name
  | value => (value.natBelow? UInt64.size).map fun n => .number (.ofNat n)

def BundleFormat.toJson (format : BundleFormat) : Value := .ofText format.name

def BundleFormat.ofJson? : Value → Option BundleFormat := Value.choice? BundleFormat.ofName?

def EntrySource.toJson (source : EntrySource) : Value := .ofText source.name

def EntrySource.ofJson? : Value → Option EntrySource := Value.choice? EntrySource.ofName?

namespace ModuleSummary

def toJson (m : ModuleSummary) : Value :=
  .ofFields [("id", m.id.toJson), ("is_entry", .bool m.isEntry), ("start", .ofNat m.start.toNat),
    ("end", .ofNat m.stop.toNat)]

def ofJson? (value : Value) : Option ModuleSummary := do
  match ← value.record? [("id", false), ("is_entry", false), ("start", false), ("end", false)] with
  | [id, isEntry, start, stop] =>
    return ⟨← ModuleId.ofJson? id, ← isEntry.bool?, .ofNat (← start.natBelow? UInt32.size),
      .ofNat (← stop.natBelow? UInt32.size)⟩
  | _ => none

end ModuleSummary

namespace Report

def toJson (r : Report) : Value :=
  .ofFields [
    ("source", .ofText r.source),
    ("format", .ofOption BundleFormat.toJson r.format),
    ("entry_id", .ofOption ModuleId.toJson r.entry),
    ("entry_source", .ofOption EntrySource.toJson r.entrySource),
    ("module_count", .ofNat r.moduleCount.toNat),
    ("modules", .array (r.modules.map ModuleSummary.toJson)),
    ("errors", .array (r.errors.map Value.ofText))]

def ofJson? (value : Value) : Option Report := do
  match ← value.record? [("source", false), ("format", true), ("entry_id", true),
      ("entry_source", true), ("module_count", false), ("modules", false), ("errors", false)] with
  | [source, format, entry, entrySource, moduleCount, modules, errors] =>
    return {
      source := ← source.text?
      format := ← format.nullable? BundleFormat.ofJson?
      entry := ← entry.nullable? ModuleId.ofJson?
      entrySource := ← entrySource.nullable? EntrySource.ofJson?
      moduleCount := .ofNat (← moduleCount.natBelow? UInt64.size)
      modules := ← modules.list? ModuleSummary.ofJson?
      errors := ← errors.list? Value.text? }
  | _ => none

def pretty (r : Report) : String := r.toJson.pretty

def ofString? (text : String) : Option Report := (Value.ofString? text).bind ofJson?

def prettyList (reports : List Report) : String := (Value.array (reports.map toJson)).pretty

def listOfString? (text : String) : Option (List Report) :=
  (Value.ofString? text).bind fun value => value.list? ofJson?

end Report

def ModuleId.jsonText (id : ModuleId) : String := id.toJson.pretty

def ModuleId.ofJsonText? (text : String) : Option ModuleId := (Value.ofString? text).bind ofJson?

end BundleLens
