import BundleLens.ModuleId
import BundleLens.BundleFormat
import BundleLens.Script.Syntax

/-! What the library records while it works, and computations that record. -/
namespace BundleLens

inductive Level where
  | trace | debug | info | error
  deriving DecidableEq

def Level.name : Level → String
  | .trace => "TRACE"
  | .debug => "DEBUG"
  | .info => "INFO"
  | .error => "ERROR"

inductive Event where
  | parsedWithFaults (count : Nat) (source : String)
  | callFound (offset : Nat)
  | classicTable (entries : Nat)
  | classicEntry (id : Option ModuleId)
  | chunkTable (entries : Nat)
  | chunkWithoutEntry (call : Script.Span)
  | entryRemembered (id : Option ModuleId)
  | sniffed (format : BundleFormat)
  | detecting (format : BundleFormat)
  | markersDisagree (hint format : BundleFormat)
  | unpacked (source : String) (format : BundleFormat) (modules : Nat) (entry : Option ModuleId)
  | failed (source message : String)
  | reportsWritten (path : String)
  | reportsLost (message : String)
  deriving DecidableEq

namespace Event

def level : Event → Level
  | parsedWithFaults .. | classicTable _ | chunkTable _ | sniffed _ => .trace
  | unpacked .. | reportsWritten _ => .info
  | reportsLost _ => .error
  | _ => .debug

private def describe : Option ModuleId → String
  | some id => s!"Some({id.describe})"
  | none => "None"

def message : Event → String
  | parsedWithFaults count source => s!"Parse had {count} errors for {source}, continuing..."
  | callFound offset => s!"Bootstrap call found at offset {offset}"
  | classicTable entries => s!"Classic webpack table with {entries} entries"
  | classicEntry id => s!"Classic webpack entry id: {describe id}"
  | chunkTable entries => s!"Jsonp chunk table with {entries} entries"
  | chunkWithoutEntry call =>
    s!"No entry id in jsonp chunk at {call.start}..{call.stop}, continuing without one"
  | entryRemembered id => s!"Caching resolved entry id {describe id}"
  | sniffed .classic => "Sniffed classic webpack runtime"
  | sniffed .chunk => "Sniffed webpack jsonp chunk"
  | detecting format => s!"Detecting as {format.name}"
  | markersDisagree hint format =>
    s!"Text markers suggest {hint.name}, detecting as {format.name}"
  | unpacked source format modules entry =>
    let shown := match entry with
      | some id => id.display
      | none => "unknown"
    s!"{source}: {format.name} bundle, {modules} modules, entry {shown}"
  | failed source message => s!"Failed to unpack {source}: {message}"
  | reportsWritten path => s!"Results written to: {Text.quote path}"
  | reportsLost message => s!"Failed to write output file: {message}"

def line (e : Event) : String := s!"{e.level.name}: {e.message}"

/-- Whether a user sees the event: those that matter most always, all but the least if asked. -/
def isShown (verbose : Bool) (e : Event) : Bool :=
  match e.level with
  | .trace => false
  | .debug => verbose
  | .info | .error => true

end Event

/-- A value with the events recorded on the way to it, in order. -/
structure Traced (α : Type) where
  value : α
  events : List Event

namespace Traced

instance : Monad Traced where
  pure a := ⟨a, []⟩
  bind x f := ⟨(f x.value).value, x.events ++ (f x.value).events⟩

def record (e : Event) : Traced Unit := ⟨(), [e]⟩

end Traced

end BundleLens
