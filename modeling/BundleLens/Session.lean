import BundleLens.CommandLine
import BundleLens.FileTree
import BundleLens.Unpack

/-! One run of the program, on whatever keeps its files. -/
namespace BundleLens

/-- What a run leaves behind besides files. The events are those that the user sees. -/
structure Outcome where
  exitCode : Nat
  stdout : String
  events : List Event

namespace Session

def versionLine : String := "debundle 0.1.0\n"

def writeReports {m : Type → Type} (disk : Disk m) (path : String) (reports : List Report) :
    m (Except FileFault Unit) :=
  disk.write path (Report.prettyList reports).toUTF8

def outputEvents (output : Option String) : Except FileFault Unit → List Event
  | .ok () => (output.map Event.reportsWritten).toList
  | .error fault => [.reportsLost (Failure.unreadable fault).message]

/-- A run with a configuration. Every input is read before the output is written. If it cannot be
written, the summary is left out. All modules of the reports are in memory, so there are less than 2 ^ 64
of them and the summary does not stop the run. -/
def runConfig {m : Type → Type} [Monad m] (disk : Disk m) (config : Config) (colour : Bool) :
    m Outcome := do
  let inputs ← config.inputs.mapM fun path => return (path, ← disk.read path)
  let ⟨reports, events⟩ := unpackInputs config.options inputs
  let console := config.console colour
  let blocks := console.reports reports
  let written ← match config.output with
    | some path => writeReports disk path reports
    | none => pure (.ok ())
  let shown := (events ++ outputEvents config.output written).filter (Event.isShown config.verbose)
  match written with
  | .error _ => return ⟨1, blocks, shown⟩
  | .ok () =>
    let exitCode := if reports.all Report.isOk then 0 else 1
    return ⟨exitCode, blocks ++ console.summary reports, shown⟩

/-- A run with arguments. The text that it shows when it is asked for help is given. -/
def run {m : Type → Type} [Monad m] (disk : Disk m) (arguments : List String)
    (chunkGlobal : Option String) (colour : Bool) (help : String := "") : m Outcome := do
  match CommandLine.parse arguments chunkGlobal with
  | .ok config => runConfig disk config colour
  | .error .version => return ⟨0, versionLine, []⟩
  | .error .help => return ⟨0, help, []⟩
  | .error _ => return ⟨2, "", []⟩

end Session

end BundleLens
