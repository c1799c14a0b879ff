import BundleLens.Marker
import BundleLens.Report
import BundleLens.Script.Program

namespace BundleLens

open BundleLens.Bundle

/-- Parses a source. Faults that the parser passed over are recorded. -/
def parseScript (name source : String) : Detecting Script.Program := do
  match Script.Program.ofSource source with
  | .error fault => throw (.invalidScript name fault)
  | .ok program =>
    if program.warnings ≠ 0 then
      Detecting.record (.parsedWithFaults program.warnings name)
    return program

def locateCall (name source : String) : Detecting Call := do
  let program ← parseScript name source
  Detecting.require (← ExceptT.lift (findCall program)) (.noCall name)

/-- The options with a format. If none is set, the call decides; marks in the text are only compared
with its choice. -/
def chooseFormat (options : Options) (call : Call) (source : String) : Traced Options := do
  match options.format with
  | some _ => return options
  | none =>
    let format := call.inferredFormat
    let hint ← Marker.sniff source
    Traced.record <| match hint with
      | some hint => if hint = format then .detecting format else .markersDisagree hint format
      | none => .detecting format
    return { options with format := some format }

def detectSource (options : Options) (name source : String) : Detecting Detection := do
  let call ← locateCall name source
  let options ← ExceptT.lift (chooseFormat options call source)
  let (result, _) ← ExceptT.lift (detect call options)
  match result with
  | .ok found => return found
  | .error failure => throw failure

def detectFormat (options : Options) (source : String) : Detecting BundleFormat :=
  return (← detectSource options "<input>" source).format

def unpackSource (options : Options) (name source : String) : Detecting Report := do
  let found ← detectSource options name source
  match found.modules with
  | .error fault => throw (.malformedTable fault)
  | .ok modules =>
    Detecting.record (.unpacked name found.format modules.length found.entry)
    return .ofModules name found modules

def unpackFile (options : Options) (path : String) (content : Except FileFault ByteArray) :
    Traced Report := do
  let attempt : Detecting Report := do
    match content with
    | .error fault => throw (.unreadable fault)
    | .ok bytes =>
      match String.fromUTF8? bytes with
      | none => throw (.unreadable .notText)
      | some source => unpackSource options path source
  match ← attempt.run with
  | .ok report => return report
  | .error failure =>
    Traced.record (.failed path failure.message)
    return .ofFailure path failure

/-- One report for each file. A file that cannot be unpacked does not keep the others from it. -/
def unpackInputs (options : Options) (inputs : List (String × Except FileFault ByteArray)) :
    Traced (List Report) :=
  inputs.mapM fun (path, content) => unpackFile options path content

def unpackFiles (options : Options) (read : String → Except FileFault ByteArray)
    (paths : List String) : Traced (List Report) :=
  unpackInputs options (paths.map fun path => (path, read path))

end BundleLens
