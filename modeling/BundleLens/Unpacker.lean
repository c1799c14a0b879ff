import BundleLens.Unpack

/-! Unpackers: they keep the options that they are made with and work on a copy of them. -/
namespace BundleLens

open BundleLens.Bundle

/-- The options of an unpacker, and the copy of them for the input at hand. In the copy the format and
the entry of that input are noted, and it stays as it is until the next input. -/
structure Unpacker where
  options : Options
  copy : Options
  deriving DecidableEq

/-- Work of an unpacker. If it fails, what it has noted and recorded before remains. -/
abbrev Unpacking := ExceptT Failure (StateT Unpacker Traced)

namespace Unpacker

def new (options : Options) : Unpacker := ⟨options, options⟩

def step {α : Type} (x : Detecting α) : Unpacking α := ExceptT.mk (StateT.lift x.run)

def setCopy (copy : Options) : Unpacking Unit := modify fun u => { u with copy }

/-- Recognizes the bundle that a call starts, by the copy of the options. The format that is chosen
and the entry that is found are noted in it. -/
def recognize (call : Call) (source : String) : Unpacking Detection := do
  setCopy (← chooseFormat (← get).copy call source)
  let (result, noted) ← detect call (← get).copy
  setCopy noted
  MonadExcept.ofExcept result

def unpackSource (name source : String) : Unpacking Report := do
  let call ← step (locateCall name source)
  setCopy (← get).options
  let found ← recognize call source
  match found.modules with
  | .error fault => throw (.malformedTable fault)
  | .ok modules =>
    step (Detecting.record (.unpacked name found.format modules.length found.entry))
    return .ofModules name found modules

def detectFormat (source : String) : Unpacking BundleFormat := do
  let call ← step (locateCall "<input>" source)
  setCopy (← get).options
  return (← recognize call source).format

def unpackFile (path : String) (content : Except FileFault ByteArray) :
    StateT Unpacker Traced Report := do
  let attempt : Unpacking Report := do
    match content with
    | .error fault => throw (.unreadable fault)
    | .ok bytes =>
      match String.fromUTF8? bytes with
      | none => throw (.unreadable .notText)
      | some source => unpackSource path source
  match ← attempt.run with
  | .ok report => return report
  | .error failure =>
    Traced.record (.failed path failure.message)
    return .ofFailure path failure

def unpackFiles (read : String → Except FileFault ByteArray) (paths : List String) :
    StateT Unpacker Traced (List Report) :=
  paths.mapM fun path => unpackFile path (read path)

/-- The results for named sources one after another, each with the options of the unpacker after it. -/
def unpackSources (inputs : List (String × String)) :
    StateT Unpacker Traced (List (Except Failure Report × Options)) :=
  inputs.mapM fun (name, source) => do
    let result ← (unpackSource name source).run
    return (result, (← get).options)

end Unpacker

end BundleLens
