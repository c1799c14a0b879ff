import BundleLens.Session

namespace BundleLens

/-- A fault of the system as the library knows it. Its number comes with either sign. -/
private def faultOf : IO.Error → FileFault
  | .noFileOrDirectory .. => .missing
  | .permissionDenied .. => .other "Permission denied (os error 13)"
  | .inappropriateType name number details =>
    match min number (0 - number) with
    | 20 => .notDirectory
    | 21 => .isDirectory
    | _ => .other (toString (IO.Error.inappropriateType name number details))
  | e => .other (toString e)

private def systemDisk : Disk IO where
  read path := do
    try return .ok (← IO.FS.readBinFile path)
    catch e => return .error (faultOf e)
  write path content := do
    try
      IO.FS.writeBinFile path content
      return .ok ()
    catch e => return .error (faultOf e)

private def usage : String := "Usage: debundle [OPTIONS] <INPUTS>...\n"

end BundleLens

open BundleLens in
/-- Runs the program on the files of the system. Events go to the error stream: those that matter
always, the others if the user asks for them. -/
def main (arguments : List String) : IO UInt32 := do
  let stdout ← IO.getStdout
  let colour := Console.wantsColour (← IO.getEnv "CLICOLOR_FORCE") (← IO.getEnv "NO_COLOR")
    (← IO.getEnv "CLICOLOR") (← stdout.isTty)
  let outcome ← Session.run systemDisk arguments (← IO.getEnv "DEBUNDLE_CHUNK_GLOBAL") colour
    usage
  for event in outcome.events do
    IO.eprintln event.line
  stdout.putStr outcome.stdout
  stdout.flush
  return outcome.exitCode.toUInt32
