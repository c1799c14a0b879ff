import BundleLens.BundleFormat
import BundleLens.Script.SyntaxError

namespace BundleLens

inductive TableFault where
  | spreadElement (offset : Nat)
  | spreadProperty
  | unsupportedKey (offset : Nat)
  deriving DecidableEq

def TableFault.message : TableFault → String
  | .spreadElement offset => s!"spread element at offset {offset}"
  | .spreadProperty => "spread property in module table"
  | .unsupportedKey offset => s!"unsupported key at offset {offset}"

inductive FileFault where
  | missing
  | isDirectory
  | notDirectory
  | notText
  | other (message : String)
  deriving DecidableEq

def FileFault.message : FileFault → String
  | .missing => "No such file or directory (os error 2)"
  | .isDirectory => "Is a directory (os error 21)"
  | .notDirectory => "Not a directory (os error 20)"
  | .notText => "stream did not contain valid UTF-8"
  | .other message => message

inductive Failure where
  /-- The call has the shape of the other format, which is given. -/
  | wrongFormat (actual : BundleFormat)
  | notBootstrap
  | noEntry
  | malformedTable (fault : TableFault)
  /-- No call stands at the top level of the source with this name. -/
  | noCall (source : String)
  | invalidScript (source : String) (fault : Script.SyntaxError)
  | unreadable (fault : FileFault)
  deriving DecidableEq

def Failure.message : Failure → String
  | .wrongFormat actual =>
    s!"This bundle looks like a {actual.name} bundle. " ++
    s!"Set the format to '{actual.name}' and try again."
  | .notBootstrap => "The AST is not a recognized webpack bootstrap call"
  | .noEntry => "No entry point was given and the entry id could not be recovered from the bootstrap"
  | .malformedTable fault => s!"Malformed module table: {fault.message}"
  | .noCall source => s!"No bootstrap call found at the top level of {source}"
  | .invalidScript source fault => s!"AST parse error: {source}: {fault.message}"
  | .unreadable fault => s!"IO error: {fault.message}"

end BundleLens
