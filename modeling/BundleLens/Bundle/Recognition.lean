import BundleLens.Bundle.Classic
import BundleLens.Bundle.Chunk

namespace BundleLens.Bundle

def detectAs (format : BundleFormat) (call : Call) (options : Options) : Detecting Detection :=
  match format with
  | .classic => Classic.detect call options
  | .chunk => Chunk.detect call options

/-- Recognizes a bundle of the format in the options, or of the one that the call suggests. An entry
that the bundle names is remembered in the options that are returned. -/
def detect (call : Call) (options : Options) : Traced (Except Failure Detection × Options) := do
  let format := options.format.getD call.inferredFormat
  match ← (detectAs format call options).run with
  | .error failure => return (.error failure, options)
  | .ok found =>
    if found.entrySource = .resolved then
      Traced.record (.entryRemembered found.entry)
      return (.ok found, { options with entry := found.entry })
    else return (.ok found, options)

end BundleLens.Bundle
