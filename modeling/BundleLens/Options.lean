import BundleLens.BundleFormat
import BundleLens.ModuleId

namespace BundleLens

/-- Settings for the detection of bundles. Without a format, the shape of each bundle decides. An
entry replaces the one that a bundle names. -/
structure Options where
  format : Option BundleFormat := none
  entry : Option ModuleId := none
  /-- The name of the global variable that holds the chunk loader. -/
  chunkGlobal : String := "webpackJsonp"
  deriving DecidableEq, Inhabited

end BundleLens
