import BundleLens.Main
import BundleLens.Unpacker
import BundleLens.Proofs.Bundle.Shape
import BundleLens.Proofs.Unpack
import BundleLens.Proofs.Unpacker
import BundleLens.Proofs.Bundle.FormatChoice
import BundleLens.Proofs.Bundle.Location
import BundleLens.Proofs.Bundle.CallChoice
import BundleLens.Proofs.ModuleId
import BundleLens.Proofs.Bundle.EntryKey
import BundleLens.Proofs.Bundle.Wrapping
import BundleLens.Proofs.Bundle.HiddenEntry
import BundleLens.Proofs.Bundle.EntryOverride
import BundleLens.Proofs.Bundle.EntryCache
import BundleLens.Proofs.Bundle.RepeatedKeys
import BundleLens.Proofs.Bundle.ChunkGrammar
import BundleLens.Proofs.Bundle.PassedEntry
import BundleLens.Proofs.Session
import BundleLens.Proofs.Bundle.LoaderPlace
import BundleLens.Proofs.Bundle.SlotPosition
import BundleLens.Proofs.Bundle.TableListing
import BundleLens.Proofs.Bundle.KeyIdentity
import BundleLens.Proofs.KeyText
import BundleLens.Proofs.Bundle.NormalIds
import BundleLens.Proofs.CommandLine
import BundleLens.Proofs.EntrySelection
import BundleLens.Proofs.DisplayedId
import BundleLens.Proofs.Console.Lines
import BundleLens.Proofs.Console.ModuleList
import BundleLens.Proofs.Console.Quiet
import BundleLens.Proofs.Json.Controls
import BundleLens.Proofs.Console.Colour
import BundleLens.Proofs.Console.Totals
import BundleLens.Proofs.Marker
import BundleLens.Proofs.Script.Placement
import BundleLens.Proofs.Bundle.FactorySpans
import BundleLens.Proofs.Recorded
