import CaseSuite.Main
import CaseSuite.Proofs.Collaborator.Isolation
import CaseSuite.Proofs.Config.Distinct
import CaseSuite.Proofs.Config.Field
import CaseSuite.Proofs.Config.Point
import CaseSuite.Proofs.Config.Tree
import CaseSuite.Proofs.Config.Union
import CaseSuite.Proofs.Disk.Growth
import CaseSuite.Proofs.Entries
import CaseSuite.Proofs.Entries.Rising
import CaseSuite.Proofs.Json.Scalar
import CaseSuite.Proofs.Outcome
import CaseSuite.Proofs.Pattern.KeyOrder
import CaseSuite.Proofs.Pattern.Verdict
import CaseSuite.Proofs.Run.Course
import CaseSuite.Proofs.Run.Transcript
import CaseSuite.Proofs.Suite.Alike
import CaseSuite.Proofs.Suite.Flattening
import CaseSuite.Proofs.Suite.Leaf
import CaseSuite.Proofs.Suite.Marked
import CaseSuite.Proofs.Suite.Skipped
import CaseSuite.Proofs.Suite.Permuted
import CaseSuite.Proofs.Suite.Unmarked
import CaseSuite.Proofs.Suite.Way
import CaseSuite.Proofs.Text.Split
import CaseSuite.Proofs.Text.Utf8
import CaseSuite.Proofs.Value.Reordered
import CaseSuite.Proofs.Json.Document
import CaseSuite.Proofs.Value.Normal
import CaseSuite.Proofs.Pattern.Encoded
import CaseSuite.Proofs.Suite.Resolvable
import CaseSuite.Proofs.Run.Alone
import CaseSuite.Proofs.Run.Turns
import CaseSuite.Proofs.Run.Report
import CaseSuite.Proofs.Command.Agreement
import CaseSuite.Proofs.Marker
import CaseSuite.Proofs.Pattern.Reflexive
import CaseSuite.Proofs.Pattern.WellMarked
import CaseSuite.Proofs.Pattern.Edited
import CaseSuite.Proofs.Pattern.Difference
import CaseSuite.Proofs.Decimal.Nearest
import CaseSuite.Proofs.Pattern.Converted
import CaseSuite.Proofs.Decimal.Digits
import CaseSuite.Proofs.Pattern.WholeNumber
import CaseSuite.Proofs.Interpolation.Cut
import CaseSuite.Proofs.Interpolation.Filled
import CaseSuite.Proofs.Interpolation.Shape
import CaseSuite.Proofs.Entries.Overlay
import CaseSuite.Proofs.Collaborator.Joined
import CaseSuite.Proofs.Interpolation.Failure
import CaseSuite.Proofs.Run.Response
import CaseSuite.Proofs.Config.Reached
import CaseSuite.Proofs.Text.Order
import CaseSuite.Proofs.Disk.Tour
import CaseSuite.Proofs.Config.Files
import CaseSuite.Proofs.Variables
import CaseSuite.Proofs.Collaborator.Stored
import CaseSuite.Proofs.Value.NormalForm
import CaseSuite.Proofs.Interpolation.Quoted
import CaseSuite.Proofs.Collaborator.Touched
import CaseSuite.Proofs.Time.Layout
import CaseSuite.Proofs.Yaml.KeyText
import CaseSuite.Proofs.Collaborator.Registered
