import SceneScript.CommandLine.World
import SceneScript.Main
import SceneScript.Proofs.Bytes.AllOrNothing
import SceneScript.Proofs.Bytes.KeyStreams
import SceneScript.Proofs.CommandLine.Effects
import SceneScript.Proofs.CommandLine.ScriptIndex
import SceneScript.Proofs.Expression.Grouping
import SceneScript.Proofs.Expression.Noise
import SceneScript.Proofs.Expression.Precedence
import SceneScript.Proofs.Expression.Verdict
import SceneScript.Proofs.Files.Exact
import SceneScript.Proofs.Listing
import SceneScript.Proofs.Nesting.Acceptance
import SceneScript.Proofs.Nesting.Locality
import SceneScript.Proofs.Nesting.Outline
import SceneScript.Proofs.Nesting.SourceOrder
import SceneScript.Proofs.Resources.Extended
import SceneScript.Proofs.Resources.Idle
import SceneScript.Proofs.Resources.LabelsKept
import SceneScript.Proofs.Resources.Layout
import SceneScript.Proofs.Resources.Masked
import SceneScript.Proofs.Resources.PlainText
import SceneScript.Proofs.Resources.Shares
import SceneScript.Proofs.Source.RoundTrip
import SceneScript.Proofs.Source.WellNested
import SceneScript.Proofs.Text.RoundTrip
