import Rollout.Arguments
import Rollout.Json.Reader
import Rollout.Json.Writer
import Rollout.Log.Report
import Rollout.Merge.Layer
import Rollout.Proofs.Config.Sections
import Rollout.Reconciliation
import Rollout.Proofs.Config.Comparison
import Rollout.Proofs.Config.Generations
import Rollout.Proofs.Yaml.Cursor
import Rollout.Proofs.Yaml.Plain
import Rollout.Proofs.Yaml.Quoted
import Rollout.Proofs.Yaml.Block
import Rollout.Proofs.Yaml.Scan
import Rollout.Proofs.Yaml.Outline
import Rollout.Proofs.Yaml.Compose
import Rollout.Proofs.Yaml.Reading
import Rollout.Proofs.Config.RoundTrip
import Rollout.Proofs.Stack.Resolution
import Rollout.Proofs.Config.Pipeline
import Rollout.Proofs.Codec.Faithful
import Rollout.Proofs.Kube.Records
import Rollout.Proofs.Json.Place
import Rollout.Proofs.Mutation.Owned
import Rollout.Proofs.Kube.Dynamic
import Rollout.Proofs.Mutation.Frame
import Rollout.Proofs.Mutation.Refinement
import Rollout.Proofs.Mutation.Runs
import Rollout.Proofs.Mutation.Ownership
import Rollout.Proofs.Stack.Layers
import Rollout.Proofs.Yaml.Overlook
import Rollout.Proofs.Yaml.Noise
import Rollout.Proofs.Config.Noise
import Rollout.Proofs.Diff.Location
import Rollout.Proofs.Diff.Branch
import Rollout.Proofs.Diff.Cover
import Rollout.Proofs.Config.Differences
import Rollout.Proofs.Merge.Laws
import Rollout.Proofs.Stack.Precedence
import Rollout.Proofs.Diff.Leaf
import Rollout.Proofs.Yaml.Place
import Rollout.Proofs.Config.Paths
import Rollout.Mutation.InPlace
import Rollout.Proofs.Mutation.Atomic
import Rollout.Proofs.Tls.Certificate
import Rollout.Proofs.Diff.Symmetry
import Rollout.Proofs.Diff.Attribution
import Rollout.Proofs.Text.Bytes
import Rollout.Proofs.Json.Scalar
import Rollout.Proofs.Json.Text
import Rollout.Proofs.Codec.Text
import Rollout.Proofs.CustomResources
import Rollout.Proofs.Config.Effective
import Rollout.Proofs.Stack.Fixpoint
import Rollout.Tls.InPlace
import Rollout.Proofs.Tls.Additions
import Rollout.Proofs.Codec.Partial
import Rollout.Proofs.Stack.Partial
import Rollout.Proofs.Merge.Bindings
import Rollout.Proofs.Json.Lens
import Rollout.Proofs.Diff.Display
