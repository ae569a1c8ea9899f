import Bindings.Main
import Bindings.Protocol.Writer
import Bindings.Proofs.Output.Builders
import Bindings.Proofs.Output.Contracts
import Bindings.Proofs.Output.Imports
import Bindings.Proofs.Output.Layers
import Bindings.Proofs.Output.Links
import Bindings.Proofs.Output.Nullability
import Bindings.Proofs.Output.Uniqueness
import Bindings.Proofs.Output.Order
import Bindings.Proofs.Emission.Paths
import Bindings.Proofs.Name.Parameters
import Bindings.Proofs.Output.Parameters
import Bindings.Proofs.Output.Paths
import Bindings.Proofs.Name.Idempotence
import Bindings.Proofs.Output.Setters
import Bindings.Proofs.Output.ImportNames
import Bindings.Proofs.Output.Locality
import Bindings.Proofs.Output.Documentation
import Bindings.Proofs.Log.Diagnostics
import Bindings.Proofs.Workspace.Memory
import Bindings.Proofs.Protocol.RoundTrip
import Bindings.Proofs.Output.Finiteness
import Bindings.Proofs.Resolution.Cycles
import Bindings.Proofs.Resolution.Building
import Bindings.Proofs.Name.Letters
import Bindings.Proofs.Output.Enumerations
import Bindings.Proofs.Name.Joining
import Bindings.Proofs.Name.Unexported
import Bindings.Proofs.Name.Literals
import Bindings.Proofs.Text.Descriptions
import Bindings.Proofs.Go.StringLiterals
import Bindings.Proofs.Protocol.Merging
import Bindings.Proofs.Config.Precedence
import Bindings.Proofs.Name.Division
