import Reflectory.Main
import Reflectory.Proofs.Configuration.Documents
import Reflectory.Proofs.Constant.Evaluation
import Reflectory.Proofs.Generation.Aliases
import Reflectory.Proofs.Generation.BestEffort
import Reflectory.Proofs.Generation.ChangeListing
import Reflectory.Proofs.Generation.Comparison
import Reflectory.Proofs.Generation.Counts
import Reflectory.Proofs.Generation.Headers
import Reflectory.Proofs.Generation.MacroArguments
import Reflectory.Proofs.Generation.Manifest
import Reflectory.Proofs.Generation.MethodLines
import Reflectory.Proofs.Generation.PropertyLines
import Reflectory.Proofs.Generation.Rerun
import Reflectory.Proofs.Generation.Stems
import Reflectory.Proofs.Generation.WrapperIds
import Reflectory.Proofs.Property.Agreement
import Reflectory.Proofs.Property.Conservation
import Reflectory.Proofs.Property.Coverage
import Reflectory.Proofs.Property.Order
import Reflectory.Proofs.Property.Passes
import Reflectory.Proofs.Property.Slots
import Reflectory.Proofs.Registry.Abstractness
import Reflectory.Proofs.Registry.Cycles
import Reflectory.Proofs.Registry.DeclaredMethods
import Reflectory.Proofs.Registry.Enumerators
import Reflectory.Proofs.Registry.IndexOrder
import Reflectory.Proofs.Registry.KeptMembers
import Reflectory.Proofs.Registry.PropertyNames
import Reflectory.Proofs.Registry.RegistrationOrder
import Reflectory.Proofs.Registry.Renumbering
import Reflectory.Proofs.Registry.Repetition
import Reflectory.Proofs.Registry.Reregistration
import Reflectory.Proofs.Registry.Resolution
import Reflectory.Proofs.Registry.Scopes
import Reflectory.Proofs.Registry.Validity
import Reflectory.Proofs.Spelling.Canonical
import Reflectory.Proofs.Spelling.Containers
import Reflectory.Proofs.Spelling.ContainerNames
import Reflectory.Proofs.Spelling.ValueTypes
import Reflectory.Proofs.Registry.UsedContainers
import Reflectory.Proofs.Text.Filling
import Reflectory.Proofs.Xml.Writing
import Reflectory.Proofs.Xml.Pieces
import Reflectory.Proofs.Xml.RoundTrip
