import RouteHelpers.Main
import RouteHelpers.Proofs.Extract.RouteTable
import RouteHelpers.Proofs.Extract.Distinct
import RouteHelpers.Proofs.Extract.Bindable
import RouteHelpers.Proofs.Path.Substitution
import RouteHelpers.Proofs.RouteFile.Walk
import RouteHelpers.Proofs.RouteFile.Claiming
import RouteHelpers.Proofs.RouteFile.Origin
import RouteHelpers.Proofs.RouteFile.Extraction
import RouteHelpers.Proofs.RouteFile.Containment
import RouteHelpers.Proofs.RouteFile.Joining
import RouteHelpers.Proofs.RouteFile.Naming
import RouteHelpers.Proofs.RouteFile.Erasure
import RouteHelpers.Proofs.RouteFile.Rereading
import RouteHelpers.Proofs.RouteFile.NameSpace
import RouteHelpers.Proofs.RouteFile.Nesting
import RouteHelpers.Proofs.Resource.Component
import RouteHelpers.Proofs.Resource.Linking
import RouteHelpers.Proofs.Resource.Overwriting
import RouteHelpers.Proofs.Resource.Conservation
import RouteHelpers.Proofs.Resource.Reordering
import RouteHelpers.Proofs.Resource.Renaming
import RouteHelpers.Proofs.Resource.Confinement
import RouteHelpers.Proofs.Resource.Compactness
import RouteHelpers.Proofs.Resource.Distinctness
import RouteHelpers.Proofs.Resource.Bindings
import RouteHelpers.Proofs.Path.Required
import RouteHelpers.Proofs.Path.Writing
import RouteHelpers.Proofs.Path.Injectivity
import RouteHelpers.Proofs.Path.Extension
import RouteHelpers.Proofs.Path.NormalForm
import RouteHelpers.Proofs.Script.Agreement
import RouteHelpers.Proofs.Script.Parameters
import RouteHelpers.Proofs.Script.Shape
import RouteHelpers.Proofs.Script.Distinctness
import RouteHelpers.Proofs.Script.Comment
import RouteHelpers.Proofs.Script.UsableName
import RouteHelpers.Proofs.Json.Delimiting
import RouteHelpers.Proofs.Configuration.Merging
import RouteHelpers.Proofs.Configuration.Correction
import RouteHelpers.Proofs.Files.Writing
import RouteHelpers.Proofs.Summary
import RouteHelpers.Proofs.OptionFile
import RouteHelpers.Proofs.CommandLine.Step
import RouteHelpers.Proofs.Router
import RouteHelpers.Proofs.Generation
import RouteHelpers.Proofs.CommandLine.Containment
