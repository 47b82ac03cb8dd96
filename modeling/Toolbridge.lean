import Toolbridge.Json.Reader
import Toolbridge.Main
import Toolbridge.Proofs.Attribute.Reach
import Toolbridge.Proofs.Attribute.Resolve
import Toolbridge.Proofs.Compatibility.Shape
import Toolbridge.Proofs.Compatibility.Agreement
import Toolbridge.Proofs.Compatibility.Decides
import Toolbridge.Proofs.Attribute.Vicinity
import Toolbridge.Proofs.Compatibility.Calls
import Toolbridge.Proofs.Compatibility.Ending
import Toolbridge.Proofs.Compatibility.Rank
import Toolbridge.Proofs.Conversion.Contract
import Toolbridge.Proofs.Conversion.Matching
import Toolbridge.Proofs.Conversion.Compatible
import Toolbridge.Proofs.Import.Block
import Toolbridge.Proofs.Import.Sight
import Toolbridge.Proofs.Plan.Conversions
import Toolbridge.Proofs.Design.Written
import Toolbridge.Proofs.Design.Closed
import Toolbridge.Proofs.Plan.Imports
import Toolbridge.Proofs.Design.Reading
import Toolbridge.Proofs.Go.Calls
import Toolbridge.Proofs.Conversion.Descent
import Toolbridge.Proofs.Conversion.Account
import Toolbridge.Proofs.Conversion.Helpers
import Toolbridge.Proofs.Plan.HelperSet
import Toolbridge.Proofs.Plan.Requests
import Toolbridge.Proofs.Plan.Helpers
import Toolbridge.Proofs.Conversion.HelperNames
import Toolbridge.Proofs.Plan.Signatures
import Toolbridge.Proofs.Conversion.Replay
import Toolbridge.Proofs.Go.Spelling
import Toolbridge.Proofs.Plan.SharedHelpers
import Toolbridge.Proofs.Plan.Shapes
import Toolbridge.Proofs.Import.Holders
import Toolbridge.Proofs.Import.Allocation
import Toolbridge.Proofs.Import.Pending
import Toolbridge.Proofs.Import.Assembly
import Toolbridge.Proofs.Plan.Answers
import Toolbridge.Proofs.Plan.FunctionNames
import Toolbridge.Proofs.Plan.Course
import Toolbridge.Proofs.Plan.OwnTypes
import Toolbridge.Proofs.Plan.Rearrangement
import Toolbridge.Proofs.Go.Fields
import Toolbridge.Proofs.Plan.Parameters
import Toolbridge.Proofs.Plan.NilGuards
import Toolbridge.Proofs.Go.Identifiers
import Toolbridge.Proofs.Plan.LocalTypes
import Toolbridge.Proofs.Compatibility.Equivalence
import Toolbridge.Proofs.Conversion.Openings
import Toolbridge.Proofs.Plan.Built
import Toolbridge.Proofs.Plan.Failures
import Toolbridge.Proofs.Design.Violations
import Toolbridge.Proofs.Import.Collisions
import Toolbridge.Proofs.Import.Sightings
import Toolbridge.Proofs.Command.Rendering
import Toolbridge.Proofs.Conversion.NilChecks
import Toolbridge.Proofs.Plan.HelperRuns
import Toolbridge.Proofs.Plan.Removal
import Toolbridge.Proofs.Compatibility.Divergence
import Toolbridge.Proofs.Conversion.Assignments
import Toolbridge.Proofs.Plan.DerivedTypes
import Toolbridge.Proofs.Design.Faults
import Toolbridge.Proofs.Plan.Tracing
import Toolbridge.Proofs.Go.StringLiterals
import Toolbridge.Proofs.Conversion.Defaults
import Toolbridge.Proofs.Go.Scopes
import Toolbridge.Proofs.Conversion.LoopVariables
import Toolbridge.Proofs.Conversion.Scoping
import Toolbridge.Proofs.Go.ValidNames
import Toolbridge.Proofs.Import.ValidNames
