import WireContract.Main
import WireContract.Files.Tree
import WireContract.Mapping.Binding
import WireContract.Mapping.Debug
import WireContract.Mapping.Shape
import WireContract.Proofs.TokenGate
import WireContract.Proofs.GatedRequests
import WireContract.Proofs.WholeBody
import WireContract.Proofs.Referral
import WireContract.Proofs.WalkMachine
import WireContract.Proofs.DependencyPath
import WireContract.Proofs.BodyFields
import WireContract.Proofs.Conformance
import WireContract.Proofs.WalkConformance
import WireContract.Proofs.BodyAgreement
import WireContract.Proofs.Acceptance
import WireContract.Proofs.QueryArrays
import WireContract.Proofs.BoundValues
import WireContract.Proofs.Entering
import WireContract.Proofs.ArrayItems
import WireContract.Proofs.Recording
import WireContract.Proofs.Inlining
import WireContract.Proofs.InliningEffect
import WireContract.Proofs.SingleRules
import WireContract.Proofs.Handing
import WireContract.Proofs.Strictness
import WireContract.Proofs.Registered
import WireContract.Proofs.Precedence
import WireContract.Proofs.Sessions
import WireContract.Proofs.Forgetting
import WireContract.Proofs.Requirement
import WireContract.Proofs.Extension
import WireContract.Proofs.Composition
import WireContract.Proofs.Optionality
import WireContract.Proofs.RoundTrip
import WireContract.Proofs.ReachedModels
import WireContract.Proofs.NamedTypes
import WireContract.Proofs.StoredContract
import WireContract.Proofs.Freshness
import WireContract.Proofs.Taking
import WireContract.Proofs.Initialisation
import WireContract.Proofs.PropertyChains
import WireContract.Proofs.UnreachedDefinitions
import WireContract.Proofs.ComposedFields
import WireContract.Proofs.FieldNames
import WireContract.Proofs.OwnKeys
import WireContract.Proofs.Derivation
import WireContract.Text.NumberSpan
import WireContract.Proofs.Redeclaration
import WireContract.Proofs.LongestNumber
import WireContract.Proofs.NumberBytes
import WireContract.Proofs.NestedReading
import WireContract.Proofs.Encoding
import WireContract.Proofs.TokenText
import WireContract.Proofs.PlainScalars
import WireContract.Proofs.BlockLexing
import WireContract.Proofs.ProjectText
import WireContract.Proofs.StartedProject
import WireContract.Proofs.CollectedResponses
import WireContract.Proofs.OperationIds
import WireContract.Proofs.ParameterOrder
import WireContract.Proofs.HeaderCase
import WireContract.Proofs.IntegerEnums
import WireContract.Proofs.FullUrls
