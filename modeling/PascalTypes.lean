import PascalTypes.NameSet
import PascalTypes.Plain
import PascalTypes.Proofs.AssignmentLaws
import PascalTypes.Proofs.ClassOrder
import PascalTypes.Proofs.Coherence
import PascalTypes.Proofs.DeclarationFrame
import PascalTypes.Proofs.Identifiers
import PascalTypes.Proofs.OverloadChoice
import PascalTypes.TypeEnv.Calls
import PascalTypes.TypeEnv.Declare
import PascalTypes.TypeEnv.OperatorChoice
import PascalTypes.Proofs.IdentifierRanges
import PascalTypes.Proofs.StoreHistory
import PascalTypes.Proofs.AssignmentReversal
import PascalTypes.Proofs.ConversionRoutes
import PascalTypes.Proofs.GroundedRuns
import PascalTypes.Proofs.ClassAncestry
import PascalTypes.Proofs.LateClasses
import PascalTypes.Proofs.OperatorWidening
import PascalTypes.Proofs.OverloadRanking
import PascalTypes.Proofs.RegistrationOrder
import PascalTypes.Proofs.InheritedMembers
import PascalTypes.Proofs.InterfaceExtension
import PascalTypes.Proofs.MissingMethods
import PascalTypes.Proofs.HelperLineages
import PascalTypes.Proofs.AliasedOperands
import PascalTypes.Proofs.DirectConversions
import PascalTypes.Proofs.ListedInterfaces
import PascalTypes.Proofs.LateHelpers
import PascalTypes.Proofs.OperatorSignatures
import PascalTypes.Proofs.Folding
import PascalTypes.Proofs.TypeHistory
import PascalTypes.Proofs.OverloadGuards
import PascalTypes.Proofs.ArrayLengths
import PascalTypes.Proofs.AliasCircles
import PascalTypes.Proofs.MapReplay
import PascalTypes.Proofs.OmittedArguments
