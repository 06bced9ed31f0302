import Loading.Table
import Loading.Interaction
import Loading.Text.Split
import Loading.Text.Blank
import Loading.Text.Utf8
import Loading.Text.Quoted
import Loading.Name
import Loading.Certificate
import Loading.Domain
import Loading.Scope
import Loading.Module
import Loading.Kind
import Loading.Assertions
import Loading.Locks
import Loading.Path
import Loading.FileTree
import Loading.Error
import Loading.Reservations
import Loading.Config
import Loading.Library.Request
import Loading.Library.Dynamic
import Loading.Loader.Delegation
import Loading.Loader.Directory
import Loading.Loader.Opaque
import Loading.World.Lifetime
import Loading.World.Surroundings
import Loading.Command.Run
import Loading.World.Description
import Loading.Main
import Loading.Proofs.Reentry.Session
import Loading.Proofs.Reentry.Discipline
import Loading.Proofs.Reentry.Actions
import Loading.Proofs.Library.Ownership
import Loading.Proofs.Library.Requests
import Loading.Proofs.Library.Images
import Loading.Proofs.Library.Reentrance
import Loading.Proofs.Library.RequestPreservation
import Loading.Proofs.Library.Exclusion
import Loading.Proofs.Library.Handles
import Loading.Proofs.Loader.Hierarchy
import Loading.Proofs.Signers.Certificates
import Loading.Proofs.Signers.Reservations
import Loading.Proofs.Signers.Desk
import Loading.Proofs.Loader.Calls
import Loading.Proofs.Loader.EffectPreservation
import Loading.Proofs.Loader.OperationPreservation
import Loading.Proofs.Loader.Remembering
import Loading.Proofs.Loader.Signing
import Loading.Proofs.Loader.Defining
import Loading.Proofs.Reentry.Exchanges
import Loading.Proofs.Loader.Attempting
import Loading.Proofs.Loader.Delegating
import Loading.Proofs.Loader.Confinement
import Loading.Proofs.Loader.Isolation
import Loading.Proofs.Loader.ActionInvariance
import Loading.Proofs.Loader.Kinds
import Loading.Proofs.Loader.AnswerInheritance
import Loading.Proofs.Loader.Entrusting
import Loading.Proofs.Loader.Linking
import Loading.Proofs.Loader.HandleAgreement
import Loading.Proofs.Loader.CriticalSections
import Loading.Proofs.Loader.Racing
import Loading.Proofs.Library.Turns
import Loading.Proofs.World.Runs
import Loading.Proofs.World.Dropping
import Loading.Proofs.World.Repeating
import Loading.Proofs.Command.Layers
import Loading.Proofs.Command.Choice
import Loading.Proofs.Loader.Gathering
import Loading.Proofs.Command.Printing
import Loading.Proofs.Loader.ActionFootprints
import Loading.Proofs.Loader.Accepting
import Loading.Proofs.Loader.Naming
import Loading.Proofs.Loader.Mirroring
import Loading.Proofs.Loader.Failing
import Loading.Proofs.Library.Entries
import Loading.Proofs.Library.Searching
import Loading.Proofs.Library.Failures
import Loading.Proofs.Library.Releasing
import Loading.Proofs.World.Refusals
import Loading.Proofs.Loader.Answering
import Loading.Proofs.Pieces
import Loading.Proofs.Paths
import Loading.Proofs.FileTrees
import Loading.Proofs.Directory.ModulePath
import Loading.Proofs.Directory.Resources
import Loading.Proofs.Directory.Finding
import Loading.Proofs.Assertions
import Loading.Proofs.Locking
import Loading.Proofs.Loader.Ancestry
import Loading.Proofs.Command.Writing
