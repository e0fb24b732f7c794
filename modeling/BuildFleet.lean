import BuildFleet.Invocation.Pair
import BuildFleet.Main
import BuildFleet.Proofs.Catalog.Edits
import BuildFleet.Proofs.Catalog.Listing
import BuildFleet.Proofs.CommandError
import BuildFleet.Proofs.CommandLine.Spelling
import BuildFleet.Proofs.Coordinator.Create
import BuildFleet.Proofs.Creation.Decision
import BuildFleet.Proofs.Creation.Listing
import BuildFleet.Proofs.Creation.Observer
import BuildFleet.Proofs.Creation.Progress
import BuildFleet.Proofs.Creation.RootCause
import BuildFleet.Proofs.Creation.Success
import BuildFleet.Proofs.Elapsed
import BuildFleet.Proofs.Footprint
import BuildFleet.Proofs.GroupStore.Agreement
import BuildFleet.Proofs.GroupStore.OwnFile
import BuildFleet.Proofs.Invocation.ActiveGroup
import BuildFleet.Proofs.Invocation.AllOrNothing
import BuildFleet.Proofs.Invocation.Concurrent
import BuildFleet.Proofs.Invocation.Growth
import BuildFleet.Proofs.Invocation.Rejection
import BuildFleet.Proofs.Setup.Log
import BuildFleet.Proofs.Setup.Output
import BuildFleet.Setup.Command
import BuildFleet.Setup.Process
import BuildFleet.Setup.SourceRoot
