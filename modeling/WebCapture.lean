import WebCapture.Main
import WebCapture.Simulation.Naming
import WebCapture.Simulation.Step
import WebCapture.Proofs.Concurrency.Lifecycle
import WebCapture.Proofs.Listener.Balance
import WebCapture.Proofs.Listener.GivingUp
import WebCapture.Proofs.Listener.Tally
import WebCapture.Proofs.Store.Mirror
import WebCapture.Proofs.Store.Integrity
import WebCapture.Proofs.Url.Admission
import WebCapture.Proofs.Results.History
import WebCapture.Proofs.Concurrency.Overtaking
import WebCapture.Proofs.Concurrency.StaleArchive
import WebCapture.Proofs.Concurrency.Stranding
import WebCapture.Proofs.Provenance.Requests
import WebCapture.Proofs.Groups.Progress
import WebCapture.Proofs.Groups.Retrying
import WebCapture.Proofs.Groups.Snapshots
import WebCapture.Proofs.Url.Ports
import WebCapture.Proofs.Url.Canonical
import WebCapture.Proofs.Url.LocalName
import WebCapture.Proofs.Submissions.AllOrNothing
import WebCapture.Proofs.Submissions.Limits
import WebCapture.Proofs.Seed.Archive
import WebCapture.Proofs.Json.Positions
import WebCapture.Proofs.Queue.Agreement
import WebCapture.Proofs.Queue.Waking
import WebCapture.Proofs.Listener.Background
import WebCapture.Proofs.CommandLine.Submitting
