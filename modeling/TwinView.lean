import TwinView.Activation.HostChoice
import TwinView.Contention.Filling
import TwinView.Contention.Polling
import TwinView.Contention.Reservation
import TwinView.Contention.Waiters
import TwinView.Embedding
import TwinView.Memory.Holdings
import TwinView.Proofs.Activation.Requests
import TwinView.Proofs.Activation.Tracer
import TwinView.Proofs.Contention.Linearization
import TwinView.Proofs.Contention.OneRegion
import TwinView.Proofs.Contention.Packing
import TwinView.Proofs.Contention.Staleness
import TwinView.Proofs.Contention.Wakening
import TwinView.Proofs.Memory.Balance
import TwinView.Proofs.Memory.Bytewise
import TwinView.Proofs.Memory.Exhaustion
import TwinView.Proofs.Memory.Journal
import TwinView.Proofs.Memory.Sharing
import TwinView.Proofs.Memory.Storing
import TwinView.Proofs.Memory.Translation
import TwinView.Proofs.Session.Blame
import TwinView.Proofs.Session.Emission
import TwinView.Proofs.Session.Failure
import TwinView.Proofs.Session.Grounds
import TwinView.Proofs.Session.ImmediateProfile
import TwinView.Proofs.Session.Independence
import TwinView.Proofs.Session.Room
import TwinView.Proofs.Settings.Precedence
import TwinView.Proofs.Settings.Sources
import TwinView.Proofs.Settings.Timeout
import TwinView.Settings.File
import TwinView.Proofs.Memory.Custody
import TwinView.Proofs.Toml.Reader
