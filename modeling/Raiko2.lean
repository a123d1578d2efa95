import Raiko2.Engine.Publication
import Raiko2.Guest.AggregateSound
import Raiko2.Guest.BlobUsage
import Raiko2.Guest.BlockHashes
import Raiko2.Guest.DerivedWellFormed
import Raiko2.Guest.SparseLedger
import Raiko2.Host.PreflightAgrees
import Raiko2.Host.SingleFlight
import Raiko2.Input.PacketSound
import Raiko2.Prover.Sp1Safety
import Raiko2.Queue.Admission
import Raiko2.Queue.Calls
import Raiko2.Queue.LostWakeups
import Raiko2.Queue.Progress
import Raiko2.Queue.ReadyOrder
import Raiko2.Runtime.ProofStoreLinear
import Raiko2.Runtime.Restart
import Raiko2.Runtime.StorageNames
import Raiko2.Server.RootHistory
import Raiko2.Sgx.Instance
