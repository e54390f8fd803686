import Andromeda.Wal.SegmentGc
import Andromeda.Wal.CrashSafety
import Andromeda.Recovery.CommittedRows
import Andromeda.Recovery.SwitchEvidence
import Andromeda.Recovery.Restart
import Andromeda.Recovery.Undo
import Andromeda.Mvcc.RepeatableRead
import Andromeda.Mvcc.GarbageCollection
import Andromeda.TransactionLog.LogAgreement
import Andromeda.TransactionLog.TerminalOutcome
import Andromeda.Locking.GrantedModes
import Andromeda.Locking.DeadlockCompleteness
import Andromeda.Hadr.Failover
import Andromeda.Rpc.ResultStream
import Andromeda.Transactions.TwoPhase
import Andromeda.Transactions.AllocatorThreads
import Andromeda.BufferPool.Residency
import Andromeda.BufferPool.WalFence
import Andromeda.BufferPool.Transparency
import Andromeda.DiskStore.Equivalence
import Andromeda.DiskStore.PageRoundTrip
import Andromeda.Index.KeyCodec
import Andromeda.Catalog.DurableRuns
import Andromeda.Catalog.ReplayAccounting
import Andromeda.Audit.JournalCrash
import Andromeda.Audit.RetainedRecords
import Andromeda.Audit.TamperEvidence
import Andromeda.Heap.RedoTemplate
import Andromeda.Heap.Page
