import TinyPlay.Proofs.Registered
import TinyPlay.Proofs.AppCounters
import TinyPlay.Proofs.StoredSums
import TinyPlay.Lib.Meter
import TinyPlay.Spec.QueryCounters
import TinyPlay.Sanity.Pool
import TinyPlay.Proofs.Conservation
import TinyPlay.Proofs.SavedTotals
import TinyPlay.Lib.Run
import TinyPlay.Lib.Window
import TinyPlay.Spec.TestOrm
import TinyPlay.Proofs.Worker
import TinyPlay.Proofs.MainThread
import TinyPlay.Proofs.Threads
import TinyPlay.Proofs.WorkerLogs
import TinyPlay.Proofs.FailingWorker
import TinyPlay.Proofs.Exits
import TinyPlay.Lib.Lines
import TinyPlay.Lib.Pattern
import TinyPlay.Spec.Benchmark
import TinyPlay.Proofs.Matching
import TinyPlay.Proofs.Printed
import TinyPlay.Proofs.Blocks
import TinyPlay.Proofs.ThreadsMode
import TinyPlay.Proofs.Benchmark
import TinyPlay.Proofs.Composition
import TinyPlay.Lib.Sentinel
import TinyPlay.Proofs.Aggregate
import TinyPlay.Proofs.FullRange
import TinyPlay.Proofs.LogMap
import TinyPlay.Proofs.Guards
import TinyPlay.Proofs.CheckDatabase
import TinyPlay.Proofs.Shown
import TinyPlay.Lib.Regex
import TinyPlay.Lib.Version
import TinyPlay.Lib.CMake
import TinyPlay.Spec.Toolchain
import TinyPlay.Proofs.Toolchain
import TinyPlay.Proofs.Alone
import TinyPlay.Proofs.Isolation
import TinyPlay.Proofs.Progress
import TinyPlay.Proofs.Interleavings
import TinyPlay.Proofs.SummaryTotals
import TinyPlay.Lib.Probe
import TinyPlay.Spec.Ccache
import TinyPlay.Proofs.Ccache
import TinyPlay.Proofs.CcacheFlags
import TinyPlay.Proofs.QtVersion
import TinyPlay.Lib.Words
import TinyPlay.Proofs.VersionHeader
import TinyPlay.Proofs.VersionMacros
import TinyPlay.Lib.Entries
import TinyPlay.Lib.Options
import TinyPlay.Proofs.Components
import TinyPlay.Proofs.MsvcRuntime
import TinyPlay.Proofs.Rejected
