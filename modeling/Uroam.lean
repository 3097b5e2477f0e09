import Uroam.Library.Runs
import Uroam.Library.Pipes
import Uroam.Library.Tally
import Uroam.Library.Racing
import Uroam.Library.Loops
import Uroam.Library.ByteOrder
import Uroam.Library.Selection
import Uroam.Library.Pages
import Uroam.Library.Thread
import Uroam.Library.SearchTree
import Uroam.Library.Settings
import Uroam.Library.Columns
import Uroam.Library.Lines
import Uroam.Library.Ownership
import Uroam.Library.Dict
import Uroam.Library.Tables
import Uroam.Library.Plurality
import Uroam.Library.Occurrence
import Uroam.Library.Slots
import Uroam.Library.Layout
import Uroam.Library.Scanf
import Uroam.Library.Mounts
import Uroam.Library.Scopes
import Uroam.Library.Utf8
import Uroam.Library.Reading
import Uroam.Library.JsonText
import Uroam.Shared.Memopt
import Uroam.Shared.Pool
import Uroam.Shared.Session
import Uroam.Shared.Mapped
import Uroam.Shared.Stats
import Uroam.Shared.Counting
import Uroam.Shared.Contents
import Uroam.Shared.Calloc
import Uroam.Kernel.State
import Uroam.Kernel.Netlink
import Uroam.Kernel.Pressure
import Uroam.Kernel.Delivery
import Uroam.Kernel.Tracking
import Uroam.Kernel.TrackingTree
import Uroam.Kernel.Coherence
import Uroam.Kernel.Churn
import Uroam.Kernel.Scanning
import Uroam.Kernel.Numa
import Uroam.Kernel.NumaNodes
import Uroam.Kernel.NumaTasks
import Uroam.Kernel.Sleeping
import Uroam.Kernel.Lifecycle
import Uroam.Kernel.Unload
import Uroam.Kernel.Stopping
import Uroam.Kernel.Monitoring
import Uroam.Kernel.Hooks
import Uroam.Kernel.HookTasks
import Uroam.Probes.Program
import Uroam.Probes.Balance
import Uroam.Tuning.Tunable
import Uroam.Tuning.Classifier
import Uroam.Tuning.Engine
import Uroam.Tuning.History
import Uroam.Tuning.Selection
import Uroam.Tuning.Matching
import Uroam.Tuning.Detection
import Uroam.Tuning.Smaps
import Uroam.Tuning.Histogram
import Uroam.Tuning.Zram
import Uroam.Tuning.Psi
import Uroam.Tuning.OomScores
import Uroam.Tuning.Daemon
import Uroam.Tuning.DaemonMatching
import Uroam.Tuning.Leaving
import Uroam.Tuning.Effective
import Uroam.Tuning.Gaming
import Uroam.Tuning.Restoring
import Uroam.Tuning.GamingActive
import Uroam.Tuning.GamingExits
import Uroam.Tuning.Idle
import Uroam.Tuning.Retrying
import Uroam.Service.RamDisk
import Uroam.Service.Mounting
import Uroam.Service.Ipc
import Uroam.Service.Meminfo
import Uroam.Service.Framing
import Uroam.Service.Replies
import Uroam.Service.Exchange
import Uroam.Service.Config
import Uroam.Service.Defaults
import Uroam.Service.Startup
import Uroam.Aal.Detect
import Uroam.Aal.NodeMemory
import Uroam.Aal.Cpuid
import Uroam.Aal.ByteSwap
import Uroam.Integrations.Contexts
import Uroam.Integrations.Replacing
import Uroam.Integrations.MemoryPool
import Uroam.Integrations.PoolStats
import Uroam.Integrations.Tracker
import Uroam.User.Snapshots
import Uroam.User.Workload
import Uroam.User.Cli
import Uroam.Kmod.Scanner
import Uroam.Kmod.Quiescence
import Uroam.Kernel.Tracing
import Uroam.Probes.Loader
import Uroam.Probes.Records
import Uroam.Service.Server
import Uroam.Service.Answering
import Uroam.Service.Stopping
import Uroam.Tuning.MemoptCli
import Uroam.Tuning.PsiScan
import Uroam.Integrations.Optimizers
import Uroam.Kernel.Reporting
import Uroam.Service.Running
import Uroam.Shared.PoolArena
import Uroam.User.Policy
import Uroam.Tuning.ZramDevices
