import LoomKernels.Lib.Loops
import LoomKernels.Lib.Store
import LoomKernels.Lib.Interleaving
import LoomKernels.Lib.Cuts
import LoomKernels.Lib.ExactExp
import LoomKernels.Lib.LogSumExp
import LoomKernels.Host.Contract
import LoomKernels.Host.Indptr
import LoomKernels.Host.AttentionRow
import LoomKernels.Host.ReferenceRow
import LoomKernels.Host.SingleDecode
import LoomKernels.Host.PagedDecode
import LoomKernels.Host.RaggedPrefill
import LoomKernels.Host.PagedPrefill
import LoomKernels.Host.Gather
import LoomKernels.Host.CausalPrefix
import LoomKernels.Host.Rope
import LoomKernels.Host.PagedAppend
import LoomKernels.Host.AppendEffect
import LoomKernels.Device.Machine
import LoomKernels.Device.AppendGuard
import LoomKernels.Device.AppendKernels
import LoomKernels.Device.AppendAtomicity
import LoomKernels.Device.WarpSoftmax
import LoomKernels.Device.TokenParallel
import LoomKernels.Device.PagedTokenParallel
import LoomKernels.Device.SplitK
import LoomKernels.Device.TokenPartition
import LoomKernels.Device.RaggedKernels
import LoomKernels.Device.RaggedPlan
import LoomKernels.Device.TiledGrid
import LoomKernels.Device.TiledKernel
import LoomKernels.Device.TiledOwnership
import LoomKernels.Device.TiledWorkspace
import LoomKernels.Device.TiledLayout
import LoomKernels.Command.Binding
import LoomKernels.Command.Submission
import LoomKernels.Lib.Process
import LoomKernels.Command.Arena
import LoomKernels.Command.Enqueue
import LoomKernels.Host.Dense
import LoomKernels.Command.Operators
import LoomKernels.Command.Accounting
import LoomKernels.Command.Completion
import LoomKernels.Command.Lifecycle
import LoomKernels.Command.Quiescence
import LoomKernels.Command.Poison
import LoomKernels.Graph.Capture
import LoomKernels.Graph.Recording
import LoomKernels.Graph.Ownership
import LoomKernels.Graph.Exec
import LoomKernels.Graph.Replay
import LoomKernels.Graph.Settlement
import LoomKernels.Lib.Machine
import LoomKernels.Word.Specs
import LoomKernels.Word.Metadata
import LoomKernels.Word.Acceptance
import LoomKernels.Word.Rows
import LoomKernels.Word.Attention
import LoomKernels.Word.SplitK
import LoomKernels.Word.Rope
import LoomKernels.Word.Append
import LoomKernels.Word.Overflow
import LoomKernels.Word.Lookups
import LoomKernels.Host.RmsNorm
import LoomKernels.Word.RmsNorm
import LoomKernels.Word.Atomicity
import LoomKernels.Command.Resolve
import LoomKernels.Lib.ExactTrig
import LoomKernels.Host.RopeLaws
import LoomKernels.Lib.Reduction
import LoomKernels.Device.RmsNorm
import LoomKernels.Lib.Access
import LoomKernels.Memory.Kernel
import LoomKernels.Memory.Pages
import LoomKernels.Memory.PagedDecode
import LoomKernels.Memory.PagedPrefill
import LoomKernels.Memory.Preflight
import LoomKernels.Memory.PagedBounds
import LoomKernels.Memory.Ragged
import LoomKernels.Memory.Tiled
import LoomKernels.Memory.RaggedBounds
import LoomKernels.Memory.SplitK
import LoomKernels.Memory.RmsNorm
import LoomKernels.Memory.Words
import LoomKernels.Memory.Alignment
import LoomKernels.Device.TiledSoftmax
import LoomKernels.Device.TiledExact
import LoomKernels.Device.RaggedCover
import LoomKernels.Device.RaggedSentinels
import LoomKernels.Device.RowLaunch
import LoomKernels.Device.PrefillPlans
import LoomKernels.Device.RopeKernel
import LoomKernels.Device.RopePlans
import LoomKernels.Host.AppendSplit
import LoomKernels.Device.PoolLaunches
import LoomKernels.Lib.Objects
import LoomKernels.Host.Gemm
import LoomKernels.Command.CublasLt
import LoomKernels.Command.ProviderRuns
import LoomKernels.Device.GemmPlans
import LoomKernels.Device.BatchInvariance
