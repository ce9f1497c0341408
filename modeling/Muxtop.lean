import Muxtop.Foundation.FloatBits
import Muxtop.Foundation.FloatArith
import Muxtop.Foundation.FloatCompare
import Muxtop.Foundation.FunctionalGraph
import Muxtop.Foundation.FixedWidth
import Muxtop.Foundation.Radix
import Muxtop.Foundation.Base64
import Muxtop.Foundation.OverflowChecks
import Muxtop.Foundation.ByteStream
import Muxtop.Foundation.Bincode
import Muxtop.Foundation.BincodeCombinators
import Muxtop.Foundation.Runs
import Muxtop.Foundation.RingBuffer
import Muxtop.Foundation.Saturating
import Muxtop.Foundation.BoundedChannel
import Muxtop.Foundation.PollLoop
import Muxtop.Foundation.Retain
import Muxtop.Foundation.InsertAll
import Muxtop.Foundation.Tally
import Muxtop.Foundation.GreedyDrop
import Muxtop.Foundation.RecentlyUsed
import Muxtop.Foundation.StableSort
import Muxtop.Foundation.TotalPreorder
import Muxtop.Foundation.Text
import Muxtop.Foundation.Splitting
import Muxtop.Foundation.IpAddr
import Muxtop.Foundation.Numerals
import Muxtop.Foundation.FloatText
import Muxtop.Foundation.WeightedMean
import Muxtop.Foundation.TokenBucket
import Muxtop.Foundation.TaskPool
import Muxtop.Foundation.BufferUnordered
import Muxtop.Foundation.Refusals
import Muxtop.Foundation.Broadcast
import Muxtop.Core.Process
import Muxtop.Core.ProcessTree
import Muxtop.Core.ProcessCycles
import Muxtop.Core.ProcessList
import Muxtop.Core.TreeAddresses
import Muxtop.Core.System
import Muxtop.Core.KubeObjects
import Muxtop.Core.CpuQuantity
import Muxtop.Core.MemoryQuantity
import Muxtop.Core.KubeEngine
import Muxtop.Core.KubeScope
import Muxtop.Core.KubeConnect
import Muxtop.Core.KubeReachable
import Muxtop.Core.ScopeToggles
import Muxtop.Core.ScopeNamespaces
import Muxtop.Core.PodCounts
import Muxtop.Core.KubeMetrics
import Muxtop.Core.KubeMetricsRuns
import Muxtop.Core.GpuEngine
import Muxtop.Core.NvmlEngine
import Muxtop.Core.AppleMetrics
import Muxtop.Core.AmdEngine
import Muxtop.Core.AppleEngine
import Muxtop.Core.GpuDetect
import Muxtop.Core.NetworkHistory
import Muxtop.Core.NetworkDeltas
import Muxtop.Core.DockerEngine
import Muxtop.Core.DockerCpu
import Muxtop.Core.DockerPoll
import Muxtop.Core.DockerHost
import Muxtop.Core.DockerUrls
import Muxtop.Core.Collector
import Muxtop.Core.CollectorRuns
import Muxtop.Proto.Frame
import Muxtop.Proto.FrameCodec
import Muxtop.Proto.SnapshotCodec
import Muxtop.Proto.Wire
import Muxtop.Proto.WireCodec
import Muxtop.Proto.Remote
import Muxtop.Proto.Backoff
import Muxtop.Proto.RemoteStream
import Muxtop.Proto.RemoteTarget
import Muxtop.Server.Client
import Muxtop.Server.Session
import Muxtop.Server.Login
import Muxtop.Server.RateLimit
import Muxtop.Server.RateLimitBuckets
import Muxtop.Server.RateLimitRuns
import Muxtop.Server.RateLimitMemory
import Muxtop.Server.Server
import Muxtop.Server.AcceptLoop
import Muxtop.Server.Relay
import Muxtop.Server.SessionFrames
import Muxtop.Server.EndToEnd
import Muxtop.Server.Host
import Muxtop.Server.Uplink
import Muxtop.Tui.Tabs
import Muxtop.Tui.Keymap
import Muxtop.Tui.KubeView
import Muxtop.Tui.Views
import Muxtop.Tui.Notify
import Muxtop.Tui.Palette
import Muxtop.Tui.PaletteLists
import Muxtop.Tui.App
import Muxtop.Tui.ViewOps
import Muxtop.Tui.Caches
import Muxtop.Tui.ReadOnly
import Muxtop.Tui.PaletteRuns
import Muxtop.Tui.Keyboard
import Muxtop.Tui.FilterLag
import Muxtop.Tui.TabRoutes
import Muxtop.Tui.Draw
import Muxtop.Tui.ActiveTab
import Muxtop.Tui.StepBack
import Muxtop.Tui.Selection
import Muxtop.Tui.Wheel
import Muxtop.Tui.CpuSorts
import Muxtop.Tui.KillNamed
import Muxtop.Tui.RowCounts
import Muxtop.Tui.RowIdentity
import Muxtop.Tui.KubeTables
import Muxtop.Tui.GpuView
import Muxtop.Tui.GpuIdentity
import Muxtop.Tui.NetworkView
import Muxtop.Tui.NetworkIdentity
import Muxtop.Tui.SortArrow
import Muxtop.Tui.Cells
import Muxtop.Tui.Rows
import Muxtop.Tui.Inspector
import Muxtop.Tui.CleanRows
import Muxtop.Tui.TreeConnectors
import Muxtop.Tui.ContainerHistory
import Muxtop.Tui.Columns
import Muxtop.Tui.Clipboard
import Muxtop.Tui.CounterSums
import Muxtop.Tui.Confirmations
import Muxtop.Tui.Actions
import Muxtop.Tui.Interface
import Muxtop.Tui.Monitor
import Muxtop.Tui.RemoteMonitor
import Muxtop.Tui.NotifierRuns
import Muxtop.Tui.Messages
import Muxtop.Tui.ActionTasks
import Muxtop.Tui.TableGrid
import Muxtop.Tui.Terminal
import Muxtop.Tui.Launch
