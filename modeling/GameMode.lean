import GameMode.Library.CString
import GameMode.Library.Numeral
import GameMode.Library.LastWins
import GameMode.Library.LinkedList
import GameMode.Library.NearMax
import GameMode.Library.Ranges
import GameMode.Library.Runs
import GameMode.Common.Pidfds
import GameMode.Config.Values
import GameMode.Config.Load
import GameMode.Config.Meaning
import GameMode.Config.Protected
import GameMode.Daemon.Gpu
import GameMode.Daemon.Bus
import GameMode.Client.Request
import GameMode.Config.Watch
import GameMode.Library.SavedSetting
import GameMode.Daemon.Governor
import GameMode.Util.Gpuclockctl
import GameMode.Daemon.Switches
import GameMode.Common.Cpulist
import GameMode.Common.CpulistFormat
import GameMode.Common.External
import GameMode.Common.Governors
import GameMode.Daemon.Cpu
import GameMode.Util.Cpucorectl
import GameMode.Util.Cpugovctl
import GameMode.Daemon.Threads
import GameMode.Daemon.Context
import GameMode.Daemon.Registry
import GameMode.Client.Delivery
import GameMode.Daemon.Restore
import GameMode.Daemon.ClientThreads
import GameMode.Daemon.Reload
import GameMode.Daemon.ClientList
import GameMode.Daemon.Sections
import GameMode.Daemon.RegistryRuns
import GameMode.Daemon.ActiveRuns
import GameMode.Daemon.Signals
import GameMode.Daemon.Pivots
import GameMode.Daemon.SwitchRuns
import GameMode.Daemon.CpuRuns
import GameMode.Daemon.GpuRuns
import GameMode.Daemon.Expire
import GameMode.Daemon.CpuLoops
import GameMode.Daemon.Detection
import GameMode.Daemon.Parking
import GameMode.Daemon.GovernorHelper
import GameMode.Daemon.GovernorRestore
import GameMode.Daemon.QueryRuns
import GameMode.Util.CorectlFaults
import GameMode.Daemon.Descriptors
import GameMode.Daemon.GamePaths
import GameMode.Common.ExternalReads
import GameMode.Config.Lists
import GameMode.Util.GpuArguments
import GameMode.Daemon.OwnPriorities
import GameMode.Daemon.IoprioRuns
import GameMode.Common.Power
import GameMode.Daemon.IgpuDecision
import GameMode.Daemon.ClientObjects
import GameMode.Daemon.Screensaver
import GameMode.Library.CountingLoops
import GameMode.Util.GpuIndex
import GameMode.Util.RangeLoops
import GameMode.Library.Occurrences
import GameMode.Daemon.Wine
import GameMode.Library.Refinement
import GameMode.Daemon.Interleaving
import GameMode.Library.Progress
import GameMode.Daemon.Refresh
import GameMode.Library.Records
import GameMode.Daemon.WineResolve
import GameMode.Daemon.Requests
import GameMode.Daemon.GameObjects
import GameMode.Library.Dialogue
import GameMode.Client.CommandLine
import GameMode.Client.Loader
import GameMode.Client.SelfTests
import GameMode.Library.Locks
import GameMode.Daemon.Locks
import GameMode.Util.SettingHelpers
import GameMode.Daemon.SwitchFiles
import GameMode.Util.PerfModes
import GameMode.Daemon.RegistryHistory
import GameMode.Library.Rounding
