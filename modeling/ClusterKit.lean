import ClusterKit.Capacity
import ClusterKit.EmptyFleet
import ClusterKit.FleetEnv
import ClusterKit.Quarantine
import ClusterKit.ShutdownSafety
import ClusterKit.WatchedChanges
import ClusterKit.ZeroDowntime
import ClusterKit.CrashLog
import ClusterKit.Lib.Alarm
import ClusterKit.Lib.Observer
import ClusterKit.RestartQueue
import ClusterKit.CrashHandling
import ClusterKit.CrashWarnings
import ClusterKit.QueueSegment
import ClusterKit.Validation
import ClusterKit.Backoff
import ClusterKit.Lib.RetryQueue
import ClusterKit.QueueDiscipline
import ClusterKit.StabilityReset
import ClusterKit.DrainTimers
import ClusterKit.RollWait
import ClusterKit.GracefulExits
import ClusterKit.DrainGrace
import ClusterKit.FleetDegraded
import ClusterKit.FleetRecovery
import ClusterKit.Staffing
import ClusterKit.LagPolicy
import ClusterKit.Frames
import ClusterKit.HealthView
import ClusterKit.HealthEvents
import ClusterKit.AckWait
import ClusterKit.PluginLifecycle
import ClusterKit.ExecArgv
import ClusterKit.Cgroup
import ClusterKit.Lib.Descent
import ClusterKit.CgroupReaders
import ClusterKit.ContainerSizing
import ClusterKit.CpuCount
import ClusterKit.NodeOptions
import ClusterKit.FlagRemoval
import ClusterKit.WhiteSpace
import ClusterKit.TakenOptions
import ClusterKit.MergeNodeOptions
import ClusterKit.EnvFile
import ClusterKit.WatcherPlugin
import ClusterKit.WatcherThrottle
import ClusterKit.WatcherTeardown
import ClusterKit.Lib.SingleFlight
import ClusterKit.MetricsCache
import ClusterKit.OtlpMeter
import ClusterKit.OtlpLifecycle
import ClusterKit.ReusePort
import ClusterKit.ReusePortCache
import ClusterKit.SignalRestart
import ClusterKit.NumericConfig
import ClusterKit.TimerDelays
import ClusterKit.ManagerInvariant
import ClusterKit.WorkerProcess
import ClusterKit.WorkerShutdown
import ClusterKit.WorkerRuns
import ClusterKit.Lib.Projection
import ClusterKit.Fleet
import ClusterKit.FleetRuns
import ClusterKit.FleetProtocol
import ClusterKit.FleetServing
import ClusterKit.FleetHealth
import ClusterKit.Lib.Replay
import ClusterKit.Journal
import ClusterKit.JournalKept
import ClusterKit.JournalRuns
import ClusterKit.EventLog
import ClusterKit.Exporters
import ClusterKit.ExportedEvents
import ClusterKit.Lib.Countdown
import ClusterKit.ShutdownProgress
import ClusterKit.RollProgress
import ClusterKit.FleetShutdown
import ClusterKit.Lib.Watchdog
import ClusterKit.WedgedWatch
import ClusterKit.DrainMarks
import ClusterKit.FleetWatch
