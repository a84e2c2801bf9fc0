import AtlasAgent.RunHistory
import AtlasAgent.LatestSample
import AtlasAgent.RunTotals
import AtlasAgent.SampleIncrements
import AtlasAgent.RunProjections
import AtlasAgent.PeriodicDeadlines
import AtlasAgent.HandleLedger
import AtlasAgent.WhileLoop
import AtlasAgent.AssignOnce
import AtlasAgent.KeptMinimum
import AtlasAgent.BoundedRetry
import AtlasAgent.FallibleLoop
import AtlasAgent.IndexedColumns
import AtlasAgent.KeyedUpdates
import AtlasAgent.Effects
import AtlasAgent.ProgramFrames
import AtlasAgent.ExactDouble
import AtlasAgent.IeeeDouble
import AtlasAgent.TextFields
import AtlasAgent.NumberText
import AtlasAgent.DecimalText
import AtlasAgent.SpacedText
import AtlasAgent.ScanfText
import AtlasAgent.ScanMarks
import AtlasAgent.StreamText
import AtlasAgent.ParseTags
import AtlasAgent.FileReaders
import AtlasAgent.KvFile
import AtlasAgent.ReadOutput
import AtlasAgent.CollectorLoop
import AtlasAgent.Terminator
import AtlasAgent.ProcCpu
import AtlasAgent.ProcCpuHistory
import AtlasAgent.CoreUtilization
import AtlasAgent.ProcNet
import AtlasAgent.NetTokens
import AtlasAgent.NetstatColumns
import AtlasAgent.ProcSnmp
import AtlasAgent.NetDevReads
import AtlasAgent.LineValues
import AtlasAgent.PerfCounter
import AtlasAgent.PerfMetrics
import AtlasAgent.PerfDescriptors
import AtlasAgent.ParseRange
import AtlasAgent.Perfspect
import AtlasAgent.PerfspectLines
import AtlasAgent.CpuRateTracker
import AtlasAgent.ServiceMonitor
import AtlasAgent.ServiceReads
import AtlasAgent.ServiceIsolation
import AtlasAgent.ServiceInit
import AtlasAgent.ServiceStatLine
import AtlasAgent.MonotonicTimer
import AtlasAgent.CpuPercentages
import AtlasAgent.DiskStats
import AtlasAgent.DiskstatsLines
import AtlasAgent.MountPoints
import AtlasAgent.MountInfo
import AtlasAgent.MountEscapes
import AtlasAgent.DiskSpace
import AtlasAgent.CGroupCpu
import AtlasAgent.CGroupFootprint
import AtlasAgent.CGroupUtilization
import AtlasAgent.CGroupIo
import AtlasAgent.IoLines
import AtlasAgent.IoOptionals
import AtlasAgent.IoFormats
import AtlasAgent.CGroupThrottle
import AtlasAgent.CGroupTotals
import AtlasAgent.GpuMetricsAmd
import AtlasAgent.GpuLatches
import AtlasAgent.GpuXgmi
import AtlasAgent.DcgmStats
import AtlasAgent.Ethtool
import AtlasAgent.Ntp
import AtlasAgent.UncaughtConversions
import AtlasAgent.HttpClient
import AtlasAgent.UrlPath
import AtlasAgent.FileHandles
import AtlasAgent.AwsDates
import AtlasAgent.AwsCredentials
import AtlasAgent.ConfigDirectories
import AtlasAgent.EbsDevices
import AtlasAgent.NvidiaGpus
import AtlasAgent.ProcConnections
import AtlasAgent.LabelledLines
import AtlasAgent.ProcSystem
import AtlasAgent.SnmpColumns
import AtlasAgent.CGroupMemory
import AtlasAgent.PressureStall
import AtlasAgent.EthtoolLinks
import AtlasAgent.NtpSamples
import AtlasAgent.AmdSmiDevices
import AtlasAgent.DiskSpaceSeries
