import RsCamera.Probe.Capacity
import RsCamera.Scheduler.RateMonotonic
import RsCamera.Generator.Roles
import RsCamera.Reproduction.KernelPath
import RsCamera.Controls.Reversal
import RsCamera.Controls.Binding
import RsCamera.Noise.Decision
import RsCamera.Reproduction.Resumption
import RsCamera.Steady.Counts
import RsCamera.Probe.Warmup
import RsCamera.Scheduler.Validation
import RsCamera.Generator.Instances
import RsCamera.Uvc.Monitor
import RsCamera.Generator.Bursts
import RsCamera.KernelTrace.Residency
import RsCamera.KernelTrace.Overlaps
import RsCamera.KernelTrace.Windows
import RsCamera.KernelTrace.Wakeups
import RsCamera.Trace.Naming
import RsCamera.Trace.Sessions
import RsCamera.Trace.Signature
import RsCamera.Startup.Periods
import RsCamera.Startup.Calibration
import RsCamera.Attempts.Steady
import RsCamera.KernelTrace.Callbacks
import RsCamera.Controls.KernelLog
import RsCamera.Sync.Session
import RsCamera.V4l2.Durations
import RsCamera.V4l2.SequenceGaps
import RsCamera.MultiCamera.Composition
import RsCamera.MultiCamera.Spread
import RsCamera.Timerlat.Quantiles
import RsCamera.Scheduler.ApplicationJson
import RsCamera.MemoryNoise.Copying
import RsCamera.Reproduction.BootSelection
import RsCamera.Reproduction.NonInterference
import RsCamera.V4l2.Lookup
import RsCamera.Steady.Statistics
import RsCamera.Reproduction.Disk
import RsCamera.Controls.XhciControl
import RsCamera.Startup.Windows
import RsCamera.Noise.Suite
import RsCamera.Probe.Overrides
