import Remagic.SleepReservation
import Remagic.SupervisorStock
import Remagic.LockFreeze
import Remagic.InputFence
import Remagic.LeaseOrder
import Remagic.ClickTracker
import Remagic.WakeGuard
import Remagic.InkCoverage
import Remagic.WireAgreement
import Remagic.PackageRuns
import Remagic.PackageGenuine
import Remagic.PackageExact
import Remagic.InstallFailures
import Remagic.Records
import Remagic.ContentIdentity
import Remagic.SleepTransaction
import Remagic.AgentBindings
import Remagic.AgentWorkers
import Remagic.RestoreRoundTrip
import Remagic.ManifestPins
import Remagic.DaemonLocks
import Remagic.DaemonRevisions
import Remagic.DaemonSync
import Remagic.DaemonManifests
import Remagic.DaemonFrost
import Remagic.LifecycleWait
import Remagic.HomeLock
import Remagic.QueueOrder
import Remagic.LifecycleDispatch
import Remagic.DamageUnion
import Remagic.DamageScaling
import Remagic.TouchContacts
import Remagic.FreshContacts
import Remagic.LaunchFiles
import Remagic.FreshClients
import Remagic.Compatibility
import Remagic.LockShown
import Remagic.PenContact
import Remagic.LeaseSurfaces
import Remagic.HomeEvents
import Remagic.LifecyclePackets
import Remagic.AgentMessages
import Remagic.Backlight
import Remagic.PiLines
import Remagic.PiTurns
import Remagic.HomeFacts
import Remagic.HomeTasks
import Remagic.HomeTouch
import Remagic.CoverResume
import Remagic.LaunchIsolation
import Remagic.SchemaLaunches
import Remagic.SchemaRestore
import Remagic.PanelRecords
import Remagic.HostReports
import Remagic.DisplayClient
import Remagic.DisplayAnswers
import Remagic.DisplayTruth
import Remagic.NumberText
import Remagic.ManagedEnvironment
import Remagic.LaunchReading
import Remagic.LaunchDiscovery
