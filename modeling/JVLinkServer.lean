import JVLinkServer.Client.BusySessions
import JVLinkServer.Client.Completeness
import JVLinkServer.Client.CourseTexts
import JVLinkServer.Client.Deletions
import JVLinkServer.Client.EventRoundTrip
import JVLinkServer.Client.FanoutMeta
import JVLinkServer.Client.Heartbeats
import JVLinkServer.Client.KeyBytes
import JVLinkServer.Client.OrphanedServers
import JVLinkServer.Client.RaceKeys
import JVLinkServer.Client.RecordRows
import JVLinkServer.Client.StoredValidation
import JVLinkServer.Client.RelayedAnswers
import JVLinkServer.Client.SurfacedFailures
import JVLinkServer.Client.TypedRows
import JVLinkServer.Client.WireAgreement
import JVLinkServer.Core.FileSkipping
import JVLinkServer.Core.LoopAgreement
import JVLinkServer.Core.OpenReports
import JVLinkServer.Core.Retries
import JVLinkServer.Core.RetryDelays
import JVLinkServer.Core.TaskDelivery
import JVLinkServer.Records.Layouts
import JVLinkServer.Supervisor.RelayedFields
import JVLinkServer.Supervisor.Shutdown
import JVLinkServer.Supervisor.WorkerArguments
import JVLinkServer.Supervisor.WorkerProbe
import JVLinkServer.Supervisor.WorkerProcesses
import JVLinkServer.Worker.CleanEnds
import JVLinkServer.Worker.EventDelivery
import JVLinkServer.Worker.FaultReports
import JVLinkServer.Worker.SessionLeases
import JVLinkServer.Worker.SessionReset
