import WebChecker.Library.Locking
import WebChecker.Library.Verdicts
import WebChecker.Core.Replay
import WebChecker.Storage.Migration
import WebChecker.Storage.Retention
import WebChecker.Storage.Recordable
import WebChecker.Storage.Thresholds
import WebChecker.Storage.Chronology
import WebChecker.Storage.Parts
import WebChecker.Storage.Projection
import WebChecker.Storage.Renaming
import WebChecker.Storage.Noninterference
import WebChecker.Storage.Replay
import WebChecker.Storage.RoundTrip
import WebChecker.Storage.Edges
import WebChecker.Storage.Status
import WebChecker.Notifications.Operational
import WebChecker.Notifications.Backlog
import WebChecker.Core.Commits
import WebChecker.Core.Retries
import WebChecker.Core.Ticking
import WebChecker.Core.RunLoop
import WebChecker.Core.Executions
import WebChecker.Core.Shutdown
import WebChecker.Core.Transactions
import WebChecker.Core.Deliveries
import WebChecker.Core.ExactDelivery
import WebChecker.Core.Announcements
import WebChecker.Core.Stored
import WebChecker.ScheduleParsing
import WebChecker.ConfigParsing
import WebChecker.Cli
import WebChecker.Startup
import WebChecker.Drivers.BcParks.Window
import WebChecker.Drivers.BcParks.Clock
import WebChecker.Drivers.BcParks.Alerting
import WebChecker.Drivers.BcParks.Complete
import WebChecker.Drivers.BcParks.Failures
import WebChecker.Drivers.WelcomeBc.Parser
import WebChecker.Drivers.WelcomeBc.DrawDates
import WebChecker.Drivers.WelcomeBc.Rows
import WebChecker.Drivers.GenericHtml.AllOrNothing
import WebChecker.Drivers.Shipped
import WebChecker.Maintenance.Restore
import WebChecker.Maintenance.Backup
import WebChecker.Maintenance.Rotation
import WebChecker.Maintenance.Process
import WebChecker.StatusCommand
import WebChecker.Deployment.Operations
import WebChecker.Deployment.Records
import WebChecker.Deployment.Locking
