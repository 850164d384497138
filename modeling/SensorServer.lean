import SensorServer.Lib.Run
import SensorServer.AckRace
import SensorServer.Footprint
import SensorServer.Reports
import SensorServer.WakeUp
import SensorServer.Alerts
import SensorServer.Download
import SensorServer.Exactness
import SensorServer.GuestViews
import SensorServer.Guests
import SensorServer.Identity
import SensorServer.Push
import SensorServer.Catalog
import SensorServer.Failure
import SensorServer.Lib.Paging
import SensorServer.Lifecycle
import SensorServer.Merge
import SensorServer.ReadApi
import SensorServer.ApiVisibility
import SensorServer.Commands
import SensorServer.Orphans
import SensorServer.Outcomes
import SensorServer.RequestRace
import SensorServer.RowRace
import SensorServer.RowViews
import SensorServer.Silence
import SensorServer.Story
import SensorServer.Superuser
import SensorServer.Lib.JsonText
import SensorServer.Scripts
import SensorServer.Republish
import SensorServer.MetricNames
import SensorServer.Tolerance
import SensorServer.Flush
import SensorServer.Dashboard
import SensorServer.Polling
import SensorServer.StatusTimeline
import SensorServer.Charts
import SensorServer.Windows
import SensorServer.ApiRange
import SensorServer.Description
import SensorServer.Repush
import SensorServer.Latest
import SensorServer.Answered
import SensorServer.Topics
import SensorServer.Ownership
import SensorServer.Lib.Unwinding
import SensorServer.Slices
import SensorServer.Alone
import SensorServer.Isolation
import SensorServer.EveryRow
import SensorServer.References
import SensorServer.Subscriptions
import SensorServer.Quarantine
import SensorServer.Privileges
import SensorServer.Orders
import SensorServer.ApiKeys
import SensorServer.Provenance
import SensorServer.Sockets
import SensorServer.Lib.Aliases
import SensorServer.Migrations
import SensorServer.Listing
import SensorServer.LiveFeed
