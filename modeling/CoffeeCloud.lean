import CoffeeCloud.Runs.Covered
import CoffeeCloud.Runs.Callbacks
import CoffeeCloud.Runs.Deliveries
import CoffeeCloud.Runs
import CoffeeCloud.Runs.Production
import CoffeeCloud.Runs.Replay
import CoffeeCloud.Runs.Refunds
import CoffeeCloud.Runs.Stranded
import CoffeeCloud.Floor.Sent
import CoffeeCloud.Floor.Steps
import CoffeeCloud.Effects.DeviceMessages
import CoffeeCloud.Identity.Activations
import CoffeeCloud.Identity.Broker
import CoffeeCloud.Identity.Credentials
import CoffeeCloud.Identity.Replays
import CoffeeCloud.Interleavings.Wakeups
import CoffeeCloud.Interleavings.Cursor
import CoffeeCloud.Telemetry.Flushes
import CoffeeCloud.Interleavings.Heartbeats
import CoffeeCloud.Gateway.Rejections
import CoffeeCloud.Effects.EventLog
import CoffeeCloud.Gateway.Redelivery
import CoffeeCloud.LiveProgress
import CoffeeCloud.Runs.Timelines
import CoffeeCloud.Interleavings.Members
import CoffeeCloud.Runs.Metrics
import CoffeeCloud.Amounts
import CoffeeCloud.Runs.Channel
import CoffeeCloud.Runs.Queue
import CoffeeCloud.Interleavings.Expenses
import CoffeeCloud.Interleavings.OrderStream
import CoffeeCloud.Telemetry.Batches
import CoffeeCloud.Effects.Births
import CoffeeCloud.Runs.Pickup
import CoffeeCloud.Runs.Retries
import CoffeeCloud.Library.Significand
import CoffeeCloud.PublicLimits
import CoffeeCloud.Interleavings.OwnershipHistory
import CoffeeCloud.OperatingReports
import CoffeeCloud.Pagination
import CoffeeCloud.Runs.StockAccounts
import CoffeeCloud.Runs.StockChecks
import CoffeeCloud.Gateway.SessionSafety
import CoffeeCloud.Gateway.Worker
import CoffeeCloud.Interleavings.AdminAccess
