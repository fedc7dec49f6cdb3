import MarketHub.Frontend.OfferSave
import MarketHub.Frontend.ConversationPanel
import MarketHub.Communication.Reuse
import MarketHub.Communication.Refusal
import MarketHub.Orders.EventLog
import MarketHub.Orders.Placement
import MarketHub.Orders.Revalidation
import MarketHub.Orders.Crossing
import MarketHub.Support.PriorityLog
import MarketHub.Communication.Staleness
import MarketHub.Communication.Ordering
import MarketHub.Communication.Maintenance
import MarketHub.Communication.Overlap
import MarketHub.Communication.Escalation
import MarketHub.Notifications.Publication
import MarketHub.Notifications.Wire
import MarketHub.Jobs.Worker
import MarketHub.Ranges
import MarketHub.PartialUpdates
import MarketHub.Frontend.OrdersList
import MarketHub.Frontend.UrlFilters
import MarketHub.Frontend.UseAsync
import MarketHub.Frontend.DayFilters
import MarketHub.Frontend.NotificationBell
import MarketHub.Frontend.CatalogView
import MarketHub.Orders.NumberMigration
import MarketHub.Seed.Rerun
import MarketHub.Dashboard.Agreement
import MarketHub.Notifications.Delivery
import MarketHub.Isolation.Listings
import MarketHub.Communication.Creates
import MarketHub.Histories
import MarketHub.Orders.Lookup
import MarketHub.Frontend.NotificationRoutes
