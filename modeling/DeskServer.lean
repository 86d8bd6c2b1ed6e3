import DeskServer.Lib.Bytes
import DeskServer.Lib.TreeMap
import DeskServer.Lib.Run
import DeskServer.Lib.Interleave
import DeskServer.Lib.Ledger
import DeskServer.Lib.Marks
import DeskServer.Lib.Decimal
import DeskServer.Lib.Fallible
import DeskServer.Lib.Eviction
import DeskServer.Lib.Transaction
import DeskServer.Lib.Paging
import DeskServer.Lib.Tally
import DeskServer.Lib.Utf8
import DeskServer.Lib.Like
import DeskServer.Lib.Latest
import DeskServer.Lib.Cidr
import DeskServer.Lib.Substitute
import DeskServer.Lib.Memo
import DeskServer.Lib.Numeral
import DeskServer.Transmission.Manager
import DeskServer.Transmission.Effects
import DeskServer.Transmission.Operations
import DeskServer.Transmission.Connections
import DeskServer.Transmission.Departures
import DeskServer.Transmission.Watchdog
import DeskServer.Transmission.Tables
import DeskServer.Transmission.Snapshots
import DeskServer.Transmission.SessionLedger
import DeskServer.Database.Schema
import DeskServer.Database.Presence
import DeskServer.Database.Sessions
import DeskServer.Database.Durations
import DeskServer.Database.Conservation
import DeskServer.Database.Startup
import DeskServer.Database.Settlement
import DeskServer.Database.CrashSafety
import DeskServer.Database.Runs
import DeskServer.Database.Restart
import DeskServer.Database.Backfill
import DeskServer.Database.Devices
import DeskServer.Database.Credentials
import DeskServer.Database.Registration
import DeskServer.Database.Atomicity
import DeskServer.Database.Listing
import DeskServer.Database.Counts
import DeskServer.Database.PresenceList
import DeskServer.Database.Search
import DeskServer.Database.SearchText
import DeskServer.Database.Endings
import DeskServer.Database.BatchQuery
import DeskServer.Lib.Json
import DeskServer.Lib.JsonDump
import DeskServer.Presence.Manager
import DeskServer.Presence.GeoDistribution
import DeskServer.Server.State
import DeskServer.Server.Negotiation
import DeskServer.Server.Events
import DeskServer.Server.Dispatch
import DeskServer.Server.Login
import DeskServer.Server.LoginSoundness
import DeskServer.Server.Steps
import DeskServer.Server.StaleIdentity
import DeskServer.Server.CredentialIntegrity
import DeskServer.Server.PasswordCache
import DeskServer.Server.PasswordReplies
import DeskServer.Server.LoginReply
import DeskServer.Server.CredentialString
import DeskServer.Server.SessionStore
import DeskServer.Server.SessionMirror
import DeskServer.Server.Restore
import DeskServer.Server.Relay
import DeskServer.Server.JoinAuthorisation
import DeskServer.Server.Hosting
import DeskServer.Server.Logout
import DeskServer.Server.Agreement
import DeskServer.Server.GeoAgreement
import DeskServer.Admin.Document
import DeskServer.Server.Reachable
import DeskServer.Server.LastRelease
import DeskServer.Server.Attendance
import DeskServer.Server.DatabaseCalls
import DeskServer.Server.Totals
import DeskServer.Server.ClientInfo
import DeskServer.Server.OfferAuthorisation
import DeskServer.Server.LeaveFrame
import DeskServer.Server.Watchdog
import DeskServer.Server.Subscribers
import DeskServer.Server.Notifications
import DeskServer.Server.GeoLookup
import DeskServer.Server.RetryDelay
import DeskServer.Server.LookupQueue
import DeskServer.Server.LostLookup
import DeskServer.Admin.Auth
import DeskServer.Admin.Sessions
import DeskServer.Admin.Controller
import DeskServer.Admin.Isolation
import DeskServer.Admin.Service
import DeskServer.Admin.Overview
import DeskServer.Admin.DisconnectRoute
import DeskServer.Admin.Query
import DeskServer.Admin.SizeParsing
import DeskServer.Admin.QueryParsing
import DeskServer.Admin.Pages
import DeskServer.Admin.Returned
import DeskServer.Admin.LiveTotals
import DeskServer.Server.AdminDisconnect
import DeskServer.Dashboard.Controls
import DeskServer.Dashboard.Refresh
import DeskServer.Dashboard.Quiet
import DeskServer.Dashboard.Reload
import DeskServer.Dashboard.Walk
import DeskServer.Ice.Url
import DeskServer.Ice.Canonical
import DeskServer.Ice.Issuer
import DeskServer.Ice.Built
import DeskServer.Ice.Issued
import DeskServer.Ice.WellFormed
import DeskServer.Ice.Rebuild
import DeskServer.Config.Numbers
import DeskServer.Ice.Configured
import DeskServer.Geo.Ranges
import DeskServer.Geo.Request
import DeskServer.Geo.Response
import DeskServer.Geo.Resolver
import DeskServer.Geo.Lookups
import DeskServer.Geo.Retries
