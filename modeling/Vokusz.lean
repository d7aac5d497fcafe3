import Vokusz.Gateway.Subscription
import Vokusz.Gateway.Tracking
import Vokusz.Federation.Delivery
import Vokusz.Routes.Escalation
import Vokusz.Routes.DmModeration
import Vokusz.Federation.Removal
import Vokusz.Federation.Disclosure
import Vokusz.Federation.Replay
import Vokusz.Federation.Scope
import Vokusz.Automod.Interleaving
import Vokusz.Voice.Calls
import Vokusz.Federation.Admission
import Vokusz.Routes.RelationshipPairs
import Vokusz.Federation.Unread
import Vokusz.Federation.RemoteCaps
import Vokusz.Db.IdOrder
import Vokusz.Db.Slowmode
import Vokusz.Routes.BackupCodes
import Vokusz.Routes.LastAdmin
import Vokusz.Routes.LoginLimit
import Vokusz.Routes.Revocation
import Vokusz.Plugins.Lifecycle
import Vokusz.Plugins.Seats
import Vokusz.Db.Deletion
import Vokusz.Voice.Sessions
import Vokusz.Gateway.Guests
import Vokusz.Routes.ChannelTree
import Vokusz.Routes.Pins
import Vokusz.Client.Permissions
import Vokusz.Migrate.ToPostgres
import Vokusz.Client.LoadRace
import Vokusz.Routes.Threads
import Vokusz.Client.GatewaySocket
import Vokusz.Routes.ReportQueue
import Vokusz.Routes.Search
import Vokusz.Routes.SpaceCreation
import Vokusz.Federation.DmOpening
import Vokusz.Routes.Multipart
import Vokusz.Routes.MentionCounts
import Vokusz.Routes.RemovalNotices
import Vokusz.Middleware.DocumentedRate
import Vokusz.Routes.SessionCap
import Vokusz.Security.Admission
import Vokusz.Storage.AttachmentNames
import Vokusz.Db.InviteExpiry
import Vokusz.Automod.HeldBudget
import Vokusz.Routes.ImageFailures
import Vokusz.Federation.Idempotence
import Vokusz.Automod.Timeouts
import Vokusz.Client.ChannelReorder
import Vokusz.Federation.Signing
import Vokusz.Gateway.ReadyMembers
import Vokusz.Plugins.Ranks
import Vokusz.Routes.ImageDimensions
import Vokusz.Unfurl
import Vokusz.Client.ReadState
import Vokusz.Client.UpdateArchive
import Vokusz.Federation.Confinement
import Vokusz.Federation.Sender
