import Dirextalk.Contact.Review
import Dirextalk.Control.CommandSize
import Dirextalk.Control.TerminalRevoke
import Dirextalk.Group.Callers
import Dirextalk.HttpCache.Coalescing
import Dirextalk.Mailbox.Pull
import Dirextalk.Membership.Replay
import Dirextalk.Membership.SnapshotSpec
import Dirextalk.Mls.JoinAuthority
import Dirextalk.Public.FeedOrigin
import Dirextalk.Realtime.Replay
import Dirextalk.Recovery.CatalogTree
import Dirextalk.Registry.Grant
import Dirextalk.Route.Replay
import Dirextalk.Router.Atomic
import Dirextalk.Router.CapacityHeads
import Dirextalk.Router.Poll
import Dirextalk.Transport.Order
import Dirextalk.Transport.Rate
import Dirextalk.Wire.Admission
import Dirextalk.Wire.EventSpec
