import JiraGame.Capacity
import JiraGame.Headcount
import JiraGame.Links
import JiraGame.RoomId
import JiraGame.Ownership
import JiraGame.Readiness
import JiraGame.Session
import JiraGame.NullSafety
import JiraGame.Frame
import JiraGame.Broadcasts
import JiraGame.RosterOrder
import JiraGame.Availability
import JiraGame.MemberCopies
import JiraGame.Lib.SqlLexer
import JiraGame.AccountStatements
import JiraGame.StatementTexts
import JiraGame.Lib.SqlSyntax
import JiraGame.Lib.SqlMeaning
import JiraGame.StatementMeanings
import JiraGame.AccountTables
import JiraGame.AccountMap
import JiraGame.RelationalSqlite
import JiraGame.AccountStore
import JiraGame.Listeners
import JiraGame.AccountReplies
import JiraGame.AccountRefinement
import JiraGame.AccountRows
import JiraGame.Identities
import JiraGame.RoleIds
import JiraGame.HeldRoles
import JiraGame.Lib.ProtoMessage
import JiraGame.Encoding
import JiraGame.Delivery
import JiraGame.AccountIntegrity
import JiraGame.Connections
import JiraGame.Heartbeats
import JiraGame.Wiring
import JiraGame.Registries
import JiraGame.TimerLoops
import JiraGame.Lib.PeriodicTimer
import JiraGame.Periods
import JiraGame.Deadlines
import JiraGame.Disconnections
import JiraGame.Replies
import JiraGame.ReplySizes
import JiraGame.SendBuffer
import JiraGame.Initialization
import JiraGame.HandOff
import JiraGame.Lib.Iterators
import JiraGame.SeatElimination
import JiraGame.Lib.SwapRemove
import JiraGame.ReceivePass
import JiraGame.Lib.SqlSpacing
import JiraGame.StatementShapes
import JiraGame.JoinOutcomes
import JiraGame.LeavePaths
import JiraGame.Removals
import JiraGame.FailedParses
import JiraGame.Announcements
import JiraGame.Replicas
import JiraGame.Admissions
import JiraGame.Isolation
import JiraGame.AccountLife
import JiraGame.Threads
import JiraGame.Crashes
import JiraGame.Audience
import JiraGame.Ranges
import JiraGame.RoundTrips
