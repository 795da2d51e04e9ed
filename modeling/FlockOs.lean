import FlockOs.Lib.Runs
import FlockOs.Lib.Table
import FlockOs.Verif.EngagementAdapters
import FlockOs.Verif.AdapterCodec
import FlockOs.Lib.Exec
import FlockOs.Reporting
import FlockOs.EventRegistration
import FlockOs.Interleaving
import FlockOs.PromotionRace
import FlockOs.Permissions
import FlockOs.Registrations
import FlockOs.Verif.SeatStep
import FlockOs.Verif.Seats
import FlockOs.Verif.Waitlist
import FlockOs.Verif.CheckIn
import FlockOs.Verif.SeatInterleaving
import FlockOs.Verif.PromotionRace
import FlockOs.Verif.BulkAttendance
import FlockOs.Verif.TicketMember
import FlockOs.Verif.ServerTime
import FlockOs.Verif.FinalizeRetry
import FlockOs.Verif.GatewayRefinement
import FlockOs.GroupScope
import FlockOs.Directory
import FlockOs.Approvals
import FlockOs.ApprovalScope
import FlockOs.Traversal
import FlockOs.EventApproval
import FlockOs.Verif.GroupScope
import FlockOs.Verif.AttendanceScope
import FlockOs.Lib.NestedSet
import FlockOs.Verif.ApprovalHistory
import FlockOs.Verif.SelfApproval
import FlockOs.Verif.ChainGuard
import FlockOs.Verif.ChainSpecification
import FlockOs.Verif.ApprovalPolicies
import FlockOs.Verif.EngagementRun
import FlockOs.Verif.ClosingRace
import FlockOs.Verif.ClosingGrace
import FlockOs.Verif.SessionHost
import FlockOs.Verif.OfflineQueue
import FlockOs.Verif.SessionRooms
import FlockOs.Verif.BranchMoves
import FlockOs.Verif.Subtrees
import FlockOs.Verif.ScopeAnchors
import FlockOs.Verif.Leadership
import FlockOs.Verif.EventOpening
import FlockOs.Verif.RegistrationHints
import FlockOs.Verif.RegistrationScope
import FlockOs.Verif.ValidInvitation
import FlockOs.Verif.TimeGates
import FlockOs.Verif.BulkBatch
import FlockOs.Verif.WaitlistToggle
import FlockOs.Verif.ApprovalActions
import FlockOs.Verif.AudiencePreview
import FlockOs.Verif.Announcements
import FlockOs.Verif.AttendanceJobs
import FlockOs.Verif.LeaderReporting
import FlockOs.Verif.AuthCache
import FlockOs.Verif.OpenRuns
import FlockOs.Verif.BulkAccounting
import FlockOs.Verif.ReportRetry
import FlockOs.Verif.AttendeeKeys
import FlockOs.Verif.TicketSoundness
import FlockOs.Verif.ThrottleWindows
import FlockOs.Verif.GroupPaths
import FlockOs.Verif.ShardParity
import FlockOs.Verif.RoomParsers
import FlockOs.Verif.BulkChunks
import FlockOs.Verif.DryRuns
import FlockOs.Verif.Quantiles
import FlockOs.Verif.AttendanceIndexes
import FlockOs.Verif.CacheRecency
import FlockOs.Verif.Outbox
import FlockOs.Verif.RoomProjector
import FlockOs.Verif.ParticipationPayload
import FlockOs.Verif.RealtimeSetup
import FlockOs.Verif.Invitations
import FlockOs.Verif.Portal
import FlockOs.Verif.RoomSockets
import FlockOs.Verif.ChainPreview
import FlockOs.Verif.Roster
import FlockOs.Verif.SessionOverrides
import FlockOs.Verif.PollLoops
