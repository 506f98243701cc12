import CpuCom.Interaction.Execution
import CpuCom.Uart.Link
import CpuCom.Proofs.DividedMessage
import CpuCom.Proofs.SingleFrame
import CpuCom.Proofs.CleanSend
import CpuCom.Proofs.EndToEnd
import CpuCom.Proofs.SendSteps
import CpuCom.Interaction.Script
import CpuCom.Proofs.SendOrder
import CpuCom.Proofs.RecvSteps
import CpuCom.Proofs.IntactFrames
import CpuCom.Proofs.FrameBounds
import CpuCom.Proofs.Reassembly
import CpuCom.Interaction.SharedLock
import CpuCom.Uart.Access
import CpuCom.Interaction.Observation
import CpuCom.Proofs.Attempts
import CpuCom.Proofs.DeviceAccess
import CpuCom.Proofs.AttemptResidue
import CpuCom.Uart.Peer
import CpuCom.Proofs.Arrivals
import CpuCom.Proofs.OrderlyArrivals
import CpuCom.Proofs.LockDiscipline
import CpuCom.Interaction.Tasks
import CpuCom.Messaging.Daemon
import CpuCom.Proofs.SendAttempts
import CpuCom.Interaction.Presence
import CpuCom.Proofs.DaemonHandlers
import CpuCom.Proofs.RequestMatching
import CpuCom.Interaction.Turns
import CpuCom.Proofs.FailedRequests
import CpuCom.Proofs.Notifications
import CpuCom.Interaction.Accounts
import CpuCom.Messaging.Client
import CpuCom.Messaging.DaemonMoves
import CpuCom.Messaging.Network
import CpuCom.Proofs.NetworkAccounts
import CpuCom.Proofs.FreshIds
import CpuCom.Proofs.DeliveryStatus
import CpuCom.Proofs.NetworkFacts
import CpuCom.Proofs.RequestTokens
import CpuCom.Proofs.RequestAgreement
import CpuCom.Proofs.Announcements
import CpuCom.Proofs.SubscriptionRace
import CpuCom.Messaging.Reconnection
import CpuCom.Proofs.Resubscription
import CpuCom.Proofs.RequestTally
import CpuCom.Interaction.Passes
import CpuCom.Proofs.SendAccounting
import CpuCom.Proofs.RecvAccounting
import CpuCom.Proofs.AnyDivision
import CpuCom.Proofs.MessageLength
import CpuCom.Service.CpuCommand
import CpuCom.Proofs.ParcelRoundTrip
import CpuCom.Interaction.Holders
import CpuCom.Messaging.Listeners
import CpuCom.Proofs.ListenerCounts
import CpuCom.Proofs.ListenerRace
import CpuCom.Interaction.Heap
import CpuCom.Interaction.Outcome
import CpuCom.Service.Client
import CpuCom.Proofs.ListenerRouting
import CpuCom.Service.ClientManager
import CpuCom.Proofs.ServiceSteps
import CpuCom.Proofs.ClientTables
import CpuCom.Proofs.ClientDeath
import CpuCom.Proofs.FrameHeaders
import CpuCom.Proofs.ErrorCallbacks
import CpuCom.Proofs.FailedCreation
import CpuCom.Interaction.Shares
import CpuCom.Service.GlobalReference
import CpuCom.Proofs.ReferenceCounts
import CpuCom.Interaction.Records
import CpuCom.Emulator.Utils
import CpuCom.Emulator.RulesBuilder
import CpuCom.Proofs.EmulatorParsers
import CpuCom.Interaction.Following
import CpuCom.Interaction.Progress
import CpuCom.Interaction.Rounds
import CpuCom.Proofs.SendProgress
import CpuCom.Proofs.RecvProgress
import CpuCom.Uart.Duplex
import CpuCom.Proofs.DuplexAccount
import CpuCom.Uart.Cuts
import CpuCom.Proofs.CutFrames
import CpuCom.Proofs.Retransmission
import CpuCom.Proofs.CommandStream
import CpuCom.Interaction.Serial
import CpuCom.Messaging.VcpuThread
import CpuCom.Proofs.CommandDelivery
import CpuCom.Interaction.Lifting
import CpuCom.Messaging.Library
import CpuCom.Proofs.LibraryCalls
import CpuCom.Proofs.Responses
import CpuCom.Proofs.LateResponses
import CpuCom.Service.Permissions
import CpuCom.Proofs.Authorization
import CpuCom.Proofs.NotifiedListeners
import CpuCom.Proofs.WriteOrder
import CpuCom.Emulator.CommandLine
import CpuCom.Proofs.ShownMessages
import CpuCom.Emulator.Threads
import CpuCom.Proofs.EmulatorThreads
import CpuCom.Proofs.EmulatorConfig
import CpuCom.Proofs.EmulatorForwarding
import CpuCom.Proofs.EmulatorProxy
import CpuCom.Proofs.PermittedCommands
import CpuCom.Proofs.ListenerWiring
import CpuCom.Service.JavaThread
import CpuCom.Interaction.Pools
import CpuCom.Proofs.HeardCommands
import CpuCom.Proofs.HeardStream
