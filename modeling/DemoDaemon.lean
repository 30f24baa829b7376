import DemoDaemon.Foundation.Bytes
import DemoDaemon.Foundation.Decimal
import DemoDaemon.Foundation.Framing
import DemoDaemon.Foundation.LimitedFraming
import DemoDaemon.Foundation.Transition
import DemoDaemon.Foundation.Composition
import DemoDaemon.Foundation.Leases
import DemoDaemon.Foundation.Slots
import DemoDaemon.Foundation.Sections
import DemoDaemon.Json.Raw
import DemoDaemon.Json.Value
import DemoDaemon.Json.Library
import DemoDaemon.Json.Text
import DemoDaemon.Json.TextLaws
import DemoDaemon.Ipc.Messages
import DemoDaemon.Ipc.Parser
import DemoDaemon.Ipc.RoundTrip
import DemoDaemon.Ipc.TypedMessages
import DemoDaemon.Ipc.Resync
import DemoDaemon.Ipc.Buffer
import DemoDaemon.Ipc.Session
import DemoDaemon.Ipc.SessionInput
import DemoDaemon.Ipc.ReadRounds
import DemoDaemon.Ipc.LineLimit
import DemoDaemon.Ipc.SessionOutput
import DemoDaemon.Ipc.BufferQueue
import DemoDaemon.Ipc.SessionBuffers
import DemoDaemon.Ipc.ReadSpace
import DemoDaemon.Ipc.ParseProgress
import DemoDaemon.Ipc.Wakeups
import DemoDaemon.Ipc.MalformedLines
import DemoDaemon.Ipc.SessionClose
import DemoDaemon.Ipc.OnMessage
import DemoDaemon.Ipc.EchoedIds
import DemoDaemon.Ipc.ConnectionManager
import DemoDaemon.Ipc.Server
import DemoDaemon.Ipc.ServerRuns
import DemoDaemon.Ipc.ServerTables
import DemoDaemon.Ipc.ConnectionTable
import DemoDaemon.Ipc.DescriptorLives
import DemoDaemon.Ipc.AcceptBacklog
import DemoDaemon.Ipc.ServerStop
import DemoDaemon.Ipc.Replies
import DemoDaemon.Ipc.Listener
import DemoDaemon.Cli.Client
import DemoDaemon.Cli.Connection
import DemoDaemon.Cli.Transport
import DemoDaemon.Cli.Transfer
import DemoDaemon.Cli.Conversation
import DemoDaemon.Cli.Arguments
import DemoDaemon.Cli.Words
import DemoDaemon.Cli.Request
import DemoDaemon.Cli.Options
import DemoDaemon.Cli.Output
import DemoDaemon.Cli.Program
import DemoDaemon.Cli.Unanswered
import DemoDaemon.Daemon.CommandHandler
import DemoDaemon.Daemon.FailureReport
import DemoDaemon.Daemon.Routing
import DemoDaemon.Daemon.SignalLoop
import DemoDaemon.Daemon.Hangups
import DemoDaemon.Daemon.Logger
import DemoDaemon.Daemon.TaskCommands
import DemoDaemon.Tasks.Task
import DemoDaemon.Tasks.TaskManager
import DemoDaemon.Tasks.TaskThreads
import DemoDaemon.Tasks.SleepLoop
import DemoDaemon.Tasks.Builtin
import DemoDaemon.Tasks.TaskFactory
import DemoDaemon.Tasks.TaskStore
import DemoDaemon.Tasks.AddTask
import DemoDaemon.Tasks.ListedTasks
import DemoDaemon.Tasks.TaskIds
import DemoDaemon.Tasks.LifeCycle
import DemoDaemon.Tasks.Shutdown
import DemoDaemon.Tasks.ShutdownWait
import DemoDaemon.Cli.TaskRequests
import DemoDaemon.Cli.TaskResults
import DemoDaemon.Daemon.Assembly
import DemoDaemon.Daemon.Commands
import DemoDaemon.Daemon.Ledger
import DemoDaemon.Daemon.Service
import DemoDaemon.Daemon.Startup
import DemoDaemon.Ipc.SocketPath
import DemoDaemon.Tasks.HeartbeatLoop
