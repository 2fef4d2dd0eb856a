import OpenMcc.Construction.ActiveChecks
import OpenMcc.Construction.Alerts
import OpenMcc.Construction.ArtifactRetention
import OpenMcc.Construction.Authz
import OpenMcc.Construction.BootstrapOwner
import OpenMcc.Construction.ClaimedOperations
import OpenMcc.Construction.CommandCredentials
import OpenMcc.Construction.CommandScheduler
import OpenMcc.Construction.ConfigRender
import OpenMcc.Construction.ConfigSaves
import OpenMcc.Construction.Connection
import OpenMcc.Construction.ConnectionReads
import OpenMcc.Construction.Control
import OpenMcc.Construction.Delivery
import OpenMcc.Construction.DestinationHealth
import OpenMcc.Construction.Due
import OpenMcc.Construction.Egress
import OpenMcc.Construction.ExecChannels
import OpenMcc.Construction.FlappingRecorders
import OpenMcc.Construction.HealthPoll
import OpenMcc.Construction.HostLifecycle
import OpenMcc.Construction.HostOutages
import OpenMcc.Construction.HostReading
import OpenMcc.Construction.HostRepository
import OpenMcc.Construction.IncidentLog
import OpenMcc.Construction.InstanceConfig
import OpenMcc.Construction.InstanceLifecycle
import OpenMcc.Construction.InstanceRepository
import OpenMcc.Construction.IntervalTask
import OpenMcc.Construction.JoinSightings
import OpenMcc.Construction.Journal
import OpenMcc.Construction.JournalReads
import OpenMcc.Construction.McConfigKeys
import OpenMcc.Construction.Membership
import OpenMcc.Construction.NotificationRepository
import OpenMcc.Construction.Outcome
import OpenMcc.Construction.Pinned
import OpenMcc.Construction.Producer
import OpenMcc.Construction.Reachability
import OpenMcc.Construction.ReadConnections
import OpenMcc.Construction.ReadLedger
import OpenMcc.Construction.ReadRegister
import OpenMcc.Construction.Reconcile
import OpenMcc.Construction.ReleaseNotes
import OpenMcc.Construction.RespawnSightings
import OpenMcc.Construction.Rollup
import OpenMcc.Construction.Senders
import OpenMcc.Construction.SignInCompletion
import OpenMcc.Construction.SigningSecrets
import OpenMcc.Construction.SleepTimers
import OpenMcc.Construction.SleepWindow
import OpenMcc.Construction.SmtpClient
import OpenMcc.Construction.SmtpMessage
import OpenMcc.Construction.SmtpReplies
import OpenMcc.Construction.SmtpReply
import OpenMcc.Construction.StatusEvents
import OpenMcc.Construction.StatusHistory
import OpenMcc.Construction.StatusRecorder
import OpenMcc.Construction.StatusRepository
import OpenMcc.Construction.Task
import OpenMcc.Construction.TaskLogins
import OpenMcc.Construction.TaskRun
import OpenMcc.Framework.Base64
import OpenMcc.Framework.DateText
import OpenMcc.Framework.Dialogue
import OpenMcc.Framework.Heap
import OpenMcc.Framework.IpLiteral
import OpenMcc.Framework.Json
import OpenMcc.Framework.JsonText
import OpenMcc.Framework.Regex
import OpenMcc.Framework.Spans
import OpenMcc.Framework.Text
import OpenMcc.Framework.Toml
import OpenMcc.Framework.TomlReader
import OpenMcc.Framework.Transition
import OpenMcc.Framework.Utf8
import OpenMcc.Properties.Abandonment
import OpenMcc.Properties.Acceptances
import OpenMcc.Properties.ActiveChecks
import OpenMcc.Properties.Alerts
import OpenMcc.Properties.ArtifactCommands
import OpenMcc.Properties.ArtifactRetention
import OpenMcc.Properties.AuthorisedKeys
import OpenMcc.Properties.BootstrapOwner
import OpenMcc.Properties.ChatComponent
import OpenMcc.Properties.ChatJson
import OpenMcc.Properties.ClaimedOperations
import OpenMcc.Properties.CommandScheduler
import OpenMcc.Properties.ConfigDocument
import OpenMcc.Properties.ConfigDrift
import OpenMcc.Properties.ConfigNames
import OpenMcc.Properties.ConfigRender
import OpenMcc.Properties.ConfigSaves
import OpenMcc.Properties.ConnectionReads
import OpenMcc.Properties.Control
import OpenMcc.Properties.DailyTimes
import OpenMcc.Properties.Delivery
import OpenMcc.Properties.DestinationHealth
import OpenMcc.Properties.Due
import OpenMcc.Properties.Egress
import OpenMcc.Properties.ExecChannels
import OpenMcc.Properties.FlappingRecorders
import OpenMcc.Properties.HealthPoll
import OpenMcc.Properties.HostLifecycle
import OpenMcc.Properties.HostOutages
import OpenMcc.Properties.HostReading
import OpenMcc.Properties.HostWrites
import OpenMcc.Properties.IncidentLog
import OpenMcc.Properties.InstanceLifecycle
import OpenMcc.Properties.IntervalTask
import OpenMcc.Properties.JoinSightings
import OpenMcc.Properties.Journal
import OpenMcc.Properties.JournalReads
import OpenMcc.Properties.LivePorts
import OpenMcc.Properties.McpResponse
import OpenMcc.Properties.Membership
import OpenMcc.Properties.Pinned
import OpenMcc.Properties.PlayerList
import OpenMcc.Properties.PlayerListAnswer
import OpenMcc.Properties.ProvisioningAttempts
import OpenMcc.Properties.ReadChannels
import OpenMcc.Properties.ReadConnections
import OpenMcc.Properties.ReadLedger
import OpenMcc.Properties.ReadRegister
import OpenMcc.Properties.ReadSharing
import OpenMcc.Properties.ReadTransports
import OpenMcc.Properties.Reconcile
import OpenMcc.Properties.ReleaseNotes
import OpenMcc.Properties.RespawnSightings
import OpenMcc.Properties.Rollup
import OpenMcc.Properties.SealedBox
import OpenMcc.Properties.Senders
import OpenMcc.Properties.SignInCompletion
import OpenMcc.Properties.SigningSecrets
import OpenMcc.Properties.SleepTimers
import OpenMcc.Properties.SleepWindow
import OpenMcc.Properties.SmtpConversation
import OpenMcc.Properties.SmtpDelivery
import OpenMcc.Properties.SmtpMessage
import OpenMcc.Properties.SmtpReader
import OpenMcc.Properties.SmtpReplies
import OpenMcc.Properties.SmtpSecurity
import OpenMcc.Properties.StaticApp
import OpenMcc.Properties.StatusEvents
import OpenMcc.Properties.StatusHistory
import OpenMcc.Properties.StatusRecorder
import OpenMcc.Properties.SubordinateIds
import OpenMcc.Properties.TaskLogins
import OpenMcc.Properties.TaskRun
