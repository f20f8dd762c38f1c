import Parlando.Concurrency.Machine
import Parlando.Concurrency.Pool
import Parlando.Data.Map
import Parlando.Protocol
import Parlando.Config
import Parlando.Game
import Parlando.Store
import Parlando.Session
import Parlando.Ending
import Parlando.Cell
import Parlando.Procedures.Submit
import Parlando.Procedures.Ending
import Parlando.Procedures.Start
import Parlando.Procedures.Connection
import Parlando.Procedures.Cleanup
import Parlando.Procedures.Joining
import Parlando.SessionLog
import Parlando.HeadlessSession
import Parlando.SessionSystem
import Parlando.Proofs.Steps
import Parlando.Proofs.TransitionLock
import Parlando.Proofs.Store
import Parlando.Proofs.Logs
import Parlando.Proofs.DurableGame
import Parlando.Data.Except
import Parlando.Data.Table
import Parlando.Database
import Parlando.Proofs.Answers
import Parlando.Proofs.Capacity
import Parlando.Proofs.Database
import Parlando.Proofs.Deletion
import Parlando.Proofs.EventClock
import Parlando.Proofs.Pause
import Parlando.Proofs.Presence
import Parlando.Proofs.SessionNumbers
import Parlando.Administration
import Parlando.Auth
import Parlando.Concurrency.Broadcast
import Parlando.Export
import Parlando.GameChannel
import Parlando.Proofs.Corpus
import Parlando.Proofs.CorpusRows
import Parlando.Proofs.GameChannel
import Parlando.Proofs.GameValues
import Parlando.Proofs.SavedConfiguration
import Parlando.Proofs.SecretReferences
import Parlando.Proofs.Tickets
import Parlando.Concurrency.Claims
import Parlando.Data.Procedure
import Parlando.Conversation
import Parlando.Data.JsonText
import Parlando.Expiry
import Parlando.Proofs.Expiry
import Parlando.Proofs.LastWords
import Parlando.Proofs.Reclamation
import Parlando.Proofs.TranscriptClaims
import Parlando.Proofs.Transcripts
import Parlando.Admission
import Parlando.Proofs.Admission
import Parlando.AudioConnections
import Parlando.Hosting
import Parlando.ParticipantAdmission
import Parlando.Proofs.AudioConnections
import Parlando.Proofs.Hosting
import Parlando.Proofs.ParticipantAdmission
import Parlando.Proofs.Rebuild
import Parlando.Proofs.TranscriptionClock
import Parlando.AdminTimeline
import Parlando.AgentPlayout
import Parlando.AudioEvents
import Parlando.AudioIngress
import Parlando.Consents
import Parlando.ParticipantClient
import Parlando.Proofs.AdminTimeline
import Parlando.Proofs.AgentPlayout
import Parlando.Proofs.AudioFrame
import Parlando.Proofs.AudioIngress
import Parlando.Proofs.ClientStates
import Parlando.Proofs.ClosedCorpus
import Parlando.Proofs.Consents
import Parlando.Proofs.MappedUtterances
import Parlando.Proofs.ReadySessions
import Parlando.Proofs.Rejections
import Parlando.Proofs.SpeechAlignment
import Parlando.Proofs.TranscriptAssembly
import Parlando.Proofs.CorpusExport
import Parlando.AgentExperiment
import Parlando.Data.Wire
import Parlando.ExperimentRun
import Parlando.Proofs.PlanIdentity
import Parlando.Proofs.Resumption
import Parlando.Data.Double
import Parlando.Proofs.AgentDashboard
import Parlando.Proofs.Blame
import Parlando.Proofs.ConfigHistory
import Parlando.Proofs.CsvExport
import Parlando.Proofs.SessionLog
import Parlando.Proofs.HeadlessDecision
import Parlando.Proofs.HeadlessSession
import Parlando.Proofs.Trajectory
import Parlando.Clocks
import Parlando.Proofs.Clocks
import Parlando.AgentService
import Parlando.Proofs.AgentService
import Parlando.CaptureResampler
import Parlando.Data.Interpolation
import Parlando.Proofs.CaptureResampler
import Parlando.PlaybackBuffer
import Parlando.Proofs.PlaybackBuffer
import Parlando.Data.Csv
import Parlando.Proofs.PlannedSets
import Parlando.Proofs.RemoteValues
import Parlando.Proofs.UpfrontValidation
import Parlando.AudioRegistry
import Parlando.Proofs.AudioRegistry
import Parlando.GreatTree
import Parlando.Proofs.GreatTree
import Parlando.SpaceGame.Level
import Parlando.SpaceGame.StateEngine
import Parlando.Proofs.SpaceGame
import Parlando.Proofs.SpaceGameRecovery
import Parlando.AgentTask
import Parlando.Proofs.AgentTask
import Parlando.RootBot
import Parlando.Proofs.RootBot
import Parlando.Proofs.RootBotWins
import Parlando.AdminAuth
import Parlando.Proofs.AdminAuth
import Parlando.ProlificStudy
import Parlando.Data.Window
import Parlando.Intake
import Parlando.Proofs.ProlificStudy
import Parlando.Proofs.Intake
import Parlando.Proofs.Recruitment
import Parlando.Proofs.IntakeRate
import Parlando.RemoteAgent
import Parlando.Proofs.RemoteAgent
