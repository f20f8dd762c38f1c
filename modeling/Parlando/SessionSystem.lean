import Parlando.Concurrency.Pool
import Parlando.Procedures.Cleanup
import Parlando.Procedures.Joining

namespace Parlando

open Concurrency

variable {G : Game}

namespace ParticipantSessionId

def isHuman : ParticipantSessionId → Bool
  | human _ => true
  | agent _ => false

end ParticipantSessionId

/-- Who waits for a `maybe_start_game` call. -/
inductive StartCaller where
  | socket (call : SocketCall) (generation : Nat)
  | agent (call : AgentCall)
  | audio (id : ParticipantSessionId)

inductive AbandonCaller where
  | request
  | socket (call : SocketCall)

/-- Who waits for an `expire_live_session` call; a timer carries the deadline it was armed with. -/
inductive ExpireCaller where
  | timer (id : ParticipantSessionId) (deadline : Timestamp)
  | cleanup
  | agent (call : AgentCall)

/-- Who waits for a `persist_session_event` call. -/
inductive EventCaller where
  /-- Any other writer of session events. -/
  | detached
  | connected (call : SocketCall) (generation : Nat)
  | disconnected (call : SocketCall) (deadline : Timestamp)
  | joined (participant : ParticipantSession) (role : PlayerRole)
  | agentJoined (call : AgentCall) (lock : Nat)
  | agentError (call : AgentCall)
  | agentConnected (call : AgentCall) (lock : Nat)
  | agentStarted (call : AgentCall) (lock : Nat)

/-- Every task of the server that works on one session, at its current point. -/
inductive Task (G : Game) where
  | submit (call : SubmitCall G) (pc : SubmitPc G)
  | abandon (id : ParticipantSessionId) (reason : EndReason) (caller : AbandonCaller)
      (pc : AbandonPc)
  | expire (reason : EndReason) (caller : ExpireCaller) (pc : ExpirePc)
  | start (caller : StartCaller) (pc : StartPc)
  | event (call : EventCall) (caller : EventCaller) (pc : EventPc)
  | socket (call : SocketCall) (pc : SocketPc)
  | timer (id : ParticipantSessionId) (deadline : Timestamp) (pc : TimerPc)
  | cleanup (pc : CleanupPc)
  | finalize (pc : FinalizePc)
  | pair (participant : ParticipantSession) (pc : PairPc)
  | admission (participant : ParticipantSession) (pc : AdmitPc)
  | agent (call : AgentCall) (pc : AgentPc)
  | audio (id : ParticipantSessionId) (pc : AudioPc)
  | touch (pc : TouchPc)

namespace Task

/-- The tasks the environment may start; only `submit_action` writes accepted actions. -/
def entry : Task G → Bool
  | submit _ .fetch => true
  | abandon id .participantLeft .request .fetch => id.isHuman
  | event call .detached .record => call.eventType != "game_action_accepted"
  | socket call .register => call.participantSessionId.isHuman
  | cleanup .tick => true
  | finalize .list => true
  | pair participant .find => participant.id.isHuman && participant.source != .agent
  | admission participant (.persist _) => participant.id.isHuman && participant.source != .agent
  | agent call .probe => !call.participant.id.isHuman
  | audio id .mark => id.isHuman
  | touch .memory => true
  | _ => false

def isMember (cell : Cell G) (id : ParticipantSessionId) (role : PlayerRole) : Bool :=
  cell.session.any fun session =>
    (session.participants.lookup id).any fun participant => participant.role == role

/-- What the server checks of the session and of its configuration before it starts the task. -/
def admitted (config : ExperimentConfig) (cell : Cell G) : Task G → Bool
  | socket call _ => isMember cell call.participantSessionId call.role
  | pair _ _ => config.agentsMode == .humanVsHuman
  | admission participant (.persist role) => isMember cell participant.id role
  | agent _ _ => config.agentsMode == .humanVsAgent
  | _ => true

/-- A point that calls another procedure is replaced by the callee. -/
def ofSocket (call : SocketCall) : SocketPc → Task G
  | .connectedEvent g =>
    event ⟨some call.participantSessionId, "participant_connected", .null⟩ (.connected call g)
      .record
  | .starting g => start (.socket call g) .fetch
  | .disconnectedEvent deadline =>
    event ⟨some call.participantSessionId, "participant_disconnected", .null⟩
      (.disconnected call deadline) .record
  | .abandoning => abandon call.participantSessionId .reconnectTimeout (.socket call) .fetch
  | pc => socket call pc

def ofTimer (id : ParticipantSessionId) (deadline : Timestamp) : TimerPc → Task G
  | .expiring => expire .reconnectTimeout (.timer id deadline) .check
  | pc => timer id deadline pc

def ofCleanup : CleanupPc → Task G
  | .expiring reason => expire reason .cleanup .check
  | pc => cleanup pc

def ofPair (participant : ParticipantSession) : PairPc → Task G
  | .admitted role => admission participant (.persist role)
  | pc => pair participant pc

def ofAdmit (participant : ParticipantSession) : AdmitPc → Task G
  | .joinedEvent role =>
    event ⟨some participant.id, "participant_joined", .object [("role", .string role.asStr)]⟩
      (.joined participant role) .record
  | pc => admission participant pc

def ofAgent (call : AgentCall) : AgentPc → Task G
  | .joinedEvent l =>
    event ⟨some call.participant.id, "participant_joined", .object
      [("agent", call.metadata), ("kind", .string "agent"), ("role", .string "B")]⟩
      (.agentJoined call l) .record
  | .errorEvent message =>
    event ⟨some call.participant.id, "agent_error", .object
      [("last_error", .string message), ("phase", .string "start")]⟩ (.agentError call) .record
  | .connectedEvent l =>
    event ⟨some call.participant.id, "participant_connected", .object
      [("agent", call.metadata), ("source", .string "agent")]⟩ (.agentConnected call l) .record
  | .startedEvent l =>
    event ⟨some call.participant.id, "agent_started", .object
      [("agent", call.metadata), ("role", .string "B")]⟩ (.agentStarted call l) .record
  | .starting => start (.agent call) .fetch
  | .expiring reason => expire reason (.agent call) .check
  | pc => agent call pc

def ofAudio (id : ParticipantSessionId) : AudioPc → Task G
  | .starting => start (.audio id) .fetch
  | pc => audio id pc

def ofStart : StartCaller → StartPc → Task G
  | .socket call g, .returned => socket call (.serving g)
  | .agent call, .returned => agent call .done
  | .audio id, .returned => audio id .done
  | caller, pc => start caller pc

def ofAbandon (id : ParticipantSessionId) (reason : EndReason) :
    AbandonCaller → AbandonPc → Task G
  | .socket call, .returned _ => socket call .closed
  | caller, pc => abandon id reason caller pc

def ofExpire (reason : EndReason) : ExpireCaller → ExpirePc → Task G
  | .timer id deadline, .returned _ => timer id deadline .done
  | .cleanup, .returned result => cleanup (.afterExpire result)
  | .agent call, .returned _ => agent call .done
  | caller, pc => expire reason caller pc

def ofEvent (config : ExperimentConfig) (call : EventCall) : EventCaller → EventPc → Task G
  | .connected call g, .returned => socket call (.started g)
  | .disconnected call deadline, .returned =>
    ofSocket call (.afterDisconnect config deadline)
  | .joined participant role, .returned => admission participant (.returned (.ok role))
  | .agentJoined call l, .returned => agent call (.releaseAttach l true)
  | .agentError call, .returned => ofAgent call (.expiring .agentStartFailed)
  | .agentConnected call l, .returned => ofAgent call (.startedEvent l)
  | .agentStarted call l, .returned => agent call (.releaseReady l true)
  | caller, pc => event call caller pc

/-- The timer that the pause section of a closing connection leaves behind. -/
def armed (config : ExperimentConfig) (call : SocketCall) (now : Timestamp) :
    SocketPc → List (Task G)
  | .pause deadline => [timer call.participantSessionId deadline
      (.sleeping (now + Timestamp.seconds config.graceSeconds))]
  | _ => []

/-- One atomic step of one task: what it does to the shared state, and the tasks it starts. -/
def next (config : ExperimentConfig) (cell : Cell G) (pid : Nat) (input : Input) :
    Task G → Option (Section G × Task G × List (Task G))
  | submit call pc => (pc.step config call cell pid input).map fun (sec, pc) =>
      (sec, submit call pc, [])
  | abandon id reason caller pc => (pc.step config id reason cell pid input).map fun (sec, pc) =>
      (sec, ofAbandon id reason caller pc, [])
  | expire reason caller pc => (pc.step config reason cell input).map fun (sec, pc) =>
      (sec, ofExpire reason caller pc, [])
  | start caller pc => (pc.step config cell pid input).map fun (sec, pc) =>
      (sec, ofStart caller pc, [])
  | event call caller pc => (pc.step call cell input).map fun (sec, pc) =>
      (sec, ofEvent config call caller pc, [])
  | socket call pc => (pc.step config call cell input).map fun (sec, pc') =>
      (sec, ofSocket call pc', armed config call input.now pc)
  | timer id deadline pc => (pc.step id cell input).map fun (sec, pc) =>
      (sec, ofTimer id deadline pc, [])
  | cleanup pc => (pc.step cell input).map fun (sec, pc) => (sec, ofCleanup pc, [])
  | finalize pc => (pc.step config cell input).map fun (sec, pc) => (sec, finalize pc, [])
  | pair participant pc => (pc.step config participant cell input).map fun (sec, pc) =>
      (sec, ofPair participant pc, [])
  | admission participant pc => (pc.step participant cell input).map fun (sec, pc) =>
      (sec, ofAdmit participant pc, [])
  | agent call pc => (pc.step call cell pid input).map fun (sec, pc) =>
      (sec, ofAgent call pc, [])
  | audio id pc => (pc.step id input).map fun (sec, pc) => (sec, ofAudio id pc, [])
  | touch pc => (pc.step config cell input).map fun (sec, pc) => (sec, touch pc, [])

end Task

/-- The tasks of one session as a concurrent program over its cell; the clock never runs back. -/
def sessionProgram (G : Game) (config : ExperimentConfig) : Program (Cell G) (Task G) Input where
  entry cell task := task.entry && task.admitted config cell
  step cell pid task input :=
    if input.now < cell.clock then none
    else (task.next config cell pid input).map fun (sec, task, started) =>
      ({ cell.apply config sec with clock := input.now }, task, started)

/-- The states and steps of one live session. -/
abbrev sessionMachine (G : Game) (config : ExperimentConfig) :=
  (sessionProgram G config).machine

/-- The rows of a session whose creation has just completed. -/
def SessionStore.created (config : ExperimentConfig) (purpose : Purpose) (createdAt : Timestamp)
    (seed : Int) (publicSessionId : String) : SessionStore :=
  let row : SessionRow := {
    purpose
    createdAt
    waitingDeadlineAt := createdAt +
      Timestamp.seconds config.session.waitingSessionTimeoutSeconds
    lifetimeDeadlineAt := createdAt + Timestamp.seconds config.session.sessionMaxLifetimeSeconds }
  let created := SessionStore.appendSessionEvent { row } ⟨"session_created", none, none,
    .object [("public_session_id", .string publicSessionId), ("seed", .int seed)], none⟩ createdAt
  created.completeSessionInitialization.1

/-- What `create_live_session_locked` is called with, and what the store and the game answer. -/
structure Creation (G : Game) where
  participant : ParticipantSession
  sessionId : Int
  publicSessionId : String
  seed : Int
  state : G.State
  createdAt : Timestamp
  isHuman : participant.id.isHuman = true
  notAgent : participant.source ≠ .agent
  durable : 0 < sessionId

namespace Creation

/-- The cell right after `create_live_session_locked` returned. -/
def cell (config : ExperimentConfig) (creation : Creation G) : Cell G where
  clock := creation.createdAt
  session := some (.created config creation.sessionId creation.state creation.participant
    creation.createdAt creation.createdAt)
  store := .created config creation.participant.purpose creation.createdAt creation.seed
    creation.publicSessionId

/-- The start of every run: the new session and no task yet. -/
def initial (config : ExperimentConfig) (creation : Creation G) : Pool (Cell G) (Task G) :=
  ⟨creation.cell config, []⟩

end Creation

end Parlando
