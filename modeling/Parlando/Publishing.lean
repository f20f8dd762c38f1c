import Parlando.AudioEvents
import Parlando.ParticipantClient
import Parlando.View

namespace Parlando

open Concurrency

variable {G : Game}

inductive Publication where
  /-- `broadcast_participant_states`. -/
  | participantStates
  /-- `broadcast_player_views`. -/
  | playerViews (actor : PlayerRole) (action : Value)
  /-- The role assignments of a game start. -/
  | roleAssignments
  | subscribe (id : ParticipantSessionId)
  /-- The recipient's snapshot is taken next. -/
  | state (recipient : ParticipantSessionId) (role : PlayerRole)
  /-- The recipient's view of a transition is taken next. -/
  | view (recipient : ParticipantSessionId) (role : PlayerRole) (actor : PlayerRole)
      (action : Value)
  /-- The message has been made, for a participant with this role, and is sent next. -/
  | send (recipient : ParticipantSessionId) (role : PlayerRole) (payload : ServerPayload)

namespace Publication

/-- What is left to publish once the memory has been read; hash maps are read in their order. -/
def expand (session : Option (LiveSession G)) : Publication → List Publication
  | participantStates =>
    (session.toList.flatMap fun session => session.participants.values.filter fun participant =>
      !participant.isAgent).map fun participant =>
        state participant.participantSessionId participant.role
  | playerViews actor action =>
    (session.toList.flatMap fun session => session.participants.values).map fun participant =>
      view participant.participantSessionId participant.role actor action
  | roleAssignments =>
    (session.toList.flatMap fun session => session.participants.values).map fun participant =>
      state participant.participantSessionId participant.role
  | state recipient role =>
    match participantStateResponse session role with
    | .ok snapshot => [send recipient role (.participantState snapshot)]
    | .error _ => []
  | view recipient role actor action =>
    match session.map fun session => participantView session role with
    | some (.ok ⟨_, some observation, availableActions⟩) =>
      [send recipient role (.transition actor action observation availableActions)]
    | _ => []
  | subscribe _ | send _ _ _ => []

end Publication

/-- The transition lock an `abandon_session` call holds. -/
def AbandonPc.held : AbandonPc → Option Nat
  | check l | record l _ | commit l _ _ | write l _ | release l _ => some l
  | _ => none

namespace Task

/-- What a task publishes right after a step, before it goes on. -/
def publishes : Task G → Task G → List Publication
  | start _ (.write _ _), _ => [.roleAssignments]
  | event _ (.connected call _) _, socket _ (.started _) =>
    [.subscribe call.participantSessionId, .state call.participantSessionId call.role]
  | socket _ (.started _), socket _ (.serving _) => [.participantStates]
  | socket _ (.pause _), _ => [.participantStates]
  | expire _ (.timer _ _) (.write _), _ => [.participantStates]
  | expire _ .cleanup (.write _), _ => [.participantStates]
  | expire _ (.agent _) _, agent _ .done => [.participantStates]
  | abandon _ _ .request (.release _ (.ok _)), _ => [.participantStates]
  | submit _ (.touchStore _ _ _), _ => [.participantStates]
  | touch (.store _), _ => [.participantStates]
  | submit call (.release _ (.ok transition)), _ =>
    match G.actionJson call.action with
    | .error _ => []
    | .ok action => .playerViews call.role action ::
        if transition.completion.isSome then [.participantStates] else []
  | agent _ (.releaseAttach _ true), _ => [.participantStates]
  | _, _ => []

/-- What becomes of a task that is dropped, and the transition lock it holds. -/
def dropped : Task G → Option (Task G × Option Nat)
  | abandon id reason .request pc =>
    some (abandon id reason .request (.returned (.ok false)), pc.held)
  | audio id _ => some (audio id .done, none)
  | start (.audio id) pc => some (audio id .done, pc.held)
  | _ => none

end Task

/-- One session with everything that is published on its bus. -/
structure Published (G : Game) where
  room : Pool (Cell G) (Task G)
  /-- What each task has to publish before it takes its next step. -/
  duties : Nat → List Publication
  channel : GameChannel ServerPayload
  /-- The task that serves each connection of the channel. -/
  owners : List Nat
  /-- The answers given over HTTP. -/
  answers : List (ParticipantSessionId × ParticipantState)
  /-- The state that the client of a connection showed when it opened it. -/
  opened : Nat → Option ParticipantState

inductive PublishAction (G : Game) where
  /-- A task starts, other than a connection, or takes its next step. -/
  | task (action : Pool.Action (Task G) Input)
  /-- A client opens a connection in the state that an earlier answer gave it. -/
  | connect (call : SocketCall) (answer : Nat)
  /-- A participant is told his state over HTTP. -/
  | answer (id : ParticipantSessionId)
  /-- A task publishes the next piece of what it has to. -/
  | publish (pid : Nat)
  /-- Any task sends something that shows no state. -/
  | notice (recipient : Option ParticipantSessionId) (payload : Value)
  | receive (i : Nat)
  | handOver (i : Nat) (ok : Bool)
  /-- The loop of a connection ends. -/
  | close (i : Nat)
  /-- A cancelled request or an aborted event task is dropped. -/
  | drop (pid : Nat)

namespace Published

def initial (config : ExperimentConfig) (creation : Creation G) : Published G where
  room := creation.initial config
  duties _ := []
  channel := .initial ServerPayload
  owners := []
  answers := []
  opened _ := none

def setDuties (s : Published G) (pid : Nat) (publications : List Publication) : Published G :=
  { s with duties := fun q => if q = pid then publications else s.duties q }

def servedBy (s : Published G) (i : Nat) : Option (Task G) :=
  s.owners[i]?.bind fun pid => if (s.duties pid).isEmpty then s.room.tasks[pid]? else none

def serving (s : Published G) (i : Nat) : Bool :=
  match s.servedBy i with
  | some (.socket _ (.serving _)) => true
  | _ => false

/-- The task serves a connection that has not been closed. -/
def isOpen (s : Published G) (pid : Nat) : Bool :=
  (s.owners.zip s.channel.sockets).any fun (owner, socket) => owner == pid && socket.serves

/-- The task is in the middle of something else: it publishes, or its loop has not ended. -/
def busy (s : Published G) (pid : Nat) (task : Task G) : Bool :=
  !(s.duties pid).isEmpty || match task with
    | .socket _ (.serving _) => s.isOpen pid
    | _ => false

/-- One step of a task and what it publishes afterwards. -/
def run (config : ExperimentConfig) (s : Published G) (pid : Nat) (input : Input) :
    Option (Published G) :=
  s.room.tasks[pid]?.bind fun task =>
    if s.busy pid task then none
    else ((sessionMachine G config).step s.room (.run pid input)).map fun room =>
      { s with room }.setDuties pid
        ((room.tasks[pid]?.map fun task' => task.publishes task').getD [])

def publish (s : Published G) (pid : Nat) : Option (Published G) :=
  match s.duties pid with
  | [] => none
  | .subscribe id :: rest => (s.channel.step (.subscribe id)).map fun channel =>
      { s with channel, owners := s.owners ++ [pid] }.setDuties pid rest
  | .send recipient _ payload :: rest =>
    (s.channel.step (.publish (.targeted recipient payload))).map fun channel =>
      { s with channel }.setDuties pid rest
  | publication :: rest =>
    some (s.setDuties pid (publication.expand s.room.shared.session ++ rest))

/-- The answer to a participant who asks for his state over HTTP. -/
def answer (s : Published G) (id : ParticipantSessionId) : Option (Published G) :=
  s.room.shared.session.bind fun session => (session.participants.lookup id).bind fun participant =>
    match participantStateResponse (some session) participant.role with
    | .ok state => some { s with answers := s.answers ++ [(id, state)] }
    | .error _ => none

/-- A connection is opened with an answer to the same participant, unless it shows an end. -/
def connect (config : ExperimentConfig) (s : Published G) (call : SocketCall) (answer : Nat) :
    Option (Published G) :=
  s.answers[answer]?.bind fun (id, state) =>
    if id = call.participantSessionId ∧ state.phase ≠ .ended ∧ state.phase ≠ .registered then
      ((sessionMachine G config).step s.room (.spawn (.socket call .register))).map fun room =>
        { s with
          room
          opened := fun pid => if pid = s.room.tasks.length then some state else s.opened pid }
    else none

/-- A dropped task publishes nothing more and gives back the lock it holds. -/
def drop (config : ExperimentConfig) (s : Published G) (pid : Nat) : Option (Published G) :=
  s.room.tasks[pid]?.bind fun task => task.dropped.map fun (task, held) =>
    { s with room := {
        shared := AudioRoom.dropGuard config s.room.shared held
        tasks := s.room.tasks.set pid task } }.setDuties pid []

def step (config : ExperimentConfig) (s : Published G) : PublishAction G → Option (Published G)
  | .task (.spawn (.socket _ _)) => none
  | .task (.spawn task) => ((sessionMachine G config).step s.room (.spawn task)).map fun room =>
      { s with room }
  | .task (.run pid input) => s.run config pid input
  | .connect call answer => s.connect config call answer
  | .answer id => s.answer id
  | .publish pid => s.publish pid
  | .notice recipient payload =>
    (s.channel.step (.publish ⟨2, .notice payload, recipient⟩)).map fun channel =>
      { s with channel }
  | .receive i =>
    if s.serving i then (s.channel.step (.receive i)).map fun channel => { s with channel }
    else none
  | .handOver i ok => (s.channel.step (.handOver i ok)).map fun channel => { s with channel }
  | .close i =>
    if s.serving i then (s.channel.step (.close i)).map fun channel => { s with channel } else none
  | .drop pid => s.drop config pid

def caughtUp (s : Published G) (socket : GameSocket ServerPayload) : Bool :=
  !socket.serves || socket.sending.isNone && socket.next == s.channel.bus.sent.length

/-- No request, loop step or broadcast is in progress, and every message has been delivered. -/
def quiescent (s : Published G) : Bool :=
  s.room.tasks.all Task.resting &&
  (List.range s.room.tasks.length).all (fun pid => (s.duties pid).isEmpty) &&
  s.channel.sockets.all s.caughtUp

end Published

/-- One live session, its bus and the clients on it. -/
def publishMachine (G : Game) (config : ExperimentConfig) :
    Machine (Published G) (PublishAction G) where
  step := Published.step config

end Parlando
