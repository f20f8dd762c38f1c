import Parlando.AgentService
import Parlando.Concurrency.Pool
import Parlando.HeadlessSession
import Parlando.RemoteValues
import Parlando.SessionLog

namespace Parlando.Remote

open Concurrency
open Headless (AgentResponse)

/-- The requests about a hosted agent, apart from its id. -/
inductive AgentRequest where
  | start (observation : Struct)
  | observeTransition (actor : PlayerRole) (action observation : Struct)
  | observeMessage (sender : PlayerRole) (text : String)
  | finish (completion : Struct)
  | respond (availableActionsProvided : Bool) (availableActions : List Struct)

structure ResponseMessage where
  action : Option Struct
  message : Option String

inductive AgentReply where
  | observed
  | responded (response : Option ResponseMessage)

inductive Callback where
  | start (initialObservation : Value)
  | observeTransition (actor : PlayerRole) (action observation : Value)
  | observeMessage (sender : PlayerRole) (text : String)
  | finish (completion : Value)
  | respond (availableActions : Option (List Value))

def decisionRequest (availableActions : Option (List Value)) : Except String AgentRequest := do
  return .respond availableActions.isSome (← (availableActions.getD []).mapM jsonToStruct)

def Callback.request : Callback → Except String AgentRequest
  | start initialObservation => do return .start (← jsonToStruct initialObservation)
  | observeTransition actor action observation => do
    return .observeTransition actor (← jsonToStruct action) (← jsonToStruct observation)
  | observeMessage sender text => .ok (.observeMessage sender text)
  | finish completion => do return .finish (← jsonToStruct completion)
  | respond availableActions => decisionRequest availableActions

/-- Code that is not the runtime's own: the protobuf library of the hosting process, the ids it
draws, and how the game reads an action. -/
structure RemoteEnv (Dict Action : Type) where
  uuid : Nat → String
  /-- `_struct_to_dict`; there is none where it raises. -/
  structToDict : Struct → Option Dict
  /-- `_dict_to_struct`. -/
  dictToStruct : Dict → Option Struct
  readAction : Value → Option Action

variable {Dict Action : Type} (env : RemoteEnv Dict Action)

def structToAction (value : Struct) : Option Action := env.readAction (structToJson value)

/-- Converts a protobuf agent response into a typed response; an empty one is refused. -/
def protoToAgentResponse (response : ResponseMessage) : Option (AgentResponse Action) :=
  match response.action, response.message with
  | some action, some message =>
    (structToAction env action).map fun action => .actionAndMessage action message
  | some action, none => (structToAction env action).map .action
  | none, some message => some (.message message)
  | none, none => none

def answerOf : AgentReply → Option (Option (AgentResponse Action))
  | .observed | .responded none => some none
  | .responded (some response) => (protoToAgentResponse env response).map some

inductive HostedCall (Dict : Type) where
  | start (observation : Dict)
  | observeTransition (actor : PlayerRole) (action observation : Dict)
  | observeMessage (sender : PlayerRole) (text : String)
  | finish (completion : Dict)
  | respond (availableActions : Option (List Dict))

/-- What the service makes of a request; there is none where a number is not finite. -/
def AgentRequest.read : AgentRequest → Option (HostedCall Dict)
  | start observation => (env.structToDict observation).map .start
  | observeTransition actor action observation => do
    return .observeTransition actor (← env.structToDict action) (← env.structToDict observation)
  | observeMessage sender text => some (.observeMessage sender text)
  | finish completion => (env.structToDict completion).map .finish
  | respond false _ => some (.respond none)
  | respond true availableActions =>
    (availableActions.mapM env.structToDict).map fun actions => .respond (some actions)

def responseToProto : AgentResponse Dict → Option ResponseMessage
  | .action action => (env.dictToStruct action).map fun action => ⟨some action, none⟩
  | .message message => some ⟨none, some message⟩
  | .actionAndMessage action message =>
    (env.dictToStruct action).map fun action => ⟨some action, some message⟩

/-- The reply to a request when the agent's method has returned; only a decision returns a value. -/
def AgentRequest.reply (request : AgentRequest) (result : Option (AgentResponse Dict)) :
    Option AgentReply :=
  match request, result with
  | respond .., none => some (.responded none)
  | respond .., some response => (responseToProto env response).map fun response =>
    .responded (some response)
  | _, _ => some .observed

inductive HostedEvent (Dict : Type) where
  | called (call : HostedCall Dict)
  | returned (result : Option (AgentResponse Dict))
  | raised
  | cancelled

/-- A hosted agent as its own code sees it, and its `SessionLogger`. -/
structure HostedAgent (Dict : Type) where
  events : List (HostedEvent Dict) := []
  /-- Everything that was accepted for the session's log. -/
  logged : List String := []
  /-- What waits for the next reply. -/
  entries : List String := []
  /-- What the reply of `CreateAgent` carries. -/
  greeting : List String := []

def maxEntryBytes : Nat := 64 * 1024

def maxSessionBytes : Nat := 8 * 1024 * 1024

namespace HostedAgent

variable (o : HostedAgent Dict)

def acceptedBytes : Nat := (o.logged.map String.utf8ByteSize).sum

/-- Accepts text subject to the bounded byte limits; anything else raises. -/
def log (message : String) : HostedAgent Dict :=
  if message.utf8ByteSize > maxEntryBytes ∨
      o.acceptedBytes + message.utf8ByteSize > maxSessionBytes then o
  else { o with logged := o.logged ++ [message], entries := o.entries ++ [message] }

/-- Removes entries for one response while retaining the session byte total. -/
def drain : List String × HostedAgent Dict := (o.entries, { o with entries := [] })

def note (event : HostedEvent Dict) : HostedAgent Dict := { o with events := o.events ++ [event] }

end HostedAgent

inductive CallPlace where
  | sent
  /-- The handler awaits the agent's method. -/
  | running (agent : Nat)
  | replied (reply : AgentReply) (sessionLogs : List String)
  /-- The handler has been refused before it called the agent. -/
  | refused
  /-- The handler has failed, or was cancelled, after it called the agent. -/
  | failed

structure RemoteCall where
  agentId : String
  request : AgentRequest
  place : CallPlace := .sent

inductive InstancePlace where
  | unborn
  /-- `create_remote_instance` awaits the reply of `CreateAgent`. -/
  | creating
  | active (agentId : String)
  /-- A callback awaits the reply to the call. -/
  | awaiting (agentId : String) (callback : Callback) (call : Nat)
  /-- `shutdown` awaits the reply of `Shutdown`. -/
  | leaving
  | shutdown
  /-- The creation has failed. -/
  | gone

inductive Farewell where
  | unasked
  | sent (agentId : String)
  /-- `Shutdown` has begun; it is named by its number. -/
  | arrived (rpc : Nat)
  | replied (sessionLogs : List String)
  /-- The reply has been received, or there is none. -/
  | done

/-- A `RemoteAgentInstance`, with the calls it has made. -/
structure RemoteAgentInstance (Action : Type) where
  /-- The number of its `CreateAgent`. -/
  number : Nat := 0
  place : InstancePlace := .unborn
  calls : List RemoteCall := []
  farewell : Farewell := .unasked
  /-- The callbacks that have returned, with what they returned. -/
  history : List (Callback × Option (AgentResponse Action)) := []
  /-- Some callback has failed or was given up. -/
  failed : Bool := false
  /-- What was handed to the logger of the session, and what it answered. -/
  logs : List (String × Except SessionLogError Unit) := []

/-- A service process and its hosted agents, by the numbers of their `CreateAgent`. -/
structure RemoteHost (Dict : Type) where
  service : AgentService
  agents : Nat → HostedAgent Dict := fun _ => {}
  /-- Which instance has asked for an agent. -/
  owner : Nat → Option Nat := fun _ => none
  /-- The agents whose instances have asked for their shutdown. -/
  asked : List Nat := []

abbrev LogAnswers : Type := Nat → Except SessionLogError Unit

/-- What decides about one step. -/
inductive RemoteInput (Dict : Type) where
  /-- `CreateAgent` arrives, authenticated and for a known role or not. -/
  | create (admitted : Bool) (call : FactoryCall)
  | created (answers : LogAnswers)
  | callback (callback : Callback)
  | arrive (call : Nat) (admitted : Bool)
  /-- The agent's method returns; there is no result where it raises. -/
  | returned (call : Nat) (result : Option (Option (AgentResponse Dict)))
  | cancelled (call : Nat)
  | reply (answers : LogAnswers)
  /-- What is awaited has failed, has taken too long or is not wanted any more. -/
  | giveUp
  | shutdown
  | shutdownArrives (admitted : Bool)
  /-- The agent's `shutdown` returns or raises. -/
  | stopped (returned : Bool)
  | farewell (answers : LogAnswers)
  /-- A step of the service between the awaits of its own. -/
  | service (action : AgentServiceAction)
  | log (agent : Nat) (message : String)

namespace RemoteHost

variable (s : RemoteHost Dict)

/-- The service after some of its steps; a `CreateAgent` that returns takes what was logged. -/
def adopt (service : AgentService) : RemoteHost Dict :=
  { s with
    service
    agents := fun i =>
      match s.service.rpcs[i]?, service.rpcs[i]? with
      | some (.returned _), _ => s.agents i
      | _, some (.returned _) =>
        let (sessionLogs, agent) := (s.agents i).drain
        { agent with greeting := sessionLogs }
      | _, _ => s.agents i }

def setAgent (i : Nat) (agent : HostedAgent Dict) : RemoteHost Dict :=
  { s with agents := Function.update s.agents i agent }

def noteAgent (i : Nat) (event : HostedEvent Dict) : RemoteHost Dict :=
  s.setAgent i ((s.agents i).note event)

def handle (call : RemoteCall) (admitted : Bool) : RemoteHost Dict × CallPlace :=
  if !admitted then (s, .refused)
  else match s.service.agents.lookup call.agentId with
    | none => (s, .refused)
    | some agent =>
      match call.request.read env with
      | none => (s, .refused)
      | some hosted => (s.noteAgent agent (.called hosted), .running agent)

def finishHandler (call : RemoteCall) (agent : Nat)
    (result : Option (Option (AgentResponse Dict))) : RemoteHost Dict × CallPlace :=
  match result with
  | none => (s.noteAgent agent .raised, .failed)
  | some result =>
    let s := s.noteAgent agent (.returned result)
    match s.service.loggers.lookup call.agentId with
    | none => (s, .failed)
    | some logger =>
      let (sessionLogs, drained) := (s.agents logger).drain
      let s := s.setAgent logger drained
      match call.request.reply env result with
      | none => (s, .failed)
      | some reply => (s, .replied reply sessionLogs)

/-- The rest of `Shutdown`, when the agent's own has returned or raised. -/
def finishShutdown (rpc : Nat) (returned : Bool) : Option (RemoteHost Dict × Farewell) :=
  match s.service.rpcs[rpc]?, s.service.step env.uuid (.stopped rpc) with
  | some (.stopping logger), some service =>
    let s := s.adopt service
    match returned, logger with
    | false, _ => some (s, .done)
    | true, none => some (s, .replied [])
    | true, some logger =>
      let (sessionLogs, drained) := (s.agents logger).drain
      some (s.setAgent logger drained, .replied sessionLogs)
  | _, _ => none

end RemoteHost

namespace RemoteAgentInstance

variable (h : RemoteAgentInstance Action) (s : RemoteHost Dict) (pid : Nat)

def setCall (call : Nat) (rpc : RemoteCall) (place : CallPlace) : RemoteAgentInstance Action :=
  { h with calls := h.calls.set call { rpc with place } }

/-- Writes response-carried entries through the session's logger; nothing is done where it refuses
one. -/
def recordRemoteLogs (answers : LogAnswers) (entries : List String) : RemoteAgentInstance Action :=
  { h with logs := h.logs ++ entries.mapIdx fun k entry => (entry, answers k) }

/-- A callback of an active instance: it sends its request, unless its values do not convert. -/
def invoke (agentId : String) (callback : Callback) : RemoteAgentInstance Action :=
  match callback.request with
  | .error _ => { h with failed := true }
  | .ok request => { h with
      calls := h.calls ++ [{ agentId, request }]
      place := .awaiting agentId callback h.calls.length }

/-- The reply that a callback awaits: its logs are recorded, and the callback returns. -/
def receive (answers : LogAnswers) (agentId : String) (callback : Callback) (reply : AgentReply)
    (sessionLogs : List String) : RemoteAgentInstance Action :=
  let h := { h.recordRemoteLogs answers sessionLogs with place := .active agentId }
  match answerOf env reply with
  | none => { h with failed := true }
  | some answer => { h with history := h.history ++ [(callback, answer)] }

def begin (answers : LogAnswers) (agentId : String) (sessionLogs : List String) :
    RemoteAgentInstance Action :=
  { h.recordRemoteLogs answers sessionLogs with
    place := if agentId.isEmpty then .gone else .active agentId }

def step : RemoteInput Dict → Option (RemoteHost Dict × RemoteAgentInstance Action)
  | .create admitted call =>
    match h.place, s.service.step env.uuid (.create admitted call) with
    | .unborn, some service =>
      let number := s.service.rpcs.length
      some ({ s.adopt service with owner := Function.update s.owner number (some pid) },
        { h with number, place := .creating })
    | _, _ => none
  | .created answers =>
    match h.place, s.service.rpcs[h.number]? with
    | .creating, some (.returned agentId) =>
      some (s, h.begin answers agentId (s.agents h.number).greeting)
    | _, _ => none
  | .callback callback =>
    match h.place with
    | .active agentId => some (s, h.invoke agentId callback)
    | _ => none
  | .arrive call admitted => h.calls[call]?.bind fun rpc =>
    match rpc.place with
    | .sent =>
      let (s, place) := s.handle env rpc admitted
      some (s, h.setCall call rpc place)
    | _ => none
  | .returned call result => h.calls[call]?.bind fun rpc =>
    match rpc.place with
    | .running agent =>
      let (s, place) := s.finishHandler env rpc agent result
      some (s, h.setCall call rpc place)
    | _ => none
  | .cancelled call => h.calls[call]?.bind fun rpc =>
    match rpc.place, h.place with
    | .running agent, .active _ | .running agent, .leaving | .running agent, .shutdown =>
      some (s.noteAgent agent .cancelled, h.setCall call rpc .failed)
    | .running agent, .awaiting _ _ awaited =>
      -- A handler is cancelled when its client has gone.
      if awaited = call then none
      else some (s.noteAgent agent .cancelled, h.setCall call rpc .failed)
    | _, _ => none
  | .reply answers =>
    match h.place with
    | .awaiting agentId callback call => h.calls[call]?.bind fun rpc =>
      match rpc.place with
      | .replied reply sessionLogs =>
        some (s, h.receive env answers agentId callback reply sessionLogs)
      | _ => none
    | _ => none
  | .giveUp =>
    match h.place with
    | .creating => some (s, { h with place := .gone })
    | .awaiting agentId _ _ => some (s, { h with place := .active agentId, failed := true })
    | .leaving => some (s, { h with place := .shutdown })
    | _ => none
  | .shutdown =>
    match h.place with
    | .active agentId =>
      some ({ s with asked := h.number :: s.asked },
        { h with place := .leaving, farewell := .sent agentId })
    | _ => none
  | .shutdownArrives admitted =>
    match h.farewell with
    | .sent agentId => (s.service.step env.uuid (.shutdown admitted agentId)).map fun service =>
      (s.adopt service, { h with farewell := .arrived s.service.rpcs.length })
    | _ => none
  | .stopped returned =>
    match h.farewell with
    | .arrived rpc => (s.finishShutdown env rpc returned).map fun (s, farewell) =>
      (s, { h with farewell })
    | _ => none
  | .farewell answers =>
    match h.place, h.farewell with
    | .leaving, .replied sessionLogs =>
      some (s, { h.recordRemoteLogs answers sessionLogs with place := .shutdown, farewell := .done })
    | _, _ => none
  | .service _ | .log .. => none

end RemoteAgentInstance

/-- An instance of some session, or the service between the steps of its handlers. -/
inductive RemoteTask (Action : Type) where
  | client (h : RemoteAgentInstance Action)
  | server

def internalStep : AgentServiceAction → Bool
  | .create .. | .shutdown .. | .stopped _ => false
  | _ => true

def RemoteTask.step (s : RemoteHost Dict) (pid : Nat) (input : RemoteInput Dict) :
    RemoteTask Action → Option (RemoteHost Dict × RemoteTask Action)
  | client h => (h.step env s pid input).map fun next => (next.1, client next.2)
  | server =>
    match input with
    | .service action =>
      if internalStep action then (s.service.step env.uuid action).map fun service =>
        (s.adopt service, server)
      else none
    | .log agent message =>
      if agent < s.service.rpcs.length then
        some (s.setAgent agent ((s.agents agent).log message), server)
      else none
    | _ => none

def RemoteTask.starts : RemoteTask Action → Bool
  | client ⟨_, .unborn, [], .unasked, [], false, []⟩ | server => true
  | _ => false

/-- Any number of sessions whose agents one service hosts, in any interleaving. -/
def remoteProgram : Program (RemoteHost Dict) (RemoteTask Action) (RemoteInput Dict) where
  entry _ task := task.starts
  step s pid task input := (task.step env s pid input).map fun next => (next.1, next.2, [])

end Parlando.Remote
