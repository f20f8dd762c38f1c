import Parlando.Concurrency.Channel
import Parlando.Concurrency.Machine
import Parlando.HeadlessSession

namespace Parlando

open Concurrency
open Headless (AgentResponse CallbackResult otherRole)

variable {G : Game}

inductive AgentObservation (G : Game) where
  /-- Accepted action plus role-specific state snapshot after the action. -/
  | action (actor : PlayerRole) (action : G.Action) (resultingObservation : G.Observation)
      (completion : Option G.Completion)
  /-- Conversation message with its sender role. -/
  | message (speaker : PlayerRole) (text : String)

/-- Mutable agent instance: what each callback answers, and the instance it leaves behind. -/
structure Agent (G : Game) where
  State : Type
  observeTransition : State → PlayerRole → G.Action → G.Observation → CallbackResult Unit × State
  observeMessage : State → PlayerRole → String → CallbackResult Unit × State
  finish : State → G.Completion → CallbackResult Unit × State
  respond : State → Option (List G.Action) →
    CallbackResult (Option (AgentResponse G.Action)) × State

structure Accepted (G : Game) where
  actor : PlayerRole
  action : G.Action
  after : G.State

inductive Interaction where
  | active
  | paused
  | ended
  deriving DecidableEq

inductive AgentPlace (Action : Type) where
  /-- The agent is asked for a decision next. -/
  | deciding
  /-- Its action waits for the session's transition lock. -/
  | submitting (action : Action) (message : Option String)
  /-- Its action is committed, and the task sends the notification of it. -/
  | notifying (message : Option String)
  | saying (message : String)
  /-- The task waits for the next observation. -/
  | receiving
  | stopped

/-- Where the task goes on when the notification of its own action has been sent. -/
def AgentPlace.afterNotice {Action : Type} : AgentPlace Action → AgentPlace Action
  | notifying (some message) => saying message
  | notifying none => receiving
  | place => place

/-- The mailbox of an agent's task. -/
def agentInboxCapacity : Nat := 64

structure AgentSession (G : Game) (A : Agent G) where
  state : G.State
  interaction : Interaction := .active
  /-- The notification that the holder of the transition lock has to send. -/
  notice : Option (AgentObservation G) := none
  inbox : Channel (AgentObservation G) := { capacity := agentInboxCapacity }
  agent : A.State
  place : AgentPlace G.Action := .deciding
  invalidActions : Nat := 0
  awaitingCompletion : Bool := false
  accepted : List (Accepted G) := []
  /-- The completions delivered to the agent. -/
  finished : List G.Completion := []

/-- What the rest of the server decides about one step of the task. -/
structure AgentInput where
  /-- The session is in memory. -/
  found : Bool := true
  /-- All participants are ready for the game. -/
  ready : Bool := true
  /-- The store commits the transition. -/
  committed : Bool := true

inductive AgentSessionAction (G : Game) where
  /-- The other participant's action gets the transition lock. -/
  | submit (action : G.Action) (committed : Bool)
  /-- The holder of the transition lock sends its notification and gives the lock back. -/
  | notify
  /-- The other participant says something. -/
  | say (text : String)
  | pause
  | resume
  /-- The session ends without a completion. -/
  | expire
  /-- The task's entry among the inboxes is removed. -/
  | unregister
  | run (input : AgentInput)

namespace AgentSession

variable {A : Agent G} (role : PlayerRole) (limit : Nat) (s : AgentSession G A)

/-- The observation of an accepted action, as the agent's role sees it. -/
def noticeOf (transition : Accepted G) : AgentObservation G :=
  .action transition.actor transition.action (G.observation transition.after role)
    (G.completion transition.after)

/-- An accepted action, from its commit to the start of its notification. -/
def commit (actor : PlayerRole) (action : G.Action) (after : G.State) : AgentSession G A :=
  let transition : Accepted G := ⟨actor, action, after⟩
  { s with
    state := after
    accepted := s.accepted ++ [transition]
    interaction := if (G.completion after).isSome then .ended else s.interaction
    notice := some (noticeOf role transition) }

/-- `sender.send(..).await`: waits for a place, and fails once the receiver is gone. -/
def deliver (observation : AgentObservation G) : Option (AgentSession G A) :=
  if s.inbox.dropped then some s
  else match s.inbox.reserve with
    | .ok inbox => some { s with inbox := inbox.send observation }
    | .error .closed => some s
    | .error .full => none

/-- The loop ends, and the task's inbox with it. -/
def stop : AgentSession G A :=
  { s with place := .stopped, inbox := { s.inbox with closed := true, dropped := true } }

def continueLoop : AgentSession G A :=
  { s with place := if s.awaitingCompletion then .receiving else .deciding }

def sendNotice : Option (AgentSession G A) :=
  s.notice.bind fun observation => (s.deliver observation).map fun s =>
    { s with notice := none, place := s.place.afterNotice }

/-- `agent.respond`, and what is done with its answer. -/
def decide : AgentSession G A :=
  let (answer, agent) := A.respond s.agent (G.availableActions s.state role)
  let s := { s with agent }
  match answer with
  | .returned none => { s with place := .receiving }
  | .returned (some (.action action)) => { s with place := .submitting action none }
  | .returned (some (.message message)) => { s with place := .saying message }
  | .returned (some (.actionAndMessage action message)) =>
    { s with place := .submitting action (some message) }
  | .failed _ | .timedOut => s.stop

/-- `submit_action` for the agent, under the transition lock. -/
def submitOwn (action : G.Action) (message : Option String) (input : AgentInput) :
    AgentSession G A :=
  if s.interaction ≠ .active || !input.ready then s.stop
  else match G.applyAction s.state action role with
    | .error _ =>
      let s := { s with invalidActions := s.invalidActions + 1 }
      if s.invalidActions < limit then { s with place := .deciding } else s.stop
    | .ok after =>
      if input.committed then
        { s.commit role role action after with
          place := .notifying message
          awaitingCompletion := (G.completion after).isSome }
      else s.stop

def callback : AgentObservation G → CallbackResult Unit × A.State
  | .action actor action resulting _ => A.observeTransition s.agent actor action resulting
  | .message speaker text => A.observeMessage s.agent speaker text

def tell (observation : AgentObservation G) : AgentSession G A :=
  let (answer, agent) := s.callback observation
  { s with
    agent
    invalidActions := if answer.isReturned then s.invalidActions else s.invalidActions + 1 }

/-- The rest of the iteration: the agent is finished with the completion, or the loop goes on. -/
def afterObservation : AgentObservation G → AgentSession G A
  | .action _ _ _ (some completion) =>
    { s with
      agent := (A.finish s.agent completion).2
      finished := s.finished ++ [completion] }.stop
  | _ => if s.invalidActions ≥ limit then s.stop else s.continueLoop

def observe (observation : AgentObservation G) : AgentSession G A :=
  (s.tell observation).afterObservation limit observation

def runTask (input : AgentInput) : Option (AgentSession G A) :=
  match s.place with
  | .deciding => some (if input.found then s.decide role else s.stop)
  | .submitting action message =>
    if s.notice.isSome then none
    else some (if input.found then s.submitOwn role limit action message input else s.stop)
  | .saying _ => some { s with place := .receiving }
  | .receiving =>
    match s.inbox.receive with
    | .message observation => some ({ s with inbox := s.inbox.take }.observe limit observation)
    | .ended => some s.stop
    | .pending => none
  | .notifying _ | .stopped => none

def step : AgentSessionAction G → Option (AgentSession G A)
  | .submit action committed =>
    if s.notice.isSome then none
    else some (match s.interaction, G.applyAction s.state action (otherRole role) with
      | .active, .ok after => if committed then s.commit role (otherRole role) action after else s
      | _, _ => s)
  | .notify => s.sendNotice
  | .say text => s.deliver (.message (otherRole role) text)
  | .pause => some (if s.interaction = .active then { s with interaction := .paused } else s)
  | .resume => some (if s.interaction = .paused then { s with interaction := .active } else s)
  | .expire => some { s with interaction := .ended }
  | .unregister => some { s with inbox := { s.inbox with dropped := true } }
  | .run input => s.runTask role limit input

end AgentSession

/-- Any interleaving of a session's participants with the task of its agent. -/
def agentSessionMachine (A : Agent G) (role : PlayerRole) (limit : Nat) :
    Machine (AgentSession G A) (AgentSessionAction G) where
  step s action := s.step role limit action

end Parlando
