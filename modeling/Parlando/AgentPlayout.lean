import Parlando.AudioPublisher

namespace Parlando

open Concurrency

/-- An utterance being published to one browser, whose outbound queue is empty at its start. -/
structure AgentPlayout where
  publish : AgentPublish := {}
  /-- The browser's outbound queue. -/
  queue : List (List UInt8) := []
  /-- Periods of twenty milliseconds that have ended since `started_at`. -/
  periods : Nat := 0
  /-- A message has been taken from the queue in this period. -/
  drained : Bool := false
  /-- The messages for which `try_send` has returned an error. -/
  refused : List (List UInt8) := []

inductive PlayoutAction where
  | elapse (nanos : Nat)
  | collect
  | send
  | finish
  /-- The connection's send task takes a message. -/
  | drain
  /-- A period ends. -/
  | period

namespace AgentPlayout

def periodEnd (s : AgentPlayout) : Nat := s.publish.startedAt + (s.periods + 1) * framePeriod

def inTime (prebufferFrames late : Nat) (publish : AgentPublish) : Bool :=
  match publish.pc with
  | .publishing _ (_ :: _) =>
    decide (publish.now ≤ publish.startedAt + frameSendOffset publish.count prebufferFrames + late)
  | _ => true

/-- `try_send`, which fails when the queue is full. -/
def trySend (s : AgentPlayout) (message : List UInt8) : AgentPlayout :=
  if s.queue.length < audioOutboundQueueCapacity then { s with queue := s.queue ++ [message] }
  else { s with refused := s.refused ++ [message] }

/--
One step. The publisher sends a frame no later than `late` nanoseconds after its offset; in every
period a message is taken, unless the queue is empty at its end.
-/
def step (prebufferFrames : Nat) (chunks : List AudioChunk) (late : Nat) (s : AgentPlayout) :
    PlayoutAction → Option AgentPlayout
  | .elapse nanos =>
    let publish := { s.publish with now := s.publish.now + nanos }
    if publish.now ≤ s.periodEnd ∧ inTime prebufferFrames late publish = true then
      some { s with publish }
    else none
  | .collect => (s.publish.step prebufferFrames chunks .collect).map fun publish =>
      { s with publish, periods := 0, drained := false }
  | .send => (s.publish.step prebufferFrames chunks .send).map fun publish =>
      match publish.sent.getLast? with
      | some (_, frame) => { s with publish }.trySend frame.encode
      | none => { s with publish }
  | .finish => (s.publish.step prebufferFrames chunks .finish).map fun publish =>
      { s with publish }
  | .drain => match s.queue with
    | _ :: queue => some { s with queue, drained := true }
    | [] => none
  | .period =>
    if s.publish.now = s.periodEnd ∧ (s.drained = true ∨ s.queue = []) then
      some { s with periods := s.periods + 1, drained := false }
    else none

end AgentPlayout

def agentPlayoutMachine (prebufferFrames : Nat) (chunks : List AudioChunk) (late : Nat) :
    Machine AgentPlayout PlayoutAction where
  step := AgentPlayout.step prebufferFrames chunks late

end Parlando
