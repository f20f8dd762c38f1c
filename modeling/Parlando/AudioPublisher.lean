import Parlando.AudioFrame
import Parlando.Concurrency.Machine

namespace Parlando

open Concurrency

def audioSampleRate : UInt32 := 24000

def audioChannels : UInt16 := 1

def audioOutboundQueueCapacity : Nat := 64

/-- Twenty milliseconds, the duration of one frame, in nanoseconds. -/
def framePeriod : Nat := 20000000

structure AudioChunk where
  data : List UInt8
  sampleRate : UInt32
  channels : UInt16
  deriving DecidableEq, Repr

structure AudioPublishSummary where
  chunksPublished : Nat
  bytesPublished : Nat
  sampleRate : UInt32
  channels : UInt16
  deriving DecidableEq, Repr

/-- The frames a publisher sends at once, from the browser's jitter-buffer target. -/
def prebufferFrames (jitterBufferMs : Nat) : Nat := max ((jitterBufferMs + 19) / 20) 1

/-- An absolute send offset that maintains a fixed browser playout lead, in nanoseconds. -/
def frameSendOffset (frameIndex prebufferFrames : Nat) : Nat :=
  (frameIndex - (prebufferFrames - 1)) * framePeriod

def collectPcm (chunks : List AudioChunk) : Except String (List UInt8) :=
  (chunks.filter fun chunk => !chunk.data.isEmpty).foldlM (fun pcm chunk =>
    if chunk.sampleRate ≠ audioSampleRate ∨ chunk.channels ≠ audioChannels then
      .error "agent TTS must return 24000 Hz mono PCM"
    else .ok (pcm ++ chunk.data)) []

/-- `pcm.chunks(AUDIO_FRAME_BYTES)`: all of them are complete but perhaps the last. -/
def payloads (pcm : List UInt8) : List (List UInt8) :=
  (List.range ((pcm.length + (audioFrameBytes - 1)) / audioFrameBytes)).map fun index =>
    (pcm.drop (audioFrameBytes * index)).take audioFrameBytes

def agentFrame (index : Nat) (payload : List UInt8) : AudioFrame where
  sequence := .ofNat index
  timestampMs := .ofNat (index * 20)
  pcm := payload ++ List.replicate (audioFrameBytes - payload.length) 0

/-- Where a call of `publish` stands; the frames before the payloads that are left are sent. -/
inductive AgentPublishPc where
  | called
  | publishing (pcm : List UInt8) (payloads : List (List UInt8))
  | returned (result : Except String AudioPublishSummary)

structure AgentPublish where
  /-- Nanoseconds. -/
  now : Nat := 0
  startedAt : Nat := 0
  pc : AgentPublishPc := .called
  count : Nat := 0
  /-- What has been handed to `publish_agent`, and when. -/
  sent : List (Nat × AudioFrame) := []

inductive AgentPublishAction where
  | elapse (nanos : Nat)
  | collect
  | send
  | finish

namespace AgentPublish

def collect (s : AgentPublish) (chunks : List AudioChunk) : AgentPublish :=
  match collectPcm chunks with
  | .error error => { s with pc := .returned (.error error) }
  | .ok pcm =>
    if pcm.isEmpty then { s with pc := .returned (.error "cannot publish empty agent audio") }
    else { s with startedAt := s.now, pc := .publishing pcm (payloads pcm) }

/-- One step of the call; `sleep_until` may end later than its deadline, but not earlier. -/
def step (prebufferFrames : Nat) (chunks : List AudioChunk) (s : AgentPublish) :
    AgentPublishAction → Option AgentPublish
  | .elapse nanos => some { s with now := s.now + nanos }
  | .collect => match s.pc with
    | .called => some (s.collect chunks)
    | _ => none
  | .send => match s.pc with
    | .publishing pcm (payload :: rest) =>
      if s.startedAt + frameSendOffset s.count prebufferFrames ≤ s.now then some { s with
        sent := s.sent ++ [(s.now, agentFrame s.count payload)]
        count := s.count + 1
        pc := .publishing pcm rest }
      else none
    | _ => none
  | .finish => match s.pc with
    | .publishing pcm [] => some { s with pc := .returned (.ok {
        chunksPublished := s.count
        bytesPublished := pcm.length
        sampleRate := audioSampleRate
        channels := audioChannels }) }
    | _ => none

end AgentPublish

def agentPublishMachine (prebufferFrames : Nat) (chunks : List AudioChunk) :
    Machine AgentPublish AgentPublishAction where
  step := AgentPublish.step prebufferFrames chunks

end Parlando
