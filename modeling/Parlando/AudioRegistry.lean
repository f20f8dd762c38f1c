import Parlando.AudioPublisher
import Parlando.Concurrency.Channel
import Parlando.Concurrency.Machine
import Parlando.Data.Map

namespace Parlando

open Concurrency

inductive AudioOutbound where
  | binary (bytes : List UInt8)
  | text (text : String)
  deriving DecidableEq, Repr

structure AudioPeer where
  generation : String
  sender : Nat

structure AudioSession where
  peers : Map String AudioPeer := ∅

structure AudioSessionRegistry where
  sessions : Map String AudioSession := ∅
  channels : List (Channel AudioOutbound) := []

namespace AudioSessionRegistry

variable (registry : AudioSessionRegistry)

def peer? (publicSessionId role : String) : Option AudioPeer :=
  (registry.sessions.lookup publicSessionId).bind fun session => session.peers.lookup role

/-- A peer that leaves the registry takes its sender along. -/
def dropSender (peer : Option AudioPeer) : List (Channel AudioOutbound) :=
  match peer with
  | some peer => registry.channels.modify peer.sender fun channel => { channel with dropped := true }
  | none => registry.channels

/-- Registers the latest browser connection for a role; its receiver is the newest channel. -/
def connect (publicSessionId role generation : String) : AudioSessionRegistry :=
  let session := (registry.sessions.lookup publicSessionId).getD {}
  { sessions := AList.insert publicSessionId
      { peers := AList.insert role ⟨generation, registry.channels.length⟩ session.peers }
      registry.sessions
    channels := registry.dropSender (registry.peer? publicSessionId role) ++
      [{ capacity := audioOutboundQueueCapacity }] }

/-- Reports whether a connection generation still owns its session role. -/
def isCurrent (publicSessionId role generation : String) : Bool :=
  (registry.peer? publicSessionId role).any fun peer => peer.generation == generation

/-- Removes a browser connection only when it is still the current generation. -/
def disconnect (publicSessionId role generation : String) : AudioSessionRegistry :=
  match registry.sessions.lookup publicSessionId with
  | none => registry
  | some session =>
    if registry.isCurrent publicSessionId role generation then
      let peers := AList.erase role session.peers
      { sessions :=
          if peers.entries.isEmpty then AList.erase publicSessionId registry.sessions
          else AList.insert publicSessionId { peers } registry.sessions
        channels := registry.dropSender (registry.peer? publicSessionId role) }
    else if session.peers.entries.isEmpty then
      { registry with sessions := AList.erase publicSessionId registry.sessions }
    else registry

def trySend (sender : Nat) (message : AudioOutbound) : AudioSessionRegistry :=
  { registry with channels := registry.channels.modify sender fun channel => channel.trySend message }

def sendTo (publicSessionId role : String) (message : AudioOutbound) : AudioSessionRegistry :=
  match registry.peer? publicSessionId role with
  | some peer => registry.trySend peer.sender message
  | none => registry

def partnerRole? : String → Option String
  | "A" => some "B"
  | "B" => some "A"
  | _ => none

/-- Relays a frame to the other human role without waiting on a slow browser. -/
def relayPartner (publicSessionId senderRole : String) (bytes : List UInt8) :
    AudioSessionRegistry :=
  match partnerRole? senderRole with
  | some partnerRole => registry.sendTo publicSessionId partnerRole (.binary bytes)
  | none => registry

def sendControl (publicSessionId role text : String) : AudioSessionRegistry :=
  registry.sendTo publicSessionId role (.text text)

/-- Publishes server-generated agent audio to all connected human browsers in a session. -/
def publishAgent (publicSessionId : String) (bytes : List UInt8) : AudioSessionRegistry :=
  let targets := match registry.sessions.lookup publicSessionId with
    | some session => session.peers.values.map AudioPeer.sender
    | none => []
  targets.foldl (fun registry target => registry.trySend target (.binary bytes)) registry

/-- The receiver of a connection reads its next message. -/
def receive (receiver : Nat) : Option AudioOutbound × AudioSessionRegistry :=
  match registry.channels[receiver]? with
  | none => (none, registry)
  | some channel =>
    match channel.recv with
    | (.message m, channel) => (some m, { registry with channels := registry.channels.set receiver channel })
    | _ => (none, registry)

end AudioSessionRegistry

inductive AudioCall where
  | connect (publicSessionId role generation : String)
  | disconnect (publicSessionId role generation : String)
  | relayPartner (publicSessionId senderRole : String) (bytes : List UInt8)
  | sendControl (publicSessionId role text : String)
  | publishAgent (publicSessionId : String) (bytes : List UInt8)
  | receive (receiver : Nat)

namespace AudioSessionRegistry

variable (registry : AudioSessionRegistry)

def call : AudioCall → AudioSessionRegistry
  | .connect session role generation => registry.connect session role generation
  | .disconnect session role generation => registry.disconnect session role generation
  | .relayPartner session senderRole bytes => registry.relayPartner session senderRole bytes
  | .sendControl session role text => registry.sendControl session role text
  | .publishAgent session bytes => registry.publishAgent session bytes
  | .receive receiver => (registry.receive receiver).2

end AudioSessionRegistry

/-- The registry with all calls, each on the registry it found, and what each receiver has read. -/
structure AudioTraffic where
  registry : AudioSessionRegistry := {}
  trace : List (AudioSessionRegistry × AudioCall) := []
  got : Nat → List AudioOutbound := fun _ => []

namespace AudioTraffic

variable (s : AudioTraffic)

def calls : List AudioCall := s.trace.map Prod.snd

def call (c : AudioCall) : AudioTraffic where
  registry := s.registry.call c
  trace := s.trace ++ [(s.registry, c)]
  got receiver :=
    match c with
    | .receive reader =>
      if reader = receiver then s.got receiver ++ (s.registry.receive receiver).1.toList
      else s.got receiver
    | _ => s.got receiver

end AudioTraffic

def audioTraffic : Machine AudioTraffic AudioCall where
  step s c := some (s.call c)

end Parlando
