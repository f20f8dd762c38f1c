import Parlando.Auth

namespace Parlando

open Concurrency

/-- A ticket with the credential that obtained it and the clock reading its lifetime starts from. -/
structure IssuedTicket where
  ticket : UpgradeTicket
  credential : ParticipantCredentialRecord
  issuedAt : Int

/-- What the requests for WebSocket upgrades share. -/
structure Upgrades where
  clock : Int := 0
  auth : ParticipantAuthenticator := {}
  store : UpgradeTicketStore := {}
  /-- The roles of the participants of every session in memory. -/
  members : Map String (Map ParticipantSessionId PlayerRole) := ∅
  /-- Every ticket issued so far, as an observer notes them. -/
  issued : List IssuedTicket := []

namespace Upgrades

def participantRole (s : Upgrades) (publicSessionId : String) (id : ParticipantSessionId) :
    Except AppError PlayerRole :=
  match s.members.lookup publicSessionId with
  | none => .error ⟨.notFound, "Session not found."⟩
  | some participants =>
    match participants.lookup id with
    | none => .error ⟨.forbidden, "Participant is not in this session."⟩
    | some role => .ok role

def latest (s : Upgrades) (claims : UpgradeTicketClaims) : Option IssuedTicket :=
  (s.issued.filter fun issued => issued.ticket.claims.sameUse claims).getLast?

end Upgrades

/-- The arguments of one `game_session` or `audio_session` request. -/
structure PlanCall where
  credential : Nat
  publicSessionId : String
  purpose : UpgradePurpose

inductive PlanPc where
  | read
  | authenticate (reading : Int)
  | role (record : ParticipantCredentialRecord)
  /-- Voice is enabled and the session still accepts audio. -/
  | accepts (record : ParticipantCredentialRecord) (role : PlayerRole)
  | stamp (record : ParticipantCredentialRecord) (role : PlayerRole)
  | insert (record : ParticipantCredentialRecord) (claims : UpgradeTicketClaims) (now : Int)
  | returned (ticket : Nat)
  | disabled
  | refused (error : AppError)

/-- What other requests and the cleaner do to the shared state, each in one section. -/
inductive UpgradeEvent where
  | issueCredential (id : ParticipantSessionId)
  | revokeParticipantSession (id : ParticipantSessionId)
  /-- The cleaner reads the clock before it waits for a registry's lock. -/
  | cleanupCredentials (reading : Int)
  | cleanupTickets (reading : Int)
  | setMembers (members : Map String (Map ParticipantSessionId PlayerRole))

structure UpgradeInput where
  now : Int
  originError : Option AppError := none
  acceptsAudio : Bool := true
  event : Option UpgradeEvent := none

namespace PlanPc

/-- One atomic step of `game_session` and `audio_session`. -/
def step (voiceEnabled : Bool) (call : PlanCall) (s : Upgrades) (input : UpgradeInput) :
    PlanPc → Option (Upgrades × PlanPc)
  | read => some (s, authenticate input.now)
  | authenticate reading =>
    match s.auth.authenticate call.credential reading with
    | none => some (s, refused ⟨.unauthorized, "Invalid participant credential"⟩)
    | some record => some (s, role record)
  | role record =>
    match s.participantRole call.publicSessionId record.participantSessionId with
    | .error error => some (s, refused error)
    | .ok member =>
      some (s, if call.purpose = .audio then accepts record member else stamp record member)
  | accepts record member =>
    if !voiceEnabled then some (s, disabled)
    else if !input.acceptsAudio then
      some (s, refused ⟨.badRequest, "Voice chat is no longer available."⟩)
    else some (s, stamp record member)
  | stamp record member =>
    -- One reading stands for the source's two adjacent ones.
    some (s, insert record {
      publicSessionId := call.publicSessionId
      participantSessionId := record.participantSessionId
      role := member
      generation := record.generation
      purpose := call.purpose
      expiresAt := input.now + ticketLifetimeSeconds } input.now)
  | insert record claims now =>
    some ({ s with
      store := s.store.issue claims now
      issued := s.issued ++ [⟨⟨s.store.nextTicket, claims⟩, record, now⟩] },
      returned s.store.nextTicket)
  | returned _ | disabled | refused _ => none

end PlanPc

/-- The arguments of one `game_socket` or `audio_socket` request. -/
structure UpgradeRequest where
  ticket : Nat
  publicSessionId : String
  purpose : UpgradePurpose

/-- An accepted upgrade with what an observer saw of it: the state in each of its sections. -/
structure UpgradeConnection where
  claims : UpgradeTicketClaims
  role : PlayerRole
  consumed : Upgrades
  reading : Int
  checked : Upgrades
  looked : Upgrades

inductive UpgradePc where
  | origin
  | consume
  | validate (claims : UpgradeTicketClaims) (consumed : Upgrades)
  | generation (claims : UpgradeTicketClaims) (consumed : Upgrades) (reading : Int)
  | lookup (claims : UpgradeTicketClaims) (consumed : Upgrades) (reading : Int)
      (checked : Upgrades)
  | opened (connection : UpgradeConnection)
  | refused (error : AppError)

/-- How the two handlers call a ticket in their answers. -/
def UpgradePurpose.ticketName : UpgradePurpose → String
  | game => "game ticket"
  | audio => "audio token"

namespace UpgradePc

def revokedError : UpgradePurpose → AppError
  | .game => ⟨.forbidden, "Game ticket credential was revoked"⟩
  | .audio => ⟨.forbidden, "Audio ticket credential was revoked"⟩

def roleError : UpgradePurpose → AppError
  | .game => ⟨.forbidden, "Game ticket role no longer matches participant"⟩
  | .audio => ⟨.forbidden, "Audio token role no longer matches participant"⟩

def ticketError (purpose : UpgradePurpose) : AppError :=
  ⟨.forbidden, "Invalid or expired " ++ purpose.ticketName⟩

/-- One atomic step of `game_socket` and `audio_socket`. -/
def step (call : UpgradeRequest) (s : Upgrades) (input : UpgradeInput) :
    UpgradePc → Option (Upgrades × UpgradePc)
  | origin =>
    match input.originError with
    | some error => some (s, refused error)
    | none => some (s, consume)
  | consume =>
    match s.store.remove call.ticket with
    | none => some (s, refused (ticketError call.purpose))
    | some (claims, store) => some ({ s with store }, validate claims s)
  | validate claims consumed =>
    if claims.valid call.purpose call.publicSessionId input.now then
      -- The reading also stands for the adjacent one of `generation_is_active`.
      some (s, generation claims consumed input.now)
    else some (s, refused (ticketError call.purpose))
  | generation claims consumed reading =>
    if s.auth.generationIsActive claims.participantSessionId claims.generation reading then
      some (s, lookup claims consumed reading s)
    else some (s, refused (revokedError call.purpose))
  | lookup claims consumed reading checked =>
    match s.participantRole call.publicSessionId claims.participantSessionId with
    | .error error => some (s, refused error)
    | .ok role =>
      if claims.role = role then some (s, opened ⟨claims, role, consumed, reading, checked, s⟩)
      else some (s, refused (roleError call.purpose))
  | opened _ | refused _ => none

end UpgradePc

def UpgradeEvent.apply (s : Upgrades) : UpgradeEvent → Option Upgrades
  | issueCredential id => some { s with auth := s.auth.issue id s.clock }
  | revokeParticipantSession id => some { s with auth := s.auth.revokeParticipantSession id }
  | cleanupCredentials reading =>
    if reading ≤ s.clock then some { s with auth := s.auth.cleanup reading } else none
  | cleanupTickets reading =>
    if reading ≤ s.clock then some { s with store := s.store.cleanup reading } else none
  | setMembers members => some { s with members }

/-- Every task that works on tickets: requests for them, their redemptions, and everything else. -/
inductive UpgradeTask where
  | plan (call : PlanCall) (pc : PlanPc)
  | socket (call : UpgradeRequest) (pc : UpgradePc)
  | others

/-- One step of a task at the current time. -/
def UpgradeTask.next (voiceEnabled : Bool) (s : Upgrades) (input : UpgradeInput) :
    UpgradeTask → Option (Upgrades × UpgradeTask)
  | plan call pc => (pc.step voiceEnabled call s input).map fun (s, pc) => (s, plan call pc)
  | socket call pc => (pc.step call s input).map fun (s, pc) => (s, socket call pc)
  | others => (input.event.bind (UpgradeEvent.apply s)).map fun s => (s, others)

/-- Requests for upgrades as a concurrent program; the clock never runs back. -/
def upgradeProgram (voiceEnabled : Bool) : Program Upgrades UpgradeTask UpgradeInput where
  entry _
    | .plan _ .read | .socket _ .origin | .others => true
    | _ => false
  step s _ task input :=
    if input.now < s.clock then none
    else (task.next voiceEnabled { s with clock := input.now } input).map fun (s, task) =>
      (s, task, [])

abbrev upgradeMachine (voiceEnabled : Bool) := (upgradeProgram voiceEnabled).machine

/-- A server without credentials, tickets and sessions. -/
def Upgrades.initial : Pool Upgrades UpgradeTask := ⟨{}, []⟩

end Parlando
