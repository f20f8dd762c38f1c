import Parlando.Concurrency.Pool
import Parlando.Data.Except
import Parlando.Data.Map
import Parlando.Protocol

namespace Parlando

open Concurrency

def participantLifetimeSeconds : Int := 24 * 60 * 60

def ticketLifetimeSeconds : Int := 60

structure ParticipantCredentialRecord where
  credential : Nat
  participantSessionId : ParticipantSessionId
  generation : Nat
  expiresAt : Int
  revoked : Bool
  deriving DecidableEq, Repr

namespace ParticipantCredentialRecord

def active (now : Int) (record : ParticipantCredentialRecord) : Bool :=
  !record.revoked && decide (record.expiresAt > now)

end ParticipantCredentialRecord

/-- In-memory participant credential registry; credentials are random, so none is issued twice. -/
structure ParticipantAuthenticator where
  records : List ParticipantCredentialRecord := []
  nextCredential : Nat := 0

namespace ParticipantAuthenticator

def issue (auth : ParticipantAuthenticator) (id : ParticipantSessionId) (now : Int) :
    ParticipantAuthenticator where
  records := auth.records ++ [⟨auth.nextCredential, id, 1, now + participantLifetimeSeconds, false⟩]
  nextCredential := auth.nextCredential + 1

/-- Resolves an unexpired, unrevoked bearer credential to its record. -/
def authenticate (auth : ParticipantAuthenticator) (credential : Nat) (now : Int) :
    Option ParticipantCredentialRecord :=
  (auth.records.find? fun record => record.credential == credential).filter
    fun record => record.active now

/-- Checks whether a ticket's participant and credential generation remain active. -/
def generationIsActive (auth : ParticipantAuthenticator) (id : ParticipantSessionId)
    (generation : Nat) (now : Int) : Bool :=
  auth.records.any fun record => record.active now && record.participantSessionId == id &&
    record.generation == generation

def cleanup (auth : ParticipantAuthenticator) (now : Int) : ParticipantAuthenticator :=
  { auth with records := auth.records.filter fun record => record.active now }

/-- Participant sessions that a cleanup leaves without an active credential. -/
def expiredSessions (auth : ParticipantAuthenticator) (now : Int) : List ParticipantSessionId :=
  let active := (auth.records.filter fun record => record.active now).map
    ParticipantCredentialRecord.participantSessionId
  ((auth.records.filter fun record => !record.active now).map
    ParticipantCredentialRecord.participantSessionId).filter fun id => !active.contains id

def revokeParticipantSession (auth : ParticipantAuthenticator) (id : ParticipantSessionId) :
    ParticipantAuthenticator :=
  { auth with records := auth.records.filter fun record => record.participantSessionId != id }

end ParticipantAuthenticator

inductive UpgradePurpose where
  | game
  | audio
  deriving DecidableEq, Repr

structure UpgradeTicketClaims where
  publicSessionId : String
  participantSessionId : ParticipantSessionId
  role : PlayerRole
  generation : Nat
  purpose : UpgradePurpose
  expiresAt : Int
  deriving DecidableEq, Repr

namespace UpgradeTicketClaims

/-- The claims are for the same session, participant and purpose. -/
def sameUse (claims other : UpgradeTicketClaims) : Bool :=
  claims.publicSessionId == other.publicSessionId &&
    claims.participantSessionId == other.participantSessionId && claims.purpose == other.purpose

end UpgradeTicketClaims

structure UpgradeTicket where
  ticket : Nat
  claims : UpgradeTicketClaims
  deriving DecidableEq, Repr

/-- One-use, short-lived upgrade-ticket registry; tickets are random, so none is issued twice. -/
structure UpgradeTicketStore where
  tickets : List UpgradeTicket := []
  nextTicket : Nat := 0

namespace UpgradeTicketStore

/-- Mints a ticket: the section under the registry's lock, with the clock reading made before it. -/
def issue (store : UpgradeTicketStore) (claims : UpgradeTicketClaims) (now : Int) :
    UpgradeTicketStore where
  tickets := ((store.tickets.filter fun existing => decide (existing.claims.expiresAt > now)).filter
    fun existing => !existing.claims.sameUse claims) ++ [⟨store.nextTicket, claims⟩]
  nextTicket := store.nextTicket + 1

def remove (store : UpgradeTicketStore) (ticket : Nat) :
    Option (UpgradeTicketClaims × UpgradeTicketStore) :=
  (store.tickets.find? fun existing => existing.ticket == ticket).map fun existing =>
    (existing.claims,
      { store with tickets := store.tickets.filter fun existing => existing.ticket != ticket })

def cleanup (store : UpgradeTicketStore) (now : Int) : UpgradeTicketStore :=
  { store with tickets := store.tickets.filter fun existing => decide (existing.claims.expiresAt > now) }

end UpgradeTicketStore

/-- What a redemption verifies of the claims it has taken out of the registry. -/
def UpgradeTicketClaims.valid (claims : UpgradeTicketClaims) (purpose : UpgradePurpose)
    (publicSessionId : String) (now : Int) : Bool :=
  decide (claims.expiresAt > now) && claims.purpose == purpose &&
    claims.publicSessionId == publicSessionId

end Parlando
