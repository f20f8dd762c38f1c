import Parlando.Admission
import Parlando.AgentConfig
import Parlando.Concurrency.Pool
import Parlando.StoredConfig

namespace Parlando

open Concurrency

variable {G : Game}

/-- What consent requests, admissions and the upkeep of participants share. -/
structure ConsentDesk (G : Game) where
  lobby : Lobby G
  /-- `consent_decisions` of the participants in memory. -/
  decisions : Map ParticipantSessionId (Map String Bool) := ∅
  /-- The participant that each participant session id was minted for; neither is minted again. -/
  subjects : Map ParticipantSessionId Int := ∅

/-- What participants are asked to agree to, with its `consent_configuration_hash`. -/
structure ConsentForm where
  direct : DirectConfig
  textHash : String

structure ConsentRequest where
  publicSessionId : Option String := none
  decisions : Map String Bool

structure ConsentInput where
  /-- The store statement of the step succeeds. -/
  storeOk : Bool := true
  /-- The place in a hash map's iteration order. -/
  pick : Nat := 0
  now : Timestamp := 0
  /-- The error of intake, the storage reserve or the preparation of an agent. -/
  refused : Option AppError := none
  /-- The participants whose credential has expired or who have been idle for too long. -/
  stale : List ParticipantSessionId := []

/-- The accepted value of the last declaration of an item by a participant. -/
def Database.lastDeclared (db : Database) (participantId : Int) (item : String) : Option Bool :=
  ((db.consentDeclarations.filter fun row =>
    row.participantId == participantId && row.consentItemId == item).getLast?).map
      ConsentDeclarationRow.accepted

namespace ConsentForm

def nonemptyString (value : String) : Option String := if isBlank value then none else some value

def metadata (form : ConsentForm) : Value :=
  .json [("participant_information_version",
      .ofString (nonemptyString form.direct.participantInformationVersion)),
    ("participant_information_url",
      .ofString (nonemptyString form.direct.participantInformationUrl))]

def isConfigured (form : ConsentForm) (item : String) : Bool :=
  form.direct.consents.any fun consent => consent.id == item

def isRequired (form : ConsentForm) (item : String) : Bool :=
  form.direct.consents.any fun consent => consent.id == item && consent.required

end ConsentForm

namespace ConsentDesk

def decision (desk : ConsentDesk G) (id : ParticipantSessionId) (item : String) : Option Bool :=
  (desk.decisions.lookup id).bind fun decisions => decisions.lookup item

def changed (desk : ConsentDesk G) (id : ParticipantSessionId) (request : ConsentRequest) :
    Map String Bool :=
  request.decisions.retain fun item =>
    decide (request.decisions.lookup item ≠ desk.decision id item)

def remember (desk : ConsentDesk G) (id : ParticipantSessionId) (stored : Map String Bool) :
    ConsentDesk G :=
  { desk with
    decisions := desk.decisions.insert id (stored ∪ (desk.decisions.lookup id).getD ∅) }

def requireConsent (form : ConsentForm) (desk : ConsentDesk G) (id : ParticipantSessionId) :
    Except AppError Unit :=
  match desk.lobby.participants.lookup id with
  | none => .error ⟨.notFound, "Participant session not found."⟩
  | some _ =>
    let missing := form.direct.consents.filter fun item =>
      item.required && !(desk.decision id item.id).getD false
    if missing.isEmpty then .ok ()
    else .error ⟨.forbidden, "Consent is required before entering the game: " ++
      ", ".intercalate (missing.map ConsentItemConfig.title) ++ "."⟩

/-- `create_participant_with_id`: a participant whom memory has already is left alone. -/
def createParticipant (desk : ConsentDesk G) (participant : ParticipantSession) : ConsentDesk G :=
  if (desk.lobby.participants.lookup participant.id).isSome then desk
  else
    { lobby := { desk.lobby with
        participants := desk.lobby.participants.insert participant.id participant }
      decisions := desk.decisions.insert participant.id ∅
      subjects := desk.subjects.insert participant.id participant.participantId }

/-- The ids are those of a participant known before, or both are new. -/
def mints (desk : ConsentDesk G) (participant : ParticipantSession) : Bool :=
  match desk.subjects.lookup participant.id with
  | some participantId => participantId == participant.participantId
  | none => !desk.subjects.values.contains participant.participantId

def attached (desk : ConsentDesk G) : List ParticipantSessionId :=
  desk.lobby.sessions.values.flatMap fun session => session.participants.keys

/-- Drops the stale participants apart from those who were seen in a session. -/
def dropParticipants (desk : ConsentDesk G) (stale attached : List ParticipantSessionId) :
    ConsentDesk G :=
  let keeps := fun id => !stale.contains id || attached.contains id
  { desk with
    lobby := { desk.lobby with participants := desk.lobby.participants.retain keeps }
    decisions := desk.decisions.retain keeps }

end ConsentDesk

inductive ConsentPc where
  | call
  | session (participant : ParticipantSession) (changed : Map String Bool)
  /-- It has stored some of its declarations, each by itself. -/
  | record (participant : ParticipantSession) (sessionId : Option Int)
      (stored left : Map String Bool)
  | remember (participant : ParticipantSession) (stored : Map String Bool)
  | returned (result : Except AppError Unit)

namespace ConsentPc

/-- The declaration that comes next in the iteration order of the map. -/
def next (input : ConsentInput) (left : Map String Bool) : Option (String × Bool) :=
  (left.entries[input.pick % left.entries.length]?).map fun entry => (entry.1, entry.2)

def recordDeclaration (form : ConsentForm) (mounted : Mounted) (desk : ConsentDesk G) (input : ConsentInput)
    (participant : ParticipantSession) (sessionId : Option Int) (declared : String × Bool) :
    Except String Database :=
  attempted input.storeOk (desk.lobby.database.recordConsentDeclaration
    { experimentId := mounted.experimentId
      sessionId
      participantId := participant.participantId
      consentItemId := declared.1
      accepted := declared.2
      purpose := participant.purpose.asStr
      declaredAt := input.now
      consentTextHash := some form.textHash
      metadata := form.metadata })

def step (form : ConsentForm) (mounted : Mounted) (id : ParticipantSessionId)
    (request : ConsentRequest) (desk : ConsentDesk G) (input : ConsentInput) :
    ConsentPc → Option (ConsentDesk G × ConsentPc)
  | call =>
    if request.decisions.keys.any fun item => !form.isConfigured item then
      some (desk, returned (.error ⟨.badRequest, "Unknown consent item"⟩))
    else match desk.lobby.participants.lookup id with
      | none => some (desk, returned (.error ⟨.notFound, "Participant session not found."⟩))
      | some participant =>
        let changed := desk.changed id request
        some (desk, if changed.keys.isEmpty then returned (.ok ()) else session participant changed)
  | session participant changed =>
    let sessionId := request.publicSessionId.bind fun code =>
      (desk.lobby.sessions.lookup code).map LiveSession.sessionId
    some (desk, record participant sessionId ∅ changed)
  | record participant sessionId stored left =>
    match next input left with
    | none => some (desk, remember participant stored)
    | some declared =>
      match recordDeclaration form mounted desk input participant sessionId declared with
      | .error _ => some (desk, returned (.error internalError))
      | .ok database =>
        some ({ desk with lobby := { desk.lobby with database } }, record participant sessionId
          (stored.insert declared.1 declared.2) (left.erase declared.1))
  | remember _ stored =>
    match desk.lobby.participants.lookup id with
    | none => some (desk, returned (.error ⟨.notFound, "Participant session not found."⟩))
    | some _ => some (desk.remember id stored, returned (.ok ()))
  | returned _ => none

end ConsentPc

inductive CreateSessionPc where
  | call
  | terminal
  | intake
  | consent
  | prepare
  /-- The section that holds `session_admission`. -/
  | admission
  | enroll (code : String) (role : PlayerRole)
  | returned (result : Except AppError ParticipantState)

namespace CreateSessionPc

def step (form : ConsentForm) (mounted : Mounted) (id : ParticipantSessionId) (attempt : Attempt G)
    (desk : ConsentDesk G) (input : ConsentInput) :
    CreateSessionPc → Option (ConsentDesk G × CreateSessionPc)
  | call =>
    match desk.lobby.joined id attempt.pick with
    | some code => some (desk, returned (desk.lobby.stateResponse code id))
    | none => some (desk, terminal)
  | terminal =>
    if !attempt.terminalOk then some (desk, returned (.error internalError))
    else match desk.lobby.database.terminalParticipantState mounted.experimentId id with
      | some (role, result) => some (desk, returned (.ok (.ended role result none)))
      | none => some (desk, intake)
  | intake =>
    match input.refused with
    | some error => some (desk, returned (.error error))
    | none => some (desk, consent)
  | consent =>
    match desk.requireConsent form id with
    | .error error => some (desk, returned (.error error))
    | .ok () => some (desk, prepare)
  | prepare =>
    match input.refused with
    | some error => some (desk, returned (.error error))
    | none => some (desk, admission)
  | admission =>
    match desk.lobby.pairOrCreate mounted attempt id with
    | (lobby, .error error) => some ({ desk with lobby }, returned (.error error))
    | (lobby, .ok (code, role)) => some ({ desk with lobby }, enroll code role)
  | enroll code role =>
    let (lobby, result) := desk.lobby.enroll mounted attempt code id role
    some ({ desk with lobby }, returned result)
  | returned _ => none

end CreateSessionPc

/-- Where `cleanup_expired_participants` stands; it looks at the sessions once. -/
inductive DropPc where
  | sessions
  | expired (attached : List ParticipantSessionId)
  | unattached (attached : List ParticipantSessionId)
  | returned

/-- Every request and every upkeep that has to do with consent. -/
inductive ConsentTask (G : Game) where
  | consent (id : ParticipantSessionId) (request : ConsentRequest) (pc : ConsentPc)
  | create (id : ParticipantSessionId) (attempt : Attempt G) (pc : CreateSessionPc)
  | register (participant : ParticipantSession) (done : Bool)
  | cleanup (pc : DropPc)
  | reclaim (code : String) (done : Bool)

namespace DropPc

def step (desk : ConsentDesk G) (input : ConsentInput) :
    DropPc → Option (ConsentDesk G × DropPc)
  | sessions => some (desk, expired desk.attached)
  | expired attached => some (desk.dropParticipants input.stale attached, unattached attached)
  | unattached attached => some (desk.dropParticipants input.stale attached, returned)
  | returned => none

end DropPc

namespace ConsentTask

def step (form : ConsentForm) (mounted : Mounted) (desk : ConsentDesk G) (input : ConsentInput) :
    ConsentTask G → Option (ConsentDesk G × ConsentTask G)
  | consent id request pc => (pc.step form mounted id request desk input).map fun (desk, pc) =>
      (desk, consent id request pc)
  | create id attempt pc => (pc.step form mounted id attempt desk input).map fun (desk, pc) =>
      (desk, create id attempt pc)
  | register participant false =>
    if desk.mints participant then some (desk.createParticipant participant, register participant true)
    else none
  | cleanup pc => (pc.step desk input).map fun (desk, pc) => (desk, cleanup pc)
  | reclaim code false =>
    some ({ desk with lobby := { desk.lobby with sessions := desk.lobby.sessions.erase code } },
      reclaim code true)
  | register _ true | reclaim _ true => none

def entry : ConsentTask G → Bool
  | consent _ _ .call | create _ _ .call | register _ false | cleanup .sessions
  | reclaim _ false => true
  | _ => false

def isDone : ConsentTask G → Bool
  | consent _ _ (.returned _) | create _ _ (.returned _) | register _ true | cleanup .returned
  | reclaim _ true => true
  | _ => false

end ConsentTask

/-- Consent and admission at one mounted experiment. -/
def consentProgram (form : ConsentForm) (mounted : Mounted) :
    Program (ConsentDesk G) (ConsentTask G) ConsentInput where
  entry _ := ConsentTask.entry
  step desk _ task input := (task.step form mounted desk input).map fun (desk, task) =>
    (desk, task, [])

/-- A process has started on the database of earlier ones. -/
def ConsentDesk.started (database : Database) : Pool (ConsentDesk G) (ConsentTask G) :=
  ⟨{ lobby := { database } }, []⟩

end Parlando
