import Parlando.Data.Except
import Parlando.Export
import Parlando.Procedures.Joining
import Parlando.View

namespace Parlando

variable {G : Game}

/-- The experiment that a runtime has been mounted for. -/
structure Mounted where
  config : ExperimentConfig
  experimentId : String
  configRevision : Int
  gameVersion : String

/-- What admission works on: the sessions and participants in memory, and the database. -/
structure Lobby (G : Game) where
  sessions : Map String (LiveSession G) := ∅
  participants : Map ParticipantSessionId ParticipantSession := ∅
  database : Database

/-- What everything around one request answers it. -/
structure Attempt (G : Game) where
  now : Timestamp
  /-- The places in a hash map's iteration order that its searches stop at. -/
  pick : Nat := 0
  terminalOk : Bool := true
  /-- The error of intake, consent, storage reserve or the preparation of an agent. -/
  gatesError : Option AppError := none
  /-- The error of `ensure_session_capacity`. -/
  capacityError : Option AppError := none
  /-- The session codes drawn one after the other. -/
  sessionCodes : List String
  dialogueIds : List String
  seed : Int := 0
  rowOk : Bool := true
  eventOk : Bool := true
  gameError : Option String := none
  initialState : Except String G.State
  /-- `fail_session_initialization` succeeds where it is called. -/
  failOk : Bool := true
  timingOk : Bool := true
  completeOk : Bool := true
  memberOk : Bool := true
  joinedOk : Bool := true

def attempted {α : Type} (ok : Bool) (transaction : Except String α) : Except String α :=
  if ok then transaction else .error "database error"

def Database.terminalParticipantState (db : Database) (experimentId : String)
    (id : ParticipantSessionId) : Option (PlayerRole × ParticipantResult) :=
  (db.sessions.filter fun entry => entry.key.experimentId == experimentId && entry.store.ended).findSome?
    fun entry => entry.store.members.findSome? fun row =>
      if row.participantSessionId = id then row.terminalResult.map fun result => (row.role, result)
      else none

namespace Lobby

/-- The codes of the sessions in memory, in the map's iteration order. -/
def codes (lobby : Lobby G) : List String := lobby.sessions.keys

def codesWhere (lobby : Lobby G) (p : LiveSession G → Bool) : List String :=
  lobby.codes.filter fun code => (lobby.sessions.lookup code).any p

def find (lobby : Lobby G) (p : LiveSession G → Bool) (pick : Nat) : Option String :=
  let found := lobby.codesWhere p
  found[pick % found.length]?

def joined (lobby : Lobby G) (id : ParticipantSessionId) (pick : Nat) : Option String :=
  lobby.find (fun session => (session.participants.lookup id).isSome) pick

def stateResponse (lobby : Lobby G) (code : String) (id : ParticipantSessionId) :
    Except AppError ParticipantState :=
  let session := lobby.sessions.lookup code
  let role := (session.bind fun session => session.participants.lookup id).map
    SessionParticipant.role
  participantStateResponse session (role.getD .A)

/-- `open_human_session_for_pairing`. -/
def waiting (lobby : Lobby G) (participant : ParticipantSession) (pick : Nat) : Option String :=
  lobby.find (fun session => session.openForPairing participant.purpose) pick

/-- `add_human_participant_to_session_locked`. -/
def addHuman (mounted : Mounted) (lobby : Lobby G) (code : String) (id : ParticipantSessionId)
    (now : Timestamp) : Except AppError (PlayerRole × Lobby G) :=
  match lobby.participants.lookup id with
  | none => .error ⟨.notFound, "Participant session not found."⟩
  | some participant =>
    match lobby.sessions.lookup code with
    | none => .error ⟨.notFound, "Session not found."⟩
    | some session =>
      (session.addHumanParticipant mounted.config participant now).map fun (role, session) =>
        (role, { lobby with sessions := lobby.sessions.insert code session })

/-- `fail_session_initialization` as the request calls it, whose failures are ignored. -/
def failInitialization (attempt : Attempt G) (lobby : Lobby G) (key : SessionKey)
    (reasonCode : String) : Lobby G :=
  match attempted attempt.failOk
      (lobby.database.failSessionInitialization key reasonCode attempt.now) with
  | .ok database => { lobby with database }
  | .error _ => lobby

/-- The rest of `create_live_session_locked`, from the session's insertion into memory. -/
def insertSession (mounted : Mounted) (attempt : Attempt G) (lobby : Lobby G) (code : String)
    (key : SessionKey) (participant : ParticipantSession) (state : G.State) :
    Lobby G × Except AppError (String × PlayerRole) :=
  let session : LiveSession G :=
    .created mounted.config key.sessionId state participant attempt.now attempt.now
  let inserted := { lobby with sessions := lobby.sessions.insert code session }
  if attempt.completeOk then
    match lobby.database.completeSessionInitialization key with
    | (database, true) => ({ inserted with database }, .ok (code, .A))
    | (database, false) => ({ inserted with database, sessions := inserted.sessions.erase code },
        .error ⟨.conflict, "Session initialization no longer has an active durable record"⟩)
  else ({ inserted with sessions := inserted.sessions.erase code }, .error internalError)

def sessionCreated (attempt : Attempt G) (code : String) : SessionEventRecord :=
  ⟨"session_created", none, none, .object
    [("public_session_id", .string code), ("seed", .int attempt.seed)], none⟩

/-- The part of `create_live_session_locked` that follows the insertion of its row. -/
def initializeSession (mounted : Mounted) (attempt : Attempt G) (lobby : Lobby G) (code : String)
    (key : SessionKey) (participant : ParticipantSession) :
    Lobby G × Except AppError (String × PlayerRole) :=
  match attempted attempt.eventOk
      (lobby.database.appendSessionEvent key (sessionCreated attempt code) attempt.now) with
  | .error _ =>
    (lobby.failInitialization attempt key "session_event_persistence_failed", .error internalError)
  | .ok database =>
    let lobby := { lobby with database }
    match attempt.gameError, attempt.initialState with
    | some message, _ => (lobby.failInitialization attempt key "game_construction_failed",
        .error ⟨.badRequest, message⟩)
    | none, .error message =>
      (lobby.failInitialization attempt key "game_state_initialization_failed",
        .error ⟨.badRequest, message⟩)
    | none, .ok state =>
      if attempt.timingOk && (lobby.database.session? key).isSome then
        lobby.insertSession mounted attempt code key participant state
      else (lobby, .error internalError)

/-- The first session code drawn that no session in memory has. -/
def freshCode (attempt : Attempt G) (lobby : Lobby G) : Option String :=
  attempt.sessionCodes.find? fun code => (lobby.sessions.lookup code).isNone

def insertRow (mounted : Mounted) (attempt : Attempt G) (lobby : Lobby G)
    (participant : ParticipantSession) (code : String) : Except String (Database × Int) :=
  attempted attempt.rowOk (lobby.database.createSession {
    experimentId := mounted.experimentId
    publicSessionId := code
    mode := "direct"
    lifecycle := .forming
    purpose := participant.purpose.asStr
    waitingTimeoutSeconds := mounted.config.session.waitingSessionTimeoutSeconds
    maximumLifetimeSeconds := mounted.config.session.sessionMaxLifetimeSeconds
    configRevision := mounted.configRevision
    gameVersion := mounted.gameVersion } attempt.dialogueIds attempt.now)

def createLiveSession (mounted : Mounted) (attempt : Attempt G) (lobby : Lobby G)
    (id : ParticipantSessionId) : Lobby G × Except AppError (String × PlayerRole) :=
  match lobby.participants.lookup id, lobby.freshCode attempt with
  | none, _ => (lobby, .error ⟨.notFound, "Participant session not found."⟩)
  -- The list of draws stands for an endless one.
  | some _, none => (lobby, .error internalError)
  | some participant, some code =>
    match lobby.insertRow mounted attempt participant code with
    | .error _ => (lobby, .error internalError)
    | .ok (database, sessionId) =>
      ({ lobby with database }).initializeSession mounted attempt code
        ⟨mounted.experimentId, sessionId⟩ participant

/-- The section of the request that holds `session_admission`. -/
def pairOrCreate (mounted : Mounted) (attempt : Attempt G) (lobby : Lobby G)
    (id : ParticipantSessionId) : Lobby G × Except AppError (String × PlayerRole) :=
  match mounted.config.agentsMode with
  | .humanVsHuman =>
    match lobby.participants.lookup id with
    | none => (lobby, .error ⟨.notFound, "Participant session not found."⟩)
    | some participant =>
      match lobby.waiting participant attempt.pick, attempt.capacityError with
      | _, some error => (lobby, .error error)
      | none, none => lobby.createLiveSession mounted attempt id
      | some code, none =>
        match lobby.addHuman mounted code id attempt.now with
        | .error error => (lobby, .error error)
        | .ok (role, lobby) => (lobby, .ok (code, role))
  | .humanVsAgent =>
    match attempt.capacityError with
    | some error => (lobby, .error error)
    | none => lobby.createLiveSession mounted attempt id

def persistParticipant (mounted : Mounted) (attempt : Attempt G) (lobby : Lobby G) (code : String)
    (id : ParticipantSessionId) : Except String (Lobby G) := do
  let session ← orError (lobby.sessions.lookup code) "Session not found."
  let member ← findMember (some session) id
  let database ← attempted attempt.memberOk (lobby.database.addSessionParticipant
    ⟨mounted.experimentId, session.sessionId⟩ (memberRow member attempt.now))
  return { lobby with database }

/-- The best-effort event `participant_joined`. -/
def recordJoined (mounted : Mounted) (attempt : Attempt G) (lobby : Lobby G) (code : String)
    (id : ParticipantSessionId) (role : PlayerRole) : Lobby G :=
  let session := lobby.sessions.lookup code
  let recorded := do
    let record ← sessionEventRecord session (some id) "participant_joined"
      (.object [("role", .string role.asStr)]) none
    let session ← orError session "Session not found."
    attempted attempt.joinedOk (lobby.database.appendSessionEvent
      ⟨mounted.experimentId, session.sessionId⟩ record attempt.now)
  match recorded with
  | .ok database => { lobby with database }
  | .error _ => lobby

/-- The rest of `create_session` once the participant is in a session, up to the agent's start. -/
def enroll (mounted : Mounted) (attempt : Attempt G) (lobby : Lobby G) (code : String)
    (id : ParticipantSessionId) (role : PlayerRole) : Lobby G × Except AppError ParticipantState :=
  match lobby.persistParticipant mounted attempt code id with
  | .error _ => (lobby, .error internalError)
  | .ok lobby =>
    (lobby.recordJoined mounted attempt code id role,
      participantStateResponse (lobby.sessions.lookup code) role)

def createSession (mounted : Mounted) (attempt : Attempt G) (lobby : Lobby G)
    (id : ParticipantSessionId) : Lobby G × Except AppError ParticipantState :=
  match lobby.joined id attempt.pick with
  | some code => (lobby, lobby.stateResponse code id)
  | none =>
    if !attempt.terminalOk then (lobby, .error internalError)
    else match lobby.database.terminalParticipantState mounted.experimentId id with
    | some (role, result) => (lobby, .ok (.ended role result none))
    | none =>
      match attempt.gatesError with
      | some error => (lobby, .error error)
      | none =>
        match lobby.pairOrCreate mounted attempt id with
        | (lobby, .error error) => (lobby, .error error)
        | (lobby, .ok (code, role)) => lobby.enroll mounted attempt code id role

end Lobby

end Parlando
