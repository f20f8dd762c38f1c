import Parlando.Hosting
import Parlando.ParticipantAdmission
import Parlando.ProlificStudy

namespace Parlando

open Concurrency

def ExperimentLifecycle.dataPurpose : ExperimentLifecycle → Purpose
  | testing => .testing
  | _ => .research

namespace Intake

open Prolific

structure ParticipantCreationRate where
  global : List Int := []
  maxAttempts : Nat := 300
  windowSeconds : Int := 60

/-- Records one allowed attempt after pruning the sliding window. -/
def ParticipantCreationRate.record (rate : ParticipantCreationRate) (now : Int) :
    Bool × ParticipantCreationRate :=
  let global := rate.global.filter fun timestamp => timestamp > now - rate.windowSeconds
  if global.length ≥ rate.maxAttempts then (false, { rate with global })
  else (true, { rate with global := global ++ [now] })

structure Jwk where
  keyId : Option String
  key : String

structure CachedJwks where
  fetchedAt : Timestamp
  keys : List Jwk

def CachedJwks.find (cached : CachedJwks) (keyId : String) : Option Jwk :=
  cached.keys.find? fun jwk => jwk.keyId == some keyId

structure TokenHeader where
  algorithm : String
  keyId : Option String

structure SignedLaunchClaims where
  sub : String
  participantId : String
  studyId : String
  sessionId : String
  workspaceId : String

structure Submission where
  id : String
  participant : Option String
  studyId : String

structure ProlificParticipantRequest where
  participantId : String
  studyId : String
  sessionId : String
  prolificToken : Option String := none

inductive VerificationMethod where
  | syntheticTesting
  | signedUrl
  | submissionApi
  deriving DecidableEq

def VerificationMethod.asStr : VerificationMethod → String
  | syntheticTesting => "synthetic_testing"
  | signedUrl => "signed_url"
  | submissionApi => "submission_api"

/-- Recognizes dashboard-generated identities, which are safe only during testing intake. -/
def isSyntheticProlificTestingLaunch (lifecycle : ExperimentLifecycle)
    (prolific : ProlificParticipantRequest) : Bool :=
  lifecycle == .testing && prolific.prolificToken.isNone &&
    Text.startsWith "TEST" prolific.participantId && Text.startsWith "TEST" prolific.sessionId &&
    prolific.participantId.toList.all Char.isAlphanum &&
    prolific.sessionId.toList.all Char.isAlphanum

/-- The libraries of the server, its limits, and the configuration its runtime was mounted with. -/
structure IntakeEnv where
  formats : TextFormats
  isLoopback : String → Bool
  sha256 : List UInt8 → String
  decodeHeader : String → Except String TokenHeader
  decodingKey : Jwk → Except String String
  /-- The claims of a token that the key signed for an issuer and an audience, and that has not
  expired. -/
  decode : (token key issuer audience : String) → Timestamp → Except String SignedLaunchClaims
  experimentId : String
  config : RuntimeConfig

/-- What a launch asks for before anybody else is asked about it. -/
def checkRequest (env : IntakeEnv) (request : Option ProlificParticipantRequest) :
    Except AppError (Option ProlificParticipantRequest) := do
  let prolific := env.config.stored.recruitment.prolific
  if !env.config.stored.direct.enabled && !prolific.enabled then
    throw ⟨.notFound, "Direct mode is disabled."⟩
  if !prolific.enabled then return none
  match request with
  | none => throw ⟨.badRequest, "Prolific participant parameters are required."⟩
  | some request =>
    if request.studyId != prolific.studyId then
      throw ⟨.badRequest, "This Prolific study id is not accepted."⟩
    let invalid (value : String) :=
      value.isEmpty || value.utf8ByteSize > 128 || value.toList.any fun c => c.toNat ≥ 128
    if invalid request.participantId || invalid request.sessionId then
      throw ⟨.badRequest, "Invalid Prolific participant parameters."⟩
    return some request

/-- One provider readiness result keyed by every local input to the study contract. -/
structure PreflightCacheEntry where
  fingerprint : String
  checkedAt : Timestamp
  result : Preflight

/-- A participant session that intake put into memory. -/
structure IntakeParticipant where
  id : ParticipantSessionId
  participantId : Int
  researchId : String
  source : ParticipantSource
  purpose : Purpose

structure Launch where
  request : ProlificParticipantRequest
  method : VerificationMethod
  /-- The lifecycle the call found when it came in. -/
  found : ExperimentLifecycle
  /-- The lifecycle when the row was written. -/
  current : ExperimentLifecycle
  admission : ProlificAdmission

/-- What intake and activation of one mounted runtime share. -/
structure IntakeState where
  lifecycle : ExperimentLifecycle
  /-- The calls that hold the lifecycle's lock for reading, and the one that holds it for writing. -/
  readers : List Nat := []
  writer : Option Nat := none
  rate : ParticipantCreationRate := {}
  sessionAdmission : Bool := false
  /-- The provider client, by the number of the key cache it shares with its clones. -/
  client : Option Nat := none
  keyCaches : List (Option CachedJwks) := []
  study : Option VerifiedProlificStudy := none
  preflight : Option PreflightCacheEntry := none
  db : Database
  participants : List IntakeParticipant := []
  /-- The latest of the readings of the clock, in seconds, that the creation rate was told. -/
  clock : Int := 0
  /-- When calls were let through by the creation rate. -/
  attempts : List Int := []
  /-- What was published of studies, with the configuration they were checked for. -/
  checks : List (RuntimeConfig × VerifiedProlificStudy) := []
  /-- The answers with signing keys. -/
  fetched : List CachedJwks := []
  /-- The answers about submissions, with what was asked for. -/
  submissions : List (String × Submission) := []
  launches : List Launch := []

/-- What the outside decides about one step. -/
structure IntakeInput where
  now : Timestamp := 0
  /-- The store answers, or what is built can be built. -/
  answers : Bool := true
  error : String := ""
  dropped : Bool := false
  /-- The intake is full. -/
  full : Bool := false
  keys : List Jwk := []
  submission : Except String Submission := .error ""
  study : Except String Study := .error ""
  workspace : Except String String := .error ""
  /-- The stored configuration and the provider's address. -/
  stored : Option (RuntimeConfig × String) := none
  /-- What else than its recruitment speaks against the configuration. -/
  readiness : List String := []
  identifiers : List String := []
  participantSessionId : ParticipantSessionId := .human 0

inductive IntakeReply where
  | error (error : AppError)
  | limited (message : String)
  | badGateway (message : String)
  | created (participant : IntakeParticipant)
  | handled
  | dropped

def badRequestReply (message : String) : IntakeReply := .error ⟨.badRequest, message⟩

def unavailable (message : String) : IntakeReply := .error ⟨.serviceUnavailable, message⟩

def conflict (message : String) : IntakeReply := .error ⟨.conflict, message⟩

structure SignedLaunch where
  prolific : ProlificParticipantRequest
  client : Nat
  verified : VerifiedProlificStudy
  token : String
  keyId : String

inductive IntakePlace where
  | pacing
  | checking
  | connecting (prolific : ProlificParticipantRequest)
  | linking (prolific : ProlificParticipantRequest) (client : Nat)
  | cachedKeys (launch : SignedLaunch)
  | fetchingKeys (launch : SignedLaunch) (forced : Bool)
  | storingKeys (launch : SignedLaunch) (forced : Bool) (keys : CachedJwks)
  | decoding (launch : SignedLaunch) (jwk : Jwk)
  | asking (prolific : ProlificParticipantRequest)
  | locking (prolific : Option (ProlificParticipantRequest × VerificationMethod))
  | counting (prolific : Option (ProlificParticipantRequest × VerificationMethod))
  | admitting (prolific : ProlificParticipantRequest) (method : VerificationMethod)
  | registering (pc : UpsertPc)
  | identifying (participantId : Int)
  | remembering (participant : IntakeParticipant)
  | issuing (participant : IntakeParticipant)

namespace IntakePlace

/-- The call holds the lock `session_admission` there. -/
def holdsAdmission : IntakePlace → Bool
  | counting _ | admitting .. | registering _ | identifying _ | remembering _ => true
  | _ => false

def jwksTtl : Timestamp := Timestamp.seconds (24 * 60 * 60)

def directParticipant (env : IntakeEnv) : ParticipantRecord where
  experimentId := env.experimentId
  participantKind := "human"
  identityProvider := "direct"
  externalId := none
  metadata := .null

def submissionRecord (env : IntakeEnv) (prolific : ProlificParticipantRequest)
    (method : VerificationMethod) : ProlificSubmissionRecord where
  experimentId := env.experimentId
  prolificParticipantId := prolific.participantId
  prolificStudyId := prolific.studyId
  prolificSessionId := prolific.sessionId
  verificationMethod := method.asStr

def invalidLaunch (message : String) : IntakeReply :=
  badRequestReply ("Invalid Prolific launch: " ++ message)

/-- Looks for the launch's key in an answer; an unknown key is asked for once more. -/
def findKey (launch : SignedLaunch) (forced : Bool) (keys : CachedJwks) :
    Except IntakeReply IntakePlace :=
  match keys.find launch.keyId, forced with
  | some jwk, _ => .ok (decoding launch jwk)
  | none, false => .ok (fetchingKeys launch true)
  | none, true => .error (invalidLaunch "Prolific launch signing key is unknown")

def verifySignedLaunch (env : IntakeEnv) (launch : SignedLaunch) (jwk : Jwk) (now : Timestamp) :
    Except IntakeReply Unit := do
  let key ← (env.decodingKey jwk).mapError invalidLaunch
  let claims ← (env.decode launch.token key "https://www.prolific.com"
    launch.verified.study.externalStudyUrl now).mapError fun _ =>
      invalidLaunch "invalid or expired Prolific launch token"
  if claims.sub != claims.sessionId then
    throw (invalidLaunch "Prolific launch subject does not match SESSION_ID")
  if claims.studyId != env.config.stored.recruitment.prolific.studyId then
    throw (invalidLaunch "Prolific launch study does not match this experiment")
  if claims.workspaceId != launch.verified.workspaceId then
    throw (invalidLaunch "Prolific launch workspace does not match this installation")
  if claims.participantId != launch.prolific.participantId ||
      claims.studyId != launch.prolific.studyId ||
      claims.sessionId != launch.prolific.sessionId then
    throw (badRequestReply "The signed Prolific launch does not match its URL parameters.")

/-- How a launch under a verified study is verified in its turn. -/
def link (env : IntakeEnv) (prolific : ProlificParticipantRequest) (client : Nat)
    (verified : VerifiedProlificStudy) : Except IntakeReply IntakePlace :=
  if !verified.study.isExternalStudyUrlSecure then .ok (asking prolific)
  else match prolific.prolificToken with
    | none => .error (badRequestReply "The secure Prolific launch token is missing.")
    | some token =>
      match env.decodeHeader token with
      | .error _ => .error (invalidLaunch "invalid Prolific launch token header")
      | .ok header =>
        if header.algorithm != "RS256" then
          .error (invalidLaunch "Prolific launch token must use RS256")
        else match header.keyId with
          | none => .error (invalidLaunch "Prolific launch token has no key identifier")
          | some keyId => .ok (cachedKeys ⟨prolific, client, verified, token, keyId⟩)

def isSubmissionOf (prolific : ProlificParticipantRequest) (submission : Submission) : Bool :=
  submission.id == prolific.sessionId && submission.studyId == prolific.studyId &&
    submission.participant == some prolific.participantId

/-- One atomic step inside the lifecycle's lock; it leads on to a place or out with a reply. -/
def step (env : IntakeEnv) (request : Option ProlificParticipantRequest)
    (found : ExperimentLifecycle) (s : IntakeState) (input : IntakeInput) :
    IntakePlace → Option (IntakeState × Except IntakeReply IntakePlace)
  | pacing =>
    -- The clock was read before the call waited for the limiter.
    let now := input.now.wholeSeconds
    let clock := max s.clock now
    match s.rate.record now with
    | (true, rate) => some ({ s with rate, clock, attempts := s.attempts ++ [now] }, .ok checking)
    | (false, rate) => some ({ s with rate, clock },
        .error (.limited "Participant creation rate limit exceeded"))
  | checking =>
    match checkRequest env request with
    | .error error => some (s, .error (.error error))
    | .ok none => some (s, .ok (locking none))
    | .ok (some prolific) =>
      if isSyntheticProlificTestingLaunch found prolific then
        some (s, .ok (locking (some (prolific, .syntheticTesting))))
      else some (s, .ok (connecting prolific))
  | connecting prolific =>
    match s.client with
    | none => some (s, .error (unavailable "Prolific intake is not connected"))
    | some client => some (s, .ok (linking prolific client))
  | linking prolific client =>
    match s.study with
    | none => some (s, .error (unavailable "Prolific study preflight has not completed"))
    | some verified => some (s, link env prolific client verified)
  | cachedKeys launch =>
    match (s.keyCaches[launch.client]?).join with
    | none => some (s, .ok (fetchingKeys launch false))
    | some cached =>
      if cached.fetchedAt > input.now - jwksTtl then some (s, findKey launch false cached)
      else some (s, .ok (fetchingKeys launch false))
  | fetchingKeys launch forced =>
    if !input.answers then some (s, .error (invalidLaunch input.error))
    else
      let keys := ⟨input.now, input.keys⟩
      some ({ s with fetched := s.fetched ++ [keys] }, .ok (storingKeys launch forced keys))
  | storingKeys launch forced keys =>
    some ({ s with keyCaches := s.keyCaches.set launch.client (some keys) },
      findKey launch forced keys)
  | decoding launch jwk =>
    some (s, (verifySignedLaunch env launch jwk input.now).map fun _ =>
      locking (some (launch.prolific, .signedUrl)))
  | asking prolific =>
    match input.submission with
    | .error error =>
      some (s, .error (unavailable ("Could not verify the Prolific submission: " ++ error)))
    | .ok submission =>
      let s := { s with submissions := s.submissions ++ [(prolific.sessionId, submission)] }
      if isSubmissionOf prolific submission then
        some (s, .ok (locking (some (prolific, .submissionApi))))
      else some (s, .error (unavailable ("Could not verify the Prolific submission: " ++
        "Prolific submission does not match the launch identifiers")))
  | locking prolific =>
    if s.sessionAdmission then none
    else some ({ s with sessionAdmission := true }, .ok (counting prolific))
  | counting prolific =>
    if input.full then some (s, .error (unavailable "Participant intake is temporarily full"))
    else match prolific with
      | none => some (s, .ok (registering .lookup))
      | some (prolific, method) => some (s, .ok (admitting prolific method))
  | admitting prolific method =>
    if !input.answers then some (s, .error (.error internalError))
    else match s.db.admitProlificSubmission (submissionRecord env prolific method)
        input.identifiers input.participantSessionId input.now with
      | .error _ => some (s, .error (.error internalError))
      | .ok (db, admission) =>
        some ({ s with
            db
            launches := s.launches ++ [⟨prolific, method, found, s.lifecycle, admission⟩] },
          .ok (remembering ⟨admission.participantSessionId, admission.participantId,
            admission.researchId, .prolific, found.dataPurpose⟩))
  | registering pc =>
    match pc with
    | .returned (.ok participantId) => some (s, .ok (identifying participantId))
    | .returned (.error _) => some (s, .error (.error internalError))
    | _ =>
      (pc.step (directParticipant env) s.db
        { storeOk := input.answers, identifiers := input.identifiers, now := input.now }).map
        fun next => ({ s with db := next.1 }, .ok (registering next.2))
  | identifying participantId =>
    match input.answers, s.db.participants.find? fun row => row.participantId == participantId with
    | true, some row =>
      some (s, .ok (remembering ⟨input.participantSessionId, participantId, row.researchId,
        .direct, found.dataPurpose⟩))
    | _, _ => some (s, .error (.error internalError))
  | remembering participant =>
    -- The lock is dropped before the credential is issued.
    match s.participants.find? fun existing => existing.id == participant.id with
    | some existing => some ({ s with sessionAdmission := false }, .ok (issuing existing))
    | none => some ({ s with
        sessionAdmission := false
        participants := s.participants ++ [participant] }, .ok (issuing participant))
  | issuing participant => some (s, .error (.created participant))

end IntakePlace

inductive IntakePc where
  | entering
  | inside (found : ExperimentLifecycle) (place : IntakePlace)
  | done (reply : IntakeReply)

namespace IntakePc

def leave (s : IntakeState) (pid : Nat) (place : IntakePlace) : IntakeState :=
  { s with
    readers := s.readers.filter (· != pid)
    sessionAdmission := s.sessionAdmission && !place.holdsAdmission }

def step (env : IntakeEnv) (request : Option ProlificParticipantRequest) (s : IntakeState)
    (pid : Nat) (input : IntakeInput) : IntakePc → Option (IntakeState × IntakePc)
  | entering =>
    if s.writer.isSome then none
    else if !s.lifecycle.allowsIntake then
      some (s, done (unavailable "Experiment intake is closed"))
    else some ({ s with readers := pid :: s.readers }, inside s.lifecycle .pacing)
  | inside found place =>
    if input.dropped then some (leave s pid place, done .dropped)
    else
      match place.step env request found s input with
      | none => none
      | some (t, .ok next) => some (t, inside found next)
      | some (t, .error reply) => some (leave t pid place, done reply)
  | done _ => none

end IntakePc

/-- Where a preflight stands; the first place may reuse a recent result. -/
inductive PreflightPc where
  | looking
  | starting
  | askingStudy
  | askingProject (study : Study)
  | caching (result : Preflight)
  | done (result : Preflight)

def PreflightPc.step (env : IntakeEnv) (config : RuntimeConfig) (prolificApiBaseUrl : String)
    (s : IntakeState) (input : IntakeInput) : PreflightPc → Option (IntakeState × PreflightPc)
  | looking =>
    match s.preflight with
    | none => some (s, starting)
    | some entry =>
      if entry.fingerprint = prolificPreflightFingerprint config env.sha256 prolificApiBaseUrl ∧
          input.now - entry.checkedAt < Timestamp.seconds 30 then some (s, done entry.result)
      else some (s, starting)
  | starting =>
    let localIssues := prolificLocalActivationIssues config env.formats env.isLoopback
    if !config.stored.recruitment.prolific.enabled then some (s, caching ([], none))
    else if localIssues ≠ [] then some (s, caching (localIssues, none))
    else if !input.answers then some (s, caching ([input.error], none))
    else some (s, askingStudy)
  | askingStudy =>
    match input.study with
    | .error error =>
      some (s, caching (["Could not verify the linked Prolific study: " ++ error], none))
    | .ok study =>
      if study.project.isSome then some (s, askingProject study)
      else some (s, caching (studyPreflight config study (.error "")))
  | askingProject study => some (s, caching (studyPreflight config study input.workspace))
  | caching result =>
    let fingerprint := prolificPreflightFingerprint config env.sha256 prolificApiBaseUrl
    some ({ s with preflight := some ⟨fingerprint, input.now, result⟩ }, done result)
  | done _ => none

structure StatusCall where
  lifecycle : ExperimentLifecycle
  participantUrlKind : Option String := none
  verifyProlific : Bool := false

inductive StatusPc where
  | definition
  | hydrating
  | checking (config : RuntimeConfig) (prolificApiBaseUrl : String) (pc : PreflightPc)
  | publishing (config : RuntimeConfig) (study : Option VerifiedProlificStudy)
  | connecting (config : RuntimeConfig)
  | locking
  | transition
  | releasing
  | done (reply : IntakeReply)

namespace StatusPc

/-- Local previews are tested without the provider. -/
def previewsLocally (call : StatusCall) : Bool :=
  call.lifecycle == .testing &&
    !(call.verifyProlific || call.participantUrlKind == some "prolific")

def localIssues (env : IntakeEnv) (call : StatusCall) (config : RuntimeConfig)
    (readiness : List String) : List String :=
  readiness ++ prolificCompletionPathIssues config ++
    if previewsLocally call then []
    else prolificLocalActivationIssues config env.formats env.isLoopback

def cannotStart (issues : List String) : IntakeReply :=
  conflict ("Experiment cannot start: " ++ " ".intercalate issues)

def step (env : IntakeEnv) (call : StatusCall) (s : IntakeState) (pid : Nat)
    (input : IntakeInput) : StatusPc → Option (IntakeState × StatusPc)
  | definition =>
    if !input.answers then some (s, done (conflict input.error))
    else some (s, if call.lifecycle.allowsIntake then hydrating else locking)
  | hydrating =>
    match input.stored with
    | none => some (s, done (conflict input.error))
    | some (config, prolificApiBaseUrl) =>
      if !fits config prolificApiBaseUrl then none
      else
        let issues := localIssues env call config input.readiness
        if issues ≠ [] then some (s, done (cannotStart issues))
        else if previewsLocally call then some (s, locking)
        else some (s, checking config prolificApiBaseUrl .looking)
  | checking config _ (.done (issues, study)) =>
    if issues ≠ [] then some (s, done (cannotStart issues))
    else some (s, publishing config study)
  | checking config prolificApiBaseUrl pc =>
    (pc.step env config prolificApiBaseUrl s input).map fun next =>
      (next.1, checking config prolificApiBaseUrl next.2)
  | publishing config study =>
    some ({ s with study, checks := s.checks ++ study.toList.map (config, ·) }, connecting config)
  | connecting config =>
    if !config.stored.recruitment.prolific.enabled then some ({ s with client := none }, locking)
    else if !input.answers then some (s, done (.error internalError))
    else some ({ s with
      client := some s.keyCaches.length
      keyCaches := s.keyCaches ++ [none] }, locking)
  | locking =>
    if s.writer.isSome || !s.readers.isEmpty then none
    else some ({ s with writer := some pid }, transition)
  | transition =>
    if !s.lifecycle.canTransitionTo call.lifecycle then
      some ({ s with writer := none }, done (conflict "Experiment cannot transition directly"))
    else if !input.answers then some ({ s with writer := none }, done (.error internalError))
    else some ({ s with lifecycle := call.lifecycle }, releasing)
  | releasing => some ({ s with writer := none }, done .handled)
  | done _ => none

/-- What a call that is given up still holds is given back. -/
def leave (s : IntakeState) : StatusPc → IntakeState
  | transition | releasing => { s with writer := none }
  | _ => s

end StatusPc

inductive RefreshPc where
  | hydrating
  | checking (config : RuntimeConfig) (prolificApiBaseUrl : String) (pc : PreflightPc)
  | publishing (config : RuntimeConfig) (study : VerifiedProlificStudy)
  | done (reply : IntakeReply)

/-- Refreshes the provider-owned study facts; a badge or a save only leaves its result behind. -/
def RefreshPc.step (env : IntakeEnv) (publishes cached : Bool) (s : IntakeState)
    (input : IntakeInput) : RefreshPc → Option (IntakeState × RefreshPc)
  | hydrating =>
    match input.stored with
    | none => some (s, done (conflict input.error))
    | some (config, prolificApiBaseUrl) =>
      if !fits config prolificApiBaseUrl then none
      else if publishes && !config.stored.recruitment.prolific.enabled then
        some (s, done (badRequestReply "This experiment does not use Prolific intake."))
      else some (s, checking config prolificApiBaseUrl (if cached then .looking else .starting))
  | checking config _ (.done (issues, study)) =>
    if !publishes then some (s, done .handled)
    else if issues ≠ [] then some (s, done (conflict (" ".intercalate issues)))
    else match study with
      | none => some (s, done (.badGateway "Prolific did not return the linked study."))
      | some verified => some (s, publishing config verified)
  | checking config prolificApiBaseUrl pc =>
    (pc.step env config prolificApiBaseUrl s input).map fun next =>
      (next.1, checking config prolificApiBaseUrl next.2)
  | publishing config verified =>
    some ({ s with study := some verified, checks := s.checks ++ [(config, verified)] },
      done .handled)
  | done _ => none

inductive IntakeTask where
  | launch (request : Option ProlificParticipantRequest) (pc : IntakePc)
  | status (call : StatusCall) (pc : StatusPc)
  | refresh (publishes cached : Bool) (pc : RefreshPc)

namespace IntakeTask

def starts : IntakeTask → Bool
  | launch _ .entering | status _ .definition | refresh _ _ .hydrating => true
  | _ => false

def step (env : IntakeEnv) (s : IntakeState) (pid : Nat) (input : IntakeInput) :
    IntakeTask → Option (IntakeState × IntakeTask)
  | launch request pc =>
    (pc.step env request s pid input).map fun next => (next.1, launch request next.2)
  | status call pc =>
    if input.dropped then
      match pc with
      | .done _ => none
      | _ => some (pc.leave s, status call (.done .dropped))
    else (pc.step env call s pid input).map fun next => (next.1, status call next.2)
  | refresh publishes cached pc =>
    if input.dropped then
      match pc with
      | .done _ => none
      | _ => some (s, refresh publishes cached (.done .dropped))
    else (pc.step env publishes cached s input).map fun next =>
      (next.1, refresh publishes cached next.2)

end IntakeTask

/-- Launches, changes of the status and preflights of one experiment, in any interleaving. -/
def intakeProgram (env : IntakeEnv) : Program IntakeState IntakeTask IntakeInput where
  entry _ task := task.starts
  step s pid task input := (task.step env s pid input).map fun next => (next.1, next.2, [])

end Intake

end Parlando
