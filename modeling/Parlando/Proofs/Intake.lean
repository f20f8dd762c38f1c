import Parlando.Intake
import Parlando.Proofs.ParticipantAdmission
import Parlando.Proofs.ProlificStudy

namespace Parlando.Intake

open Concurrency Prolific

variable {env : IntakeEnv} {start s t : IntakeState} {pid : Nat} {input : IntakeInput}

/-- Somebody who holds the key of an answer signed the launch for the study and its workspace. -/
def SignedFor (env : IntakeEnv) (s : IntakeState) (verified : VerifiedProlificStudy)
    (request : ProlificParticipantRequest) : Prop :=
  ∃ token header keyId keys jwk key claims now, request.prolificToken = some token ∧
    env.decodeHeader token = .ok header ∧ header.algorithm = "RS256" ∧ header.keyId = some keyId ∧
    keys ∈ s.fetched ∧ jwk ∈ keys.keys ∧ jwk.keyId = some keyId ∧ env.decodingKey jwk = .ok key ∧
    env.decode token key "https://www.prolific.com" verified.study.externalStudyUrl now =
      .ok claims ∧
    claims = ⟨request.sessionId, request.participantId, request.studyId, request.sessionId,
      verified.workspaceId⟩

def Verified (env : IntakeEnv) (s : IntakeState) (request : ProlificParticipantRequest)
    (found : ExperimentLifecycle) : VerificationMethod → Prop
  | .syntheticTesting => isSyntheticProlificTestingLaunch found request = true
  | .signedUrl => ∃ config verified, (config, verified) ∈ s.checks ∧
      verified.study.isExternalStudyUrlSecure = true ∧ SignedFor env s verified request
  | .submissionApi => (∃ config verified, (config, verified) ∈ s.checks ∧
      verified.study.isExternalStudyUrlSecure = false) ∧
    ∃ submission, (request.sessionId, submission) ∈ s.submissions ∧ submission.id = request.sessionId ∧
      submission.studyId = request.studyId ∧ submission.participant = some request.participantId

def Asked (env : IntakeEnv) (request : ProlificParticipantRequest) : Prop :=
  checkRequest env (some request) = .ok (some request)

/-- Why a launch was stored. -/
structure Vouched (env : IntakeEnv) (s : IntakeState) (launch : Launch) : Prop where
  asked : Asked env launch.request
  /-- Intake was open, and nobody changed that until the row was written. -/
  allowed : launch.found.allowsIntake = true
  same : launch.current = launch.found
  verified : Verified env s launch.request launch.found launch.method

def Launch.participant (launch : Launch) : IntakeParticipant :=
  ⟨launch.admission.participantSessionId, launch.admission.participantId,
    launch.admission.researchId, .prolific, launch.found.dataPurpose⟩

structure Launch.Left (env : IntakeEnv) (launch : Launch) (row : ProlificSubmissionRow) : Prop where
  experiment : row.experimentId = env.experimentId
  participant : row.prolificParticipantId = launch.request.participantId
  study : row.prolificStudyId = launch.request.studyId
  session : row.prolificSessionId = launch.request.sessionId
  method : row.verificationMethod = launch.method.asStr
  admitted : row.participantSessionId = launch.admission.participantSessionId

def Genuine (env : IntakeEnv) (entry : PreflightCacheEntry) : Prop :=
  ∃ config url, fits config url = true ∧
    entry.fingerprint = prolificPreflightFingerprint config env.sha256 url ∧
    Sound config entry.result

structure IntakeState.Sound (env : IntakeEnv) (s start : IntakeState) : Prop where
  preflight : ∀ entry, s.preflight = some entry → Genuine env entry
  study : ∀ verified, s.study = some verified → ∃ config, (config, verified) ∈ s.checks
  checks : ∀ config verified, (config, verified) ∈ s.checks → Passed config verified
  keys : ∀ keys, some keys ∈ s.keyCaches → keys ∈ s.fetched
  exclusive : s.writer.isSome → s.readers = []
  launches : ∀ launch ∈ s.launches, Vouched env s launch
  rows : ∀ row ∈ s.db.prolificSubmissions,
    row ∈ start.db.prolificSubmissions ∨ ∃ launch ∈ s.launches, launch.Left env row
  participants : ∀ participant ∈ s.participants, participant.source = .prolific →
    ∃ launch ∈ s.launches, participant = launch.participant
  enrolled : Enrolled s.db
  stands : ∀ launch ∈ s.launches, Stands s.db
    (IntakePlace.submissionRecord env launch.request launch.method) launch.admission

structure Later (pid : Nat) (s t : IntakeState) : Prop where
  checks : s.checks ⊆ t.checks
  fetched : s.fetched ⊆ t.fetched
  submissions : s.submissions ⊆ t.submissions
  launches : s.launches ⊆ t.launches
  readers : ∀ other ≠ pid, other ∈ s.readers → other ∈ t.readers ∧ t.lifecycle = s.lifecycle
  writer : ∀ other ≠ pid, s.writer = some other → t.writer = some other

theorem Later.refl (pid : Nat) (s : IntakeState) : Later pid s s :=
  ⟨List.Subset.refl _, List.Subset.refl _, List.Subset.refl _, List.Subset.refl _,
    fun _ _ holds => ⟨holds, rfl⟩, fun _ _ holds => holds⟩

theorem SignedFor.later {verified : VerifiedProlificStudy} {request : ProlificParticipantRequest}
    (signed : SignedFor env s verified request) (fetched : s.fetched ⊆ t.fetched) :
    SignedFor env t verified request := by
  obtain ⟨token, header, keyId, keys, jwk, key, claims, now, asked, decoded, algorithm, named, known,
    rest⟩ := signed
  exact ⟨token, header, keyId, keys, jwk, key, claims, now, asked, decoded, algorithm, named,
    fetched known, rest⟩

theorem Verified.later {request : ProlificParticipantRequest} {found : ExperimentLifecycle}
    {method : VerificationMethod} (verified : Verified env s request found method)
    (later : Later pid s t) : Verified env t request found method := by
  cases method with
  | syntheticTesting => exact verified
  | signedUrl =>
    obtain ⟨config, study, checked, secure, signed⟩ := verified
    exact ⟨config, study, later.checks checked, secure, signed.later later.fetched⟩
  | submissionApi =>
    obtain ⟨⟨config, study, checked, plain⟩, submission, answered, same⟩ := verified
    exact ⟨⟨config, study, later.checks checked, plain⟩, submission, later.submissions answered, same⟩

theorem Vouched.later {launch : Launch} (vouched : Vouched env s launch) (later : Later pid s t) :
    Vouched env t launch :=
  ⟨vouched.asked, vouched.allowed, vouched.same, vouched.verified.later later⟩

structure SignedLaunch.Pending (env : IntakeEnv) (s : IntakeState) (launch : SignedLaunch) : Prop where
  asked : Asked env launch.prolific
  checked : ∃ config, (config, launch.verified) ∈ s.checks
  secure : launch.verified.study.isExternalStudyUrlSecure = true
  token : launch.prolific.prolificToken = some launch.token
  header : ∃ header, env.decodeHeader launch.token = .ok header ∧ header.algorithm = "RS256" ∧
    header.keyId = some launch.keyId

theorem SignedLaunch.Pending.later {launch : SignedLaunch} (pending : launch.Pending env s)
    (later : Later pid s t) : launch.Pending env t := by
  obtain ⟨config, checked⟩ := pending.checked
  exact ⟨pending.asked, ⟨config, later.checks checked⟩, pending.secure, pending.token, pending.header⟩

namespace IntakePlace

/-- What holds of a call at its place. -/
def Sound (env : IntakeEnv) (found : ExperimentLifecycle) (s : IntakeState) : IntakePlace → Prop
  | connecting prolific | linking prolific _ => Asked env prolific
  | cachedKeys launch | fetchingKeys launch _ => launch.Pending env s
  | storingKeys launch _ keys => launch.Pending env s ∧ keys ∈ s.fetched
  | decoding launch jwk => launch.Pending env s ∧ ∃ keys ∈ s.fetched, jwk ∈ keys.keys ∧
      jwk.keyId = some launch.keyId
  | asking prolific => Asked env prolific ∧ ∃ config verified, (config, verified) ∈ s.checks ∧
      verified.study.isExternalStudyUrlSecure = false
  | locking prolific | counting prolific => ∀ request method, prolific = some (request, method) →
      Asked env request ∧ Verified env s request found method
  | admitting request method => Asked env request ∧ Verified env s request found method
  | remembering participant => participant.source = .prolific →
      ∃ launch ∈ s.launches, participant = launch.participant
  | pacing | checking | registering _ | identifying _ | issuing _ => True

theorem Sound.later {found : ExperimentLifecycle} {place : IntakePlace}
    (sound : place.Sound env found s) (later : Later pid s t) : place.Sound env found t := by
  cases place with
  | cachedKeys launch => exact SignedLaunch.Pending.later sound later
  | fetchingKeys launch forced => exact SignedLaunch.Pending.later sound later
  | storingKeys launch forced keys => exact ⟨sound.1.later later, later.fetched sound.2⟩
  | decoding launch jwk =>
    obtain ⟨pending, keys, known, rest⟩ := sound
    exact ⟨pending.later later, keys, later.fetched known, rest⟩
  | asking prolific =>
    obtain ⟨asked, config, verified, checked, plain⟩ := sound
    exact ⟨asked, config, verified, later.checks checked, plain⟩
  | locking prolific =>
    exact fun request method given => (sound request method given).imp_right (·.later later)
  | counting prolific =>
    exact fun request method given => (sound request method given).imp_right (·.later later)
  | admitting request method => exact ⟨sound.1, sound.2.later later⟩
  | remembering participant =>
    intro prolific
    obtain ⟨launch, stored, same⟩ := sound prolific
    exact ⟨launch, later.launches stored, same⟩
  | _ => exact sound

end IntakePlace

/-- What a preflight knows of its configuration. -/
def PreflightPc.Sound (config : RuntimeConfig) : PreflightPc → Prop
  | looking | starting => True
  | askingStudy | askingProject _ => config.stored.recruitment.prolific.enabled = true
  | caching result | done result => Prolific.Sound config result

def StatusPc.Sound (s : IntakeState) (pid : Nat) : StatusPc → Prop
  | checking config url pc => fits config url = true ∧ pc.Sound config
  | publishing config study => ∀ verified, study = some verified → Passed config verified
  | transition | releasing => s.writer = some pid
  | _ => True

def RefreshPc.Sound : RefreshPc → Prop
  | checking config url pc => fits config url = true ∧ pc.Sound config
  | publishing config verified => Passed config verified
  | _ => True

def IntakePc.Sound (env : IntakeEnv) (s : IntakeState) (pid : Nat) : IntakePc → Prop
  | inside found place => pid ∈ s.readers ∧ s.lifecycle = found ∧ found.allowsIntake = true ∧
      place.Sound env found s
  | _ => True

def IntakeTask.Sound (env : IntakeEnv) (s : IntakeState) (pid : Nat) : IntakeTask → Prop
  | launch _ pc => pc.Sound env s pid
  | status _ pc => pc.Sound s pid
  | refresh _ _ pc => pc.Sound

theorem IntakeTask.Sound.later {task : IntakeTask} {other : Nat} (sound : task.Sound env s other)
    (apart : other ≠ pid) (later : Later pid s t) : task.Sound env t other := by
  cases task with
  | launch request pc =>
    cases pc with
    | inside found place =>
      obtain ⟨reads, same, allowed, place⟩ := sound
      obtain ⟨reads, kept⟩ := later.readers other apart reads
      exact ⟨reads, kept.trans same, allowed, place.later later⟩
    | _ => trivial
  | status call pc =>
    cases pc with
    | transition => exact later.writer other apart sound
    | releasing => exact later.writer other apart sound
    | _ => exact sound
  | refresh publishes cached pc => exact sound

/-- A step keeps the invariant and what the other calls count on. -/
structure Kept (env : IntakeEnv) (start : IntakeState) (pid : Nat) (s t : IntakeState) : Prop where
  sound : t.Sound env start
  later : Later pid s t

theorem IntakeState.Sound.kept (sound : s.Sound env start) : Kept env start pid s s :=
  ⟨sound, .refl pid s⟩

/-- What a step has to show for the state behind it. -/
theorem IntakeState.Sound.of_later (sound : s.Sound env start) (later : Later pid s t)
    (preflight : ∀ entry, t.preflight = some entry → s.preflight = some entry ∨ Genuine env entry)
    (study : ∀ verified, t.study = some verified →
      s.study = some verified ∨ ∃ config, (config, verified) ∈ t.checks)
    (checks : ∀ config verified, (config, verified) ∈ t.checks →
      (config, verified) ∈ s.checks ∨ Passed config verified)
    (keys : ∀ keys, some keys ∈ t.keyCaches → some keys ∈ s.keyCaches ∨ keys ∈ t.fetched)
    (exclusive : t.writer.isSome → t.readers = [])
    (launches : ∀ launch ∈ t.launches, launch ∈ s.launches ∨ Vouched env t launch ∧ Stands t.db
      (IntakePlace.submissionRecord env launch.request launch.method) launch.admission)
    (rows : ∀ row ∈ t.db.prolificSubmissions,
      row ∈ s.db.prolificSubmissions ∨ ∃ launch ∈ t.launches, launch.Left env row)
    (participants : ∀ participant ∈ t.participants, participant ∈ s.participants ∨
      (participant.source = .prolific → ∃ launch ∈ t.launches, participant = launch.participant))
    (enrolled : Enrolled t.db) (keeps : Keeps s.db t.db) : t.Sound env start where
  preflight entry cached := (preflight entry cached).elim (sound.preflight entry) id
  study verified published := by
    obtain old | new := study verified published
    · obtain ⟨config, checked⟩ := sound.study verified old
      exact ⟨config, later.checks checked⟩
    · exact new
  checks config verified checked := (checks config verified checked).elim (sound.checks config verified) id
  keys given cached := (keys given cached).elim (fun old => later.fetched (sound.keys given old)) id
  exclusive := exclusive
  launches launch stored := (launches launch stored).elim
    (fun old => (sound.launches launch old).later later) And.left
  rows row stored := by
    obtain old | new := rows row stored
    · obtain old | ⟨launch, known, left⟩ := sound.rows row old
      · exact .inl old
      · exact .inr ⟨launch, later.launches known, left⟩
    · exact .inr new
  participants participant member prolific := by
    obtain old | new := participants participant member
    · obtain ⟨launch, known, same⟩ := sound.participants participant old prolific
      exact ⟨launch, later.launches known, same⟩
    · exact new prolific
  enrolled := enrolled
  stands launch stored := (launches launch stored).elim
    (fun old => (sound.stands launch old).kept keeps) And.right

/-- The creation rate and the lock of session admission concern nothing else. -/
theorem IntakeState.Sound.quiet (sound : s.Sound env start) {rate : ParticipantCreationRate}
    {clock : Int} {attempts : List Int} {sessionAdmission : Bool} :
    Kept env start pid s { s with rate, clock, attempts, sessionAdmission } := by
  have later : Later pid s { s with rate, clock, attempts, sessionAdmission } :=
    ⟨List.Subset.refl _, List.Subset.refl _, List.Subset.refl _, List.Subset.refl _,
      fun _ _ holds => ⟨holds, rfl⟩, fun _ _ holds => holds⟩
  exact ⟨sound.of_later later (fun _ => .inl) (fun _ => .inl) (fun _ _ => .inl) (fun _ => .inl)
    sound.exclusive (fun _ => .inl) (fun _ => .inl) (fun _ => .inl) sound.enrolled (.refl _), later⟩

/-- Provider answers, and the clients that get them. -/
theorem IntakeState.Sound.heard (sound : s.Sound env start) {fetched : List CachedJwks}
    {submissions : List (String × Submission)} {keyCaches : List (Option CachedJwks)}
    {client : Option Nat} (more : s.fetched ⊆ fetched) (further : s.submissions ⊆ submissions)
    (keys : ∀ keys, some keys ∈ keyCaches → some keys ∈ s.keyCaches ∨ keys ∈ fetched) :
    Kept env start pid s { s with fetched, submissions, keyCaches, client } := by
  have later : Later pid s { s with fetched, submissions, keyCaches, client } :=
    ⟨List.Subset.refl _, more, further, List.Subset.refl _, fun _ _ holds => ⟨holds, rfl⟩,
      fun _ _ holds => holds⟩
  exact ⟨sound.of_later later (fun _ => .inl) (fun _ => .inl) (fun _ _ => .inl) keys
    sound.exclusive (fun _ => .inl) (fun _ => .inl) (fun _ => .inl) sound.enrolled (.refl _), later⟩

/-- The locks change hands, and with them the lifecycle may change. -/
theorem IntakeState.Sound.locked (sound : s.Sound env start) {lifecycle : ExperimentLifecycle}
    {readers : List Nat} {writer : Option Nat} {sessionAdmission : Bool}
    (exclusive : writer.isSome → readers = [])
    (read : ∀ other ≠ pid, other ∈ s.readers → other ∈ readers ∧ lifecycle = s.lifecycle)
    (written : ∀ other ≠ pid, s.writer = some other → writer = some other) :
    Kept env start pid s { s with lifecycle, readers, writer, sessionAdmission } := by
  have later : Later pid s { s with lifecycle, readers, writer, sessionAdmission } :=
    ⟨List.Subset.refl _, List.Subset.refl _, List.Subset.refl _, List.Subset.refl _, read, written⟩
  exact ⟨sound.of_later later (fun _ => .inl) (fun _ => .inl) (fun _ _ => .inl) (fun _ => .inl)
    exclusive (fun _ => .inl) (fun _ => .inl) (fun _ => .inl) sound.enrolled (.refl _), later⟩

section

variable {db db' : Database}

theorem insertParticipant_rows {participant : ParticipantRecord} {identifiers : List String}
    {now : Timestamp} {row : ParticipantRow}
    (inserted : db.insertParticipant participant identifiers now = .ok (db', row)) :
    db'.prolificSubmissions = db.prolificSubmissions := by
  unfold Database.insertParticipant at inserted
  split at inserted
  · cases inserted
  · cases inserted
    rfl

theorem upsertStep_rows {participant : ParticipantRecord} {pc pc' : UpsertPc}
    {given : ParticipantInput} (done : pc.step participant db given = some (db', pc')) :
    db'.prolificSubmissions = db.prolificSubmissions := by
  cases pc with
  | lookup =>
    simp only [UpsertPc.step] at done
    split at done
    · cases done
      rfl
    · split at done <;> cases done <;> rfl
  | insert =>
    simp only [UpsertPc.step] at done
    split at done
    · cases done
      rfl
    · split at done
      · rename_i inserted
        cases done
        exact insertParticipant_rows inserted
      · cases done
        rfl
  | returned result => cases done

/-- An admission stores at most one row, and that row is the submission's. -/
theorem admit_rows {submission : ProlificSubmissionRecord} {identifiers : List String}
    {id : ParticipantSessionId} {now : Timestamp} {admission : ProlificAdmission}
    (admitted : db.admitProlificSubmission submission identifiers id now = .ok (db', admission))
    {row : ProlificSubmissionRow} (stored : row ∈ db'.prolificSubmissions) :
    row ∈ db.prolificSubmissions ∨ row.experimentId = submission.experimentId ∧
      row.prolificParticipantId = submission.prolificParticipantId ∧
      row.prolificStudyId = submission.prolificStudyId ∧
      row.prolificSessionId = submission.prolificSessionId ∧
      row.verificationMethod = submission.verificationMethod ∧
      row.participantSessionId = admission.participantSessionId := by
  unfold Database.admitProlificSubmission at admitted
  split at admitted
  · split at admitted
    · cases admitted
    · cases admitted
      exact .inl stored
  · obtain ⟨⟨inserted, participant⟩, insert, admitted⟩ := Except.of_bind_ok admitted
    simp only at admitted
    split at admitted
    · cases admitted
    · cases admitted
      obtain old | new := List.mem_append.mp stored
      · exact .inl (insertParticipant_rows insert ▸ old)
      · cases List.mem_singleton.mp new
        exact .inr ⟨rfl, rfl, rfl, rfl, rfl, rfl⟩

end

/-- Whoever is admitted is stored, and stays so. -/
theorem IntakeState.Sound.admitted (sound : s.Sound env start) {request : ProlificParticipantRequest}
    {method : VerificationMethod} {identifiers : List String} {id : ParticipantSessionId}
    {now : Timestamp} {db : Database} {admission : ProlificAdmission} {launches : List Launch}
    (admitted : s.db.admitProlificSubmission (IntakePlace.submissionRecord env request method)
      identifiers id now = .ok (db, admission))
    (asked : Asked env request) (allowed : s.lifecycle.allowsIntake = true)
    (verified : Verified env s request s.lifecycle method)
    (more : launches = s.launches ++ [⟨request, method, s.lifecycle, s.lifecycle, admission⟩]) :
    Kept env start pid s { s with db, launches } := by
  subst more
  obtain ⟨enrolled, keeps, stands⟩ := sound.enrolled.admitProlificSubmission admitted
  have later : Later pid s { s with
      db, launches := s.launches ++ [⟨request, method, s.lifecycle, s.lifecycle, admission⟩] } :=
    ⟨List.Subset.refl _, List.Subset.refl _, List.Subset.refl _, List.subset_append_left _ _,
      fun _ _ holds => ⟨holds, rfl⟩, fun _ _ holds => holds⟩
  refine ⟨sound.of_later later (fun _ => .inl) (fun _ => .inl) (fun _ _ => .inl) (fun _ => .inl)
    sound.exclusive (fun launch stored => ?_) (fun row stored => ?_) (fun _ => .inl) enrolled keeps,
    later⟩
  · obtain old | new := List.mem_append.mp stored
    · exact .inl old
    · cases List.mem_singleton.mp new
      exact .inr ⟨⟨asked, allowed, rfl, verified.later later⟩, stands⟩
  · obtain old | ⟨experiment, participant, study, session, method, given⟩ := admit_rows admitted stored
    · exact .inl old
    · exact .inr ⟨_, List.mem_append_right _ (List.mem_singleton.mpr rfl),
        ⟨experiment, participant, study, session, method, given⟩⟩

theorem IntakeState.Sound.registered (sound : s.Sound env start) {db : Database}
    (rows : db.prolificSubmissions = s.db.prolificSubmissions) (enrolled : Enrolled db)
    (keeps : Keeps s.db db) :
    Kept env start pid s { s with db } := by
  have later : Later pid s { s with db } :=
    ⟨List.Subset.refl _, List.Subset.refl _, List.Subset.refl _, List.Subset.refl _,
      fun _ _ holds => ⟨holds, rfl⟩, fun _ _ holds => holds⟩
  exact ⟨sound.of_later later (fun _ => .inl) (fun _ => .inl) (fun _ _ => .inl) (fun _ => .inl)
    sound.exclusive (fun _ => .inl) (fun row stored => .inl (rows ▸ stored)) (fun _ => .inl) enrolled
    keeps, later⟩

theorem IntakeState.Sound.remembered (sound : s.Sound env start) {participant : IntakeParticipant}
    {sessionAdmission : Bool} (launched : participant.source = .prolific →
      ∃ launch ∈ s.launches, participant = launch.participant) :
    Kept env start pid s
      { s with sessionAdmission, participants := s.participants ++ [participant] } := by
  have later : Later pid s
      { s with sessionAdmission, participants := s.participants ++ [participant] } :=
    ⟨List.Subset.refl _, List.Subset.refl _, List.Subset.refl _, List.Subset.refl _,
      fun _ _ holds => ⟨holds, rfl⟩, fun _ _ holds => holds⟩
  refine ⟨sound.of_later later (fun _ => .inl) (fun _ => .inl) (fun _ _ => .inl) (fun _ => .inl)
    sound.exclusive (fun _ => .inl) (fun _ => .inl) (fun other member => ?_) sound.enrolled
    (.refl _), later⟩
  obtain old | new := List.mem_append.mp member
  · exact .inl old
  · exact .inr (List.mem_singleton.mp new ▸ launched)

theorem IntakeState.Sound.cached (sound : s.Sound env start) {entry : PreflightCacheEntry}
    (genuine : Genuine env entry) :
    Kept env start pid s { s with preflight := some entry } := by
  have later : Later pid s { s with preflight := some entry } :=
    ⟨List.Subset.refl _, List.Subset.refl _, List.Subset.refl _, List.Subset.refl _,
      fun _ _ holds => ⟨holds, rfl⟩, fun _ _ holds => holds⟩
  refine ⟨sound.of_later later (fun other cached => ?_) (fun _ => .inl) (fun _ _ => .inl)
    (fun _ => .inl) sound.exclusive (fun _ => .inl) (fun _ => .inl) (fun _ => .inl) sound.enrolled
    (.refl _), later⟩
  cases cached
  exact .inr genuine

theorem IntakeState.Sound.published (sound : s.Sound env start) {config : RuntimeConfig}
    {study : Option VerifiedProlificStudy} {checks : List (RuntimeConfig × VerifiedProlificStudy)}
    (passed : ∀ verified, study = some verified → Passed config verified)
    (more : checks = s.checks ++ study.toList.map (config, ·)) :
    Kept env start pid s { s with study, checks } := by
  subst more
  have later : Later pid s
      { s with study, checks := s.checks ++ study.toList.map (config, ·) } :=
    ⟨List.subset_append_left _ _, List.Subset.refl _, List.Subset.refl _, List.Subset.refl _,
      fun _ _ holds => ⟨holds, rfl⟩, fun _ _ holds => holds⟩
  refine ⟨sound.of_later later (fun _ => .inl) (fun verified published => .inr ⟨config, ?_⟩)
    (fun other verified checked => ?_) (fun _ => .inl) sound.exclusive (fun _ => .inl)
    (fun _ => .inl) (fun _ => .inl) sound.enrolled (.refl _), later⟩
  · change study = some verified at published
    subst published
    exact List.mem_append_right _ (List.mem_singleton.mpr rfl)
  · obtain old | new := List.mem_append.mp checked
    · exact .inl old
    · obtain ⟨given, member, same⟩ := List.mem_map.mp new
      cases same
      exact .inr (passed verified (Option.mem_toList.mp member))

namespace IntakePlace

variable {found : ExperimentLifecycle} {place place' : IntakePlace}

theorem checkRequest_some {request : Option ProlificParticipantRequest}
    {prolific : ProlificParticipantRequest}
    (checked : checkRequest env request = .ok (some prolific)) : request = some prolific := by
  unfold checkRequest at checked
  obtain ⟨-, checked⟩ := Except.of_check_ok checked
  split at checked
  · cases checked
  · cases request with
    | none => cases checked
    | some given =>
      obtain ⟨-, checked⟩ := Except.of_check_ok checked
      obtain ⟨-, checked⟩ := Except.of_check_ok checked
      cases checked
      rfl

theorem sound_findKey {launch : SignedLaunch} {forced : Bool} {keys : CachedJwks}
    (pending : launch.Pending env s) (known : keys ∈ s.fetched)
    (led : findKey launch forced keys = .ok place') : place'.Sound env found s := by
  unfold findKey at led
  split at led
  · rename_i jwk here
    cases led
    have named := List.find?_some here
    exact ⟨pending, keys, known, List.mem_of_find?_eq_some here, by simpa using named⟩
  · cases led
    exact pending
  · cases led

theorem sound_link {prolific : ProlificParticipantRequest} {client : Nat}
    {config : RuntimeConfig} {verified : VerifiedProlificStudy} (asked : Asked env prolific)
    (checked : (config, verified) ∈ s.checks)
    (led : link env prolific client verified = .ok place') : place'.Sound env found s := by
  unfold link at led
  split at led
  · rename_i plain
    cases led
    exact ⟨asked, config, verified, checked, by simpa using plain⟩
  · rename_i secure
    split at led
    · cases led
    · rename_i token given
      split at led
      · cases led
      · rename_i header decoded
        split at led
        · cases led
        · rename_i algorithm
          split at led
          · cases led
          · rename_i keyId named
            cases led
            exact ⟨asked, ⟨config, checked⟩, by simpa using secure, given, header, decoded,
              by simpa using algorithm, named⟩

theorem signedFor {launch : SignedLaunch} {jwk : Jwk} {keys : CachedJwks} {now : Timestamp}
    (pending : launch.Pending env s) (known : keys ∈ s.fetched) (listed : jwk ∈ keys.keys)
    (named : jwk.keyId = some launch.keyId)
    (verified : verifySignedLaunch env launch jwk now = .ok ()) :
    SignedFor env s launch.verified launch.prolific := by
  unfold verifySignedLaunch at verified
  obtain ⟨key, decoding, verified⟩ := Except.of_bind_ok verified
  obtain ⟨claims, decoded, verified⟩ := Except.of_bind_ok verified
  obtain ⟨subject, verified⟩ := Except.of_check_ok verified
  obtain ⟨-, verified⟩ := Except.of_check_ok verified
  obtain ⟨workspace, verified⟩ := Except.of_check_ok verified
  obtain ⟨header, read, algorithm, keyId⟩ := pending.header
  refine ⟨launch.token, header, launch.keyId, keys, jwk, key, claims, now, pending.token, read,
    algorithm, keyId, known, listed, named, ?_, ?_, ?_⟩
  · cases given : env.decodingKey jwk with
    | error error => simp [given, Except.mapError] at decoding
    | ok other => simpa [given, Except.mapError] using decoding
  · cases given : env.decode launch.token key "https://www.prolific.com"
      launch.verified.study.externalStudyUrl now with
    | error error => simp [given, Except.mapError] at decoded
    | ok other => simpa [given, Except.mapError] using decoded
  · split at verified
    · cases verified
    · rename_i matching
      obtain ⟨sub, participantId, studyId, sessionId, workspaceId⟩ := claims
      simp only [bne_iff_ne, ne_eq, not_not, Bool.or_eq_true, not_or] at subject workspace matching
      obtain ⟨⟨participant, study⟩, session⟩ := matching
      rw [subject, workspace, participant, study, session]

/-- One step of a call that is let in leaves its lock alone, and leads to a place it may be at. -/
theorem step_sound {request : Option ProlificParticipantRequest}
    {next : Except IntakeReply IntakePlace} (sound : s.Sound env start)
    (here : place.Sound env found s) (same : s.lifecycle = found)
    (allowed : found.allowsIntake = true)
    (done : place.step env request found s input = some (t, next)) :
    Kept env start pid s t ∧ (t.readers = s.readers ∧ t.lifecycle = s.lifecycle) ∧
      ∀ place', next = .ok place' → place'.Sound env found t := by
  cases place with
  | pacing =>
    simp only [step] at done
    split at done
    · cases done
      refine ⟨sound.quiet, ⟨rfl, rfl⟩, fun place' led => ?_⟩
      cases led
      trivial
    · cases done
      exact ⟨sound.quiet, ⟨rfl, rfl⟩, fun place' led => by cases led⟩
  | checking =>
    simp only [step] at done
    split at done
    · cases done
      exact ⟨sound.kept, ⟨rfl, rfl⟩, fun place' led => by cases led⟩
    · cases done
      refine ⟨sound.kept, ⟨rfl, rfl⟩, fun place' led => ?_⟩
      cases led
      intro request method given
      cases given
    · rename_i prolific checked
      have given := checkRequest_some checked
      subst given
      split at done
      · rename_i synthetic
        cases done
        refine ⟨sound.kept, ⟨rfl, rfl⟩, fun place' led => ?_⟩
        cases led
        intro request method given
        cases given
        exact ⟨checked, synthetic⟩
      · cases done
        refine ⟨sound.kept, ⟨rfl, rfl⟩, fun place' led => ?_⟩
        cases led
        exact checked
  | connecting prolific =>
    simp only [step] at done
    split at done
    · cases done
      exact ⟨sound.kept, ⟨rfl, rfl⟩, fun place' led => by cases led⟩
    · cases done
      refine ⟨sound.kept, ⟨rfl, rfl⟩, fun place' led => ?_⟩
      cases led
      exact here
  | linking prolific client =>
    simp only [step] at done
    split at done
    · cases done
      exact ⟨sound.kept, ⟨rfl, rfl⟩, fun place' led => by cases led⟩
    · rename_i verified published
      cases done
      obtain ⟨config, checked⟩ := sound.study verified published
      exact ⟨sound.kept, ⟨rfl, rfl⟩, fun place' led => sound_link here checked led⟩
  | cachedKeys launch =>
    simp only [step] at done
    split at done
    · cases done
      refine ⟨sound.kept, ⟨rfl, rfl⟩, fun place' led => ?_⟩
      cases led
      exact here
    · rename_i cached stored
      have known := sound.keys cached (List.mem_of_getElem? (Option.join_eq_some_iff.mp stored))
      split at done
      · cases done
        exact ⟨sound.kept, ⟨rfl, rfl⟩, fun place' led => sound_findKey here known led⟩
      · cases done
        refine ⟨sound.kept, ⟨rfl, rfl⟩, fun place' led => ?_⟩
        cases led
        exact here
  | fetchingKeys launch forced =>
    simp only [step] at done
    split at done
    · cases done
      exact ⟨sound.kept, ⟨rfl, rfl⟩, fun place' led => by cases led⟩
    · cases done
      have kept : Kept env start pid s { s with fetched := s.fetched ++ [⟨input.now, input.keys⟩] } :=
        sound.heard (List.subset_append_left _ _) (List.Subset.refl _) fun _ => .inl
      refine ⟨kept, ⟨rfl, rfl⟩, fun place' led => ?_⟩
      cases led
      exact ⟨SignedLaunch.Pending.later here kept.later,
        List.mem_append_right _ (List.mem_singleton.mpr rfl)⟩
  | storingKeys launch forced keys =>
    cases done
    obtain ⟨pending, known⟩ := here
    have kept : Kept env start pid s
        { s with keyCaches := s.keyCaches.set launch.client (some keys) } := by
      refine sound.heard (List.Subset.refl _) (List.Subset.refl _) fun given cached => ?_
      obtain old | new := List.mem_or_eq_of_mem_set cached
      · exact .inl old
      · cases new
        exact .inr known
    exact ⟨kept, ⟨rfl, rfl⟩, fun place' led => sound_findKey (pending.later kept.later) known led⟩
  | decoding launch jwk =>
    cases done
    obtain ⟨pending, keys, known, listed, named⟩ := here
    refine ⟨sound.kept, ⟨rfl, rfl⟩, fun place' led => ?_⟩
    cases verified : verifySignedLaunch env launch jwk input.now with
    | error reply => simp [verified, Except.map] at led
    | ok checked =>
      rw [verified] at led
      cases led
      intro request method given
      cases given
      obtain ⟨config, checked⟩ := pending.checked
      exact ⟨pending.asked, config, launch.verified, checked, pending.secure,
        signedFor pending known listed named verified⟩
  | asking prolific =>
    obtain ⟨asked, config, verified, checked, plain⟩ := here
    simp only [step] at done
    split at done
    · cases done
      exact ⟨sound.kept, ⟨rfl, rfl⟩, fun place' led => by cases led⟩
    · rename_i submission answered
      have kept : Kept env start pid s
          { s with submissions := s.submissions ++ [(prolific.sessionId, submission)] } :=
        sound.heard (List.Subset.refl _) (List.subset_append_left _ _) fun _ => .inl
      split at done
      · rename_i matching
        cases done
        refine ⟨kept, ⟨rfl, rfl⟩, fun place' led => ?_⟩
        cases led
        intro request method given
        cases given
        simp only [isSubmissionOf, Bool.and_eq_true, beq_iff_eq] at matching
        exact ⟨asked, ⟨config, verified, checked, plain⟩, submission,
          List.mem_append_right _ (List.mem_singleton.mpr rfl), matching.1.1, matching.1.2, matching.2⟩
      · cases done
        exact ⟨kept, ⟨rfl, rfl⟩, fun place' led => by cases led⟩
  | locking prolific =>
    simp only [step] at done
    split at done
    · cases done
    · cases done
      refine ⟨sound.quiet, ⟨rfl, rfl⟩, fun place' led => ?_⟩
      cases led
      exact here
  | counting prolific =>
    simp only [step] at done
    split at done
    · cases done
      exact ⟨sound.kept, ⟨rfl, rfl⟩, fun place' led => by cases led⟩
    · split at done
      · cases done
        refine ⟨sound.kept, ⟨rfl, rfl⟩, fun place' led => ?_⟩
        cases led
        trivial
      · rename_i prolific method
        cases done
        refine ⟨sound.kept, ⟨rfl, rfl⟩, fun place' led => ?_⟩
        cases led
        exact here prolific method rfl
  | admitting prolific method =>
    obtain ⟨asked, verified⟩ := here
    simp only [step] at done
    split at done
    · cases done
      exact ⟨sound.kept, ⟨rfl, rfl⟩, fun place' led => by cases led⟩
    · split at done
      · cases done
        exact ⟨sound.kept, ⟨rfl, rfl⟩, fun place' led => by cases led⟩
      · rename_i db admission admitted
        subst same
        cases done
        refine ⟨sound.admitted admitted asked allowed verified rfl, ⟨rfl, rfl⟩, fun place' led => ?_⟩
        cases led
        exact fun _ => ⟨_, List.mem_append_right _ (List.mem_singleton.mpr rfl), rfl⟩
  | registering pc =>
    simp only [step] at done
    split at done
    · cases done
      refine ⟨sound.kept, ⟨rfl, rfl⟩, fun place' led => ?_⟩
      cases led
      trivial
    · cases done
      exact ⟨sound.kept, ⟨rfl, rfl⟩, fun place' led => by cases led⟩
    · obtain ⟨⟨db, pc'⟩, step, made⟩ := Option.map_eq_some_iff.mp done
      cases made
      obtain ⟨enrolled, keeps⟩ := sound.enrolled.upsertStep step
      refine ⟨sound.registered (upsertStep_rows step) enrolled keeps, ⟨rfl, rfl⟩, fun place' led => ?_⟩
      cases led
      trivial
  | identifying participantId =>
    simp only [step] at done
    split at done
    · cases done
      refine ⟨sound.kept, ⟨rfl, rfl⟩, fun place' led => ?_⟩
      cases led
      intro prolific
      cases prolific
    · cases done
      exact ⟨sound.kept, ⟨rfl, rfl⟩, fun place' led => by cases led⟩
  | remembering participant =>
    simp only [step] at done
    split at done
    · cases done
      refine ⟨sound.quiet, ⟨rfl, rfl⟩, fun place' led => ?_⟩
      cases led
      trivial
    · cases done
      refine ⟨sound.remembered here, ⟨rfl, rfl⟩, fun place' led => ?_⟩
      cases led
      trivial
  | issuing participant =>
    cases done
    exact ⟨sound.kept, ⟨rfl, rfl⟩, fun place' led => by cases led⟩

end IntakePlace

theorem Kept.trans {u : IntakeState} (first : Kept env start pid s t)
    (second : Kept env start pid t u) : Kept env start pid s u := by
  refine ⟨second.sound, ⟨List.Subset.trans first.later.checks second.later.checks,
    List.Subset.trans first.later.fetched second.later.fetched,
    List.Subset.trans first.later.submissions second.later.submissions,
    List.Subset.trans first.later.launches second.later.launches, ?_, ?_⟩⟩
  · intro other apart holds
    obtain ⟨holds, same⟩ := first.later.readers other apart holds
    obtain ⟨holds, same'⟩ := second.later.readers other apart holds
    exact ⟨holds, same'.trans same⟩
  · exact fun other apart holds =>
      second.later.writer other apart (first.later.writer other apart holds)

theorem IntakePc.leave_kept (sound : s.Sound env start) (place : IntakePlace) :
    Kept env start pid s (leave s pid place) := by
  refine sound.locked (fun held => ?_) (fun other apart holds => ⟨?_, rfl⟩) fun _ _ holds => holds
  · rw [sound.exclusive held]
    rfl
  · exact List.mem_filter.mpr ⟨holds, by simpa using apart⟩

theorem IntakePc.step_sound {request : Option ProlificParticipantRequest} {pc pc' : IntakePc}
    (sound : s.Sound env start) (here : pc.Sound env s pid)
    (done : pc.step env request s pid input = some (t, pc')) :
    Kept env start pid s t ∧ pc'.Sound env t pid := by
  cases pc with
  | entering =>
    simp only [step] at done
    split at done
    · cases done
    · rename_i free
      split at done
      · cases done
        exact ⟨sound.kept, trivial⟩
      · rename_i open_
        cases done
        refine ⟨sound.locked (fun held => absurd held free)
          (fun other apart holds => ⟨List.mem_cons_of_mem _ holds, rfl⟩) fun _ _ holds => holds, ?_⟩
        exact ⟨List.mem_cons_self, rfl, by simpa using open_, trivial⟩
  | inside found place =>
    obtain ⟨reads, same, allowed, here⟩ := here
    simp only [step] at done
    split at done
    · cases done
      exact ⟨leave_kept sound place, trivial⟩
    · split at done
      · cases done
      · rename_i next step
        cases done
        obtain ⟨kept, ⟨readers, lifecycle⟩, leads⟩ :=
          IntakePlace.step_sound sound here same allowed step
        exact ⟨kept, readers ▸ reads, lifecycle.trans same, allowed, leads _ rfl⟩
      · rename_i reply step
        cases done
        obtain ⟨kept, -, -⟩ := IntakePlace.step_sound sound here same allowed step
        exact ⟨kept.trans (leave_kept kept.sound place), trivial⟩
  | done reply => cases done

theorem PreflightPc.step_sound (injective : Function.Injective env.sha256) {config : RuntimeConfig}
    {url : String} {pc pc' : PreflightPc} (sound : s.Sound env start) (fits : fits config url = true)
    (here : pc.Sound config) (done : pc.step env config url s input = some (t, pc')) :
    Kept env start pid s t ∧ pc'.Sound config := by
  have unpublished (issues : List String) : Prolific.Sound config (issues, none) := by
    intro verified published
    cases published
  cases pc with
  | looking =>
    simp only [step] at done
    split at done
    · cases done
      exact ⟨sound.kept, trivial⟩
    · rename_i entry cached
      split at done
      · rename_i recent
        cases done
        -- The entry is of a configuration with the same fingerprint, hence with the same contract.
        obtain ⟨other, url', fits', fingerprint, known⟩ := sound.preflight entry cached
        have same := fingerprint_sameContract injective fits' fits
          (fingerprint.symm.trans recent.1)
        exact ⟨sound.kept, fun verified published issues =>
          (known verified published issues).of_same same⟩
      · cases done
        exact ⟨sound.kept, trivial⟩
  | starting =>
    simp only [step] at done
    split at done
    · cases done
      exact ⟨sound.kept, unpublished _⟩
    · rename_i enabled
      split at done
      · cases done
        exact ⟨sound.kept, unpublished _⟩
      · split at done
        · cases done
          exact ⟨sound.kept, unpublished _⟩
        · cases done
          refine ⟨sound.kept, ?_⟩
          change config.stored.recruitment.prolific.enabled = true
          simpa using enabled
  | askingStudy =>
    simp only [step] at done
    split at done
    · cases done
      exact ⟨sound.kept, unpublished _⟩
    · split at done
      · cases done
        exact ⟨sound.kept, here⟩
      · cases done
        exact ⟨sound.kept, sound_studyPreflight here _ _⟩
  | askingProject study =>
    cases done
    exact ⟨sound.kept, sound_studyPreflight here _ _⟩
  | caching result =>
    cases done
    exact ⟨sound.cached ⟨config, url, fits, rfl, here⟩, here⟩
  | done result => cases done

theorem StatusPc.step_sound (injective : Function.Injective env.sha256) {call : StatusCall}
    {pc pc' : StatusPc} (sound : s.Sound env start) (here : pc.Sound s pid)
    (done : pc.step env call s pid input = some (t, pc')) :
    Kept env start pid s t ∧ pc'.Sound t pid := by
  cases pc with
  | definition =>
    simp only [step] at done
    split at done
    · cases done
      exact ⟨sound.kept, trivial⟩
    · cases done
      refine ⟨sound.kept, ?_⟩
      split <;> trivial
  | hydrating =>
    simp only [step] at done
    split at done
    · cases done
      exact ⟨sound.kept, trivial⟩
    · split at done
      · cases done
      · rename_i fits
        split at done
        · cases done
          exact ⟨sound.kept, trivial⟩
        · split at done
          · cases done
            exact ⟨sound.kept, trivial⟩
          · cases done
            exact ⟨sound.kept, by simpa using fits, trivial⟩
  | checking config url pc =>
    obtain ⟨fits, here⟩ := here
    unfold step at done
    split at done
    case h_3 issues study pc =>
      cases pc
      split at done
      · cases done
        exact ⟨sound.kept, trivial⟩
      · rename_i none_
        cases done
        exact ⟨sound.kept, fun verified published => here verified published (not_not.mp none_)⟩
    case h_4 pc =>
      cases pc
      obtain ⟨⟨u, next⟩, step, same⟩ := Option.map_eq_some_iff.mp done
      cases same
      obtain ⟨kept, here⟩ := PreflightPc.step_sound injective sound fits here step
      exact ⟨kept, fits, here⟩
    all_goals rename_i pc
    all_goals cases pc
  | publishing config study =>
    cases done
    exact ⟨sound.published here rfl, trivial⟩
  | connecting config =>
    simp only [step] at done
    split at done
    · cases done
      exact ⟨sound.heard (List.Subset.refl _) (List.Subset.refl _) fun _ => .inl, trivial⟩
    · split at done
      · cases done
        exact ⟨sound.kept, trivial⟩
      · cases done
        refine ⟨sound.heard (List.Subset.refl _) (List.Subset.refl _) fun keys cached => ?_, trivial⟩
        obtain old | new := List.mem_append.mp cached
        · exact .inl old
        · cases List.mem_singleton.mp new
  | locking =>
    simp only [step] at done
    split at done
    · cases done
    · rename_i free
      cases done
      simp only [Bool.or_eq_true, not_or, Bool.not_eq_true, Option.isSome_eq_false_iff,
        Option.isNone_iff_eq_none, Bool.not_eq_false, Bool.not_eq_eq_eq_not, Bool.not_true,
        List.isEmpty_iff] at free
      refine ⟨sound.locked (fun _ => free.2) (fun _ _ holds => ⟨holds, rfl⟩)
        fun other apart held => ?_, rfl⟩
      rw [free.1] at held
      cases held
  | transition =>
    have gone : ∀ other ≠ pid, s.writer = some other → (none : Option Nat) = some other := by
      intro other apart held
      exact absurd (Option.some.inj (here.symm.trans held)).symm apart
    have alone : s.readers = [] := sound.exclusive (by rw [here]; rfl)
    simp only [step] at done
    split at done
    · cases done
      exact ⟨sound.locked (fun held => by cases held) (fun _ _ holds => ⟨holds, rfl⟩) gone, trivial⟩
    · split at done
      · cases done
        exact ⟨sound.locked (fun held => by cases held) (fun _ _ holds => ⟨holds, rfl⟩) gone, trivial⟩
      · cases done
        refine ⟨sound.locked sound.exclusive (fun other apart holds => ?_) fun _ _ held => held, here⟩
        rw [alone] at holds
        cases holds
  | releasing =>
    cases done
    refine ⟨sound.locked (fun held => by cases held) (fun _ _ holds => ⟨holds, rfl⟩)
      fun other apart held => ?_, trivial⟩
    exact absurd (Option.some.inj (here.symm.trans held)).symm apart
  | done reply => cases done

theorem StatusPc.leave_kept {pc : StatusPc} (sound : s.Sound env start) (here : pc.Sound s pid) :
    Kept env start pid s (pc.leave s) := by
  have gone (held : s.writer = some pid) : Kept env start pid s { s with writer := none } := by
    refine sound.locked (fun held => by cases held) (fun _ _ holds => ⟨holds, rfl⟩)
      fun other apart others => ?_
    exact absurd (Option.some.inj (held.symm.trans others)).symm apart
  cases pc with
  | transition => exact gone here
  | releasing => exact gone here
  | _ => exact sound.kept

theorem RefreshPc.step_sound (injective : Function.Injective env.sha256) {publishes cached : Bool}
    {pc pc' : RefreshPc} (sound : s.Sound env start) (here : pc.Sound)
    (done : pc.step env publishes cached s input = some (t, pc')) :
    Kept env start pid s t ∧ pc'.Sound := by
  cases pc with
  | hydrating =>
    simp only [step] at done
    split at done
    · cases done
      exact ⟨sound.kept, trivial⟩
    · split at done
      · cases done
      · rename_i fits
        split at done
        · cases done
          exact ⟨sound.kept, trivial⟩
        · cases done
          refine ⟨sound.kept, by simpa using fits, ?_⟩
          split <;> trivial
  | checking config url pc =>
    obtain ⟨fits, here⟩ := here
    unfold step at done
    split at done
    case h_2 issues study pc =>
      cases pc
      split at done
      · cases done
        exact ⟨sound.kept, trivial⟩
      · split at done
        · cases done
          exact ⟨sound.kept, trivial⟩
        · rename_i none_
          split at done
          · cases done
            exact ⟨sound.kept, trivial⟩
          · cases done
            exact ⟨sound.kept, here _ rfl (not_not.mp none_)⟩
    case h_3 pc =>
      cases pc
      obtain ⟨⟨u, next⟩, step, same⟩ := Option.map_eq_some_iff.mp done
      cases same
      obtain ⟨kept, here⟩ := PreflightPc.step_sound injective sound fits here step
      exact ⟨kept, fits, here⟩
    all_goals rename_i pc
    all_goals cases pc
  | publishing config verified =>
    cases done
    have passed : ∀ given, some verified = some given → Passed config given := by
      intro given published
      cases published
      exact here
    exact ⟨sound.published passed rfl, trivial⟩
  | done reply => cases done

structure Aside (s t : IntakeState) : Prop where
  rate : t.rate = s.rate
  clock : t.clock = s.clock
  attempts : t.attempts = s.attempts
  db : t.db = s.db
  participants : t.participants = s.participants
  launches : t.launches = s.launches

theorem Aside.refl (s : IntakeState) : Aside s s := ⟨rfl, rfl, rfl, rfl, rfl, rfl⟩

theorem PreflightPc.step_aside {config : RuntimeConfig} {url : String} {pc pc' : PreflightPc}
    (done : pc.step env config url s input = some (t, pc')) : Aside s t := by
  cases pc with
  | done result => cases done
  | caching result =>
    cases done
    exact ⟨rfl, rfl, rfl, rfl, rfl, rfl⟩
  | _ =>
    simp only [step] at done
    repeat' split at done
    all_goals
      cases done
      exact .refl s

theorem StatusPc.step_aside {call : StatusCall} {pc pc' : StatusPc}
    (done : pc.step env call s pid input = some (t, pc')) : Aside s t := by
  cases pc with
  | checking config url pc =>
    unfold step at done
    split at done
    case h_4 pc =>
      cases pc
      obtain ⟨⟨u, next⟩, step, same⟩ := Option.map_eq_some_iff.mp done
      cases same
      exact PreflightPc.step_aside step
    case h_3 issues study pc =>
      cases pc
      split at done <;> cases done <;> exact .refl s
    all_goals rename_i pc
    all_goals cases pc
  | definition =>
    simp only [step] at done
    split at done <;> cases done <;> exact .refl s
  | hydrating =>
    simp only [step] at done
    repeat' split at done
    all_goals cases done <;> exact .refl s
  | _ =>
    simp only [step] at done
    repeat' split at done
    all_goals cases done <;> exact ⟨rfl, rfl, rfl, rfl, rfl, rfl⟩

theorem StatusPc.leave_aside (pc : StatusPc) : Aside s (pc.leave s) := by
  cases pc <;> exact ⟨rfl, rfl, rfl, rfl, rfl, rfl⟩

theorem RefreshPc.step_aside {publishes cached : Bool} {pc pc' : RefreshPc}
    (done : pc.step env publishes cached s input = some (t, pc')) : Aside s t := by
  cases pc with
  | checking config url pc =>
    unfold step at done
    split at done
    case h_3 pc =>
      cases pc
      obtain ⟨⟨u, next⟩, step, same⟩ := Option.map_eq_some_iff.mp done
      cases same
      exact PreflightPc.step_aside step
    case h_2 issues study pc =>
      cases pc
      repeat' split at done
      all_goals
        cases done
        exact .refl s
    all_goals rename_i pc
    all_goals cases pc
  | publishing config verified =>
    cases done
    exact ⟨rfl, rfl, rfl, rfl, rfl, rfl⟩
  | hydrating =>
    simp only [step] at done
    repeat' split at done
    all_goals cases done <;> exact .refl s
  | done reply => cases done

theorem IntakeTask.step_sound (injective : Function.Injective env.sha256) {task task' : IntakeTask}
    (sound : s.Sound env start) (here : task.Sound env s pid)
    (done : task.step env s pid input = some (t, task')) :
    Kept env start pid s t ∧ task'.Sound env t pid := by
  cases task with
  | launch request pc =>
    obtain ⟨⟨u, next⟩, step, same⟩ := Option.map_eq_some_iff.mp done
    cases same
    exact IntakePc.step_sound sound here step
  | status call pc =>
    simp only [step] at done
    split at done
    · split at done
      · cases done
      · cases done
        exact ⟨StatusPc.leave_kept sound here, trivial⟩
    · obtain ⟨⟨u, next⟩, step, same⟩ := Option.map_eq_some_iff.mp done
      cases same
      exact StatusPc.step_sound injective sound here step
  | refresh publishes cached pc =>
    simp only [step] at done
    split at done
    · split at done
      · cases done
      · cases done
        exact ⟨sound.kept, trivial⟩
    · obtain ⟨⟨u, next⟩, step, same⟩ := Option.map_eq_some_iff.mp done
      cases same
      exact RefreshPc.step_sound injective sound here step

theorem intakeProgram_step (injective : Function.Injective env.sha256) {task task' : IntakeTask}
    {started : List IntakeTask} (sound : s.Sound env start) (here : task.Sound env s pid)
    (done : (intakeProgram env).step s pid task input = some (t, task', started)) :
    Kept env start pid s t ∧ task'.Sound env t pid ∧ started = [] := by
  obtain ⟨⟨u, next⟩, step, same⟩ := Option.map_eq_some_iff.mp done
  cases same
  obtain ⟨kept, here⟩ := IntakeTask.step_sound injective sound here step
  exact ⟨kept, here, rfl⟩

def intakeOutline (env : IntakeEnv) (injective : Function.Injective env.sha256)
    (start : IntakeState)
    (guard : Pool IntakeState IntakeTask → Pool.Action IntakeTask IntakeInput → Prop) :
    Outline (intakeProgram env) guard where
  inv s := s.Sound env start
  asn s pid task := task.Sound env s pid
  entry := by
    intro w task pid inv met entry
    cases task with
    | launch request pc =>
      cases pc with
      | entering => trivial
      | _ => cases entry
    | status call pc =>
      cases pc with
      | definition => trivial
      | _ => cases entry
    | refresh publishes cached pc =>
      cases pc with
      | hydrating => trivial
      | _ => cases entry
  step := by
    intro w pid input task s' task' started inv each met at_ step
    obtain ⟨kept, here, none_⟩ := intakeProgram_step injective inv (each pid task at_) step
    exact ⟨kept.sound, here, by simp [none_]⟩
  interference := by
    intro w pid input task s' task' started q other inv each met at_ step apart there holds
    obtain ⟨kept, -, -⟩ := intakeProgram_step injective inv (each pid task at_) step
    exact IntakeTask.Sound.later holds apart kept.later

/-- A runtime as it is mounted: what an earlier one of the process may have left it is the database
and the result of a preflight. -/
structure Mounted (env : IntakeEnv) (start : IntakeState) : Prop where
  study : start.study = none
  checks : start.checks = []
  launches : start.launches = []
  participants : start.participants = []
  keyCaches : ∀ keys, some keys ∉ start.keyCaches
  writer : start.writer = none
  preflight : ∀ entry, start.preflight = some entry → Genuine env entry
  enrolled : Enrolled start.db

theorem Mounted.sound (mounted : Mounted env start) : start.Sound env start where
  preflight := mounted.preflight
  study verified published := by
    rw [mounted.study] at published
    cases published
  checks config verified checked := by
    rw [mounted.checks] at checked
    cases checked
  keys keys cached := absurd cached (mounted.keyCaches keys)
  exclusive held := by
    rw [mounted.writer] at held
    cases held
  launches launch stored := by
    rw [mounted.launches] at stored
    cases stored
  rows row stored := .inl stored
  participants participant member := by
    rw [mounted.participants] at member
    cases member
  enrolled := mounted.enrolled
  stands launch stored := by
    rw [mounted.launches] at stored
    cases stored

variable {guard : Pool IntakeState IntakeTask → Pool.Action IntakeTask IntakeInput → Prop}
  {w : Pool IntakeState IntakeTask}

theorem sound_of_run (injective : Function.Injective env.sha256) (mounted : Mounted env start)
    (run : (intakeProgram env).machine.Run guard ⟨start, []⟩ w) :
    w.shared.Sound env start ∧ w.Each fun pid task => task.Sound env w.shared pid := by
  have valid : (intakeOutline env injective start guard).Valid w := by
    refine Outline.Valid.run run ⟨mounted.sound, ?_⟩
    intro pid task at_
    cases at_
  exact ⟨valid.inv, valid.each⟩

end Parlando.Intake
