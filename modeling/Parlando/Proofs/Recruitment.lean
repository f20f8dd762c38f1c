import Parlando.Proofs.Intake

namespace Parlando.Intake

open Concurrency Prolific

variable {env : IntakeEnv} {start s t : IntakeState} {pid : Nat} {input : IntakeInput}
  {request : Option ProlificParticipantRequest}

def IntakeEnv.usesProlific (env : IntakeEnv) : Bool := env.config.stored.recruitment.prolific.enabled

def IntakeParticipant.Stored (participant : IntakeParticipant) (s : IntakeState) : Prop :=
  ∃ row ∈ s.db.participants, row.participantId = participant.participantId ∧
    row.researchId = participant.researchId

structure Recruited (s : IntakeState) (request : Option ProlificParticipantRequest)
    (launch : Launch) (participant : IntakeParticipant) : Prop where
  stored : launch ∈ s.launches
  requested : request = some launch.request
  source : participant.source = .prolific
  id : participant.id = launch.admission.participantSessionId
  participantId : participant.participantId = launch.admission.participantId
  researchId : participant.researchId = launch.admission.researchId

/-- What a call is answered with is in memory and in the store, and the request's own. -/
structure Answered (env : IntakeEnv) (s : IntakeState) (request : Option ProlificParticipantRequest)
    (participant : IntakeParticipant) : Prop where
  remembered : participant ∈ s.participants
  stored : participant.Stored s
  recruited : env.usesProlific = true → ∃ launch, Recruited s request launch participant

/-- Whoever is in memory is stored, and recruited where the experiment recruits. -/
structure IntakeState.Recorded (env : IntakeEnv) (s : IntakeState) : Prop where
  sessions : Table.Unique ProlificSubmissionRow.participantSessionId s.db.prolificSubmissions
  stored : ∀ participant ∈ s.participants, participant.Stored s
  recruited : env.usesProlific = true → ∀ participant ∈ s.participants,
    participant.source = .prolific

/-- Nobody is forgotten. -/
structure Grows (s t : IntakeState) : Prop where
  db : Keeps s.db t.db
  launches : s.launches ⊆ t.launches
  participants : s.participants ⊆ t.participants

theorem Grows.refl (s : IntakeState) : Grows s s :=
  ⟨.refl _, List.Subset.refl _, List.Subset.refl _⟩

theorem Grows.of_same (db : t.db = s.db) (launches : t.launches = s.launches)
    (participants : t.participants = s.participants) : Grows s t := by
  refine ⟨?_, ?_, ?_⟩
  · rw [db]
    exact .refl _
  · rw [launches]
    exact List.Subset.refl _
  · rw [participants]
    exact List.Subset.refl _

theorem IntakeParticipant.Stored.grows {participant : IntakeParticipant}
    (stored : participant.Stored s) (grows : Grows s t) : participant.Stored t := by
  obtain ⟨row, member, same⟩ := stored
  exact ⟨row, grows.db.participants member, same⟩

theorem Recruited.grows {launch : Launch} {participant : IntakeParticipant}
    (recruited : Recruited s request launch participant) (grows : Grows s t) :
    Recruited t request launch participant :=
  { recruited with stored := grows.launches recruited.stored }

theorem Answered.grows {participant : IntakeParticipant}
    (answered : Answered env s request participant) (grows : Grows s t) :
    Answered env t request participant where
  remembered := grows.participants answered.remembered
  stored := answered.stored.grows grows
  recruited enabled := by
    obtain ⟨launch, recruited⟩ := answered.recruited enabled
    exact ⟨launch, recruited.grows grows⟩

theorem IntakeState.Recorded.of_same (recorded : s.Recorded env) (db : t.db = s.db)
    (participants : t.participants = s.participants) : t.Recorded env where
  sessions := by
    rw [db]
    exact recorded.sessions
  stored participant member := by
    rw [participants] at member
    obtain ⟨row, known, same⟩ := recorded.stored participant member
    exact ⟨row, db ▸ known, same⟩
  recruited enabled participant member :=
    recorded.recruited enabled participant (participants ▸ member)

/-- Launches of one participant session have one admission. -/
theorem IntakeState.Sound.same_admission (sound : s.Sound env start) (recorded : s.Recorded env)
    {launch other : Launch} (stored : launch ∈ s.launches) (otherStored : other ∈ s.launches)
    (same : launch.admission.participantSessionId = other.admission.participantSessionId) :
    launch.admission = other.admission := by
  obtain ⟨r, member, p, known, -, -, numbered, admitted⟩ := sound.stands launch stored
  obtain ⟨r', member', p', known', -, -, numbered', admitted'⟩ := sound.stands other otherStored
  rw [admitted, admitted'] at same
  obtain rfl := recorded.sessions.eq member member' same
  obtain rfl := sound.enrolled.participantIds.eq known known' (numbered.trans numbered'.symm)
  rw [admitted, admitted']

namespace IntakePlace

def prolific? : IntakePlace → Option ProlificParticipantRequest
  | connecting prolific | linking prolific _ | asking prolific | admitting prolific _ => some prolific
  | cachedKeys launch | fetchingKeys launch _ | storingKeys launch _ _ | decoding launch _ =>
    some launch.prolific
  | locking prolific | counting prolific => prolific.map Prod.fst
  | _ => none

def isDirect : IntakePlace → Bool
  | locking none | counting none | registering _ | identifying _ => true
  | _ => false

def Chosen (env : IntakeEnv) (request : Option ProlificParticipantRequest) (s : IntakeState) :
    IntakePlace → Prop
  | remembering participant => participant.Stored s ∧
    (env.usesProlific = true → ∃ launch, Recruited s request launch participant)
  | issuing participant => Answered env s request participant
  | _ => True

/-- What a call knows of its own request, and of whom it answers with. -/
structure Recorded (env : IntakeEnv) (request : Option ProlificParticipantRequest)
    (s : IntakeState) (place : IntakePlace) : Prop where
  own : ∀ prolific, place.prolific? = some prolific → request = some prolific
  direct : place.isDirect = true → env.usesProlific = false
  chosen : place.Chosen env request s

theorem Recorded.grows {place : IntakePlace} (recorded : place.Recorded env request s)
    (grows : Grows s t) : place.Recorded env request t where
  own := recorded.own
  direct := recorded.direct
  chosen := by
    have chosen := recorded.chosen
    cases place with
    | remembering participant =>
      obtain ⟨stored, recruited⟩ := chosen
      refine ⟨stored.grows grows, fun enabled => ?_⟩
      obtain ⟨launch, recruited⟩ := recruited enabled
      exact ⟨launch, recruited.grows grows⟩
    | issuing participant => exact Answered.grows chosen grows
    | _ => trivial

variable {found : ExperimentLifecycle} {place place' : IntakePlace}

theorem checkRequest_none (checked : checkRequest env request = .ok none) :
    env.usesProlific = false := by
  unfold checkRequest at checked
  obtain ⟨-, checked⟩ := Except.of_check_ok checked
  split at checked
  · rename_i disabled
    rwa [Bool.not_eq_true'] at disabled
  · cases request with
    | none => cases checked
    | some given =>
      obtain ⟨-, checked⟩ := Except.of_check_ok checked
      obtain ⟨-, checked⟩ := Except.of_check_ok checked
      cases checked

def Leads (env : IntakeEnv) (request : Option ProlificParticipantRequest) (s : IntakeState) :
    Except IntakeReply IntakePlace → Prop
  | .ok place => place.Recorded env request s
  | .error (.created participant) => Answered env s request participant
  | .error _ => True

theorem leads_findKey {launch : SignedLaunch} {forced : Bool} {keys : CachedJwks}
    (own : request = some launch.prolific) :
    Leads env request s (findKey launch forced keys) := by
  have same : ∀ prolific, some launch.prolific = some prolific → request = some prolific :=
    fun _ given => own.trans given
  unfold findKey
  split
  · exact ⟨same, (fun direct => by cases direct), trivial⟩
  · exact ⟨same, (fun direct => by cases direct), trivial⟩
  · trivial

theorem leads_link {prolific : ProlificParticipantRequest} {client : Nat}
    {verified : VerifiedProlificStudy} (own : request = some prolific) :
    Leads env request s (link env prolific client verified) := by
  have same : ∀ given, some prolific = some given → request = some given :=
    fun _ given => own.trans given
  unfold link
  split
  · exact ⟨same, (fun direct => by cases direct), trivial⟩
  split
  · trivial
  split
  · trivial
  split
  · trivial
  split
  · trivial
  · exact ⟨same, (fun direct => by cases direct), trivial⟩

theorem verifySignedLaunch_error {launch : SignedLaunch} {jwk : Jwk} {now : Timestamp}
    {reply : IntakeReply} (refused : verifySignedLaunch env launch jwk now = .error reply) :
    ∃ message, reply = badRequestReply message := by
  unfold verifySignedLaunch at refused
  obtain refused | ⟨key, -, refused⟩ := Except.of_bind_error refused
  · obtain ⟨_, same⟩ := Except.of_mapError_error refused
    exact ⟨_, same⟩
  obtain refused | ⟨claims, -, refused⟩ := Except.of_bind_error refused
  · obtain ⟨_, same⟩ := Except.of_mapError_error refused
    exact ⟨_, same⟩
  obtain same | refused := Except.of_check_error refused
  · exact ⟨_, same⟩
  obtain same | refused := Except.of_check_error refused
  · exact ⟨_, same⟩
  obtain same | refused := Except.of_check_error refused
  · exact ⟨_, same⟩
  split at refused
  · cases refused
    exact ⟨_, rfl⟩
  · cases refused

theorem leads_verified {launch : SignedLaunch} {jwk : Jwk} {now : Timestamp}
    (own : request = some launch.prolific) :
    Leads env request s ((verifySignedLaunch env launch jwk now).map fun _ =>
      locking (some (launch.prolific, .signedUrl))) := by
  cases verified : verifySignedLaunch env launch jwk now with
  | ok checked => exact ⟨fun _ given => own.trans given, (fun direct => by cases direct), trivial⟩
  | error reply =>
    obtain ⟨message, rfl⟩ := verifySignedLaunch_error verified
    trivial

/-- An admission leaves one row for each participant session. -/
theorem admit_sessions {db db' : Database} {submission : ProlificSubmissionRecord}
    {identifiers : List String} {id : ParticipantSessionId} {now : Timestamp}
    {admission : ProlificAdmission}
    (unique : Table.Unique ProlificSubmissionRow.participantSessionId db.prolificSubmissions)
    (admitted : db.admitProlificSubmission submission identifiers id now = .ok (db', admission)) :
    Table.Unique ProlificSubmissionRow.participantSessionId db'.prolificSubmissions := by
  unfold Database.admitProlificSubmission at admitted
  split at admitted
  · split at admitted <;> cases admitted
    exact unique
  · obtain ⟨⟨inserted, row⟩, insert, admitted⟩ := Except.of_bind_ok admitted
    simp only at admitted
    split at admitted
    · cases admitted
    · rename_i free
      cases admitted
      have kept := insertParticipant_rows insert
      simp only [List.any_eq_true, not_exists, not_and, Bool.or_eq_true, not_or, beq_iff_eq] at free
      refine Table.Unique.append (kept ▸ unique) fun old member => ?_
      exact (free old member).1

/-- A step of a call that is let in keeps the records, and leads where it still knows its request. -/
theorem step_recorded {next : Except IntakeReply IntakePlace} (sound : s.Sound env start)
    (recorded : s.Recorded env) (here : place.Recorded env request s)
    (done : place.step env request found s input = some (t, next)) :
    t.Recorded env ∧ Grows s t ∧ Leads env request t next := by
  have quiet {t : IntakeState} {next : Except IntakeReply IntakePlace} (db : t.db = s.db)
      (participants : t.participants = s.participants) (launches : t.launches = s.launches)
      (leads : Leads env request t next) : t.Recorded env ∧ Grows s t ∧ Leads env request t next :=
    ⟨recorded.of_same db participants, .of_same db launches participants, leads⟩
  have own := here.own
  cases place with
  | pacing =>
    simp only [step] at done
    split at done
    · cases done
      exact quiet rfl rfl rfl ⟨(fun _ given => by cases given), (fun direct => by cases direct), trivial⟩
    · cases done
      exact quiet rfl rfl rfl trivial
  | checking =>
    simp only [step] at done
    split at done
    · cases done
      exact quiet rfl rfl rfl trivial
    · rename_i unrecruited
      cases done
      exact quiet rfl rfl rfl
        ⟨(fun _ given => by cases given), fun _ => checkRequest_none unrecruited, trivial⟩
    · rename_i prolific checked
      have asked := checkRequest_some checked
      split at done
      all_goals
        cases done
        exact quiet rfl rfl rfl
          ⟨fun _ given => asked.trans given, (fun direct => by cases direct), trivial⟩
  | connecting prolific =>
    simp only [step] at done
    split at done
    · cases done
      exact quiet rfl rfl rfl trivial
    · cases done
      exact quiet rfl rfl rfl ⟨own, (fun direct => by cases direct), trivial⟩
  | linking prolific client =>
    simp only [step] at done
    split at done
    · cases done
      exact quiet rfl rfl rfl trivial
    · cases done
      exact quiet rfl rfl rfl (leads_link (own prolific rfl))
  | cachedKeys launch =>
    simp only [step] at done
    split at done
    · cases done
      exact quiet rfl rfl rfl ⟨own, (fun direct => by cases direct), trivial⟩
    · split at done
      · cases done
        exact quiet rfl rfl rfl (leads_findKey (own launch.prolific rfl))
      · cases done
        exact quiet rfl rfl rfl ⟨own, (fun direct => by cases direct), trivial⟩
  | fetchingKeys launch forced =>
    simp only [step] at done
    split at done
    · cases done
      exact quiet rfl rfl rfl trivial
    · cases done
      exact quiet rfl rfl rfl ⟨own, (fun direct => by cases direct), trivial⟩
  | storingKeys launch forced keys =>
    cases done
    exact quiet rfl rfl rfl (leads_findKey (own launch.prolific rfl))
  | decoding launch jwk =>
    cases done
    exact quiet rfl rfl rfl (leads_verified (own launch.prolific rfl))
  | asking prolific =>
    simp only [step] at done
    split at done
    · cases done
      exact quiet rfl rfl rfl trivial
    · split at done
      · cases done
        exact quiet rfl rfl rfl ⟨own, (fun direct => by cases direct), trivial⟩
      · cases done
        exact quiet rfl rfl rfl trivial
  | locking prolific =>
    simp only [step] at done
    split at done
    · cases done
    · cases done
      refine quiet rfl rfl rfl ⟨own, fun direct => here.direct ?_, trivial⟩
      cases prolific with
      | none => rfl
      | some given => cases direct
  | counting prolific =>
    simp only [step] at done
    split at done
    · cases done
      exact quiet rfl rfl rfl trivial
    · split at done
      · cases done
        exact quiet rfl rfl rfl ⟨(fun _ given => by cases given), fun _ => here.direct rfl, trivial⟩
      · cases done
        exact quiet rfl rfl rfl ⟨own, (fun direct => by cases direct), trivial⟩
  | admitting prolific method =>
    simp only [step] at done
    split at done
    · cases done
      exact quiet rfl rfl rfl trivial
    · split at done
      · cases done
        exact quiet rfl rfl rfl trivial
      · rename_i db admission admitted
        obtain ⟨-, keeps, r, -, p, known, -, -, numbered, same⟩ :=
          sound.enrolled.admitProlificSubmission admitted
        have grows : Grows s { s with
            db
            launches := s.launches ++ [⟨prolific, method, found, s.lifecycle, admission⟩] } :=
          ⟨keeps, List.subset_append_left _ _, List.Subset.refl _⟩
        cases done
        refine ⟨⟨admit_sessions recorded.sessions admitted, fun participant member => ?_,
          recorded.recruited⟩, grows, ?_⟩
        · exact (recorded.stored participant member).grows grows
        · refine ⟨(fun _ given => by cases given), (fun direct => by cases direct), ?_⟩
          refine ⟨⟨p, known, ?_, ?_⟩, fun _ => ⟨⟨prolific, method, found, s.lifecycle, admission⟩,
            ⟨List.mem_append_right _ (List.mem_singleton.mpr rfl), own prolific rfl, rfl, rfl, rfl,
              rfl⟩⟩⟩
          · rw [same]
            exact numbered
          · rw [same]
  | registering pc =>
    simp only [step] at done
    split at done
    · cases done
      exact quiet rfl rfl rfl ⟨(fun _ given => by cases given), fun _ => here.direct rfl, trivial⟩
    · cases done
      exact quiet rfl rfl rfl trivial
    · obtain ⟨⟨db, pc'⟩, step, made⟩ := Option.map_eq_some_iff.mp done
      cases made
      obtain ⟨-, keeps⟩ := sound.enrolled.upsertStep step
      have grows : Grows s { s with db } := ⟨keeps, List.Subset.refl _, List.Subset.refl _⟩
      refine ⟨⟨?_, fun participant member => ?_, recorded.recruited⟩, grows,
        ⟨(fun _ given => by cases given), fun _ => here.direct rfl, trivial⟩⟩
      · rw [upsertStep_rows step]
        exact recorded.sessions
      · exact (recorded.stored participant member).grows grows
  | identifying participantId =>
    simp only [step] at done
    split at done
    · rename_i row _ known
      cases done
      have numbered : row.participantId = participantId := by simpa using List.find?_some known
      refine quiet rfl rfl rfl ⟨(fun _ given => by cases given), (fun direct => by cases direct),
        ⟨row, List.mem_of_find?_eq_some known, numbered, rfl⟩, fun enabled => ?_⟩
      rw [here.direct rfl] at enabled
      cases enabled
    · cases done
      exact quiet rfl rfl rfl trivial
  | remembering participant =>
    obtain ⟨stored, recruited⟩ := here.chosen
    simp only [step] at done
    split at done
    · rename_i existing there
      cases done
      have member := List.mem_of_find?_eq_some there
      have same : existing.id = participant.id := by simpa using List.find?_some there
      refine quiet rfl rfl rfl ⟨(fun _ given => by cases given), (fun direct => by cases direct),
        member, recorded.stored existing member, fun enabled => ?_⟩
      obtain ⟨launch, recruited⟩ := recruited enabled
      have source := recorded.recruited enabled existing member
      obtain ⟨other, launched, rfl⟩ := sound.participants existing member source
      have admission := sound.same_admission recorded recruited.stored launched
        (recruited.id.symm.trans same.symm)
      exact ⟨launch, recruited.stored, recruited.requested, rfl, by rw [admission]; rfl,
        by rw [admission]; rfl, by rw [admission]; rfl⟩
    · cases done
      have grows : Grows s { s with
          sessionAdmission := false
          participants := s.participants ++ [participant] } :=
        ⟨.refl _, List.Subset.refl _, List.subset_append_left _ _⟩
      refine ⟨⟨recorded.sessions, fun other member => ?_, fun enabled other member => ?_⟩, grows,
        ⟨(fun _ given => by cases given), (fun direct => by cases direct),
          List.mem_append_right _ (List.mem_singleton.mpr rfl), stored.grows grows, fun enabled => ?_⟩⟩
      · obtain old | new := List.mem_append.mp member
        · exact (recorded.stored other old).grows grows
        · rw [List.mem_singleton.mp new]
          exact stored.grows grows
      · obtain old | new := List.mem_append.mp member
        · exact recorded.recruited enabled other old
        · rw [List.mem_singleton.mp new]
          obtain ⟨launch, recruited⟩ := recruited enabled
          exact recruited.source
      · obtain ⟨launch, recruited⟩ := recruited enabled
        exact ⟨launch, recruited.grows grows⟩
  | issuing participant =>
    cases done
    exact quiet rfl rfl rfl here.chosen

end IntakePlace

/-- What a call knows of its own request, up to its answer. -/
def IntakePc.Recorded (env : IntakeEnv) (request : Option ProlificParticipantRequest)
    (s : IntakeState) : IntakePc → Prop
  | inside _ place => place.Recorded env request s
  | done (.created participant) => Answered env s request participant
  | _ => True

def IntakeTask.Recorded (env : IntakeEnv) (s : IntakeState) : IntakeTask → Prop
  | launch request pc => pc.Recorded env request s
  | _ => True

theorem IntakeTask.Recorded.grows {task : IntakeTask} (recorded : task.Recorded env s)
    (grows : Grows s t) : task.Recorded env t := by
  cases task with
  | launch request pc =>
    cases pc with
    | inside found place => exact IntakePlace.Recorded.grows recorded grows
    | done reply =>
      cases reply with
      | created participant => exact Answered.grows recorded grows
      | _ => trivial
    | entering => trivial
  | _ => trivial

theorem IntakePc.step_recorded {pc pc' : IntakePc} (sound : s.Sound env start)
    (recorded : s.Recorded env) (here : pc.Recorded env request s)
    (done : pc.step env request s pid input = some (t, pc')) :
    t.Recorded env ∧ Grows s t ∧ pc'.Recorded env request t := by
  cases pc with
  | entering =>
    simp only [step] at done
    split at done
    · cases done
    · split at done
      · cases done
        exact ⟨recorded, .refl s, trivial⟩
      · cases done
        exact ⟨recorded.of_same rfl rfl, .of_same rfl rfl rfl, (fun _ given => by cases given),
          (fun direct => by cases direct), trivial⟩
  | inside found place =>
    simp only [step] at done
    split at done
    · cases done
      exact ⟨recorded.of_same rfl rfl, .of_same rfl rfl rfl, trivial⟩
    · split at done
      · cases done
      · rename_i ran
        cases done
        exact IntakePlace.step_recorded sound recorded here ran
      · rename_i u reply ran
        cases done
        obtain ⟨recorded, grows, leads⟩ := IntakePlace.step_recorded sound recorded here ran
        have left : Grows u (leave u pid place) := .of_same rfl rfl rfl
        refine ⟨recorded.of_same rfl rfl, ⟨grows.db, grows.launches, grows.participants⟩, ?_⟩
        cases reply with
        | created participant => exact Answered.grows leads left
        | _ => trivial
  | done reply => cases done

theorem IntakeTask.step_recorded {task task' : IntakeTask} (sound : s.Sound env start)
    (recorded : s.Recorded env) (here : task.Recorded env s)
    (done : task.step env s pid input = some (t, task')) :
    t.Recorded env ∧ Grows s t ∧ task'.Recorded env t := by
  have aside {t : IntakeState} (aside : Aside s t) : t.Recorded env ∧ Grows s t :=
    ⟨recorded.of_same aside.db aside.participants,
      .of_same aside.db aside.launches aside.participants⟩
  cases task with
  | launch request pc =>
    obtain ⟨⟨u, next⟩, step, same⟩ := Option.map_eq_some_iff.mp done
    cases same
    exact IntakePc.step_recorded sound recorded here step
  | status call pc =>
    simp only [step] at done
    split at done
    · split at done
      · cases done
      · cases done
        obtain ⟨recorded, grows⟩ := aside (StatusPc.leave_aside pc)
        exact ⟨recorded, grows, trivial⟩
    · obtain ⟨⟨u, next⟩, step, same⟩ := Option.map_eq_some_iff.mp done
      cases same
      obtain ⟨recorded, grows⟩ := aside (StatusPc.step_aside step)
      exact ⟨recorded, grows, trivial⟩
  | refresh publishes cached pc =>
    simp only [step] at done
    split at done
    · split at done
      · cases done
      · cases done
        exact ⟨recorded, .refl s, trivial⟩
    · obtain ⟨⟨u, next⟩, step, same⟩ := Option.map_eq_some_iff.mp done
      cases same
      obtain ⟨recorded, grows⟩ := aside (RefreshPc.step_aside step)
      exact ⟨recorded, grows, trivial⟩

variable {guard : Pool IntakeState IntakeTask → Pool.Action IntakeTask IntakeInput → Prop}
  {w : Pool IntakeState IntakeTask}

theorem recorded_of_run (injective : Function.Injective env.sha256) (mounted : Mounted env start)
    (sessions : Table.Unique ProlificSubmissionRow.participantSessionId
      start.db.prolificSubmissions)
    (run : (intakeProgram env).machine.Run guard ⟨start, []⟩ w) :
    w.shared.Recorded env ∧ w.Each fun _ task => task.Recorded env w.shared := by
  refine run.invariant_of_reached ⟨⟨sessions, ?_, ?_⟩, ?_⟩ fun {u _ _} reached holds _ step => ?_
  · intro participant member
    rw [mounted.participants] at member
    cases member
  · intro _ participant member
    rw [mounted.participants] at member
    cases member
  · intro pid task there
    cases there
  obtain ⟨recorded, each⟩ := holds
  have sound := (sound_of_run injective mounted reached).1
  obtain ⟨task, rfl, entry, rfl⟩ | ⟨pid, input, task, t, task', started, rfl, there, ran, rfl⟩ :=
    Program.step_cases step
  · refine ⟨recorded, each.append (fun _ _ => id) fun _ => ?_⟩
    cases task with
    | launch request pc =>
      cases pc with
      | entering => trivial
      | _ => cases entry
    | _ => trivial
  · obtain ⟨⟨t, next⟩, stepped, same⟩ := Option.map_eq_some_iff.mp ran
    cases same
    obtain ⟨recorded, grows, here⟩ :=
      IntakeTask.step_recorded sound recorded (each pid task there) stepped
    exact ⟨recorded, Pool.Each.after here
      (fun q other _ known => IntakeTask.Recorded.grows (each q other known) grows)
      fun _ new => by cases new⟩

/-- Whatever launches, changes of the status, refreshes and badges do at the same time: every stored
submission and every recruited participant stems from a launch that was verified while intake was
open, every call is answered with what the store says of its own launch, and whatever ending a
session comes to, the code that is handed out is one that the checked study honours as the outcome
deserves. -/
theorem prolific_recruitment (injective : Function.Injective env.sha256)
    (mounted : Mounted env start)
    (sessions : Table.Unique ProlificSubmissionRow.participantSessionId
      start.db.prolificSubmissions)
    (run : (intakeProgram env).machine.Run guard ⟨start, []⟩ w) :
    (∀ row ∈ w.shared.db.prolificSubmissions, row ∈ start.db.prolificSubmissions ∨
      ∃ launch ∈ w.shared.launches, launch.Left env row) ∧
    (∀ participant ∈ w.shared.participants, participant.source = .prolific →
      ∃ launch ∈ w.shared.launches, participant = launch.participant) ∧
    (∀ launch ∈ w.shared.launches, Vouched env w.shared launch ∧ Stands w.shared.db
      (IntakePlace.submissionRecord env launch.request launch.method) launch.admission) ∧
    (∀ (pid : Nat) (request : Option ProlificParticipantRequest) (participant : IntakeParticipant),
      w.tasks[pid]? = some (.launch request (.done (.created participant))) →
        Answered env w.shared request participant) ∧
    ∀ config verified, (config, verified) ∈ w.shared.checks → ∀ session : ExperimentConfig,
      session.completionPaths = config.stored.recruitment.prolific.completionPaths →
      ∀ outcome gameStarted handoff, prolificHandoff session outcome gameStarted = some handoff →
        Honours verified.study handoff.code outcome := by
  obtain ⟨sound, -⟩ := sound_of_run injective mounted run
  obtain ⟨-, each⟩ := recorded_of_run injective mounted sessions run
  refine ⟨sound.rows, sound.participants, fun launch stored =>
    ⟨sound.launches launch stored, sound.stands launch stored⟩,
    fun pid request participant there => each pid _ there, ?_⟩
  exact fun config verified checked session paths outcome gameStarted handoff handed =>
    (sound.checks config verified checked).honours paths handed

def transparentDigest (bytes : List UInt8) : String :=
  .ofList (bytes.map fun byte => Char.ofNat byte.toNat)

theorem transparentDigest_injective : Function.Injective transparentDigest := by
  intro a b same
  refine List.map_injective_iff.mpr (fun x y equal => ?_) (String.ofList_injective same)
  have small (byte : UInt8) : (Char.ofNat byte.toNat).toNat = byte.toNat := by
    have valid : byte.toNat.isValidChar := .inl (Nat.lt_trans byte.toNat_lt (by decide))
    rw [Char.ofNat, dif_pos valid]
    rfl
  have value := congrArg Char.toNat equal
  rw [small, small] at value
  exact UInt8.toNat_inj.mp value

def linkedPaths : ProlificCompletionPaths where
  completed := "DONE"
  partnerLeft := "PEER"
  gameDidNotStart := "NONE"
  participationEndedEarly := "LATE"
  technicalFailure := "FAULT"
  noConsent := "DECLINE"

def linkedConfig : RuntimeConfig where
  experimentId := some "exp"
  server := { publicBaseUrl := "http://localhost:8000/e/exp" }
  databaseUrl := "sqlite://exp"
  stored := { recruitment := ⟨{ enabled := true, studyId := "study", completionPaths := linkedPaths }⟩ }
  credentials := { prolificApiToken := "token" }

def linkedStudy : Study where
  id := "study"
  externalStudyUrl := prolificSetupUrl "http://localhost:8000/e/exp"
  prolificIdOption := "url_parameters"
  completionCodes := linkedPaths.codes.zipWith
    (fun path expected => ⟨some path.2, "OTHER", [expected.2]⟩) expectedActions
  estimatedCompletionTime := 30
  project := some "project"

def linkedEnv : IntakeEnv where
  formats := ⟨fun _ => some ⟨some "http", some "localhost", some "localhost", "/", none⟩,
    fun _ => none⟩
  isLoopback _ := false
  sha256 := transparentDigest
  decodeHeader _ := .error ""
  decodingKey _ := .error ""
  decode _ _ _ _ _ := .error ""
  experimentId := "exp"
  config := linkedConfig

/-- The study is checked, intake is opened, and a submission that the provider knows is let in. -/
def firstRecruit : List (Pool.Action IntakeTask IntakeInput) :=
  [.spawn (.status { lifecycle := .active } .definition), .run 0 {},
    .run 0 { stored := some (linkedConfig, "https://api.prolific.com") }, .run 0 {}, .run 0 {},
    .run 0 { study := .ok linkedStudy }, .run 0 { workspace := .ok "workspace" }] ++
  List.replicate 7 (.run 0 {}) ++
  [.spawn (.launch (some ⟨"person", "study", "visit", none⟩) .entering)] ++
  List.replicate 5 (.run 1 {}) ++
  [.run 1 { submission := .ok ⟨"visit", some "person", "study"⟩ }, .run 1 {}, .run 1 {},
    .run 1 { identifiers := ["amber-fox"] }, .run 1 {}, .run 1 {}]

theorem prolific_recruitment_firstRecruit : ∃ w,
    (intakeProgram linkedEnv).machine.exec ⟨{ lifecycle := .inactive, db := ⟨["exp"], [], 0, [], [], []⟩ }, []⟩
      firstRecruit = some w ∧
    w.shared.lifecycle = .active ∧ w.shared.launches.length = 1 ∧
    (∀ launch ∈ w.shared.launches, Vouched linkedEnv w.shared launch ∧ Stands w.shared.db
      (IntakePlace.submissionRecord linkedEnv launch.request launch.method) launch.admission) ∧
    ∃ participant, Answered linkedEnv w.shared (some ⟨"person", "study", "visit", none⟩)
      participant := by
  obtain ⟨w, ran⟩ : ∃ w, (intakeProgram linkedEnv).machine.exec
      ⟨{ lifecycle := .inactive, db := ⟨["exp"], [], 0, [], [], []⟩ }, []⟩ firstRecruit = some w :=
    ⟨_, rfl⟩
  have mounted : Mounted linkedEnv { lifecycle := .inactive, db := ⟨["exp"], [], 0, [], [], []⟩ } := by
    refine ⟨rfl, rfl, rfl, rfl, fun keys cached => ?_, rfl, fun entry cached => ?_,
      enrolled_empty ["exp"]⟩
    · cases cached
    · cases cached
  obtain ⟨-, -, launched, answered, -⟩ := prolific_recruitment transparentDigest_injective mounted
    List.nodup_nil (.of_exec_unguarded ran)
  refine ⟨w, ran, ?_, ?_, launched, _, answered 1 _
    ⟨.human 0, 1, "amber-fox", .prolific, .research⟩ ?_⟩
  · cases ran
    rfl
  · cases ran
    rfl
  · cases ran
    rfl

end Parlando.Intake
