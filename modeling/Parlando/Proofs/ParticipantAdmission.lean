import Parlando.ParticipantAdmission
import Parlando.Data.Except

namespace Parlando

open Concurrency

def ProlificSubmissionRow.agrees (row : ProlificSubmissionRow)
    (submission : ProlificSubmissionRecord) : Prop :=
  row.prolificParticipantId = submission.prolificParticipantId ∧
    row.prolificStudyId = submission.prolificStudyId

/--
Participants have their numbers and research ids to themselves, Prolific sessions have one row each,
and no two of these rows share a participant.
-/
structure Enrolled (db : Database) : Prop where
  numbers : ∀ p ∈ db.participants, p.participantId ≤ db.participantSequence
  participantIds : Table.Unique ParticipantRow.participantId db.participants
  researchIds : Table.Unique ParticipantRow.researchId db.participants
  keys : Table.Unique ProlificSubmissionRow.key db.prolificSubmissions
  submissions : Table.Unique ProlificSubmissionRow.participantId db.prolificSubmissions
  known : ∀ r ∈ db.prolificSubmissions, ∃ p ∈ db.participants, p.participantId = r.participantId

structure Keeps (before after : Database) : Prop where
  participants : before.participants ⊆ after.participants
  submissions : before.prolificSubmissions ⊆ after.prolificSubmissions

theorem Keeps.refl (db : Database) : Keeps db db := ⟨List.Subset.refl _, List.Subset.refl _⟩

theorem Keeps.trans {a b c : Database} (first : Keeps a b) (second : Keeps b c) : Keeps a c :=
  ⟨List.Subset.trans first.participants second.participants,
    List.Subset.trans first.submissions second.submissions⟩

/-- The answer is the one that the stored row of the submission's Prolific session gives. -/
def Stands (db : Database) (submission : ProlificSubmissionRecord) (admission : ProlificAdmission) :
    Prop :=
  ∃ r ∈ db.prolificSubmissions, ∃ p ∈ db.participants, r.key = submission.key ∧
    r.agrees submission ∧ p.participantId = r.participantId ∧
    admission = ⟨r.participantId, p.researchId, r.participantSessionId⟩

theorem Stands.kept {before after : Database} {submission : ProlificSubmissionRecord}
    {admission : ProlificAdmission} (stands : Stands before submission admission)
    (keeps : Keeps before after) : Stands after submission admission := by
  obtain ⟨r, mem, p, pMem, rest⟩ := stands
  exact ⟨r, keeps.submissions mem, p, keeps.participants pMem, rest⟩

section
variable {db db' : Database}

/-- A new participant has a number and a research id that nobody has. -/
theorem Enrolled.insertParticipant {participant : ParticipantRecord} {identifiers : List String}
    {now : Timestamp} {row : ParticipantRow} (enrolled : Enrolled db)
    (h : db.insertParticipant participant identifiers now = .ok (db', row)) :
    Enrolled db' ∧ Keeps db db' ∧ row ∈ db'.participants ∧
      db'.prolificSubmissions = db.prolificSubmissions ∧
      ∀ p ∈ db.participants, p.participantId ≠ row.participantId := by
  unfold Database.insertParticipant at h
  split at h
  · cases h
  · rename_i researchId drawn
    cases h
    have free : ∀ p ∈ db.participants, p.researchId ≠ researchId := by
      simpa using List.find?_some drawn
    have above : ∀ p ∈ db.participants, p.participantId ≠ db.participantSequence + 1 := by
      intro p mem
      have := enrolled.numbers p mem
      omega
    refine ⟨⟨?_, enrolled.participantIds.append above,
      enrolled.researchIds.append free, enrolled.keys, enrolled.submissions, ?_⟩,
      ⟨List.subset_append_left _ _, List.Subset.refl _⟩, List.mem_concat_self, rfl, above⟩
    · intro p mem
      rcases List.mem_append.mp mem with mem | mem
      · have := enrolled.numbers p mem
        change p.participantId ≤ db.participantSequence + 1
        omega
      · cases List.mem_singleton.mp mem
        exact Int.le_refl _
    · intro r mem
      obtain ⟨p, pMem, same⟩ := enrolled.known r mem
      exact ⟨p, List.mem_append_left _ pMem, same⟩

theorem Enrolled.upsertParticipant {participant : ParticipantRecord} {identifiers : List String}
    {now : Timestamp} {participantId : Int} (enrolled : Enrolled db)
    (h : db.upsertParticipant participant identifiers now = .ok (db', participantId)) :
    Enrolled db' ∧ Keeps db db' := by
  unfold Database.upsertParticipant at h
  split at h
  · cases h
    exact ⟨enrolled, .refl db⟩
  · obtain ⟨⟨inserted, row⟩, insert, h⟩ := Except.of_bind_ok h
    cases h
    obtain ⟨enrolled, keeps, -⟩ := enrolled.insertParticipant insert
    exact ⟨enrolled, keeps⟩

/-- The stored row of a Prolific session is found with its participant. -/
theorem Enrolled.prolificSubmission? {r : ProlificSubmissionRow} {p : ParticipantRow}
    (enrolled : Enrolled db) (mem : r ∈ db.prolificSubmissions) (pMem : p ∈ db.participants)
    (same : p.participantId = r.participantId) :
    db.prolificSubmission? r.key = some (r, p) := by
  rw [Database.prolificSubmission?, enrolled.keys.find? mem, Option.bind_some, ← same,
    enrolled.participantIds.find? pMem]
  rfl

theorem of_prolificSubmission? {key : String × String} {r : ProlificSubmissionRow}
    {p : ParticipantRow} (h : db.prolificSubmission? key = some (r, p)) :
    r ∈ db.prolificSubmissions ∧ p ∈ db.participants ∧ r.key = key ∧
      p.participantId = r.participantId := by
  obtain ⟨r', found, h⟩ := Option.bind_eq_some_iff.mp h
  obtain ⟨p', found', h⟩ := Option.map_eq_some_iff.mp h
  cases h
  obtain ⟨mem, key⟩ := Table.find?_mem found
  obtain ⟨pMem, same⟩ := Table.find?_mem found'
  exact ⟨mem, pMem, key, same⟩

/-- An admission that succeeds answers with the stored row, and nothing stored before is lost. -/
theorem Enrolled.admitProlificSubmission {submission : ProlificSubmissionRecord}
    {identifiers : List String} {id : ParticipantSessionId} {now : Timestamp}
    {admission : ProlificAdmission} (enrolled : Enrolled db)
    (h : db.admitProlificSubmission submission identifiers id now = .ok (db', admission)) :
    Enrolled db' ∧ Keeps db db' ∧ Stands db' submission admission := by
  unfold Database.admitProlificSubmission at h
  split at h
  · rename_i r p found
    obtain ⟨mem, pMem, key, same⟩ := of_prolificSubmission? found
    split at h
    · cases h
    · rename_i agrees
      cases h
      simp only [not_or, not_not] at agrees
      exact ⟨enrolled, .refl db, r, mem, p, pMem, key, agrees, same, rfl⟩
  · obtain ⟨⟨inserted, row⟩, insert, h⟩ := Except.of_bind_ok h
    obtain ⟨after, keeps, rowMem, submissions, fresh⟩ := enrolled.insertParticipant insert
    simp only at h
    split at h
    · cases h
    · rename_i free
      cases h
      simp only [List.any_eq_true, not_exists, not_and, Bool.or_eq_true, not_or,
        beq_iff_eq] at free
      refine ⟨⟨after.numbers, after.participantIds, after.researchIds,
        after.keys.append ?_, after.submissions.append ?_, ?_⟩,
        ⟨keeps.participants, ?_⟩, _, List.mem_concat_self, row, rowMem, rfl, ⟨rfl, rfl⟩, rfl, rfl⟩
      · exact fun r mem same => (free r mem).2 same
      · intro r mem
        obtain ⟨p, pMem, same⟩ := enrolled.known r (submissions ▸ mem)
        exact fun equal => fresh p pMem (same.trans equal)
      · intro r mem
        rcases List.mem_append.mp mem with mem | mem
        · exact after.known r mem
        · rw [List.mem_singleton.mp mem]
          exact ⟨row, rowMem, rfl⟩
      · rw [submissions]
        exact List.subset_append_left _ _

/-- Once a Prolific session has its row, an admission answers with it or refuses a conflict. -/
theorem Enrolled.admitAgain {r : ProlificSubmissionRow} {p : ParticipantRow}
    {submission : ProlificSubmissionRecord} (enrolled : Enrolled db)
    (mem : r ∈ db.prolificSubmissions) (pMem : p ∈ db.participants)
    (same : p.participantId = r.participantId) (key : r.key = submission.key)
    (identifiers : List String) (id : ParticipantSessionId) (now : Timestamp) :
    (r.agrees submission → db.admitProlificSubmission submission identifiers id now =
      .ok (db, ⟨r.participantId, p.researchId, r.participantSessionId⟩)) ∧
    (¬ r.agrees submission → db.admitProlificSubmission submission identifiers id now =
      .error "Prolific submission identifiers conflict with an existing admission") := by
  have found := enrolled.prolificSubmission? mem pMem same
  rw [key] at found
  unfold Database.admitProlificSubmission
  rw [found]
  constructor
  · intro agrees
    exact if_neg (by simpa [not_or, ProlificSubmissionRow.agrees] using agrees)
  · intro conflict
    refine if_pos ?_
    rwa [← not_and_or]

end

namespace ParticipantTask

/-- The answer that an admission has got. -/
def admitted : ParticipantTask → Option (ProlificSubmissionRecord × ProlificAdmission)
  | admission submission (.returned (.ok answer)) => some (submission, answer)
  | _ => none

end ParticipantTask

theorem participantProgram_step {db db' : Database} {pid : Nat} {input : ParticipantInput}
    {t t' : ParticipantTask} {started : List ParticipantTask}
    (h : participantProgram.step db pid t input = some (db', t', started)) :
    t.step db input = some (db', t') ∧ started = [] := by
  obtain ⟨⟨db, next⟩, stepped, same⟩ := Option.map_eq_some_iff.mp h
  cases same
  exact ⟨stepped, rfl⟩

section
variable {db db' : Database} {input : ParticipantInput} {t t' : ParticipantTask}

theorem Enrolled.upsertStep {participant : ParticipantRecord} {pc pc' : UpsertPc}
    (enrolled : Enrolled db) (h : pc.step participant db input = some (db', pc')) :
    Enrolled db' ∧ Keeps db db' := by
  cases pc with
  | lookup =>
    simp only [UpsertPc.step] at h
    repeat' split at h
    all_goals cases h
    all_goals exact ⟨enrolled, .refl db⟩
  | insert =>
    simp only [UpsertPc.step] at h
    split at h
    · cases h
      exact ⟨enrolled, .refl db⟩
    · split at h
      · rename_i inserted
        cases h
        obtain ⟨after, keeps, -⟩ := enrolled.insertParticipant inserted
        exact ⟨after, keeps⟩
      · cases h
        exact ⟨enrolled, .refl db⟩
  | returned result => cases h

theorem Enrolled.admitStep {submission : ProlificSubmissionRecord} {pc pc' : SubmissionPc}
    (enrolled : Enrolled db) (h : pc.step submission db input = some (db', pc')) :
    Enrolled db' ∧ Keeps db db' ∧
      ∀ admission, pc' = .returned (.ok admission) → Stands db' submission admission := by
  cases pc with
  | call =>
    simp only [SubmissionPc.step] at h
    split at h
    · cases h
      exact ⟨enrolled, .refl db, nofun⟩
    · split at h
      · rename_i admitted
        cases h
        obtain ⟨after, keeps, stands⟩ := enrolled.admitProlificSubmission admitted
        refine ⟨after, keeps, fun admission same => ?_⟩
        cases same
        exact stands
      · cases h
        exact ⟨enrolled, .refl db, nofun⟩
  | returned result => cases h

theorem Enrolled.taskStep (enrolled : Enrolled db) (h : t.step db input = some (db', t')) :
    Enrolled db' ∧ Keeps db db' ∧
      ∀ submission admission, t'.admitted = some (submission, admission) →
        Stands db' submission admission := by
  cases t with
  | upsert participant pc =>
    obtain ⟨⟨after, pc'⟩, stepped, same⟩ := Option.map_eq_some_iff.mp h
    cases same
    obtain ⟨after, keeps⟩ := enrolled.upsertStep stepped
    exact ⟨after, keeps, nofun⟩
  | admission submission pc =>
    obtain ⟨⟨after, pc'⟩, stepped, same⟩ := Option.map_eq_some_iff.mp h
    cases same
    obtain ⟨after, keeps, stands⟩ := enrolled.admitStep stepped
    refine ⟨after, keeps, fun other admission mine => ?_⟩
    cases pc' with
    | call => cases mine
    | returned result =>
      cases result with
      | error error => cases mine
      | ok answer =>
        cases mine
        exact stands _ rfl

end

section
variable {w w' : Pool Database ParticipantTask} {a : Pool.Action ParticipantTask ParticipantInput}

/-- Every answer given so far stands. -/
def EachStands (w : Pool Database ParticipantTask) : Prop :=
  w.Each fun _ t => ∀ submission admission, t.admitted = some (submission, admission) →
    Stands w.shared submission admission

theorem Enrolled.step (enrolled : Enrolled w.shared) (each : EachStands w)
    (h : participantMachine.step w a = some w') :
    Enrolled w'.shared ∧ Keeps w.shared w'.shared ∧ EachStands w' := by
  rcases Program.step_cases h with ⟨t, rfl, entered, rfl⟩ |
    ⟨pid, input, t, db, t', started, rfl, ht, hs, rfl⟩
  · refine ⟨enrolled, .refl _, Pool.Each.append each (fun _ _ holds => holds) ?_⟩
    intro q submission admission mine
    cases t with
    | upsert participant pc => cases mine
    | admission other pc => cases pc <;> first | exact absurd entered Bool.false_ne_true | cases mine
  · obtain ⟨stepped, rfl⟩ := participantProgram_step hs
    obtain ⟨after, keeps, stands⟩ := enrolled.taskStep stepped
    refine ⟨after, keeps, Pool.Each.after stands (fun q u other hu => ?_) ?_⟩
    · exact fun submission admission mine => (each q u hu submission admission mine).kept keeps
    · exact fun u new => absurd new List.not_mem_nil

/-- What has been registered stays as it is in every later state. -/
theorem Enrolled.run (enrolled : Enrolled w.shared) (each : EachStands w)
    (run : participantMachine.Run Machine.unguarded w w') :
    Enrolled w'.shared ∧ Keeps w.shared w'.shared ∧ EachStands w' := by
  refine run.invariant ⟨enrolled, .refl _, each⟩ ?_
  intro t u a ⟨enrolled, keeps, each⟩ _ h
  obtain ⟨after, kept, each⟩ := enrolled.step each h
  exact ⟨after, keeps.trans kept, each⟩

end

theorem enrolled_empty (experiments : List String) : Enrolled { experiments } :=
  ⟨nofun, List.nodup_nil, List.nodup_nil, List.nodup_nil, List.nodup_nil, nofun⟩

/--
Registrations in any interleaving of their transactions: the tables stay one-to-one, every answer is
that of the stored row, which stays for ever, and once a Prolific session has its row an admission
changes nothing and answers with it or refuses a conflict.
-/
theorem prolific_admission_one_to_one {experiments : List String}
    {w : Pool Database ParticipantTask}
    (run : participantMachine.Run Machine.unguarded ⟨{ experiments }, []⟩ w) :
    Enrolled w.shared ∧ EachStands w ∧
    ∀ r ∈ w.shared.prolificSubmissions, ∃ p ∈ w.shared.participants,
      p.participantId = r.participantId ∧
      ∀ w', participantMachine.Run Machine.unguarded w w' →
        r ∈ w'.shared.prolificSubmissions ∧ p ∈ w'.shared.participants ∧
        ∀ (pid : Nat) input submission w'', submission.key = r.key →
          w'.tasks[pid]? = some (.admission submission .call) →
          participantMachine.step w' (.run pid input) = some w'' →
          w''.shared = w'.shared ∧ ∃ result,
            w''.tasks[pid]? = some (.admission submission (.returned result)) ∧
            (input.storeOk = true → r.agrees submission →
              result = .ok ⟨r.participantId, p.researchId, r.participantSessionId⟩) ∧
            (¬ r.agrees submission → ∃ error, result = .error error) := by
  have start : EachStands ⟨{ experiments }, []⟩ := fun pid t ht => by cases ht
  obtain ⟨enrolled, -, each⟩ := (enrolled_empty experiments).run start run
  refine ⟨enrolled, each, fun r mem => ?_⟩
  obtain ⟨p, pMem, same⟩ := enrolled.known r mem
  refine ⟨p, pMem, same, fun w' later => ?_⟩
  obtain ⟨enrolled, keeps, -⟩ := enrolled.run each later
  refine ⟨keeps.submissions mem, keeps.participants pMem, ?_⟩
  intro pid input submission w'' key ht h
  obtain ⟨again, conflict⟩ := enrolled.admitAgain (keeps.submissions mem)
    (keeps.participants pMem) same key.symm input.identifiers input.participantSessionId input.now
  rcases Program.step_cases h with ⟨t, action, -⟩ |
    ⟨pid', input', t, db, t', started, action, ht', hs, rfl⟩
  · cases action
  cases action
  cases ht.symm.trans ht'
  obtain ⟨stepped, rfl⟩ := participantProgram_step hs
  obtain ⟨⟨db', pc⟩, moved, same⟩ := Option.map_eq_some_iff.mp stepped
  cases same
  simp only [SubmissionPc.step] at moved
  split at moved
  · rename_i failed
    cases moved
    exact ⟨rfl, _, Pool.self_after ht, fun ok => by simp [ok] at failed, fun _ => ⟨_, rfl⟩⟩
  · by_cases agrees : r.agrees submission
    · rw [again agrees] at moved
      cases moved
      exact ⟨rfl, _, Pool.self_after ht, fun _ _ => rfl, fun other => absurd agrees other⟩
    · rw [conflict agrees] at moved
      cases moved
      exact ⟨rfl, _, Pool.self_after ht, fun _ other => absurd other agrees, fun _ => ⟨_, rfl⟩⟩

/-- The row that a first admission stores is there in every later state. -/
theorem prolific_admission_one_to_one_first :
    ∃ (w : Pool Database ParticipantTask) (r : ProlificSubmissionRow),
      r.key = ("exp", "s1") ∧ r.participantId = 1 ∧
      ∀ w', participantMachine.Run Machine.unguarded w w' → r ∈ w'.shared.prolificSubmissions := by
  have h : (participantMachine.exec ⟨{ experiments := ["exp"] }, []⟩
      [.spawn (.admission ⟨"exp", "p1", "study", "s1", "signed"⟩ .call),
        .run 0 { identifiers := ["calm-otter"] }]).bind (fun w =>
          (w.shared.prolificSubmissions.head?).map fun r => (r.key, r.participantId)) =
            some (("exp", "s1"), 1) := rfl
  obtain ⟨w, reached, h⟩ := Option.bind_eq_some_iff.mp h
  obtain ⟨r, first, seen⟩ := Option.map_eq_some_iff.mp h
  obtain ⟨key, number⟩ := Prod.mk.inj seen
  obtain ⟨p, -, -, stays⟩ := (prolific_admission_one_to_one (.of_exec_unguarded reached)).2.2 r
    (List.mem_of_head? first)
  exact ⟨w, r, key, number, fun w' later => (stays w' later).1⟩

end Parlando
