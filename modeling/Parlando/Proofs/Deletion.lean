import Parlando.Proofs.Database

namespace Parlando

open Concurrency

namespace Database

/-- Every session that holds a membership of the participant is ended. -/
def AllEnded (db : Database) (experimentId : String) (participantId : Int) : Prop :=
  ∀ entry ∈ db.sessions, involves experimentId participantId entry = true →
    entry.store.ended = true

/--
A row that stays refers to the participant: an admission through Prolific, or a row that stands
outside the sessions of the experiment he is stored a member of.
-/
def ReferredElsewhere (db : Database) (experimentId : String) (participantId : Int) : Prop :=
  (∃ row ∈ db.prolificSubmissions, row.participantId = participantId) ∨
  (∃ row ∈ db.consentDeclarations,
    row.participantId = participantId ∧ row.experimentId ≠ experimentId) ∨
  ∃ entry ∈ db.sessions, involves experimentId participantId entry = false ∧
    ((∃ row ∈ entry.store.members, row.participantId = participantId) ∨
      ∃ event ∈ entry.store.events, event.actorParticipantId = some participantId)

structure Erased (db after : Database) (experimentId : String) (participantId : Int) : Prop where
  participants : ∀ row ∈ after.participants, row.participantId ≠ participantId
  submissions : ∀ row ∈ after.prolificSubmissions, row.participantId ≠ participantId
  consents : ∀ row ∈ after.consentDeclarations, row.participantId ≠ participantId ∧
    ∀ entry ∈ db.sessions, involves experimentId participantId entry = true →
      ¬(row.experimentId = experimentId ∧ row.sessionId = some entry.key.sessionId)
  sessions : ∀ entry ∈ after.sessions,
    (∀ old ∈ db.sessions, involves experimentId participantId old = true →
      entry.key ≠ old.key) ∧
    (∀ row ∈ entry.store.members, row.participantId ≠ participantId) ∧
    ∀ event ∈ entry.store.events, event.actorParticipantId ≠ some participantId

structure OthersKept (db after : Database) (experimentId : String) (participantId : Int) :
    Prop where
  experiments : after.experiments = db.experiments
  participants : after.participants =
    db.participants.filter fun row => row.participantId != participantId
  sessions : after.sessions =
    db.sessions.filter fun entry => !involves experimentId participantId entry
  submissions : after.prolificSubmissions = db.prolificSubmissions
  consents : after.consentDeclarations = db.consentDeclarations.filter fun row =>
    !(row.experimentId == experimentId && (row.participantId == participantId ||
      db.sessions.any fun entry => involves experimentId participantId entry &&
        row.sessionId == some entry.key.sessionId))

/--
A deletion of the participant's data succeeds and is complete where all his sessions are ended, and
fails, which changes nothing, where one is not.
-/
def DeletionKept (db : Database) (experimentId : String) (participantId : Int) : Prop :=
  (db.AllEnded experimentId participantId →
    ∃ after preview, db.deleteParticipantData experimentId participantId = .ok (after, preview) ∧
      Erased db after experimentId participantId ∧ OthersKept db after experimentId participantId) ∧
  (¬db.AllEnded experimentId participantId →
    ∃ message, db.deleteParticipantData experimentId participantId = .error message)

structure Consistent (db : Database) : Prop where
  sessions : Table.Unique SessionEntry.key db.sessions
  dialogues : Table.Unique SessionEntry.dialogueId db.sessions
  participants : Table.Unique ParticipantRow.participantId db.participants
  handedOut : ∀ row ∈ db.participants, row.participantId ≤ db.participantSequence

variable {db db' : Database} {experimentId : String} {participantId : Int}

theorem hasNonTerminalSession_iff :
    (db.participantDataPreview experimentId participantId).hasNonTerminalSession = true ↔
      ¬db.AllEnded experimentId participantId := by
  simp only [participantDataPreview, List.any_eq_true, List.mem_filter, Bool.not_eq_true', AllEnded]
  push Not
  constructor
  · rintro ⟨entry, ⟨mem, involved⟩, isOpen⟩
    exact ⟨entry, mem, involved, by simp [isOpen]⟩
  · rintro ⟨entry, mem, involved, isOpen⟩
    exact ⟨entry, ⟨mem, involved⟩, by simpa using isOpen⟩

/-- A dialogue belongs to one session, so a preview lists exactly the participant's sessions. -/
theorem Consistent.listed (consistent : db.Consistent) {entry : SessionEntry}
    (mem : entry ∈ db.sessions) :
    db.listed experimentId participantId entry = involves experimentId participantId entry := by
  rw [Bool.eq_iff_iff]
  refine ⟨fun listed => ?_, listed_of_involves mem⟩
  simp only [Database.listed, participantDataPreview, List.contains_eq_mem, List.mem_mergeSort,
    List.mem_map, List.mem_filter, Bool.and_eq_true, decide_eq_true_eq] at listed
  obtain ⟨-, old, ⟨oldMem, involved⟩, same⟩ := listed
  rw [← consistent.dialogues.eq oldMem mem same]
  exact involved

theorem Consistent.obstructs (consistent : db.Consistent) :
    db.sessions.any (db.obstructs experimentId participantId) = false := by
  refine List.any_eq_false.mpr fun entry mem => ?_
  rw [Database.obstructs, consistent.listed mem]
  cases involves experimentId participantId entry <;> simp

theorem Consistent.sessions_withoutParticipant (consistent : db.Consistent) :
    (db.withoutParticipant experimentId participantId).sessions =
      db.sessions.filter fun entry => !involves experimentId participantId entry :=
  List.filter_congr fun _ mem => by rw [consistent.listed mem]

theorem consents_withoutParticipant :
    (db.withoutParticipant experimentId participantId).consentDeclarations =
      db.consentDeclarations.filter fun row =>
        !(row.experimentId == experimentId && (row.participantId == participantId ||
          db.sessions.any fun entry => involves experimentId participantId entry &&
            row.sessionId == some entry.key.sessionId)) := by
  simp only [withoutParticipant, deleteConsents, List.any_filter]

/-- A number belongs to one participant, so no namesake stays behind in another experiment. -/
theorem Consistent.participants_withoutParticipant (consistent : db.Consistent)
    {participant : ParticipantRow} (mem : participant ∈ db.participants) :
    (db.withoutParticipant participant.experimentId participant.participantId).participants =
      db.participants.filter fun row => row.participantId != participant.participantId := by
  refine List.filter_congr fun row rowMem => ?_
  by_cases same : row.participantId = participant.participantId
  · rw [consistent.participants.eq rowMem mem same]
    simp
  · simp [bne, beq_false_of_ne same]

/-- What still refers to the participant after the other statements is what they do not reach. -/
theorem Consistent.leftReferenced_iff (consistent : db.Consistent)
    {participant : ParticipantRow} (mem : participant ∈ db.participants) :
    db.leftReferenced participant.experimentId participant.participantId = true ↔
      db.ReferredElsewhere participant.experimentId participant.participantId := by
  have here : (db.participants.any fun row => row.experimentId == participant.experimentId &&
      row.participantId == participant.participantId) = true :=
    List.any_eq_true.mpr ⟨participant, mem, by simp⟩
  rw [leftReferenced, here, Bool.true_and, participantReferenced,
    consistent.sessions_withoutParticipant, consents_withoutParticipant]
  simp only [Bool.or_eq_true, List.any_eq_true, List.mem_filter, beq_iff_eq, or_assoc,
    Bool.not_eq_true']
  refine or_congr Iff.rfl (or_congr ?_ ?_)
  · constructor
    · rintro ⟨row, ⟨rowMem, kept⟩, same⟩
      refine ⟨row, rowMem, same, fun inExperiment => ?_⟩
      rw [inExperiment, same, beq_self_eq_true, beq_self_eq_true] at kept
      cases kept
    · rintro ⟨row, rowMem, same, outside⟩
      exact ⟨row, ⟨rowMem, by rw [beq_false_of_ne outside, Bool.false_and]⟩, same⟩
  · constructor
    · rintro ⟨entry, ⟨entryMem, outside⟩, refers⟩
      exact ⟨entry, entryMem, outside, refers⟩
    · rintro ⟨entry, entryMem, outside, refers⟩
      exact ⟨entry, ⟨entryMem, outside⟩, refers⟩

theorem Consistent.othersKept (consistent : db.Consistent) {participant : ParticipantRow}
    (mem : participant ∈ db.participants) :
    OthersKept db (db.withoutParticipant participant.experimentId participant.participantId)
      participant.experimentId participant.participantId where
  experiments := rfl
  participants := consistent.participants_withoutParticipant mem
  sessions := consistent.sessions_withoutParticipant
  submissions := rfl
  consents := consents_withoutParticipant

/-- Where no row that stays refers to the participant, what is kept does not either. -/
theorem OthersKept.erased {after : Database}
    (kept : OthersKept db after experimentId participantId)
    (unreferred : ¬db.ReferredElsewhere experimentId participantId)
    (unique : Table.Unique SessionEntry.key db.sessions) :
    Erased db after experimentId participantId where
  participants row mem := by
    rw [kept.participants] at mem
    simpa using (List.mem_filter.mp mem).2
  submissions row mem same := unreferred (.inl ⟨row, kept.submissions ▸ mem, same⟩)
  consents row mem := by
    rw [kept.consents] at mem
    obtain ⟨rowMem, outside⟩ := List.mem_filter.mp mem
    have outside : row.experimentId = experimentId → row.participantId ≠ participantId ∧
        ∀ entry ∈ db.sessions, involves experimentId participantId entry = true →
          row.sessionId ≠ some entry.key.sessionId := by
      intro inExperiment
      simpa [inExperiment] using outside
    refine ⟨fun same => ?_, fun entry entryMem involved here => ?_⟩
    · refine unreferred (.inr (.inl ⟨row, rowMem, same, fun inExperiment => ?_⟩))
      exact (outside inExperiment).1 same
    · exact (outside here.1).2 entry entryMem involved here.2
  sessions entry mem := by
    rw [kept.sessions] at mem
    obtain ⟨entryMem, outside⟩ := List.mem_filter.mp mem
    have outside : involves experimentId participantId entry = false := by simpa using outside
    refine ⟨fun old oldMem involved same => ?_, fun row rowMem same => ?_,
      fun event eventMem same => ?_⟩
    · rw [unique.eq entryMem oldMem same, involved] at outside
      cases outside
    · exact unreferred (.inr (.inr ⟨entry, entryMem, outside, .inl ⟨row, rowMem, same⟩⟩))
    · exact unreferred (.inr (.inr ⟨entry, entryMem, outside, .inr ⟨event, eventMem, same⟩⟩))

/-- The outcomes of a deletion where the tables are consistent. -/
theorem Consistent.deletion_eq (consistent : db.Consistent) {participant : ParticipantRow}
    (mem : participant ∈ db.participants) (ended : db.AllEnded participant.experimentId
      participant.participantId) :
    (db.ReferredElsewhere participant.experimentId participant.participantId →
      db.deleteParticipantData participant.experimentId participant.participantId =
        .error foreignKeyFailed) ∧
    (¬db.ReferredElsewhere participant.experimentId participant.participantId →
      db.deleteParticipantData participant.experimentId participant.participantId =
        .ok (db.withoutParticipant participant.experimentId participant.participantId,
          db.participantDataPreview participant.experimentId participant.participantId)) := by
  have closed : ¬(db.participantDataPreview participant.experimentId
      participant.participantId).hasNonTerminalSession = true := by
    rw [hasNonTerminalSession_iff, not_not]
    exact ended
  rw [deleteParticipantData_eq, if_neg closed, consistent.obstructs, Bool.false_or,
    ← consistent.leftReferenced_iff mem]
  exact ⟨fun referred => if_pos referred, fun unreferred => if_neg unreferred⟩

theorem Consistent.deletionKept_iff (consistent : db.Consistent) {participant : ParticipantRow}
    (mem : participant ∈ db.participants) :
    DeletionKept db participant.experimentId participant.participantId ↔
      (¬db.AllEnded participant.experimentId participant.participantId ∨
        ¬db.ReferredElsewhere participant.experimentId participant.participantId) := by
  constructor
  · rintro ⟨succeeds, -⟩
    by_contra neither
    obtain ⟨ended, referred⟩ : _ ∧ _ := by simpa only [not_or, not_not] using neither
    obtain ⟨after, preview, ok, -⟩ := succeeds ended
    rw [(consistent.deletion_eq mem ended).1 referred] at ok
    cases ok
  · intro either
    refine ⟨fun ended => ?_, fun isOpen => ?_⟩
    · have unreferred := either.resolve_left (not_not.mpr ended)
      have kept := consistent.othersKept mem
      exact ⟨_, _, (consistent.deletion_eq mem ended).2 unreferred,
        kept.erased unreferred consistent.sessions, kept⟩
    · rw [deleteParticipantData_eq, if_pos (hasNonTerminalSession_iff.mpr isOpen)]
      exact ⟨_, rfl⟩

end Database

namespace Database

variable {db db' : Database} {operation : Operation} {answer : Answer}

theorem Consistent.apply (consistent : db.Consistent)
    (h : operation.apply db = .ok (db', answer)) : db'.Consistent := by
  have people : Table.Unique ParticipantRow.participantId db'.participants ∧
      ∀ row ∈ db'.participants, row.participantId ≤ db'.participantSequence := by
    cases Operation.apply_participants consistent.sessions h with
    | removed fewer sequence =>
      exact ⟨consistent.participants.of_sublist fewer, fun row mem =>
        sequence ▸ consistent.handedOut row (fewer.subset mem)⟩
    | inserted row number rows sequence =>
      rw [rows, sequence]
      refine ⟨consistent.participants.append fun old mem same => ?_, fun old mem => ?_⟩
      · have used := consistent.handedOut old mem
        omega
      · rcases List.mem_append.mp mem with before | new
        · have used := consistent.handedOut old before
          omega
        · cases List.mem_singleton.mp new
          omega
  have rows : Table.Unique SessionEntry.key db'.sessions ∧
      Table.Unique SessionEntry.dialogueId db'.sessions := by
    cases target : operation.target? with
    | some key =>
      rcases Operation.apply_target consistent.sessions target h with
        ⟨entry, -, rfl, -⟩ | ⟨-, rfl, -⟩
      · exact ⟨consistent.sessions.update fun _ => rfl, consistent.dialogues.update fun _ => rfl⟩
      · exact ⟨consistent.sessions, consistent.dialogues⟩
    | none =>
      cases (Operation.apply_untargeted target h).1 with
      | removed fewer other =>
        exact ⟨consistent.sessions.of_sublist fewer, consistent.dialogues.of_sublist fewer⟩
      | reconnected id status leftAt reconnectDeadlineAt rows other =>
        rw [rows, Table.Unique, Table.Unique, List.map_map, List.map_map]
        exact ⟨consistent.sessions, consistent.dialogues⟩
      | created session sessionId dialogueId purpose now fresh unused dialogue rows key =>
        rw [rows]
        exact ⟨consistent.sessions.append fresh, consistent.dialogues.append dialogue⟩
  exact ⟨rows.1, rows.2, people.1, people.2⟩

/-- The tables are consistent in every state reached from empty ones. -/
theorem Consistent.run {experiments : List String}
    (run : store.Run Machine.unguarded { experiments } db) : db.Consistent := by
  refine run.invariant ⟨List.nodup_nil, List.nodup_nil, List.nodup_nil, nofun⟩ ?_
  intro db db' operation consistent _ step
  cases Option.some.inj step
  rw [Operation.after]
  split
  · rename_i applied
    exact consistent.apply applied
  · exact consistent

end Database

/--
In every reachable database a deletion of a participant's data keeps what it promises exactly when
some session of his is open, where it is refused, or no row outside the sessions it removes refers
to him; an admission through Prolific is such a row.
-/
theorem deletion_kept_iff {experiments : List String} {db : Database}
    (run : store.Run Machine.unguarded { experiments } db) {participant : ParticipantRow}
    (mem : participant ∈ db.participants) :
    db.DeletionKept participant.experimentId participant.participantId ↔
      (¬db.AllEnded participant.experimentId participant.participantId ∨
        ¬db.ReferredElsewhere participant.experimentId participant.participantId) :=
  (Database.Consistent.run run).deletionKept_iff mem

def directParticipant : List Operation :=
  [.upsertParticipant ⟨"exp", "human", "direct", none, .null⟩ ["calm-otter"] 0,
    .createSession {
      experimentId := "exp"
      publicSessionId := "s_1"
      mode := "human_vs_human"
      lifecycle := .forming
      purpose := "research"
      waitingTimeoutSeconds := 600
      maximumLifetimeSeconds := 3600
      configRevision := 1
      gameVersion := "1" } ["blue-fox"] 0,
    .addSessionParticipant ⟨"exp", 1⟩ {
      participantId := 1
      participantSessionId := .human 0
      source := .direct
      role := .A
      joinedAt := 0
      connectionStatus := "connected" },
    .endSession ⟨"exp", 1⟩ ⟨"session_ended", none, none, .null, none⟩
      ⟨.technicalFailure, none, {}⟩ 0]

theorem deletion_kept_direct :
    ∃ db, store.exec { experiments := ["exp"] } directParticipant = some db ∧
      db.sessions.length = 1 ∧ db.DeletionKept "exp" 1 := by
  have reached : store.exec { experiments := ["exp"] } directParticipant = some _ := rfl
  let participant : ParticipantRow := ⟨1, "calm-otter", "exp", "human", "direct", none, .null, 0⟩
  have mem : participant ∈ [participant] := .head _
  refine ⟨_, reached, by decide +kernel, ?_⟩
  refine (deletion_kept_iff (.of_exec_unguarded reached) mem).mpr (.inr ?_)
  unfold Database.ReferredElsewhere
  decide +kernel

/-- A participant admitted through Prolific, without a session, cannot be deleted. -/
theorem prolific_participant_stays :
    ∃ db, store.Run Machine.unguarded { experiments := ["exp"] } db ∧
      ∃ participant ∈ db.participants,
        ¬db.DeletionKept participant.experimentId participant.participantId := by
  have reached : store.exec { experiments := ["exp"] } [.admitProlificSubmission
    ⟨"exp", "pid", "study", "submission", "jwt"⟩ ["calm-otter"] (.human 0) 0] = some _ := rfl
  refine ⟨_, .of_exec_unguarded reached, _, .head _, fun kept => ?_⟩
  obtain ⟨after, preview, deleted, -⟩ := kept.1 (by
    unfold Database.AllEnded
    decide +kernel)
  have refused := congrArg Except.toBool deleted
  change _ = true at refused
  revert refused
  decide +kernel

end Parlando
