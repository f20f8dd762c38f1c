import Parlando.Proofs.Presence
import Parlando.Proofs.ReconnectGrace
import Parlando.Reclamation

namespace Parlando

open Concurrency

variable {G : Game} {config : ExperimentConfig}

structure SessionTables.Free (tables : SessionTables) (id : String) : Prop where
  bus : id ∉ tables.sessionBuses
  transitionLock : id ∉ tables.sessionTransitionLocks
  transcripts : ∀ key ∈ tables.committedTranscripts, Text.startsWith (id ++ ":") key = false
  inboxes : ∀ key ∈ tables.agentInboxes, Text.startsWith (id ++ ":") key = false
  games : ∀ key ∈ tables.gameConnections, Text.startsWith (id ++ ":") key = false
  audio : ∀ key ∈ tables.audioConnections, Text.startsWith (id ++ ":") key = false
  windows : ∀ key ∈ tables.rejectionWindows, Text.startsWith (id ++ "\x00") key = false

/-- The session has left memory, together with everything the tables held for it. -/
def MemoryState.Forgotten (memory : MemoryState G) (id : String) : Prop :=
  memory.sessions.lookup id = none ∧ memory.tables.Free id

namespace SessionTables

variable {id : String} {removed keys : List String}

theorem not_mem_withoutIds (mem : id ∈ removed) : id ∉ withoutIds removed keys := by
  intro kept
  simpa [mem] using (List.mem_filter.mp kept).2

theorem startsWith_withoutStarting {separator : String} (mem : id ∈ removed) :
    ∀ key ∈ withoutStarting separator removed keys,
      Text.startsWith (id ++ separator) key = false := by
  intro key kept
  have out := (List.mem_filter.mp kept).2
  rw [Bool.not_eq_true', List.any_eq_false] at out
  exact Bool.eq_false_iff.mpr (out id mem)

theorem forget_free (tables : SessionTables) (mem : id ∈ removed) : (tables.forget removed).Free id where
  bus := not_mem_withoutIds mem
  transitionLock := not_mem_withoutIds mem
  transcripts := startsWith_withoutStarting mem
  inboxes := startsWith_withoutStarting mem
  games := startsWith_withoutStarting mem
  audio := startsWith_withoutStarting mem
  windows := startsWith_withoutStarting mem

end SessionTables

/-- A session is forgotten by a call of the cleaner just where the call picks it. -/
theorem MemoryState.forgotten_iff {memory : MemoryState G} {id : String} {session : LiveSession G}
    {now : Timestamp} {expired : String → EndReason → Bool}
    (entry : memory.sessions.lookup id = some session) :
    (memory.cleanupTransientRooms now expired).Forgotten id ↔
      session.isReclaimed now (expired id) = true := by
  let picks : String → Bool := fun id => (memory.sessions.lookup id).any fun session =>
    session.isReclaimed now (expired id)
  have here : id ∈ memory.sessions.keys := by
    rw [← AList.mem_keys, ← AList.lookup_isSome, entry]
    rfl
  have listed : id ∈ memory.sessions.keys.filter picks ↔
      session.isReclaimed now (expired id) = true := by
    rw [List.mem_filter, and_iff_right here]
    simp only [picks, entry, Option.any_some]
  rw [← listed, Forgotten, cleanupTransientRooms]
  constructor
  · rintro ⟨gone, -⟩
    by_contra kept
    split at gone
    · rw [entry] at gone
      cases gone
    · have out : (!(memory.sessions.keys.filter picks).contains id) = true := by
        simpa only [Bool.not_eq_true', ← Bool.not_eq_true, List.contains_iff_mem] using kept
      rw [Map.lookup_retain, if_pos out, entry] at gone
      cases gone
  · intro mem
    split
    · rename_i none
      rw [List.isEmpty_iff.mp none] at mem
      cases mem
    · have out : (!(memory.sessions.keys.filter picks).contains id) = false := by
        rw [List.contains_iff_mem.mpr mem]
        rfl
      refine ⟨?_, SessionTables.forget_free _ mem⟩
      rw [Map.lookup_retain, if_neg (Bool.eq_false_iff.mp out)]

/-- Every disconnect on record lies in the past. -/
def Cell.Recorded (cell : Cell G) : Prop :=
  ∀ session id p t, cell.session = some session → session.participants.lookup id = some p →
    p.disconnectedAt = some t → t ≤ cell.clock

theorem Cell.Recorded.apply {cell : Cell G} {sec : Section G} {now : Timestamp}
    (recorded : cell.Recorded) (clock : cell.clock ≤ now)
    (past : ∀ id t d, sec = .memory (.disconnect id t d) → t ≤ cell.clock) :
    Cell.Recorded { cell.apply config sec with clock := now } := by
  intro session' id p' t here found disconnected
  obtain ⟨session, before, step⟩ := Cell.apply_step here
  have look := step.members.lookup id
  generalize session'.participants.lookup id = after at look found
  refine Int.le_trans ?_ clock
  cases look with
  | @kept _ f same =>
    obtain ⟨p, found', rfl⟩ := Option.map_eq_some_iff.mp found
    rw [(same p).disconnectedAt] at disconnected
    exact recorded session id p t before found' disconnected
  | connect now =>
    obtain ⟨p, found, rfl⟩ := Option.map_eq_some_iff.mp found
    cases disconnected
  | disconnect t' d =>
    obtain ⟨p, found, rfl⟩ := Option.map_eq_some_iff.mp found
    cases disconnected
    exact past id t d rfl
  | joined | attached =>
    cases found
    cases disconnected
  | detached => cases found

def deadlinesOutline (G : Game) (config : ExperimentConfig) :
    Outline (sessionProgram G config) (OwnersKnown config) where
  inv cell := cell.Deadlines config ∧ cell.Recorded
  asn cell _ task := (∀ call, task.owner = some (.loop call) →
    cell.Member call.participantSessionId) ∧ task.OnTime config cell
  entry := by
    intro w task pid _ _ enter
    exact ⟨fun call => Task.member_of_entry enter, (Task.onTime_of_entry (session_entry enter).1).1⟩
  step := by
    intro w pid input task cell' task' started ⟨deadlines, recorded⟩ each known ht h
    obtain ⟨sec, hn, clock, rfl⟩ := session_step h
    obtain ⟨member, onTime⟩ := each pid task ht
    have sound := known.owners pid task ht
    have spares := Task.next_sparesHumans sound hn
    refine ⟨⟨deadlines.apply (Task.next_movesHumans sound hn) ?_, recorded.apply clock ?_⟩,
      ⟨fun call owned => ?_, Task.next_onTime onTime sound member clock hn⟩, ?_⟩
    · rintro id t d rfl
      obtain ⟨call, rfl, rfl, -⟩ := Task.next_disconnect hn
      exact onTime.2
    · rintro id t d rfl
      obtain ⟨call, rfl, rfl, -⟩ := Task.next_disconnect hn
      exact onTime.1
    · have owned := Task.next_owner hn owned
      exact (member call owned).apply (sound _ owned) spares
    · intro u mem q
      obtain ⟨call, deadline, rfl, rfl⟩ := Task.mem_started hn mem
      exact ⟨fun _ owned => (by cases owned), onTime.1.apply spares,
        Int.le_trans onTime.2 (Int.add_le_add_right clock _)⟩
  interference := by
    intro w pid input task cell' task' started q u _ _ known ht h _ hu ⟨member, onTime⟩
    obtain ⟨sec, hn, clock, rfl⟩ := session_step h
    have spares := Task.next_sparesHumans (known.owners pid task ht) hn
    exact ⟨fun call owned => (member call owned).apply (known.owners q u hu _ owned) spares,
      onTime.mono clock fun id gone => gone.apply spares⟩

theorem deadlinesOutline_valid {creation : Creation G}
    {guard : Pool (Cell G) (Task G) → Pool.Action (Task G) Input → Prop}
    {w : Pool (Cell G) (Task G)}
    (run : (sessionMachine G config).Run guard (creation.initial config) w) :
    (deadlinesOutline G config).Valid w := by
  have known := run.and_invariant fun reached =>
    And.intro (owners_sound reached) (lockOutline_valid reached)
  have init : (deadlinesOutline G config).Valid (creation.initial config) := {
    inv := by
      refine ⟨(graceOutline_initial creation).inv, ?_⟩
      intro session id p t here found disconnected
      cases here
      change (AList.singleton _ _ : Map _ _).lookup id = some p at found
      rw [Map.lookup_singleton] at found
      split at found <;> cases found
      cases disconnected
    each := by
      intro pid task ht
      cases ht }
  exact init.run (known.mono fun _ _ ⟨_, owners, locks⟩ =>
    ⟨owners, fun pid task ht => (locks.each pid task ht).2⟩)

namespace Task

def attends : Task G → Bool
  | socket _ .register | socket _ (.connect _) | socket _ (.persistConnected _)
  | socket _ (.started _) | socket _ (.serving _) | socket _ .stamp | socket _ (.disconnect _ _)
  | event _ (.connected _ _) _ | start (.socket _ _) _ => true
  | _ => false

end Task

def Unattended (w : Pool (Cell G) (Task G)) : Prop :=
  (∀ role, w.shared.connections.get role = none) ∧ ∀ task ∈ w.tasks, task.attends = false

/-- While nobody attends a session, no deadline is set: all of them date from before. -/
theorem deadline_of_unattended {creation : Creation G} {w₁ w : Pool (Cell G) (Task G)}
    {guard : Pool (Cell G) (Task G) → Pool.Action (Task G) Input → Prop}
    (run : (sessionMachine G config).Run guard (creation.initial config) w₁)
    (away : (sessionMachine G config).Run (fun w _ => Unattended w) w₁ w)
    {session : LiveSession G} {id : ParticipantSessionId} {p : SessionParticipant} {d : Timestamp}
    (here : w.shared.session = some session) (found : session.participants.lookup id = some p)
    (deadline : p.reconnectDeadlineAt = some d) :
    d ≤ w₁.shared.clock + Timestamp.seconds config.graceSeconds := by
  let bounded (w : Pool (Cell G) (Task G)) : Prop :=
    ∀ session id p d, w.shared.session = some session → session.participants.lookup id = some p →
      p.reconnectDeadlineAt = some d →
      d ≤ w₁.shared.clock + Timestamp.seconds config.graceSeconds
  have always : bounded w := by
    refine away.invariant ?_ ?_
    · intro session id p d here found deadline
      obtain ⟨deadlines, recorded⟩ := (deadlinesOutline_valid run).inv
      obtain ⟨-, t, disconnected, rfl⟩ := deadlines session id p d here found deadline
      exact Int.add_le_add_right (recorded session id p t here found disconnected) _
    · intro t u a before ⟨_, served⟩ h session' id p' d here found deadline
      rcases Program.step_cases h with ⟨task, rfl, -, rfl⟩ |
        ⟨pid, input, task, cell', task', started, rfl, ht, hs, rfl⟩
      · exact before session' id p' d here found deadline
      obtain ⟨sec, hn, -, rfl⟩ := session_step hs
      obtain ⟨session, there, step⟩ := Cell.apply_step here
      have look := step.members.lookup id
      generalize session'.participants.lookup id = after at look found
      cases look with
      | @kept _ f same =>
        obtain ⟨p, found', rfl⟩ := Option.map_eq_some_iff.mp found
        rw [(same p).reconnectDeadlineAt] at deadline
        exact before session id p d there found' deadline
      | connect now =>
        obtain ⟨p, found, rfl⟩ := Option.map_eq_some_iff.mp found
        cases deadline
      | disconnect t' d' =>
        obtain ⟨call, rfl, -⟩ := Task.next_disconnect hn
        have attends := served _ (List.mem_of_getElem? ht)
        cases attends
      | joined | attached =>
        cases found
        cases deadline
      | detached => cases found
  exact always session id p d here found deadline

/--
The voice period of the session is over; or it has none, no member counts as connected any more and
some member's disconnect is on record.
-/
def LiveSession.reclaimable (session : LiveSession G) (now : Timestamp) : Bool :=
  match session.voiceEndsAt with
  | some voiceEndsAt => decide (voiceEndsAt ≤ now)
  | none => !session.participants.values.any SessionParticipant.connected &&
    session.participants.values.any fun participant => participant.reconnectDeadlineAt.isSome

def ExperimentConfig.longestTimeout (config : ExperimentConfig) : Int :=
  max config.session.waitingSessionTimeoutSeconds (max config.graceSeconds
    (max config.session.sessionIdleTimeoutSeconds (max config.session.sessionMaxLifetimeSeconds
      config.voice.postCompletionSeconds)))

theorem LiveSession.isReclaimed_iff {session : LiveSession G} {now : Timestamp}
    {expired : EndReason → Bool} (ended : session.lifecycle.isEnded = true) :
    session.isReclaimed now expired = true ↔
      (passed session.voiceEndsAt now || session.voiceEndsAt.isNone &&
        !session.participants.values.any SessionParticipant.connected &&
        passed session.reconnectDeadline now) = true := by
  have forming : session.lifecycle.isForming = false := by
    cases is : session.lifecycle <;> rw [is] at ended <;> first | rfl | cases ended
  have running : session.lifecycle.isRunning = false := by
    cases is : session.lifecycle <;> rw [is] at ended <;> first | rfl | cases ended
  rw [isReclaimed, cleanupReason]
  simp only [ended, forming, running, Bool.not_true, Bool.false_and, Bool.false_eq_true, if_false,
    Bool.true_and]
  split
  · rename_i due
    rw [due]
    simp [roomIsCurrent]
  · rename_i going
    simpa using going

theorem passed_reconnectDeadline {session : LiveSession G} {now : Timestamp} :
    passed session.reconnectDeadline now = true ↔ ∃ p ∈ session.participants.values,
      p.connected = false ∧ ∃ d, p.reconnectDeadlineAt = some d ∧ d ≤ now := by
  rw [passed, LiveSession.reconnectDeadline, Option.any_eq_true]
  constructor
  · rintro ⟨d, least, come⟩
    obtain ⟨p, mem, deadline⟩ := List.mem_filterMap.mp (List.min?_mem least)
    rw [List.mem_filter] at mem
    exact ⟨p, mem.1, by simpa using mem.2, d, deadline, of_decide_eq_true come⟩
  · rintro ⟨p, mem, away, d, deadline, come⟩
    have listed : d ∈ (session.participants.values.filter fun participant =>
        !participant.connected).filterMap SessionParticipant.reconnectDeadlineAt :=
      List.mem_filterMap.mpr ⟨p, List.mem_filter.mpr ⟨mem, by simp [away]⟩, deadline⟩
    obtain ⟨least, is⟩ := Option.isSome_iff_exists.mp (List.isSome_min?_of_mem listed)
    have below := (List.le_min?_iff is).mp (Int.le_refl least) d listed
    exact ⟨least, is, decide_eq_true (Int.le_trans below come)⟩

/-- Nobody has attended the session since a state further back than every timeout. -/
structure Deserted (config : ExperimentConfig) (w₁ w : Pool (Cell G) (Task G)) (now : Timestamp) :
    Prop where
  away : (sessionMachine G config).Run (fun w _ => Unattended w) w₁ w
  still : Unattended w
  long : w₁.shared.clock + Timestamp.seconds config.longestTimeout < now

theorem seconds_mono {m n : Int} (h : m ≤ n) : Timestamp.seconds m ≤ Timestamp.seconds n :=
  Int.mul_le_mul_of_nonneg_right h (by decide)

theorem ExperimentConfig.grace_le_longest (config : ExperimentConfig) :
    config.graceSeconds ≤ config.longestTimeout :=
  Int.le_trans (Int.le_max_left _ _) (Int.le_max_right _ _)

/--
One call of the cleaner forgets an ended session that has been deserted for longer than every
timeout just where its voice period is over, or where it has none, no member counts as connected
and some member's disconnect is on record.
-/
theorem memory_reclaimed_iff {creation : Creation G} {w₁ w : Pool (Cell G) (Task G)}
    {memory : MemoryState G} {id : String} {session : LiveSession G} {now : Timestamp}
    {expired : String → EndReason → Bool}
    (run : (sessionMachine G config).Run Machine.unguarded (creation.initial config) w₁)
    (deserted : Deserted config w₁ w now) (here : w.shared.session = some session)
    (entry : memory.sessions.lookup id = some session) (ended : session.lifecycle.isEnded = true) :
    (memory.cleanupTransientRooms now expired).Forgotten id ↔ session.reclaimable now = true := by
  rw [MemoryState.forgotten_iff entry, LiveSession.isReclaimed_iff ended, LiveSession.reclaimable]
  cases voice : session.voiceEndsAt with
  | some voiceEndsAt => simp [passed]
  | none =>
    have come : ∀ d, (∃ p ∈ session.participants.values, p.reconnectDeadlineAt = some d) →
        d ≤ now := by
      rintro d ⟨p, mem, deadline⟩
      obtain ⟨member, found⟩ := Map.mem_values.mp mem
      have bound := deadline_of_unattended run deserted.away here found deadline
      have reach := Int.add_le_add_left (seconds_mono config.grace_le_longest) w₁.shared.clock
      exact Int.le_of_lt (Int.lt_of_le_of_lt (Int.le_trans bound reach) deserted.long)
    simp only [passed, Option.any_none, Bool.false_or, Option.isNone_none, Bool.true_and,
      Bool.and_eq_true]
    refine and_congr_right fun alone => ?_
    rw [← passed, passed_reconnectDeadline, List.any_eq_true]
    constructor
    · rintro ⟨p, mem, -, d, deadline, -⟩
      exact ⟨p, mem, by rw [deadline]; rfl⟩
    · rintro ⟨p, mem, set⟩
      obtain ⟨d, deadline⟩ := Option.isSome_iff_exists.mp set
      rw [Bool.not_eq_true', List.any_eq_false] at alone
      exact ⟨p, mem, Bool.eq_false_iff.mpr (alone p mem), d, deadline, come d ⟨p, mem, deadline⟩⟩

/-- A session with an agent and without a voice period is never forgotten once it has ended. -/
theorem agent_session_never_reclaimed {creation : Creation G} {w : Pool (Cell G) (Task G)}
    {guard : Pool (Cell G) (Task G) → Pool.Action (Task G) Input → Prop} {memory : MemoryState G}
    {id : String} {session : LiveSession G} {agent : ParticipantSessionId} {p : SessionParticipant}
    {now : Timestamp} {expired : String → EndReason → Bool}
    (run : (sessionMachine G config).Run guard (creation.initial config) w)
    (here : w.shared.session = some session) (entry : memory.sessions.lookup id = some session)
    (ended : session.lifecycle.isEnded = true) (voice : session.voiceEndsAt = none)
    (found : session.participants.lookup agent = some p) (software : agent.isHuman = false) :
    ¬(memory.cleanupTransientRooms now expired).Forgotten id := by
  have connected := ((connectionsOutline_valid run).inv session here).agents agent p found software
  have present : session.participants.values.any SessionParticipant.connected = true :=
    List.any_eq_true.mpr ⟨p, Map.lookup_mem_values found, connected⟩
  rw [MemoryState.forgotten_iff entry, LiveSession.isReclaimed_iff ended, voice, present]
  simp [passed]

namespace TallyAction

/-- Both humans leave the running game, and the first one's timer ends it. -/
def bothGone : List TallyAction :=
  opening ++ closing 1 0 ++ closing 2 0 ++ steps 3 4 15000000000

def goneBeforeSocket : List TallyAction :=
  .spawn (.abandon (.human 1) .participantLeft .request .fetch) :: steps 0 7 1

/-- The session alone in memory, with entries in all tables. -/
def alone (session : LiveSession tallyGame) : MemoryState tallyGame where
  sessions := AList.singleton "room" session
  tables := ⟨["room"], ["room"], ["room:1:0:r"], ["room:2"], ["room:A"], ["room:A"], ["room\x001"]⟩

/-- The session has ended, nobody attends it, and it passes a test or not. -/
def outcome (test : LiveSession tallyGame → Bool) (w : Pool (Cell tallyGame) (Task tallyGame)) :
    Option (Bool × Bool × Bool) :=
  w.shared.session.map fun session =>
    (session.lifecycle.isEnded,
      (w.shared.connections.get .A).isNone && (w.shared.connections.get .B).isNone &&
        w.tasks.all fun task => !task.attends,
      test session)

/-- A day later everybody has been gone for longer than every timeout. -/
def dayLater : Timestamp := Timestamp.seconds 86400

theorem outcome_eq {test : LiveSession tallyGame → Bool} {passes : Bool}
    {w : Pool (Cell tallyGame) (Task tallyGame)} (h : outcome test w = some (true, true, passes)) :
    ∃ session, w.shared.session = some session ∧ session.lifecycle.isEnded = true ∧
      Unattended w ∧ test session = passes := by
  obtain ⟨session, here, h⟩ := Option.map_eq_some_iff.mp h
  simp only [Prod.mk.injEq, Bool.and_eq_true, Option.isNone_iff_eq_none, List.all_eq_true,
    Bool.not_eq_true'] at h
  obtain ⟨ended, ⟨⟨first, second⟩, served⟩, passes⟩ := h
  refine ⟨session, here, ended, ⟨fun role => ?_, served⟩, passes⟩
  cases role with
  | A => exact first
  | B => exact second

end TallyAction

/-- A session that both humans have left is forgotten a day later. -/
theorem memory_reclaimed_both_gone :
    ∃ session : LiveSession tallyGame, session.lifecycle.isEnded = true ∧
      ((TallyAction.alone session).cleanupTransientRooms TallyAction.dayLater
        fun _ _ => false).Forgotten "room" := by
  have h : (((sessionMachine tallyGame {}).exec (TallyAction.creation.initial {})
      TallyAction.bothGone).bind fun w =>
        (TallyAction.outcome (LiveSession.reclaimable · TallyAction.dayLater) w).map
          fun outcome => (outcome, decide (w.shared.clock = 15000000000))) =
            some ((true, true, true), true) := rfl
  obtain ⟨w, reached, h⟩ := Option.bind_eq_some_iff.mp h
  obtain ⟨outcome, now, h⟩ := Option.map_eq_some_iff.mp h
  obtain ⟨rfl, clock⟩ := Prod.mk.inj h
  obtain ⟨session, here, ended, still, reclaimable⟩ := TallyAction.outcome_eq now
  refine ⟨session, ended, (memory_reclaimed_iff (.of_exec_unguarded reached) ⟨.refl, still, ?_⟩ here
    rfl ended).mpr reclaimable⟩
  rw [of_decide_eq_true clock]
  decide

/-- A session whose only human left before opening a socket stays in memory. -/
theorem memory_not_reclaimed :
    ∃ (w : Pool (Cell tallyGame) (Task tallyGame)) (session : LiveSession tallyGame),
      (sessionMachine tallyGame {}).Run Machine.unguarded (TallyAction.creation.initial {}) w ∧
      Deserted {} w w TallyAction.dayLater ∧ w.shared.session = some session ∧
      session.lifecycle.isEnded = true ∧
      ¬((TallyAction.alone session).cleanupTransientRooms TallyAction.dayLater
        fun _ _ => false).Forgotten "room" := by
  have h : (((sessionMachine tallyGame {}).exec (TallyAction.creation.initial {})
      TallyAction.goneBeforeSocket).bind fun w =>
        (TallyAction.outcome (LiveSession.isReclaimed · TallyAction.dayLater fun _ => false) w).map
          fun outcome => (outcome, decide (w.shared.clock = 1))) = some ((true, true, false), true) :=
    rfl
  obtain ⟨w, reached, h⟩ := Option.bind_eq_some_iff.mp h
  obtain ⟨outcome, now, h⟩ := Option.map_eq_some_iff.mp h
  obtain ⟨rfl, clock⟩ := Prod.mk.inj h
  obtain ⟨session, here, ended, still, kept⟩ := TallyAction.outcome_eq now
  refine ⟨w, session, .of_exec_unguarded reached, ⟨.refl, still, ?_⟩, here, ended, fun gone => ?_⟩
  · rw [of_decide_eq_true clock]
    decide
  · rw [(MemoryState.forgotten_iff rfl).mp gone] at kept
    cases kept

end Parlando
