import Parlando.Data.Except
import Parlando.Proofs.Members
import Parlando.Proofs.RowEndsFirst
import Parlando.Proofs.Snapshots
import Parlando.View

namespace Parlando

open Concurrency

variable {G : Game} {config : ExperimentConfig}

/-- Computed results answer for every human of the session they were computed from. -/
theorem ResultsOf.answers {session : LiveSession G} {results : RoleMap ParticipantResult}
    (h : ResultsOf config session results) {p : SessionParticipant}
    (mem : p ∈ session.participants.values) (human : p.isAgent = false) :
    (results.get p.role).isSome := by
  obtain ⟨finalState, gameStarted, reason, completion, outcome, computed⟩ := h
  obtain ⟨pairs, traversal, computed⟩ := Except.of_bind_ok computed
  obtain ⟨pair, pairMem, image⟩ := Except.mapM_image traversal
    (List.mem_filter.mpr ⟨mem, by simp [human]⟩)
  obtain ⟨observation, -, image⟩ := Except.of_bind_ok image
  cases computed
  cases image
  rw [RoleMap.get_collect_isSome]
  exact ⟨_, pairMem, rfl⟩

namespace Cell

def Answers (cell : Cell G) (e : SessionEnd) : Prop :=
  ∀ session id p, cell.session = some session → session.participants.lookup id = some p →
    p.isAgent = false → (e.participantResults.get p.role).isSome

def NoNewcomer (cell : Cell G) (sec : Section G) : Prop :=
  ∀ session participant now, cell.session = some session →
    sec = .memory (.addHuman participant now) →
    session.participants.lookup participant.id ≠ none

theorem Answers.apply {cell : Cell G} {sec : Section G} {e : SessionEnd} (answers : cell.Answers e)
    (same : cell.NoNewcomer sec) : (cell.apply config sec).Answers e := by
  intro session' id p' here found human
  obtain ⟨session, before, step⟩ := Cell.apply_step here
  have look := step.members.lookup id
  generalize session'.participants.lookup id = after at look found
  cases look with
  | kept same =>
    obtain ⟨p, found', rfl⟩ := Option.map_eq_some_iff.mp found
    rw [(same p).role]
    simp only [SessionParticipant.isAgent, (same p).source] at human
    exact answers session id p before found' human
  | connect | disconnect =>
    obtain ⟨p, found', rfl⟩ := Option.map_eq_some_iff.mp found
    exact answers session id p before found' human
  | joined participant now role own fresh =>
    subst own
    exact absurd fresh (same session participant now before rfl)
  | attached =>
    cases found
    cases human
  | detached => cases found

end Cell

namespace Task

def snapshot : Task G → Option SessionEnd
  | finalize _ => none
  | task => task.ends

theorem snapshot_of_entry {task : Task G} (h : task.entry = true) : task.snapshot = none := by
  unfold entry at h
  split at h <;> first | rfl | cases h

theorem snapshot_of_ending {task : Task G} {e : SessionEnd} (h : task.ending = some e) :
    task.snapshot = some e := by
  cases task <;> try cases h
  all_goals
    rename_i pc
    cases pc <;> first | exact h | cases h

/-- A terminal value was there before or is computed from the session in memory. -/
theorem next_snapshot {cell : Cell G} {pid : Nat} {input : Input} {sec : Section G}
    {task task' : Task G} {started : List (Task G)} {e : SessionEnd}
    (h : task.next config cell pid input = some (sec, task', started))
    (holds : task'.snapshot = some e) :
    task.snapshot = some e ∨ (∀ participant now, sec ≠ .memory (.addHuman participant now)) ∧
      ∃ session, cell.session = some session ∧
        ResultsOf config session e.participantResults := by
  have ends : task'.ends = some e := by
    cases task' <;> first | exact holds | cases holds
  rcases next_ends h ends with before | snapshot
  · by_cases recovery : ∃ pc, task = finalize pc
    · obtain ⟨pc, rfl⟩ := recovery
      obtain ⟨⟨sec', pc'⟩, hs, he⟩ := Option.map_eq_some_iff.mp h
      cases he
      cases holds
    · left
      cases task <;> first | exact before | exact absurd ⟨_, rfl⟩ recovery
  · cases snapshot with
    | completed here computed =>
      refine .inr ⟨?_, _, here, (completedSessionEnd_ok computed).2⟩
      rintro participant now rfl
      cases next_addHuman h
    | abandoned here computed =>
      refine .inr ⟨?_, _, here, (abandonedSessionEnd_ok computed).2⟩
      rintro participant now rfl
      cases next_addHuman h
    | expired here computed =>
      refine .inr ⟨?_, _, here, (expiredSessionEnd_ok computed).2⟩
      rintro participant now rfl
      cases next_addHuman h
    | interrupted started =>
      obtain ⟨⟨sec', pc'⟩, hs, he⟩ := Option.map_eq_some_iff.mp h
      cases he
      cases holds

end Task

/--
The runs in which nobody joins a session that is over or that a task is about to end with a
terminal value computed before the join.
-/
def JoinsBeforeEnd (w : Pool (Cell G) (Task G)) (a : Pool.Action (Task G) Input) : Prop :=
  ∀ pid input participant session, a = .run pid input →
    w.tasks[pid]? = some (.pair participant .join) → w.shared.session = some session →
    session.participants.lookup participant.id = none →
    session.lifecycle.isEnded = false ∧ w.Each fun _ task => task.snapshot = none

structure Cell.Answerable (cell : Cell G) : Prop where
  ended : ∀ session e, cell.session = some session → session.lifecycle = .ended e →
    cell.Answers e
  running : ∀ session, cell.session = some session → session.lifecycle = .running →
    session.idleDeadlineAt.isSome

section Steps

variable {w : Pool (Cell G) (Task G)} {pid : Nat} {input : Input} {sec : Section G}
  {task task' : Task G} {started : List (Task G)}

theorem JoinsBeforeEnd.noNewcomer (met : JoinsBeforeEnd w (.run pid input))
    (ht : w.tasks[pid]? = some task)
    (hn : task.next config w.shared pid input = some (sec, task', started))
    (closed : (∃ session, w.shared.session = some session ∧ session.lifecycle.isEnded = true) ∨
      w.Has fun _ task => task.snapshot.isSome) : w.shared.NoNewcomer sec := by
  rintro session participant now here rfl fresh
  cases Task.next_addHuman hn
  obtain ⟨unended, idle⟩ := met pid input participant session rfl ht here fresh
  rcases closed with ⟨session', here', ended⟩ | ⟨q, u, hu, holds⟩
  · cases Option.some.inj (here.symm.trans here')
    rw [unended] at ended
    cases ended
  · rw [idle q u hu] at holds
    cases holds

end Steps

def answersOutline (G : Game) (config : ExperimentConfig) :
    Outline (sessionProgram G config) JoinsBeforeEnd where
  inv := Cell.Answerable
  asn cell _ task := ∀ e, task.snapshot = some e → cell.Answers e
  entry := by
    intro w task pid _ _ enter e holds
    rw [Task.snapshot_of_entry (session_entry enter).1] at holds
    cases holds
  step := by
    intro w pid input task cell' task' started answerable each met ht h
    obtain ⟨sec, hn, -, rfl⟩ := session_step h
    have own := each pid task ht
    have kept : ∀ e, task.snapshot = some e → (w.shared.apply config sec).Answers e :=
      fun e holds => (own e holds).apply
        (met.noNewcomer ht hn (.inr ⟨pid, task, ht, by simp [holds]⟩))
    refine ⟨⟨fun session' e here ended => ?_, fun session' here running => ?_⟩,
      fun e holds => ?_, ?_⟩
    · obtain ⟨session, before, step⟩ := Cell.apply_step here
      cases writes : sec.lifecycle with
      | none =>
        have ended : session.lifecycle = .ended e := by
          rw [← ended, step.lifecycle, writes]
          rfl
        refine (answerable.ended session e before ended).apply (met.noNewcomer ht hn (.inl ?_))
        exact ⟨session, before, by rw [ended]; rfl⟩
      | some written =>
        rw [show written = .ended e by rw [← ended, step.lifecycle, writes]; rfl] at writes
        exact kept e (Task.snapshot_of_ending (Task.next_ended hn writes))
    · obtain ⟨session, before, step⟩ := Cell.apply_step here
      cases writes : sec.lifecycle with
      | none =>
        refine step.idle (answerable.running session before ?_)
        rw [← running, step.lifecycle, writes]
        rfl
      | some written =>
        rw [show written = .running by rw [← running, step.lifecycle, writes]; rfl] at writes
        exact step.idleStarted writes
    · rcases Task.next_snapshot hn holds with before | ⟨other, session, here, computed⟩
      · exact kept e before
      · refine Cell.Answers.apply ?_ fun _ participant now _ same => absurd same (other _ _)
        intro session' id p here' found human
        cases Option.some.inj (here.symm.trans here')
        exact computed.answers (Map.lookup_mem_values found) human
    · intro u mem q e holds
      obtain ⟨call, deadline, -, rfl⟩ := Task.mem_started hn mem
      cases holds
  interference := by
    intro w pid input task cell' task' started q u _ _ met ht h _ hu theirs e holds
    obtain ⟨sec, hn, -, rfl⟩ := session_step h
    exact (theirs e holds).apply (met.noNewcomer ht hn (.inr ⟨q, u, hu, by simp [holds]⟩))

theorem answersOutline_initial (creation : Creation G) :
    (answersOutline G config).Valid (creation.initial config) where
  inv := by
    constructor
    · intro session e here ended
      cases here
      cases ended
    · intro session here running
      cases here
      cases running
  each := by
    intro pid task ht
    cases ht

theorem answersOutline_valid {creation : Creation G} {w : Pool (Cell G) (Task G)}
    (run : (sessionMachine G config).Run JoinsBeforeEnd (creation.initial config) w) :
    (answersOutline G config).Valid w :=
  (answersOutline_initial creation).run run

/-- Every observation and every listed action of the game serializes. -/
structure Game.Serializes (G : Game) : Prop where
  observation : ∀ o, ∃ value, G.observationJson o = .ok value
  action : ∀ a, ∃ value, G.actionJson a = .ok value

theorem protocolJson_ok {json : Except String Value} (h : ∃ value, json = .ok value) :
    ∃ value, protocolJson json = .ok value := by
  obtain ⟨value, rfl⟩ := h
  exact ⟨value, rfl⟩

/-- A view of a game that serializes fails for no role; only a forming session has no observation. -/
theorem participantView_ok (serializes : G.Serializes) (session : LiveSession G)
    (role : PlayerRole) : ∃ view, participantView session role = .ok view ∧
      (session.lifecycle.isForming = false → view.observation.isSome) := by
  unfold participantView
  cases forming : session.lifecycle.isForming with
  | true => exact ⟨_, rfl, nofun⟩
  | false =>
    obtain ⟨observation, shown⟩ :=
      protocolJson_ok (serializes.observation (G.observation session.state role))
    simp only [shown]
    cases G.availableActions session.state role with
    | none => exact ⟨_, rfl, fun _ => rfl⟩
    | some actions =>
      have each : ∀ action ∈ actions, ∃ value, protocolJson (G.actionJson action) = .ok value :=
        fun action _ => protocolJson_ok (serializes.action action)
      obtain ⟨values, listed⟩ := Except.mapM_total each
      refine ⟨⟨sessionPresence session, some observation, some values⟩, ?_, fun _ => rfl⟩
      simp only [listed]
      rfl

/--
An ended session has a result for every human in it, a running one has an idle deadline, and so
every human's snapshot can be answered.
-/
theorem ended_answers_humans {config : ExperimentConfig} {creation : Creation G}
    {w : Pool (Cell G) (Task G)} (serializes : G.Serializes)
    (run : (sessionMachine G config).Run JoinsBeforeEnd (creation.initial config) w)
    {session : LiveSession G} (here : w.shared.session = some session) :
    (∀ e, session.lifecycle = .ended e → ∀ id p, session.participants.lookup id = some p →
      p.isAgent = false → (e.participantResults.get p.role).isSome) ∧
    (session.lifecycle = .running → session.idleDeadlineAt.isSome) ∧
    (∀ id p, session.participants.lookup id = some p → p.isAgent = false →
      ∃ state, participantStateResponse w.shared.session p.role = .ok state) := by
  have answerable := (answersOutline_valid run).inv
  refine ⟨fun e ended id p => answerable.ended session e here ended session id p here,
    answerable.running session here, fun id p found human => ?_⟩
  obtain ⟨view, viewed, observed⟩ := participantView_ok serializes session p.role
  simp only [here, participantStateResponse, viewed]
  cases lifecycle : session.lifecycle with
  | forming => exact ⟨_, rfl⟩
  | running =>
    obtain ⟨observation, shown⟩ :=
      Option.isSome_iff_exists.mp (observed (by rw [lifecycle]; rfl))
    obtain ⟨idle, set⟩ := Option.isSome_iff_exists.mp (answerable.running session here lifecycle)
    simp only [shown, set]
    cases session.pause <;> exact ⟨_, rfl⟩
  | ended e =>
    obtain ⟨result, known⟩ := Option.isSome_iff_exists.mp
      (answerable.ended session e here lifecycle session id p here found human)
    simp only [known]
    exact ⟨_, rfl⟩

namespace TallyAction

/-- Human A leaves the waiting room; human B joins it between the leaving's check and its commit. -/
def joinDuringLeave : List TallyAction :=
  [.spawn (.abandon (.human 1) .participantLeft .request .fetch)] ++ steps 0 3 1 ++
  [.spawn (.pair (human 2) .find)] ++ steps 1 2 1 ++ steps 0 4 1

def joinsBeforeEnd (w : Pool (Cell tallyGame) (Task tallyGame)) : TallyAction → Bool
  | .spawn _ => true
  | .run pid _ => match w.tasks[pid]? with
    | some (.pair _ .join) =>
      !w.shared.memoryEnded && w.tasks.all fun task => task.snapshot.isNone
    | _ => true

theorem joinsBeforeEnd_met {w : Pool (Cell tallyGame) (Task tallyGame)} {a : TallyAction}
    (h : joinsBeforeEnd w a = true) : JoinsBeforeEnd w a := by
  rintro pid input participant session rfl ht here fresh
  simp only [joinsBeforeEnd, ht, Bool.and_eq_true, List.all_eq_true, Option.isNone_iff_eq_none,
    Cell.memoryEnded, here, Option.any_some] at h
  exact ⟨by simpa using h.1, fun q u hu => h.2 u (List.mem_of_getElem? hu)⟩

theorem tallyGame_serializes : tallyGame.Serializes :=
  ⟨fun _ => ⟨_, rfl⟩, fun _ => ⟨_, rfl⟩⟩

/-- Human B's snapshot, as far as it is an error. -/
def snapshotError (w : Pool (Cell tallyGame) (Task tallyGame)) : Option AppError :=
  match participantStateResponse w.shared.session .B with
  | .error error => some error
  | .ok _ => none

/-- Human B's role in the session. -/
def memberRole (w : Pool (Cell tallyGame) (Task tallyGame)) : Option PlayerRole :=
  w.shared.session.bind fun session =>
    (session.participants.lookup (.human 2)).map SessionParticipant.role

end TallyAction

/-- The race: human B is in an ended session that has no result for him. -/
theorem ended_answers_not_everyone :
    ∃ w, (sessionMachine tallyGame {}).Run Machine.unguarded
        (TallyAction.creation.initial {}) w ∧
      TallyAction.memoryCause w = some (.participantLeft "A") ∧
      TallyAction.memberRole w = some .B ∧
      TallyAction.snapshotError w =
        some ⟨.internalServerError, "Terminal participant result is missing"⟩ := by
  have h : ((sessionMachine tallyGame {}).exec (TallyAction.creation.initial {})
      TallyAction.joinDuringLeave).map (fun w =>
        (TallyAction.memoryCause w, TallyAction.memberRole w, TallyAction.snapshotError w)) =
      some (some (.participantLeft "A"), some .B,
        some ⟨.internalServerError, "Terminal participant result is missing"⟩) := rfl
  obtain ⟨w, hw, h⟩ := Option.map_eq_some_iff.mp h
  simp only [Prod.mk.injEq] at h
  exact ⟨w, .of_exec_unguarded hw, h⟩

/-- Human A leaves the running game: human B has a result and gets it. -/
theorem ended_answers_humans_leaving :
    ∃ (session : LiveSession tallyGame) (e : SessionEnd) (p : SessionParticipant),
      session.lifecycle = .ended e ∧ session.participants.lookup (.human 2) = some p ∧
      (e.participantResults.get p.role).isSome ∧
      ∃ state, participantStateResponse (some session) p.role = .ok state := by
  have h : (((sessionMachine tallyGame {}).restrict TallyAction.joinsBeforeEnd).exec
      (TallyAction.creation.initial {}) TallyAction.leaving).bind (fun w =>
        w.shared.session.bind fun session =>
          (session.participants.lookup (.human 2)).map fun p =>
            (session.lifecycle.isEnded, p.isAgent)) = some (true, false) := rfl
  obtain ⟨w, hw, h⟩ := Option.bind_eq_some_iff.mp h
  obtain ⟨session, here, h⟩ := Option.bind_eq_some_iff.mp h
  obtain ⟨p, found, h⟩ := Option.map_eq_some_iff.mp h
  obtain ⟨ended, human⟩ := Prod.mk.inj h
  have run : (sessionMachine tallyGame {}).Run JoinsBeforeEnd
      (TallyAction.creation.initial {}) w :=
    .of_exec (fun _ _ => TallyAction.joinsBeforeEnd_met) hw
  obtain ⟨results, -, snapshots⟩ :=
    ended_answers_humans TallyAction.tallyGame_serializes run here
  cases lifecycle : session.lifecycle with
  | ended e =>
    refine ⟨session, e, p, lifecycle, found, results e lifecycle _ p found human, ?_⟩
    rw [← here]
    exact snapshots _ p found human
  | _ =>
    rw [lifecycle] at ended
    cases ended

end Parlando
