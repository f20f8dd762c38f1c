import Parlando.Proofs.Roles
import Parlando.View

namespace Parlando

open Concurrency

variable {G : Game} {config : ExperimentConfig}

theorem LiveSession.allConnected_iff {session : LiveSession G} : session.allConnected = true ↔
    ∀ id p, session.participants.lookup id = some p → p.connected = true := by
  simp only [allConnected, List.all_eq_true, Map.mem_values]
  exact ⟨fun all id p found => all p ⟨id, found⟩, fun all p has => has.elim fun id => all id p⟩

theorem LiveSession.not_allConnected_iff {session : LiveSession G} :
    session.allConnected = false ↔
      ∃ id p, session.participants.lookup id = some p ∧ p.connected = false := by
  rw [← Bool.not_eq_true, allConnected_iff]
  simp

def LiveSession.AgentsConnected (session : LiveSession G) : Prop :=
  ∀ id p, session.participants.lookup id = some p → id.isHuman = false → p.connected = true

/-- Sections other than a connect, a pause, a start and an ending leave the pause alone. -/
theorem Section.pause_kept {sec : Section G} {before after : LiveSession G}
    (quiet : sec.lifecycle = none) (connects : ¬ ∃ id now, sec = .memory (.connect id now))
    (pauses : ¬ ∃ deadline, sec = .memory (.pause deadline)) :
    sec.pause before after = before.pause := by
  cases sec
  case memory update =>
    cases update
    case connect id now => exact absurd ⟨id, now, rfl⟩ connects
    case pause deadline => exact absurd ⟨deadline, rfl⟩ pauses
    case start => cases quiet
    case terminate => cases quiet
    all_goals rfl
  all_goals rfl

namespace SessionStep

variable {sec : Section G} {before after : LiveSession G}

/-- Only a connect section can bring the last missing participant back. -/
theorem not_allConnected (step : SessionStep config sec before after)
    (agents : before.AgentsConnected) (spares : sec.SparesHumans)
    (missing : before.allConnected = false) (other : ∀ id now, sec ≠ .memory (.connect id now)) :
    after.allConnected = false := by
  obtain ⟨id, p, found, away⟩ := LiveSession.not_allConnected_iff.mp missing
  have human : id.isHuman = true := by
    by_contra agent
    rw [agents id p found (by simpa using agent)] at away
    cases away
  have look := step.members.lookup id
  generalize now : after.participants.lookup id = entry at look
  apply LiveSession.not_allConnected_iff.mpr
  cases look with
  | @kept _ f same => exact ⟨id, f p, by rw [now, found]; rfl, (same p).connected.trans away⟩
  | connect t => exact absurd rfl (other id t)
  | disconnect t d => exact ⟨id, p.disconnect t d, by rw [now, found]; rfl, rfl⟩
  | joined participant t role own fresh =>
    rw [fresh] at found
    cases found
  | attached agent t own =>
    rw [← own, show agent.id.isHuman = false from spares] at human
    cases human
  | detached =>
    rw [show id.isHuman = false from spares] at human
    cases human

/-- Only a disconnect section or a newcomer leaves someone missing. -/
theorem allConnected (step : SessionStep config sec before after)
    (all : before.allConnected = true)
    (other : ∀ id t d, sec ≠ .memory (.disconnect id t d))
    (joined : before.nextRole = none ∨ ∀ participant now, sec ≠ .memory (.addHuman participant now)) :
    after.allConnected = true := by
  rw [LiveSession.allConnected_iff] at all ⊢
  intro id p' found
  have look := step.members.lookup id
  generalize after.participants.lookup id = entry at look found
  cases look with
  | kept same =>
    obtain ⟨p, found', rfl⟩ := Option.map_eq_some_iff.mp found
    exact (same p).connected.trans (all id p found')
  | connect t =>
    obtain ⟨p, found', rfl⟩ := Option.map_eq_some_iff.mp found
    rfl
  | disconnect t d => exact absurd rfl (other id t d)
  | joined participant t role own fresh free =>
    rcases joined with full | joined
    · rw [full] at free
      cases free
    · exact absurd rfl (joined participant t)
  | attached agent t =>
    cases found
    rfl
  | detached => cases found

theorem agentsConnected (step : SessionStep config sec before after)
    (agents : before.AgentsConnected) (moves : sec.MovesHumans)
    (joins : ∀ participant now, sec = .memory (.addHuman participant now) →
      participant.id.isHuman = true) : after.AgentsConnected := by
  intro id p' found agent
  have look := step.members.lookup id
  generalize after.participants.lookup id = entry at look found
  cases look with
  | kept same =>
    obtain ⟨p, found', rfl⟩ := Option.map_eq_some_iff.mp found
    exact (same p).connected.trans (agents id p found' agent)
  | connect t =>
    obtain ⟨p, found', rfl⟩ := Option.map_eq_some_iff.mp found
    rfl
  | disconnect t d =>
    rw [show id.isHuman = true from moves] at agent
    cases agent
  | joined participant t role own =>
    rw [← own, joins participant t rfl] at agent
    cases agent
  | attached agent t =>
    cases found
    rfl
  | detached => cases found

end SessionStep

namespace Task

/-- A connection loop between its disconnect section and the pause or abandonment that follows. -/
def leaving : Task G → Bool
  | socket _ (.persistDisconnected _ _) | socket _ (.pause _) => true
  | event _ (.disconnected _ _) _ => true
  | abandon _ _ (.socket _) _ => true
  | _ => false

section Steps

variable {cell : Cell G} {pid : Nat} {input : Input} {sec : Section G} {task task' : Task G}
  {started : List (Task G)}

theorem next_pause {deadline : Timestamp}
    (h : task.next config cell pid input = some (.memory (.pause deadline), task', started)) :
    ∃ call, task = socket call (.pause deadline) := by
  have kind := next_kind h
  cases task <;> simp [kinds, Section.kind, MemorySection.kind] at kind
  obtain ⟨⟨sec', pc'⟩, hs, he⟩ := Option.map_eq_some_iff.mp h
  rename_i pc
  cases pc <;> simp only [SocketPc.step] at hs <;>
    repeat' first | split at hs | cases hs | cases he
  exact ⟨_, rfl⟩

/-- A leaving loop gets out of there by its pause section or by the end of its abandonment. -/
theorem next_leaving (h : task.next config cell pid input = some (sec, task', started))
    (leaves : task.leaving = true) :
    task'.leaving = true ∨
    (∃ call deadline, task = socket call (.pause deadline) ∧ sec = .memory (.pause deadline)) ∨
    ∃ id reason call l result, task = abandon id reason (.socket call) (.release l result) ∧
      sec = .release l := by
  cases task <;> try cases leaves
  all_goals
    obtain ⟨⟨sec', pc'⟩, hs, he⟩ := Option.map_eq_some_iff.mp h
    cases he
  case abandon id reason caller pc =>
    cases caller <;> cases leaves
    cases pc' with
    | returned result =>
      cases pc <;> simp only [AbandonPc.step] at hs <;> repeat' first | split at hs | cases hs
      exact .inr (.inr ⟨_, _, _, _, _, rfl, rfl⟩)
    | _ => exact .inl rfl
  case event call caller pc =>
    left
    cases caller <;> cases leaves
    cases pc' with
    | returned =>
      change (ofSocket _ (SocketPc.afterDisconnect config _)).leaving = true
      unfold SocketPc.afterDisconnect
      split <;> rfl
    | _ => rfl
  case socket call pc =>
    cases pc <;> try cases leaves
    · simp only [SocketPc.step] at hs
      cases hs
      exact .inl rfl
    · simp only [SocketPc.step] at hs
      cases hs
      exact .inr (.inl ⟨_, _, rfl, rfl⟩)

end Steps

end Task

/--
The runs in which no pause comes late and no disconnect is forgotten: a pause section finds someone
missing, memory is started with everyone connected or someone on the way out, and an abandonment
for a disconnect leaves no running session behind that nobody will pause.
-/
structure PauseRespected (w : Pool (Cell G) (Task G)) (a : Pool.Action (Task G) Input) : Prop where
  pauses : ∀ pid input call deadline session, a = .run pid input →
    w.tasks[pid]? = some (.socket call (.pause deadline)) → w.shared.session = some session →
    session.lifecycle = .running → session.allConnected = false
  starts : ∀ pid input caller l startedAt session, a = .run pid input →
    w.tasks[pid]? = some (.start caller (.write l startedAt)) →
    w.shared.session = some session →
    session.allConnected = true ∨ w.Has fun _ task => task.leaving = true
  abandons : ∀ pid input id reason call l result session, a = .run pid input →
    w.tasks[pid]? = some (.abandon id reason (.socket call) (.release l result)) →
    w.shared.session = some session → session.lifecycle = .running →
    session.allConnected = true ∨ session.pause.isSome ∨
      w.Has fun q task => q ≠ pid ∧ task.leaving = true

/-- A running session is paused only if someone is missing, and then unless someone is leaving. -/
structure PauseMatches (w : Pool (Cell G) (Task G)) : Prop where
  agents : ∀ session, w.shared.session = some session → session.AgentsConnected
  paused : ∀ session, w.shared.session = some session → session.lifecycle = .running →
    session.pause.isSome → session.allConnected = false
  unpaused : ∀ session, w.shared.session = some session → session.lifecycle = .running →
    session.allConnected = false →
    session.pause.isSome ∨ w.Has fun _ task => task.leaving = true

namespace PauseMatches

variable {cell : Cell G} {tasks started : List (Task G)} {pid : Nat} {input : Input}
  {sec : Section G} {task task' : Task G}

/-- A session that runs after a section ran before it or has just been started. -/
theorem ran {session session' : LiveSession G} (step : SessionStep config sec session session')
    (running : session'.lifecycle = .running) :
    (∃ startedAt idleDeadlineAt, sec = .memory (.start startedAt idleDeadlineAt)) ∨
      sec.lifecycle = none ∧ session.lifecycle = .running := by
  cases writes : sec.lifecycle with
  | none =>
    right
    rw [← running, step.lifecycle, writes]
    exact ⟨rfl, rfl⟩
  | some written =>
    left
    rw [show written = .running by rw [← running, step.lifecycle, writes]; rfl] at writes
    exact Section.start_of_lifecycle writes

section Run

variable (inv : PauseMatches ⟨cell, tasks⟩)
  (met : PauseRespected ⟨cell, tasks⟩ (.run pid input))
  (owners : Pool.Each ⟨cell, tasks⟩ fun _ task => ∀ o, task.owner = some o → o.Sound config)
  (roles : ∀ humans : config.agentsMode = .humanVsHuman, (rolesOutline G humans).Valid ⟨cell, tasks⟩)
  (ht : tasks[pid]? = some task)
  (hn : task.next config cell pid input = some (sec, task', started))

include inv met owners ht hn

theorem paused_after {session' : LiveSession G}
    (here : (cell.apply config sec).session = some session')
    (running : session'.lifecycle = .running) (paused : session'.pause.isSome) :
    session'.allConnected = false := by
  obtain ⟨session, before, step⟩ := Cell.apply_step here
  rw [step.pause] at paused
  rcases ran step running with ⟨startedAt, idleDeadlineAt, rfl⟩ | ⟨quiet, ran⟩
  · cases paused
  by_cases connects : ∃ id now, sec = .memory (.connect id now)
  · obtain ⟨id, now, rfl⟩ := connects
    cases all : session'.allConnected with
    | false => rfl
    | true => simp [Section.pause, all] at paused
  · refine step.not_allConnected (inv.agents session before)
      (Task.next_sparesHumans (owners pid task ht) hn) ?_
      fun id now same => connects ⟨id, now, same⟩
    by_cases pauses : ∃ deadline, sec = .memory (.pause deadline)
    · obtain ⟨deadline, rfl⟩ := pauses
      obtain ⟨call, rfl⟩ := Task.next_pause hn
      exact met.pauses pid input call deadline session rfl ht before ran
    · rw [Section.pause_kept quiet connects pauses] at paused
      exact inv.paused session before ran paused

include roles

theorem unpaused_after {session' : LiveSession G}
    (here : (cell.apply config sec).session = some session')
    (running : session'.lifecycle = .running) (missing : session'.allConnected = false) :
    session'.pause.isSome ∨ Pool.Has ⟨cell.apply config sec, tasks.set pid task' ++ started⟩
      fun _ task => task.leaving = true := by
  obtain ⟨session, before, step⟩ := Cell.apply_step here
  rw [step.pause]
  rcases ran step running with ⟨startedAt, idleDeadlineAt, rfl⟩ | ⟨quiet, ran⟩
  · obtain ⟨caller, l, rfl⟩ := Task.next_start hn
    rcases met.starts pid input caller l startedAt session rfl ht before with all | leaving
    · rw [step.allConnected all nofun (.inr nofun)] at missing
      cases missing
    · exact .inr (leaving.after ht nofun fun _ _ _ leaves => leaves)
  cases all : session.allConnected with
  | true =>
    right
    by_cases disconnects : ∃ id t d, sec = .memory (.disconnect id t d)
    · obtain ⟨id, t, d, rfl⟩ := disconnects
      obtain ⟨call, rfl, rfl, rfl⟩ := Task.next_disconnect hn
      exact ⟨pid, _, Pool.self_after ht, rfl⟩
    · have joined : session.nextRole = none ∨
          ∀ participant now, sec ≠ .memory (.addHuman participant now) := by
        by_cases joins : ∃ participant now, sec = .memory (.addHuman participant now)
        · obtain ⟨participant, now, rfl⟩ := joins
          cases Task.next_addHuman hn
          have humans := (owners pid _ ht _ rfl).2.2
          exact .inl ((roles humans).inv session before ran).nextRole
        · exact .inr fun participant now same => joins ⟨participant, now, same⟩
      rw [step.allConnected all (fun id t d same => disconnects ⟨id, t, d, same⟩) joined] at missing
      cases missing
  | false =>
    have kept (paused : session.pause.isSome) : (sec.pause session session').isSome := by
      by_cases connects : ∃ id now, sec = .memory (.connect id now)
      · obtain ⟨id, now, rfl⟩ := connects
        simpa [Section.pause, missing] using paused
      by_cases pauses : ∃ deadline, sec = .memory (.pause deadline)
      · obtain ⟨deadline, rfl⟩ := pauses
        simp [Section.pause, ran, SessionLifecycle.isRunning]
      · rwa [Section.pause_kept quiet connects pauses]
    rcases inv.unpaused session before ran all with paused | ⟨q, u, hu, leaves⟩
    · exact .inl (kept paused)
    by_cases same : q = pid
    · subst same
      cases Option.some.inj (hu.symm.trans ht)
      rcases Task.next_leaving hn leaves with again | ⟨call, deadline, rfl, rfl⟩ |
        ⟨id, reason, call, l, result, rfl, rfl⟩
      · exact .inr ⟨q, task', Pool.self_after ht, again⟩
      · left
        simp [Section.pause, ran, SessionLifecycle.isRunning]
      · rcases met.abandons q input id reason call l result session rfl ht before ran with
          all' | paused | ⟨r, v, hv, other, leaves⟩
        · rw [all] at all'
          cases all'
        · exact .inl (kept paused)
        · exact .inr ⟨r, v, Pool.other_after other hv, leaves⟩
    · exact .inr ⟨q, u, Pool.other_after same hu, leaves⟩

theorem after : PauseMatches ⟨{ cell.apply config sec with clock := input.now },
    tasks.set pid task' ++ started⟩ where
  agents := by
    intro session' here
    obtain ⟨session, before, step⟩ := Cell.apply_step here
    refine step.agentsConnected (inv.agents session before)
      (Task.next_movesHumans (owners pid task ht) hn) ?_
    rintro participant now rfl
    cases Task.next_addHuman hn
    exact (owners pid _ ht _ rfl).1
  paused := fun session' here running paused =>
    paused_after inv met owners ht hn here running paused
  unpaused := fun session' here running missing =>
    unpaused_after inv met owners roles ht hn here running missing

end Run

theorem spawn (inv : PauseMatches ⟨cell, tasks⟩) : PauseMatches ⟨cell, tasks ++ [task]⟩ where
  agents := inv.agents
  paused := inv.paused
  unpaused := fun session here running missing =>
    (inv.unpaused session here running missing).imp_right fun leaving => leaving.append

theorem initially (creation : Creation G) : PauseMatches (creation.initial config) where
  agents := by
    intro session here id p found agent
    cases here
    change (AList.singleton _ _ : Map _ _).lookup id = some p at found
    rw [Map.lookup_singleton] at found
    split at found <;> cases found
    rename_i same
    rw [same, creation.isHuman] at agent
    cases agent
  paused := by
    intro session here running
    cases here
    cases running
  unpaused := by
    intro session here running
    cases here
    cases running

theorem of_run {creation : Creation G} {w : Pool (Cell G) (Task G)}
    (run : (sessionMachine G config).Run PauseRespected (creation.initial config) w) :
    PauseMatches w := by
  refine run.invariant_of_reached (initially creation) fun reached inv met h => ?_
  rcases Program.step_cases h with ⟨task, -, -, rfl⟩ |
    ⟨pid, input, task, cell', task', started, rfl, ht, hs, rfl⟩
  · exact inv.spawn
  · obtain ⟨sec, hn, -, rfl⟩ := session_step hs
    exact inv.after met (owners_sound reached) (fun humans => rolesOutline_valid humans reached)
      ht hn

end PauseMatches

/--
As long as no connection loop stands between its disconnect section and the pause or abandonment
that follows, a running session is paused if and only if someone is missing; so with everyone
connected no action is refused for a pause, and no participant is shown as active otherwise.
-/
theorem pause_matches_connectivity {config : ExperimentConfig} {creation : Creation G}
    {w : Pool (Cell G) (Task G)}
    (run : (sessionMachine G config).Run PauseRespected (creation.initial config) w)
    (quiet : w.Each fun _ task => task.leaving = false) {session : LiveSession G}
    (here : w.shared.session = some session) (running : session.lifecycle = .running) :
    (session.pause = none ↔ session.allConnected = true) ∧
    (session.allConnected = true → ∀ call : SubmitCall G,
      call.check config (some session) ≠ .error (.submissionRejection "participant_not_active")) ∧
    (∀ role role' observation actions presence idle,
      participantStateResponse (some session) role =
        .ok (.active role' observation actions presence idle) → session.allConnected = true) := by
  have inv := PauseMatches.of_run run
  have iff : session.pause = none ↔ session.allConnected = true := by
    constructor
    · intro unpaused
      by_contra missing
      rcases inv.unpaused session here running (by simpa using missing) with paused |
        ⟨pid, task, ht, leaves⟩
      · simp [unpaused] at paused
      · rw [quiet pid task ht] at leaves
        cases leaves
    · intro all
      cases paused : session.pause with
      | none => rfl
      | some reason =>
        rw [inv.paused session here running (by simp [paused])] at all
        cases all
  refine ⟨iff, fun all call refused => ?_, fun role role' observation actions presence idle shown => ?_⟩
  · have unpaused := iff.mpr all
    unfold SubmitCall.check at refused
    repeat' split at refused
    all_goals simp_all [SessionLifecycle.isEnded, SessionLifecycle.isRunning]
  · apply iff.mp
    unfold participantStateResponse at shown
    simp only [running] at shown
    repeat' first | split at shown | cases shown
    assumption

namespace TallyAction

/-- Human A is back before the closing of the old connection reaches its pause section. -/
def lateClosing : List TallyAction :=
  opening ++ steps 1 3 1 ++ reconnecting 3 1 ++ steps 1 4 1

def startWithoutPartner : List TallyAction :=
  opening.dropLast.dropLast.dropLast ++ closing 1 1 ++ steps 2 3 1

/-- Whether a running session is paused, whether everyone is connected, and whether all is quiet. -/
def connectivity (w : Pool (Cell tallyGame) (Task tallyGame)) : Option (Bool × Bool × Bool) :=
  (w.shared.session.filter fun session => session.lifecycle.isRunning).map fun session =>
    (session.pause.isSome, session.allConnected, w.tasks.all fun task => !task.leaving)

def respectsPause (w : Pool (Cell tallyGame) (Task tallyGame)) : TallyAction → Bool
  | .spawn _ => true
  | .run pid _ => match w.tasks[pid]? with
    | some (.socket _ (.pause _)) => w.shared.session.all fun session => !session.allConnected
    | some (.start _ (.write _ _)) => w.shared.session.all LiveSession.allConnected
    | some (.abandon _ _ (.socket _) (.release _ _)) =>
      w.shared.session.all LiveSession.allConnected
    | _ => true

theorem pauseRespected {w : Pool (Cell tallyGame) (Task tallyGame)} {a : TallyAction}
    (h : respectsPause w a = true) : PauseRespected w a := by
  constructor
  · rintro pid input call deadline session rfl ht here -
    simpa [respectsPause, ht, here] using h
  · rintro pid input caller l startedAt session rfl ht here
    exact .inl (by simpa [respectsPause, ht, here] using h)
  · rintro pid input id reason call l result session rfl ht here -
    exact .inl (by simpa [respectsPause, ht, here] using h)

end TallyAction

/-- Both directions fail: a pause with everyone connected, and someone missing without a pause. -/
theorem pause_against_connectivity :
    (∃ w, (sessionMachine tallyGame {}).Run Machine.unguarded
        (TallyAction.creation.initial {}) w ∧
      TallyAction.connectivity w = some (true, true, true)) ∧
    (∃ w, (sessionMachine tallyGame {}).Run Machine.unguarded
        (TallyAction.creation.initial {}) w ∧
      TallyAction.connectivity w = some (false, false, true)) := by
  constructor
  · have h : ((sessionMachine tallyGame {}).exec (TallyAction.creation.initial {})
        TallyAction.lateClosing).bind TallyAction.connectivity = some (true, true, true) := rfl
    obtain ⟨w, hw, connectivity⟩ := Option.bind_eq_some_iff.mp h
    exact ⟨w, .of_exec_unguarded hw, connectivity⟩
  · have h : ((sessionMachine tallyGame {}).exec (TallyAction.creation.initial {})
        TallyAction.startWithoutPartner).bind TallyAction.connectivity =
          some (false, false, true) := rfl
    obtain ⟨w, hw, connectivity⟩ := Option.bind_eq_some_iff.mp h
    exact ⟨w, .of_exec_unguarded hw, connectivity⟩

/-- Human A leaves the running game for a moment: it is paused, and someone is missing. -/
theorem pause_matches_connectivity_closing :
    ∃ (session : LiveSession tallyGame), session.lifecycle = .running ∧
      session.allConnected = false ∧ session.pause ≠ none := by
  have h : (((sessionMachine tallyGame {}).restrict TallyAction.respectsPause).exec
      (TallyAction.creation.initial {}) (TallyAction.opening ++ TallyAction.closing 1 1)).bind
        TallyAction.connectivity = some (true, false, true) := rfl
  obtain ⟨w, hw, h⟩ := Option.bind_eq_some_iff.mp h
  obtain ⟨session, here, h⟩ := Option.map_eq_some_iff.mp h
  obtain ⟨here, runs⟩ := Option.filter_eq_some_iff.mp here
  simp only [Prod.mk.injEq, List.all_eq_true, Bool.not_eq_true'] at h
  obtain ⟨-, missing, quiet⟩ := h
  have run : (sessionMachine tallyGame {}).Run PauseRespected
      (TallyAction.creation.initial {}) w :=
    .of_exec (fun _ _ => TallyAction.pauseRespected) hw
  have running : session.lifecycle = .running := by
    cases lifecycle : session.lifecycle <;> rw [lifecycle] at runs <;> first | rfl | cases runs
  refine ⟨session, running, missing, fun unpaused => ?_⟩
  have all := (pause_matches_connectivity run
    (fun pid task ht => quiet task (List.mem_of_getElem? ht)) here running).1.mp unpaused
  rw [missing] at all
  cases all

end Parlando
