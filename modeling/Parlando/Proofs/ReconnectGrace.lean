import Parlando.Proofs.Members
import Parlando.Proofs.RowEndsFirst
import Parlando.Proofs.Snapshots

namespace Parlando

open Concurrency

variable {G : Game} {config : ExperimentConfig}

namespace Cell

def Member (cell : Cell G) (id : ParticipantSessionId) : Prop :=
  ∀ session, cell.session = some session → (session.participants.lookup id).isSome

def Departed (cell : Cell G) (id : ParticipantSessionId) : Prop :=
  id.isHuman = true ∧ ∀ session, cell.session = some session →
    ∃ p, session.participants.lookup id = some p ∧
      (p.connected = true ∨ p.reconnectDeadlineAt.isSome)

def Overdue (cell : Cell G) (id : ParticipantSessionId) : Prop :=
  ∃ session p d, cell.session = some session ∧ session.participants.lookup id = some p ∧
    p.connected = false ∧ p.reconnectDeadlineAt = some d ∧ d ≤ cell.clock

/-- Every reconnect deadline was set by a human's disconnect, the grace after it. -/
def Deadlines (config : ExperimentConfig) (cell : Cell G) : Prop :=
  ∀ session id p d, cell.session = some session → session.participants.lookup id = some p →
    p.reconnectDeadlineAt = some d → id.isHuman = true ∧
      ∃ t, p.disconnectedAt = some t ∧ d = t + Timestamp.seconds config.graceSeconds

end Cell

namespace Task

def reconnects (task : Task G) : Prop :=
  (∃ caller, task = expire .reconnectTimeout caller .check) ∨
    ∃ e role, task.ends = some e ∧ e.cause = .reconnectTimedOut role

def OnTime (config : ExperimentConfig) (cell : Cell G) : Task G → Prop
  | socket _ (.disconnect disconnectedAt deadline) => disconnectedAt ≤ cell.clock ∧
      deadline = disconnectedAt + Timestamp.seconds config.graceSeconds
  | socket call (.persistDisconnected _ deadline) | socket call (.pause deadline)
  | event _ (.disconnected call deadline) _ => cell.Departed call.participantSessionId ∧
      deadline ≤ cell.clock + Timestamp.seconds config.graceSeconds
  | timer id deadline (.sleeping wakeAt) => cell.Departed id ∧ deadline ≤ wakeAt
  | cleanup (.recheck _ _ now) => now ≤ cell.clock
  | abandon _ reason _ _ => reason = .reconnectTimeout → config.graceSeconds = 0
  | _ => True

theorem onTime_of_entry {cell : Cell G} {task : Task G} (h : task.entry = true) :
    task.OnTime config cell ∧ ¬ task.reconnects := by
  constructor
  · unfold entry at h
    split at h <;> first | trivial | nofun
  · rintro (⟨caller, rfl⟩ | ⟨e, role, holds, -⟩)
    · cases h
    · rw [ends_of_entry h] at holds
      cases holds

/-- A connection is opened for a member. -/
theorem member_of_entry {cell : Cell G} {task : Task G} {call : SocketCall}
    (enter : (sessionProgram G config).entry cell task = true)
    (owned : task.owner = some (.loop call)) : cell.Member call.participantSessionId := by
  obtain ⟨entry, admitted⟩ := session_entry enter
  unfold Task.entry at entry
  split at entry <;> first | cases owned | skip
  · intro session here
    simp only [Task.admitted, isMember, here, Option.any_some] at admitted
    obtain ⟨p, found, -⟩ := (Option.any_eq_true _ _).mp admitted
    exact Option.isSome_of_eq_some found
  · cases entry

/-- Later, what a task knows is still so. -/
theorem OnTime.mono {cell cell' : Cell G} {task : Task G} (onTime : task.OnTime config cell)
    (clock : cell.clock ≤ cell'.clock)
    (departed : ∀ id, cell.Departed id → cell'.Departed id) : task.OnTime config cell' := by
  unfold OnTime at onTime ⊢
  split at onTime
  · exact ⟨Int.le_trans onTime.1 clock, onTime.2⟩
  · exact ⟨departed _ onTime.1, Int.le_trans onTime.2 (Int.add_le_add_right clock _)⟩
  · exact ⟨departed _ onTime.1, Int.le_trans onTime.2 (Int.add_le_add_right clock _)⟩
  · exact ⟨departed _ onTime.1, Int.le_trans onTime.2 (Int.add_le_add_right clock _)⟩
  · exact ⟨departed _ onTime.1, onTime.2⟩
  · exact Int.le_trans onTime clock
  · exact onTime
  · trivial

end Task

section Sections

variable {cell : Cell G} {sec : Section G} {id : ParticipantSessionId}

theorem Cell.Member.apply (member : cell.Member id) (human : id.isHuman = true)
    (spares : sec.SparesHumans) : (cell.apply config sec).Member id := by
  intro session' here
  obtain ⟨session, before, step⟩ := Cell.apply_step here
  have found := member session before
  have look := step.members.lookup id
  generalize session'.participants.lookup id = after at look
  cases look with
  | kept | connect | disconnect => simpa using found
  | joined | attached => rfl
  | detached =>
    rw [show id.isHuman = false from spares] at human
    cases human

theorem Cell.Departed.apply (departed : cell.Departed id) (spares : sec.SparesHumans) :
    (cell.apply config sec).Departed id := by
  refine ⟨departed.1, fun session' here => ?_⟩
  obtain ⟨session, before, step⟩ := Cell.apply_step here
  obtain ⟨p, found, back⟩ := departed.2 session before
  have look := step.members.lookup id
  generalize session'.participants.lookup id = after at look
  cases look with
  | @kept _ f same =>
    exact ⟨f p, by rw [found]; rfl, by rw [(same p).connected, (same p).reconnectDeadlineAt]; exact back⟩
  | connect now => exact ⟨p.connect now, by rw [found]; rfl, .inl rfl⟩
  | disconnect t d => exact ⟨p.disconnect t d, by rw [found]; rfl, .inr rfl⟩
  | joined participant now role own fresh =>
    rw [fresh] at found
    cases found
  | attached agent now own =>
    have human := departed.1
    rw [← own, show agent.id.isHuman = false from spares] at human
    cases human
  | detached =>
    have human := departed.1
    rw [show id.isHuman = false from spares] at human
    cases human

/-- Disconnecting a member makes it one that has disconnected. -/
theorem Cell.Member.disconnect (member : cell.Member id) (human : id.isHuman = true)
    (t d : Timestamp) : (cell.apply config (.memory (.disconnect id t d))).Departed id := by
  refine ⟨human, fun session' here => ?_⟩
  obtain ⟨session, before, gone⟩ := Option.bind_eq_some_iff.mp here
  obtain ⟨p, found⟩ := Option.isSome_iff_exists.mp (member session before)
  cases gone
  refine ⟨p.disconnect t d, ?_, .inr rfl⟩
  simp [LiveSession.disconnectParticipant, Map.lookup_modify, found]

/-- Someone overdue stays so unless the section connects or disconnects that participant. -/
theorem Cell.Overdue.apply (overdue : cell.Overdue id) (deadlines : cell.Deadlines config)
    (spares : sec.SparesHumans) (other : ∀ now, sec ≠ .memory (.connect id now))
    (other' : ∀ t d, sec ≠ .memory (.disconnect id t d)) {now : Timestamp}
    (clock : cell.clock ≤ now) (here : (cell.apply config sec).session.isSome) :
    Cell.Overdue { cell.apply config sec with clock := now } id := by
  obtain ⟨session, p, d, before, found, disconnected, deadline, come⟩ := overdue
  obtain ⟨session', here⟩ := Option.isSome_iff_exists.mp here
  obtain ⟨session₀, before', step⟩ := Cell.apply_step here
  cases Option.some.inj (before.symm.trans before')
  have human := (deadlines session id p d before found deadline).1
  have look := step.members.lookup id
  generalize now' : session'.participants.lookup id = after at look
  cases look with
  | @kept _ f same =>
    refine ⟨session', f p, d, here, by rw [now', found]; rfl, ?_, ?_, Int.le_trans come clock⟩
    · rw [(same p).connected, disconnected]
    · rw [(same p).reconnectDeadlineAt, deadline]
  | connect now => exact absurd rfl (other now)
  | disconnect t d => exact absurd rfl (other' t d)
  | joined participant now role own fresh =>
    rw [fresh] at found
    cases found
  | attached agent now own =>
    rw [← own, show agent.id.isHuman = false from spares] at human
    cases human
  | detached =>
    rw [show id.isHuman = false from spares] at human
    cases human

theorem Cell.Deadlines.apply (deadlines : cell.Deadlines config) (moves : sec.MovesHumans)
    (grace : ∀ id t d, sec = .memory (.disconnect id t d) →
      d = t + Timestamp.seconds config.graceSeconds) :
    (cell.apply config sec).Deadlines config := by
  intro session' id p' d here found deadline
  obtain ⟨session, before, step⟩ := Cell.apply_step here
  have look := step.members.lookup id
  generalize session'.participants.lookup id = after at look found
  cases look with
  | @kept _ f same =>
    obtain ⟨p, found', rfl⟩ := Option.map_eq_some_iff.mp found
    rw [(same p).reconnectDeadlineAt] at deadline
    rw [(same p).disconnectedAt]
    exact deadlines session id p d before found' deadline
  | connect now =>
    obtain ⟨p, found, rfl⟩ := Option.map_eq_some_iff.mp found
    cases deadline
  | disconnect t d' =>
    obtain ⟨p, found, rfl⟩ := Option.map_eq_some_iff.mp found
    cases deadline
    exact ⟨moves, t, rfl, grace id t d rfl⟩
  | joined | attached =>
    cases found
    cases deadline
  | detached => cases found

end Sections

namespace Task

section Steps

variable {cell : Cell G} {pid : Nat} {input : Input} {sec : Section G} {task task' : Task G}
  {started : List (Task G)}

/-- An expiry is begun by a timer, by the cleaner or by a failing agent. -/
theorem next_expireCheck {reason : EndReason} {caller : ExpireCaller}
    (h : task.next config cell pid input = some (sec, expire reason caller .check, started)) :
    (∃ id deadline wakeAt, task = timer id deadline (.sleeping wakeAt) ∧
      caller = .timer id deadline ∧ wakeAt ≤ input.now ∧ reason = .reconnectTimeout ∧
      sec = .skip ∧ ∃ session p, cell.session = some session ∧
        session.participants.lookup id = some p ∧ p.connected = false) ∨
    (∃ observed now session, task = cleanup (.recheck reason observed now) ∧ sec = .skip ∧
      cell.session = some session ∧ roomIsCurrent session observed reason now = true) ∨
    reason ≠ .reconnectTimeout := by
  cases task
  all_goals
    obtain ⟨⟨sec', pc'⟩, hs, he⟩ := Option.map_eq_some_iff.mp h
    simp only [Prod.mk.injEq] at he
    obtain ⟨rfl, he, -⟩ := he
  case timer id deadline pc =>
    cases pc' <;> cases he
    cases pc <;> simp only [TimerPc.step] at hs
    case sleeping wakeAt =>
      split at hs
      · cases hs
      · rename_i late
        simp only [Option.some.injEq, Prod.mk.injEq] at hs
        obtain ⟨skip, hs⟩ := hs
        split at hs
        · rename_i still
          obtain ⟨session, here, still⟩ := (Option.any_eq_true _ _).mp still
          obtain ⟨p, found, away⟩ := (Option.any_eq_true _ _).mp still
          exact .inl ⟨id, deadline, wakeAt, rfl, rfl, Int.not_lt.mp late, rfl, skip.symm, session,
            p, here, found, by simpa using away⟩
        · cases hs
    all_goals cases hs
  case cleanup pc =>
    cases pc' <;> cases he
    cases pc <;> simp only [CleanupPc.step] at hs
    case recheck reason' observed now =>
      repeat' first | split at hs | cases hs
      rename_i session here current _
      exact .inr (.inl ⟨observed, now, session, rfl, rfl, here, current⟩)
    all_goals repeat' first | split at hs | cases hs
  case agent call pc =>
    right; right
    cases pc' <;> cases he
    cases pc <;> simp only [AgentPc.step] at hs <;>
      repeat' first | split at hs | cases hs
    all_goals
      intro same
      cases same
  case expire reason caller pc =>
    exfalso
    cases caller <;> cases pc' <;> cases he <;> cases pc <;>
      simp only [ExpirePc.step] at hs <;> repeat' first | split at hs | cases hs
  case event call caller pc =>
    cases caller <;> cases pc' <;> try cases he
    · simp only [ofEvent, SocketPc.afterDisconnect] at he
      split at he <;> cases he
    · refine .inr (.inr fun same => ?_)
      cases same
  case submit => cases he
  case finalize => cases he
  case touch => cases he
  case abandon id reason caller pc => cases caller <;> cases pc' <;> cases he
  case start caller pc => cases caller <;> cases pc' <;> cases he
  all_goals cases pc' <;> cases he

theorem next_onTime (onTime : task.OnTime config cell)
    (sound : ∀ o, task.owner = some o → o.Sound config)
    (member : ∀ call, task.owner = some (.loop call) → cell.Member call.participantSessionId)
    (clock : cell.clock ≤ input.now)
    (h : task.next config cell pid input = some (sec, task', started)) :
    task'.OnTime config { cell.apply config sec with clock := input.now } := by
  have departed : ∀ id, cell.Departed id →
      Cell.Departed { cell.apply config sec with clock := input.now } id :=
    fun id gone => gone.apply (next_sparesHumans sound h)
  have kept : task.OnTime config { cell.apply config sec with clock := input.now } :=
    onTime.mono clock departed
  have human : ∀ call, task.owner = some (.loop call) →
    call.participantSessionId.isHuman = true := fun call owned => sound _ owned
  cases task
  all_goals
    obtain ⟨⟨sec', pc'⟩, hs, he⟩ := Option.map_eq_some_iff.mp h
    cases he
  case socket call pc =>
    cases pc <;> simp only [SocketPc.step] at hs <;> cases hs
    case stamp => exact ⟨Int.le_refl _, rfl⟩
    case disconnect t d =>
      obtain ⟨come, rfl⟩ := onTime
      exact ⟨(member call rfl).disconnect (human call rfl) t _,
        Int.add_le_add_right (Int.le_trans come clock) _⟩
    case persistDisconnected t d => exact kept
    case started g => split <;> trivial
    case serving g => split <;> trivial
    all_goals trivial
  case event call caller pc =>
    cases caller
    case disconnected loop deadline =>
      cases pc'
      case returned =>
        change (ofSocket loop (SocketPc.afterDisconnect config deadline)).OnTime config _
        unfold SocketPc.afterDisconnect
        split
        · rename_i zero
          exact fun _ => zero
        · exact kept
      all_goals exact kept
    all_goals cases pc' <;> trivial
  case abandon id reason caller pc => cases caller <;> cases pc' <;> first | exact kept | trivial
  case cleanup pc =>
    cases pc <;> simp only [CleanupPc.step] at hs
    case stamp =>
      cases hs
      exact Int.le_refl _
    all_goals repeat' first | split at hs | cases hs | trivial
  case expire reason caller pc =>
    cases caller <;> cases pc' <;> try trivial
    rename_i result
    cases result with
    | error => trivial
    | ok ended => cases ended <;> trivial
  case start caller pc => cases caller <;> cases pc' <;> trivial
  case submit => trivial
  case finalize => trivial
  case touch => trivial
  case timer id deadline pc =>
    cases pc <;> simp only [TimerPc.step] at hs
    case sleeping wakeAt =>
      split at hs <;> cases hs
      split <;> trivial
    all_goals cases hs
  all_goals cases pc' <;> trivial

theorem next_reconnects (onTime : task.OnTime config cell)
    (h : task.next config cell pid input = some (sec, task', started))
    (reconnects : task'.reconnects) :
    task.reconnects ∨ config.graceSeconds = 0 ∨
    (∃ id deadline wakeAt, task = timer id deadline (.sleeping wakeAt) ∧ wakeAt ≤ input.now ∧
      sec = .skip ∧ ∃ session p, cell.session = some session ∧
        session.participants.lookup id = some p ∧ p.connected = false) ∨
    (∃ observed now session, task = cleanup (.recheck .reconnectTimeout observed now) ∧
      sec = .skip ∧ cell.session = some session ∧
      roomIsCurrent session observed .reconnectTimeout now = true) := by
  rcases reconnects with ⟨caller, rfl⟩ | ⟨e, role, holds, cause⟩
  · rcases next_expireCheck h with ⟨id, deadline, wakeAt, own, -, late, -, still⟩ | again | other
    · exact .inr (.inr (.inl ⟨id, deadline, wakeAt, own, late, still⟩))
    · exact .inr (.inr (.inr again))
    · exact absurd rfl other
  · rcases next_ends h holds with before | snapshot
    · exact .inl (.inr ⟨e, role, before, cause⟩)
    · cases snapshot with
      | @completed call l t completion session e here computed =>
        rw [(completedSessionEnd_ok computed).1] at cause
        cases cause
      | @abandoned id reason caller l session actor e here computed =>
        exact .inr (.inl (onTime ((abandonedSessionEnd_ok computed).1 cause)))
      | @expired reason caller pick session e here computed =>
        rw [(expiredSessionEnd_ok computed).1 cause]
        exact .inl (.inl ⟨caller, rfl⟩)
      | interrupted started => cases cause

end Steps

end Task

/--
The runs in which a participant's grace is honoured: a timer left over from an earlier disconnect
finds its participant back or past the current deadline, and while an expiry stands between its
check and its commit, a participant is connected or disconnected only if another one is overdue.
-/
structure GraceRespected (w : Pool (Cell G) (Task G)) (a : Pool.Action (Task G) Input) : Prop where
  timers : ∀ pid input id deadline wakeAt session p d, a = .run pid input →
    w.tasks[pid]? = some (.timer id deadline (.sleeping wakeAt)) →
    w.shared.session = some session → session.participants.lookup id = some p →
    p.connected = false → p.reconnectDeadlineAt = some d → d = deadline ∨ d ≤ input.now
  expiries : ∀ (pid : Nat) input call, a = .run pid input →
    ((∃ g, w.tasks[pid]? = some (.socket call (.connect g))) ∨
      ∃ t d, w.tasks[pid]? = some (.socket call (.disconnect t d))) →
    w.shared.store.ended = false → (w.Has fun _ task => task.reconnects) →
    ∃ id, id ≠ call.participantSessionId ∧ w.shared.Overdue id

def Cell.Justified (config : ExperimentConfig) (cell : Cell G) : Prop :=
  config.graceSeconds = 0 ∨ cell.store.ended = true ∨ ∃ id, cell.Overdue id

section Steps

variable {w : Pool (Cell G) (Task G)} {pid : Nat} {input : Input} {sec : Section G}
  {task task' : Task G} {started : List (Task G)}

/-- What justifies a pending reconnect timeout goes on justifying it. -/
theorem Cell.Justified.after (justified : w.shared.Justified config)
    (pending : w.Has fun _ task => task.reconnects) (met : GraceRespected w (.run pid input))
    (first : (rowEndsFirst G config).Valid w) (deadlines : w.shared.Deadlines config)
    (sound : ∀ o, task.owner = some o → o.Sound config) (clock : w.shared.clock ≤ input.now)
    (ht : w.tasks[pid]? = some task)
    (hn : task.next config w.shared pid input = some (sec, task', started)) :
    Cell.Justified config { w.shared.apply config sec with clock := input.now } := by
  rcases justified with zero | ended | ⟨id, overdue⟩
  · exact .inl zero
  · exact .inr (.inl (Cell.ended_apply ended))
  cases open' : w.shared.store.ended with
  | true => exact .inr (.inl (Cell.ended_apply open'))
  | false =>
    right
    cases here : (w.shared.apply config sec).session with
    | none =>
      left
      rcases Cell.apply_session_gone here with gone | rfl
      · exact Cell.ended_apply (first.inv.gone gone)
      · exact Cell.ended_apply (first.each pid task ht (Task.next_remove hn))
    | some session' =>
      right
      have spares := Task.next_sparesHumans sound hn
      have stays : ∀ id, w.shared.Overdue id → (∀ now, sec ≠ .memory (.connect id now)) →
          (∀ t d, sec ≠ .memory (.disconnect id t d)) →
          ∃ id, Cell.Overdue { w.shared.apply config sec with clock := input.now } id := by
        intro id overdue other other'
        exact ⟨id, overdue.apply deadlines spares other other' clock (by simp [here])⟩
      by_cases moves : (∃ id now, sec = .memory (.connect id now)) ∨
          ∃ id t d, sec = .memory (.disconnect id t d)
      · rcases moves with ⟨moved, now, rfl⟩ | ⟨moved, t, d, rfl⟩
        · obtain ⟨call, g, rfl, rfl⟩ := Task.next_connect hn
          obtain ⟨other, ne, overdue⟩ := met.expiries pid input call rfl (.inl ⟨g, ht⟩) open' pending
          refine stays other overdue (fun now same => ?_) (fun t d same => by cases same)
          cases same
          exact ne rfl
        · obtain ⟨call, rfl, rfl, -⟩ := Task.next_disconnect hn
          obtain ⟨other, ne, overdue⟩ :=
            met.expiries pid input call rfl (.inr ⟨t, d, ht⟩) open' pending
          refine stays other overdue (fun now same => by cases same) (fun t d same => ?_)
          cases same
          exact ne rfl
      · exact stays id overdue (fun now same => moves (.inl ⟨id, now, same⟩))
          fun t d same => moves (.inr ⟨id, t, d, same⟩)

theorem Cell.Overdue.of_timer {id : ParticipantSessionId} {deadline wakeAt : Timestamp}
    {session : LiveSession G} {p : SessionParticipant} (met : GraceRespected w (.run pid input))
    (ht : w.tasks[pid]? = some (.timer id deadline (.sleeping wakeAt)))
    (onTime : w.shared.Departed id ∧ deadline ≤ wakeAt) (late : wakeAt ≤ input.now)
    (here : w.shared.session = some session) (found : session.participants.lookup id = some p)
    (away : p.connected = false) : Cell.Overdue { w.shared with clock := input.now } id := by
  obtain ⟨p', found', back⟩ := onTime.1.2 session here
  cases Option.some.inj (found.symm.trans found')
  rw [away] at back
  obtain ⟨d, deadline'⟩ := Option.isSome_iff_exists.mp (back.resolve_left nofun)
  refine ⟨session, p, d, here, found, away, deadline', ?_⟩
  rcases met.timers pid input id deadline wakeAt session p d rfl ht here found away deadline' with
    rfl | come
  · exact Int.le_trans onTime.2 late
  · exact come

theorem Cell.Overdue.of_current {cell : Cell G} {session : LiveSession G}
    {observed now : Timestamp} (here : cell.session = some session)
    (current : roomIsCurrent session observed .reconnectTimeout now = true)
    (come : now ≤ cell.clock) : ∃ id, cell.Overdue id := by
  simp only [roomIsCurrent, Bool.and_eq_true, List.any_eq_true] at current
  obtain ⟨-, p, mem, away, deadline⟩ := current
  obtain ⟨id, found⟩ := Map.mem_values.mp mem
  obtain ⟨d, set, past⟩ := (Option.any_eq_true _ _).mp deadline
  exact ⟨id, session, p, d, here, found, by simpa using away, set,
    Int.le_trans (by simpa using past) come⟩

end Steps

/-- What the outline builds on: the guard, the order of endings and who tasks run for. -/
structure GraceStep (config : ExperimentConfig) (w : Pool (Cell G) (Task G))
    (a : Pool.Action (Task G) Input) : Prop where
  met : GraceRespected w a
  first : (rowEndsFirst G config).Valid w
  owners : w.Each fun _ task => ∀ o, task.owner = some o → o.Sound config

def graceOutline (G : Game) (config : ExperimentConfig) :
    Outline (sessionProgram G config) (GraceStep config) where
  inv := Cell.Deadlines config
  asn cell _ task := (∀ call, task.owner = some (.loop call) →
      cell.Member call.participantSessionId) ∧
    task.OnTime config cell ∧ (task.reconnects → cell.Justified config)
  entry := by
    intro w task pid _ _ enter
    obtain ⟨onTime, idle⟩ : task.OnTime config w.shared ∧ ¬ task.reconnects :=
      Task.onTime_of_entry (session_entry enter).1
    exact ⟨fun call => Task.member_of_entry enter, onTime, fun reconnects => absurd reconnects idle⟩
  step := by
    intro w pid input task cell' task' started deadlines each ⟨met, first, owners⟩ ht h
    obtain ⟨sec, hn, clock, rfl⟩ := session_step h
    obtain ⟨member, onTime, justified⟩ := each pid task ht
    have sound := owners pid task ht
    have spares := Task.next_sparesHumans sound hn
    refine ⟨?_, ⟨fun call owned => ?_, Task.next_onTime onTime sound member clock hn,
      fun reconnects => ?_⟩, ?_⟩
    · refine deadlines.apply (Task.next_movesHumans sound hn) ?_
      rintro id t d rfl
      obtain ⟨call, rfl, rfl, -⟩ := Task.next_disconnect hn
      exact onTime.2
    · have owned := Task.next_owner hn owned
      exact (member call owned).apply (sound _ owned) spares
    · rcases Task.next_reconnects onTime hn reconnects with pending | zero |
        ⟨id, deadline, wakeAt, rfl, late, rfl, session, p, here, found, away⟩ |
        ⟨observed, now, session, rfl, rfl, here, current⟩
      · exact (justified pending).after ⟨pid, task, ht, pending⟩ met first deadlines sound clock ht hn
      · exact .inl zero
      · exact .inr (.inr ⟨id, .of_timer met ht onTime late here found away⟩)
      · exact .inr (.inr (Cell.Overdue.of_current here current (Int.le_trans onTime clock)))
    · intro u mem q
      obtain ⟨call, deadline, rfl, rfl⟩ := Task.mem_started hn mem
      refine ⟨nofun, ⟨onTime.1.apply spares, ?_⟩, ?_⟩
      · exact Int.le_trans onTime.2 (Int.add_le_add_right clock _)
      · rintro (⟨caller, same⟩ | ⟨e, role, holds, -⟩)
        · cases same
        · cases holds
  interference := by
    intro w pid input task cell' task' started q u deadlines each ⟨met, first, owners⟩ ht h other hu
      ⟨member, onTime, justified⟩
    obtain ⟨sec, hn, clock, rfl⟩ := session_step h
    have sound := owners pid task ht
    have spares := Task.next_sparesHumans sound hn
    refine ⟨fun call owned => ?_, ?_, fun pending => ?_⟩
    · exact (member call owned).apply (owners q u hu _ owned) spares
    · exact onTime.mono clock fun id gone => gone.apply spares
    · exact (justified pending).after ⟨q, u, hu, pending⟩ met first deadlines sound clock ht hn

theorem graceOutline_initial (creation : Creation G) :
    (graceOutline G config).Valid (creation.initial config) where
  inv := by
    intro session id p d here found deadline
    cases here
    change (AList.singleton _ _ : Map _ _).lookup id = some p at found
    rw [Map.lookup_singleton] at found
    split at found <;> cases found
    cases deadline
  each := by
    intro pid task ht
    cases ht

theorem graceOutline_valid {creation : Creation G} {w : Pool (Cell G) (Task G)}
    (run : (sessionMachine G config).Run GraceRespected (creation.initial config) w) :
    (graceOutline G config).Valid w :=
  (graceOutline_initial creation).run
    ((run.and_invariant fun reached => And.intro (rowEndsFirst_valid reached)
      (owners_sound reached)).mono fun _ _ ⟨met, first, owners⟩ => ⟨met, first, owners⟩)

/--
Whenever a step ends the session for a reconnect timeout, a participant is disconnected at that
moment, its current deadline has come, and that deadline is the grace after its last disconnect.
-/
theorem reconnect_grace_honoured {config : ExperimentConfig} {creation : Creation G}
    {w w' : Pool (Cell G) (Task G)} {a : Pool.Action (Task G) Input}
    (grace : 0 < config.session.reconnectGraceSeconds)
    (run : (sessionMachine G config).Run GraceRespected (creation.initial config) w)
    (met : GraceRespected w a) (step : (sessionMachine G config).step w a = some w')
    (isOpen : w.shared.store.ended = false) {e : SessionEnd} (ends : w'.shared.store.EndedWith e)
    {role : String} (cause : e.cause = .reconnectTimedOut role) :
    ∃ session id p t, w'.shared.session = some session ∧
      session.participants.lookup id = some p ∧ p.connected = false ∧
      p.disconnectedAt = some t ∧
      p.reconnectDeadlineAt =
        some (t + Timestamp.seconds config.session.reconnectGraceSeconds) ∧
      t + Timestamp.seconds config.session.reconnectGraceSeconds ≤ w'.shared.clock := by
  have valid := graceOutline_valid run
  rcases Program.step_cases step with ⟨task, -, enter, rfl⟩ |
    ⟨pid, input, task, cell', task', started, rfl, ht, hs, rfl⟩
  · rw [ends.ended] at isOpen
    cases isOpen
  obtain ⟨sec, hn, clock, rfl⟩ := session_step hs
  cases sec
  case transaction update =>
    obtain ⟨e', carried, ends'⟩ := Transaction.ended_apply isOpen ends.ended
    cases ends'.unique ends
    have holds := Task.next_persists hn carried
    have justified := (valid.each pid task ht).2.2 (.inr ⟨_, role, holds, cause⟩)
    have positive : config.graceSeconds = config.session.reconnectGraceSeconds := by
      unfold ExperimentConfig.graceSeconds
      omega
    rcases justified with zero | ended | ⟨id, session, p, d, here, found, away, deadline, come⟩
    · omega
    · rw [isOpen] at ended
      cases ended
    · obtain ⟨-, t, at', rfl⟩ := valid.inv session id p d here found deadline
      rw [positive] at deadline come
      exact ⟨session, id, p, t, here, found, away, at', deadline, Int.le_trans come clock⟩
  all_goals
    rw [show w.shared.store.ended = true from ends.ended] at isOpen
    cases isOpen

namespace TallyAction

def someOverdue (w : Pool (Cell tallyGame) (Task tallyGame)) : Bool :=
  w.shared.session.any fun session => session.participants.values.any fun participant =>
    !participant.connected && passed participant.reconnectDeadlineAt w.shared.clock

/-- Human A leaves at 0, is back at 5 and leaves again at 10; the first timer fires at 15. -/
def staleTimer : List TallyAction :=
  opening ++ closing 1 0 ++ reconnecting 4 5000000000 ++ closing 4 10000000000 ++
  steps 3 2 15000000000

/-- Human A leaves at 0 and is back at 15, after the timer's check and before its commit. -/
def lateReturn : List TallyAction :=
  opening ++ closing 1 0 ++ steps 3 2 15000000000 ++ reconnecting 4 15000000000

def noReturn : List TallyAction := opening ++ closing 1 0 ++ steps 3 2 15000000000

def expiry : TallyAction := .run 3 { now := 15000000000 }

/-- What the expiry comes to: the row was open, its cause now, and whether someone is overdue. -/
def expiryOutcome (w : Pool (Cell tallyGame) (Task tallyGame)) :
    Option (Bool × Option SessionEndCause × Bool) :=
  ((sessionMachine tallyGame {}).step w expiry).map fun w' =>
    (w.shared.store.ended, rowCause w', someOverdue w')

def respectsGrace (w : Pool (Cell tallyGame) (Task tallyGame)) : TallyAction → Bool
  | .spawn _ => true
  | .run pid _ => match w.tasks[pid]? with
    | some (.timer id deadline (.sleeping _)) => w.shared.session.all fun session =>
        (session.participants.lookup id).all fun p =>
          p.connected || p.reconnectDeadlineAt.all (· == deadline)
    | some (.socket _ (.connect _)) | some (.socket _ (.disconnect _ _)) =>
      w.tasks.all fun
        | .expire _ _ .check => false
        | task => task.ends.isNone
    | _ => true

theorem graceRespected {w : Pool (Cell tallyGame) (Task tallyGame)} {a : TallyAction}
    (h : respectsGrace w a = true) : GraceRespected w a := by
  constructor
  · rintro pid input id deadline wakeAt session p d rfl ht here found away current
    left
    simpa [respectsGrace, ht, here, found, away, current] using h
  · rintro pid input call rfl moves - ⟨q, task, hq, pending⟩
    have idle : w.tasks.all (fun
        | .expire _ _ .check => false
        | task => task.ends.isNone) = true := by
      rcases moves with ⟨g, ht⟩ | ⟨t, d, ht⟩ <;> simpa [respectsGrace, ht] using h
    have own := List.all_eq_true.mp idle task (List.mem_of_getElem? hq)
    rcases pending with ⟨caller, rfl⟩ | ⟨e, role, holds, -⟩
    · cases own
    · split at own
      · cases own
      · simp [holds] at own

/-- After these actions the expiry ends the open row for a reconnect timeout with nobody overdue. -/
def CutsGrace (as : List TallyAction) : Prop :=
  ∃ w w', (sessionMachine tallyGame {}).exec (creation.initial {}) as = some w ∧
    (sessionMachine tallyGame {}).step w expiry = some w' ∧
    w.shared.store.ended = false ∧ rowCause w' = some (.reconnectTimedOut "A") ∧
    someOverdue w' = false

theorem CutsGrace.of_outcome {as : List TallyAction}
    (outcome : ((sessionMachine tallyGame {}).exec (creation.initial {}) as).bind expiryOutcome =
      some (false, some (.reconnectTimedOut "A"), false)) : CutsGrace as := by
  obtain ⟨w, hw, outcome⟩ := Option.bind_eq_some_iff.mp outcome
  obtain ⟨w', hw', outcome⟩ := Option.map_eq_some_iff.mp outcome
  simp only [Prod.mk.injEq] at outcome
  exact ⟨w, w', hw, hw', outcome⟩

end TallyAction

/-- A timer of an earlier disconnect, or a return at the last moment: nobody is overdue. -/
theorem reconnect_grace_cut_short :
    TallyAction.CutsGrace TallyAction.staleTimer ∧ TallyAction.CutsGrace TallyAction.lateReturn :=
  ⟨.of_outcome rfl, .of_outcome rfl⟩

/-- Nobody comes back: the session ends when the grace is over. -/
theorem reconnect_grace_honoured_alone :
    ∃ (w' : Pool (Cell tallyGame) (Task tallyGame)) (session : LiveSession tallyGame)
      (id : ParticipantSessionId) (p : SessionParticipant) (t : Timestamp),
      TallyAction.rowCause w' = some (.reconnectTimedOut "A") ∧
      w'.shared.session = some session ∧ session.participants.lookup id = some p ∧
      p.connected = false ∧ p.disconnectedAt = some t ∧
      p.reconnectDeadlineAt = some (t + Timestamp.seconds 15) ∧
      t + Timestamp.seconds 15 ≤ w'.shared.clock := by
  have h : (((sessionMachine tallyGame {}).restrict TallyAction.respectsGrace).exec
      (TallyAction.creation.initial {}) TallyAction.noReturn).bind (fun w =>
        ((sessionMachine tallyGame {}).step w TallyAction.expiry).map fun w' =>
          (w.shared.store.ended, w'.shared.store.ended, TallyAction.rowCause w',
            TallyAction.respectsGrace w TallyAction.expiry)) =
        some (false, true, some (.reconnectTimedOut "A"), true) := rfl
  obtain ⟨w, hw, h⟩ := Option.bind_eq_some_iff.mp h
  obtain ⟨w', step, h⟩ := Option.map_eq_some_iff.mp h
  simp only [Prod.mk.injEq] at h
  obtain ⟨isOpen, ended, cause, met⟩ := h
  have run : (sessionMachine tallyGame {}).Run GraceRespected
      (TallyAction.creation.initial {}) w :=
    .of_exec (fun _ _ => TallyAction.graceRespected) hw
  obtain ⟨e, ends, cause'⟩ := Option.map_eq_some_iff.mp cause
  obtain ⟨session, id, p, t, honoured⟩ := reconnect_grace_honoured (by decide) run
    (TallyAction.graceRespected met) step isOpen ⟨by simpa [SessionStore.ended] using ended, ends⟩
    cause'
  exact ⟨w', session, id, p, t, cause, honoured⟩

end Parlando
