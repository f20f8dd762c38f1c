import Parlando.Proofs.Members
import Parlando.Proofs.TerminalLifecycle

namespace Parlando

open Concurrency

variable {G : Game} {config : ExperimentConfig}

namespace LiveSession

variable {session : LiveSession G}

theorem hasRole_iff {role : PlayerRole} : session.hasRole role = true ↔
    ∃ id p, session.participants.lookup id = some p ∧ p.role = role := by
  simp only [hasRole, List.any_eq_true, beq_iff_eq, Map.mem_values]
  constructor
  · rintro ⟨p, ⟨id, found⟩, role⟩
    exact ⟨id, p, found, role⟩
  · rintro ⟨id, p, found, role⟩
    exact ⟨p, ⟨id, found⟩, role⟩

def Full (session : LiveSession G) : Prop := ∀ role, session.hasRole role = true

theorem Full.nextRole (full : session.Full) : session.nextRole = none := by
  simp [LiveSession.nextRole, full .A, full .B]

theorem full_of_readyForGame (ready : session.readyForGame config = true) : session.Full := by
  simp only [readyForGame, Bool.and_eq_true, List.any_eq_true, List.mem_filter] at ready
  obtain ⟨⟨a, memA, roleA⟩, ⟨b, memB, roleB⟩⟩ := ready
  intro role
  cases role with
  | A => exact List.any_eq_true.mpr ⟨a, memA.1, roleA⟩
  | B => exact List.any_eq_true.mpr ⟨b, memB.1, roleB⟩

/-- Without agents nobody leaves, so a full session stays full. -/
theorem Full.after {sec : Section G} {session' : LiveSession G} (full : session.Full)
    (step : SessionStep config sec session session')
    (attach : ∀ agent now, sec ≠ .memory (.attachAgent agent now))
    (detach : ∀ id, sec ≠ .memory (.detachAgent id)) : session'.Full := by
  intro role
  obtain ⟨id, p, found, held⟩ := hasRole_iff.mp (full role)
  have look := step.members.lookup id
  generalize now : session'.participants.lookup id = after at look
  apply hasRole_iff.mpr
  cases look with
  | @kept _ f same => exact ⟨id, f p, by rw [now, found]; rfl, (same p).role.trans held⟩
  | connect t => exact ⟨id, p.connect t, by rw [now, found]; rfl, held⟩
  | disconnect t d => exact ⟨id, p.disconnect t d, by rw [now, found]; rfl, held⟩
  | joined participant t role' own fresh =>
    rw [fresh] at found
    cases found
  | attached agent t => exact absurd rfl (attach agent t)
  | detached => exact absurd rfl (detach id)

end LiveSession

namespace Task

def startsReady : Task G → Bool
  | start _ (.commit _ _) | start _ (.write _ _) => true
  | _ => false

theorem startsReady_of_entry {task : Task G} (h : task.entry = true) :
    task.startsReady = false := by
  unfold entry at h
  split at h <;> first | rfl | cases h

section Steps

variable {cell : Cell G} {pid : Nat} {input : Input} {sec : Section G} {task task' : Task G}
  {started : List (Task G)}

theorem next_startsReady (h : task.next config cell pid input = some (sec, task', started))
    (ready : task'.startsReady = true) :
    task.startsReady = true ∨ startable config cell.session = true := by
  cases task' <;> try cases ready
  rename_i caller pc'
  rcases next_startCall h with rfl | ⟨pc, rfl, hs⟩
  · cases ready
  · cases pc <;> simp only [StartPc.step] at hs
    case check l =>
      split at hs <;> cases hs
      · rename_i found
        exact .inr found
      · cases ready
    case commit => exact .inl rfl
    all_goals repeat' first | split at hs | cases hs | cases ready

/-- Between two humans no agent is attached or detached. -/
theorem next_noAgents (humans : config.agentsMode = .humanVsHuman)
    (sound : ∀ o, task.owner = some o → o.Sound config)
    (h : task.next config cell pid input = some (sec, task', started)) :
    (∀ agent now, sec ≠ .memory (.attachAgent agent now)) ∧
      ∀ id, sec ≠ .memory (.detachAgent id) := by
  constructor
  · rintro agent now rfl
    obtain ⟨call, owned, -⟩ := next_attachAgent h
    have agents := (sound _ owned).2
    rw [humans] at agents
    cases agents
  · rintro id rfl
    obtain ⟨call, owned, -⟩ := next_detachAgent h
    have agents := (sound _ owned).2
    rw [humans] at agents
    cases agents

end Steps

end Task

theorem Section.start_of_lifecycle {sec : Section G} (h : sec.lifecycle = some .running) :
    ∃ startedAt idleDeadlineAt, sec = .memory (.start startedAt idleDeadlineAt) := by
  cases sec
  case memory update =>
    cases update
    case start startedAt idleDeadlineAt => exact ⟨_, _, rfl⟩
    case transition after sessionEnd completedAt voiceEndsAt => cases sessionEnd <;> cases h
    all_goals cases h
  all_goals cases h

def Cell.Full (cell : Cell G) : Prop := ∀ session, cell.session = some session → session.Full

def rolesOutline (G : Game) {config : ExperimentConfig}
    (humans : config.agentsMode = .humanVsHuman) :
    Outline (sessionProgram G config)
      fun w _ => w.Each fun _ task => ∀ o, task.owner = some o → o.Sound config where
  inv cell := ∀ session, cell.session = some session → session.lifecycle = .running → session.Full
  asn cell _ task := task.startsReady = true → cell.Full
  entry := by
    intro w task pid _ _ enter ready
    rw [Task.startsReady_of_entry (session_entry enter).1] at ready
    cases ready
  step := by
    intro w pid input task cell' task' started running each owners ht h
    obtain ⟨sec, hn, -, rfl⟩ := session_step h
    have own := each pid task ht
    obtain ⟨attach, detach⟩ := Task.next_noAgents humans (owners pid task ht) hn
    refine ⟨fun session' here runs => ?_, fun ready session' here => ?_, ?_⟩
    · obtain ⟨session, before, step⟩ := Cell.apply_step here
      refine LiveSession.Full.after ?_ step attach detach
      cases writes : sec.lifecycle with
      | none =>
        refine running session before ?_
        rw [← runs, step.lifecycle, writes]
        rfl
      | some written =>
        rw [show written = .running by rw [← runs, step.lifecycle, writes]; rfl] at writes
        obtain ⟨startedAt, idleDeadlineAt, rfl⟩ := Section.start_of_lifecycle writes
        obtain ⟨caller, l, rfl⟩ := Task.next_start hn
        exact own rfl session before
    · obtain ⟨session, before, step⟩ := Cell.apply_step here
      refine LiveSession.Full.after ?_ step attach detach
      rcases Task.next_startsReady hn ready with again | found
      · exact own again session before
      · simp only [startable, before, Option.any_some, Bool.and_eq_true] at found
        exact LiveSession.full_of_readyForGame found.2
    · intro u mem q ready
      obtain ⟨call, deadline, -, rfl⟩ := Task.mem_started hn mem
      cases ready
  interference := by
    intro w pid input task cell' task' started q u _ _ owners ht h _ _ theirs ready session' here
    obtain ⟨sec, hn, -, rfl⟩ := session_step h
    obtain ⟨attach, detach⟩ := Task.next_noAgents humans (owners pid task ht) hn
    obtain ⟨session, before, step⟩ := Cell.apply_step here
    exact (theirs ready session before).after step attach detach

theorem rolesOutline_valid (humans : config.agentsMode = .humanVsHuman) {creation : Creation G}
    {guard : Pool (Cell G) (Task G) → Pool.Action (Task G) Input → Prop}
    {w : Pool (Cell G) (Task G)}
    (run : (sessionMachine G config).Run guard (creation.initial config) w) :
    (rolesOutline G humans).Valid w := by
  refine Outline.Valid.run ((run.and_invariant owners_sound).mono fun _ _ => And.right) ⟨?_, ?_⟩
  · intro session here running
    cases here
    cases running
  · intro pid task ht
    cases ht

end Parlando
