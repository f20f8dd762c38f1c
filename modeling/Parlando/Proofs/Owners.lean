import Parlando.Proofs.Steps

namespace Parlando

open Concurrency

variable {G : Game} {config : ExperimentConfig}

inductive Owner where
  | loop (call : SocketCall)
  | pairing (participant : ParticipantSession)
  | agent (call : AgentCall)

/-- Connections and pairings are for humans, agents are not. -/
def Owner.Sound (config : ExperimentConfig) : Owner → Prop
  | loop call => call.participantSessionId.isHuman = true
  | pairing participant => participant.id.isHuman = true ∧ participant.source ≠ .agent ∧
      config.agentsMode = .humanVsHuman
  | agent call => call.participant.id.isHuman = false ∧ config.agentsMode = .humanVsAgent

def StartCaller.owner : StartCaller → Option Owner
  | socket call _ => some (.loop call)
  | agent call => some (.agent call)
  | audio _ => none

def AbandonCaller.owner : AbandonCaller → Option Owner
  | socket call => some (.loop call)
  | request => none

def ExpireCaller.owner : ExpireCaller → Option Owner
  | agent call => some (.agent call)
  | _ => none

def EventCaller.owner : EventCaller → Option Owner
  | detached | joined _ _ => none
  | connected call _ | disconnected call _ => some (.loop call)
  | agentJoined call _ | agentError call | agentConnected call _ | agentStarted call _ =>
    some (.agent call)

namespace Task

def owner : Task G → Option Owner
  | abandon _ _ caller _ => caller.owner
  | expire _ caller _ => caller.owner
  | start caller _ => caller.owner
  | event _ caller _ => caller.owner
  | socket call _ => some (.loop call)
  | pair participant _ => some (.pairing participant)
  | agent call _ => some (.agent call)
  | _ => none

@[simp] theorem owner_ofSocket (call : SocketCall) (pc : SocketPc) :
    (ofSocket call pc : Task G).owner = some (.loop call) := by
  cases pc <;> rfl

@[simp] theorem owner_ofAgent (call : AgentCall) (pc : AgentPc) :
    (ofAgent call pc : Task G).owner = some (.agent call) := by
  cases pc <;> rfl

@[simp] theorem owner_ofEvent (call : EventCall) (caller : EventCaller) (pc : EventPc) :
    (ofEvent config call caller pc : Task G).owner = caller.owner := by
  cases caller <;> cases pc <;>
    first | rfl | exact owner_ofSocket _ _

section Steps

variable {cell : Cell G} {pid : Nat} {input : Input} {sec : Section G} {task task' : Task G}
  {started : List (Task G)}

/-- Calls and returns stay with the one they run for. -/
theorem next_owner (h : task.next config cell pid input = some (sec, task', started)) {o : Owner}
    (owned : task'.owner = some o) : task.owner = some o := by
  cases task
  all_goals
    obtain ⟨⟨sec', pc'⟩, hs, he⟩ := Option.map_eq_some_iff.mp h
    cases he
  case socket => exact (owner_ofSocket _ _).symm.trans owned
  case agent => exact (owner_ofAgent _ _).symm.trans owned
  case event => exact (owner_ofEvent _ _ _).symm.trans owned
  case abandon id reason caller pc => cases caller <;> cases pc' <;> exact owned
  case expire reason caller pc => cases caller <;> cases pc' <;> exact owned
  case start caller pc => cases caller <;> cases pc' <;> exact owned
  case pair participant pc => cases pc' <;> first | exact owned | cases owned
  case submit => cases owned
  case finalize => cases owned
  case touch => cases owned
  all_goals cases pc' <;> cases owned

theorem owner_sound (enter : (sessionProgram G config).entry cell task = true) :
    ∀ o, task.owner = some o → o.Sound config := by
  obtain ⟨entry, admitted⟩ := session_entry enter
  rintro o owned
  unfold Task.entry at entry
  split at entry <;> first | cases owned | skip
  · exact entry
  · rename_i participant
    simp only [Bool.and_eq_true, bne_iff_ne] at entry
    exact ⟨entry.1, entry.2, by simpa [Task.admitted] using admitted⟩
  · rename_i call
    exact ⟨by simpa using entry, by simpa [Task.admitted] using admitted⟩
  · cases entry

end Steps

end Task

/-- What holds of the owners of the tasks that may enter holds of the owners of every task. -/
theorem owners_keep {P : Owner → Prop}
    {guard : Pool (Cell G) (Task G) → Pool.Action (Task G) Input → Prop}
    (entered : ∀ {w task}, guard w (.spawn task) →
      (sessionProgram G config).entry w.shared task = true → ∀ o, task.owner = some o → P o)
    {w₀ w : Pool (Cell G) (Task G)} (run : (sessionMachine G config).Run guard w₀ w)
    (initially : w₀.tasks = []) : w.Each fun _ task => ∀ o, task.owner = some o → P o := by
  refine run.invariant (fun _ _ ht => ?_) fun {t u a} owners met h => ?_
  · rw [initially] at ht
    cases ht
  rcases Program.step_cases h with ⟨task, rfl, enter, rfl⟩ |
    ⟨pid, input, task, cell', task', started, rfl, ht, hs, rfl⟩
  · exact owners.append (fun _ _ h => h) fun _ => entered met enter
  · obtain ⟨sec, hn, -, rfl⟩ := session_step hs
    refine .after ?_ (fun q u _ hu => owners q u hu) ?_
    · exact fun o owned => owners pid task ht o (Task.next_owner hn owned)
    · intro u mem _ o owned
      obtain ⟨call, deadline, -, rfl⟩ := Task.mem_started hn mem
      cases owned

/-- Who tasks run for, in every state any run reaches. -/
theorem owners_sound {creation : Creation G}
    {guard : Pool (Cell G) (Task G) → Pool.Action (Task G) Input → Prop}
    {w : Pool (Cell G) (Task G)}
    (run : (sessionMachine G config).Run guard (creation.initial config) w) :
    w.Each fun _ task => ∀ o, task.owner = some o → o.Sound config :=
  owners_keep (fun _ enter => Task.owner_sound enter) run rfl

end Parlando
