import Parlando.Proofs.Roles
import Parlando.Runtime

namespace Parlando

open Concurrency

variable {G : Game} {config : ExperimentConfig} {applicant : Applicant}
  {runtime runtime' : Runtime G} {pid : Nat}

theorem Runtime.act_eq {r : Nat} {actions : List (Pool.Action (Task G) Input)}
    (h : runtime.act config r actions = some runtime') :
    ∃ room room', runtime.rooms[r]? = some room ∧
      (sessionMachine G config).exec room actions = some room' ∧
      runtime' = { runtime with rooms := runtime.rooms.set r room' } := by
  obtain ⟨room, here, h⟩ := Option.bind_eq_some_iff.mp h
  obtain ⟨room', ran, rfl⟩ := Option.map_eq_some_iff.mp h
  exact ⟨room, room', here, ran, rfl⟩

theorem Runtime.act_admission (r : Nat) (actions : List (Pool.Action (Task G) Input)) :
    ((runtime.act config r actions).getD runtime).admission = runtime.admission := by
  cases acted : runtime.act config r actions with
  | none => rfl
  | some after =>
    obtain ⟨room, room', -, -, rfl⟩ := Runtime.act_eq acted
    rfl

namespace RequestPc

def holds : RequestPc → Bool
  | find | join _ _ | reserve _ | createRow | createEvent | createGame | timing | insert
  | complete _ | release _ => true
  | _ => false

def creating : RequestPc → Bool
  | createRow | createEvent | createGame | timing | insert => true
  | _ => false

def pairs : RequestPc → Option (Nat × Nat)
  | join r task => some (r, task)
  | _ => none

def InMode (config : ExperimentConfig) : RequestPc → Prop
  | find | join _ _ => config.agentsMode = .humanVsHuman
  | reserve mode => mode = if config.agentsMode = .humanVsHuman then .waiting else .active
  | _ => True

inductive Step (config : ExperimentConfig) (applicant : Applicant) (runtime : Runtime G) :
    RequestPc → List (Room G) → RequestPc → Prop where
  | stays {pc pc' : RequestPc} (joins : pc'.pairs = none)
      (creates : pc'.creating = true → pc.creating = true) :
    Step config applicant runtime pc runtime.rooms pc'
  | granted {mode : SessionAdmission}
      (capacity : runtime.ensureSessionCapacity config mode 1 = .ok ()) :
    Step config applicant runtime (reserve mode) runtime.rooms createRow
  | found {r : Nat} {room room' : Room G} {input : Input}
      (here : runtime.rooms[r]? = some room)
      (paired : (sessionMachine G config).exec room
        [.spawn (.pair applicant.participant .find), .run room.tasks.length input] = some room') :
    Step config applicant runtime find (runtime.rooms.set r room') (join r room.tasks.length)
  | joined {r task : Nat} {room room' : Room G} {input : Input} {result : Except AppError Placement}
      (here : runtime.rooms[r]? = some room)
      (ran : (sessionMachine G config).step room (.run task input) = some room')
      (capacity : input.capacityError = none →
        runtime.ensureSessionCapacity config .active 1 = .ok ()) :
    Step config applicant runtime (join r task) (runtime.rooms.set r room') (release result)
  | created {creation : Creation G} (own : creation.participant = applicant.participant) :
    Step config applicant runtime insert (runtime.rooms ++ [creation.initial config])
      (complete runtime.rooms.length)
  | dropped {r : Nat} {result : Except AppError Placement} :
    Step config applicant runtime (complete r) runtime.rooms.dropLast (release result)
  | spawned {pc pc' : RequestPc} {r : Nat} {room room' : Room G} {t : Task G}
      (here : runtime.rooms[r]? = some room)
      (entered : (sessionMachine G config).step room (.spawn t) = some room')
      (agent : ∀ call pc, t = .agent call pc → call.participant.id = .agent r)
      (outside : pc'.holds = false) :
    Step config applicant runtime pc (runtime.rooms.set r room') pc'

theorem step_rooms {input : RequestInput G} {pc pc' : RequestPc}
    (h : pc.step config applicant runtime pid input = some (runtime', pc')) :
    Step config applicant runtime pc runtime'.rooms pc' := by
  cases pc <;> simp only [step] at h
  case admission =>
    split at h <;> cases h
    refine .stays ?_ ?_ <;> split <;> first | rfl | nofun
  case find =>
    split at h
    · cases h
      exact .stays rfl nofun
    · obtain ⟨room, here, h⟩ := Option.bind_eq_some_iff.mp h
      obtain ⟨after, acted, he⟩ := Option.map_eq_some_iff.mp h
      cases he
      obtain ⟨room₁, room', here', ran, rfl⟩ := Runtime.act_eq acted
      cases here.symm.trans here'
      exact .found here ran
  case join r task =>
    obtain ⟨after, acted, he⟩ := Option.map_eq_some_iff.mp h
    cases he
    obtain ⟨room, room', here, ran, rfl⟩ := Runtime.act_eq acted
    rw [Machine.exec_singleton] at ran
    refine .joined here ran fun none => ?_
    split at none
    · cases none
    · assumption
  case reserve mode =>
    split at h <;> cases h
    · exact .stays rfl nofun
    · rename_i capacity
      exact .granted capacity
  case insert =>
    obtain ⟨state, -, he⟩ := Option.map_eq_some_iff.mp h
    cases he
    exact .created rfl
  case complete r =>
    split at h <;> cases h
    · exact .stays rfl nofun
    · exact .dropped
  case enter r =>
    cases h
    cases acted : runtime.act config r [.spawn (.admission applicant.participant (.persist .A))] with
    | none => refine .stays ?_ ?_ <;> split <;> first | rfl | nofun
    | some after =>
      obtain ⟨room, room', here, ran, rfl⟩ := Runtime.act_eq acted
      rw [Machine.exec_singleton] at ran
      refine .spawned here ran (fun call pc same => by cases same) ?_
      split <;> rfl
  case agent r =>
    cases h
    cases acted : runtime.act config r [.spawn (.agent (Runtime.roomAgent r
        applicant.participant.purpose input.metadata) .probe)] with
    | none => exact .stays rfl nofun
    | some after =>
      obtain ⟨room, room', here, ran, rfl⟩ := Runtime.act_eq acted
      rw [Machine.exec_singleton] at ran
      refine .spawned here ran (fun call pc same => ?_) rfl
      cases same
      rfl
  case release result =>
    cases h
    refine .stays ?_ ?_ <;> split <;> first | rfl | nofun
  all_goals
    repeat' first | split at h | cases h
  all_goals exact .stays rfl (by first | exact fun creates => creates | nofun)

theorem step_inMode {input : RequestInput G} {pc pc' : RequestPc} (mode : pc.InMode config)
    (h : pc.step config applicant runtime pid input = some (runtime', pc')) :
    pc'.InMode config := by
  cases pc <;> simp only [step] at h
  case admission =>
    split at h <;> cases h
    split
    · assumption
    · rename_i agents
      exact (if_neg agents).symm
  case find =>
    split at h
    · cases h
      exact (if_pos mode).symm
    · obtain ⟨room, -, h⟩ := Option.bind_eq_some_iff.mp h
      obtain ⟨after, -, he⟩ := Option.map_eq_some_iff.mp h
      cases he
      exact mode
  case join r task =>
    obtain ⟨after, -, he⟩ := Option.map_eq_some_iff.mp h
    cases he
    trivial
  case insert =>
    obtain ⟨state, -, he⟩ := Option.map_eq_some_iff.mp h
    cases he
    trivial
  all_goals
    repeat' first | split at h | cases h
  all_goals trivial

/-- What a step of a request does to `session_admission`. -/
theorem step_admission {input : RequestInput G} {pc pc' : RequestPc}
    (h : pc.step config applicant runtime pid input = some (runtime', pc')) :
    (pc.holds = false ∧ runtime.admission = none ∧ runtime'.admission = some pid) ∨
    (pc.holds = true ∧ pc'.holds = false) ∨
    (runtime'.admission = runtime.admission ∧ pc'.holds = pc.holds) := by
  cases pc <;> simp only [step] at h
  case admission =>
    split at h <;> cases h
    rename_i free
    exact .inl ⟨rfl, Option.isNone_iff_eq_none.mp free, rfl⟩
  case release result =>
    cases h
    refine .inr (.inl ⟨rfl, ?_⟩)
    split <;> rfl
  case find =>
    split at h
    · cases h
      exact .inr (.inr ⟨rfl, rfl⟩)
    · obtain ⟨room, -, h⟩ := Option.bind_eq_some_iff.mp h
      obtain ⟨after, acted, he⟩ := Option.map_eq_some_iff.mp h
      cases he
      obtain ⟨room₁, room', -, -, rfl⟩ := Runtime.act_eq acted
      exact .inr (.inr ⟨rfl, rfl⟩)
  case join r task =>
    obtain ⟨after, acted, he⟩ := Option.map_eq_some_iff.mp h
    cases he
    obtain ⟨room, room', -, -, rfl⟩ := Runtime.act_eq acted
    exact .inr (.inr ⟨rfl, rfl⟩)
  case insert =>
    obtain ⟨state, -, he⟩ := Option.map_eq_some_iff.mp h
    cases he
    exact .inr (.inr ⟨rfl, rfl⟩)
  case enter r =>
    cases h
    refine .inr (.inr ⟨?_, by split <;> rfl⟩)
    exact Runtime.act_admission _ _
  case agent r =>
    cases h
    exact .inr (.inr ⟨Runtime.act_admission _ _, rfl⟩)
  all_goals
    repeat' first | split at h | cases h
  all_goals exact .inr (.inr ⟨rfl, rfl⟩)

end RequestPc

/-- A step of the runtime is the step of a request, or an action of one of its rooms. -/
theorem runtime_step {task task' : RuntimeTask} {input : RuntimeInput G}
    {started : List RuntimeTask}
    (h : (runtimeProgram G config).step runtime pid task input = some (runtime', task', started)) :
    started = [] ∧
      ((∃ applicant pc pc' given, task = .request applicant pc ∧ task' = .request applicant pc' ∧
        input = .request given ∧
        pc.step config applicant runtime pid given = some (runtime', pc')) ∨
      (∃ r action room room', task = .sessions ∧ task' = .sessions ∧ input = .room r action ∧
        runtime.rooms[r]? = some room ∧ Runtime.ownAction room action = true ∧
        (sessionMachine G config).step room action = some room' ∧
        runtime' = { runtime with rooms := runtime.rooms.set r room' })) := by
  cases task <;> cases input <;> simp only [runtimeProgram] at h
  case request.request applicant pc given =>
    obtain ⟨⟨after, pc'⟩, stepped, he⟩ := Option.map_eq_some_iff.mp h
    cases he
    exact ⟨rfl, .inl ⟨_, _, _, _, rfl, rfl, rfl, stepped⟩⟩
  case sessions.room r action =>
    split at h
    · rename_i own
      obtain ⟨after, acted, he⟩ := Option.map_eq_some_iff.mp h
      cases he
      obtain ⟨room, room', here, ran, rfl⟩ := Runtime.act_eq acted
      rw [Machine.exec_singleton] at ran
      rw [here] at own
      exact ⟨rfl, .inr ⟨_, _, _, _, rfl, rfl, rfl, here, own, ran, rfl⟩⟩
    · cases h
  all_goals cases h

/-- What a room's own action leaves alone: the tasks that pair requests. -/
theorem pair_kept {room room' : Room G} {action : Pool.Action (Task G) Input} {k : Nat}
    {participant : ParticipantSession} {pc : PairPc}
    (own : Runtime.ownAction room action = true)
    (ran : (sessionMachine G config).step room action = some room')
    (here : room.tasks[k]? = some (.pair participant pc)) :
    room'.tasks[k]? = some (.pair participant pc) := by
  rcases Program.step_cases ran with ⟨task, rfl, -, rfl⟩ |
    ⟨q, input, task, cell', task', started, rfl, ht, -, rfl⟩
  · exact (List.getElem?_append_left (List.getElem?_eq_some_iff.mp here).1).trans here
  · refine Pool.other_after (fun same => ?_) here
    subst same
    simp [Runtime.ownAction, here] at own

/-- A request's search for a partner only adds its pairing to the room. -/
theorem paired_room {room room' : Room G} {participant : ParticipantSession} {input : Input}
    (ran : (sessionMachine G config).exec room
      [.spawn (.pair participant .find), .run room.tasks.length input] = some room') :
    room'.tasks = room.tasks ++ [.pair participant .join] ∧
      room'.shared = { room.shared with clock := input.now } := by
  obtain ⟨next, spawned, ran⟩ := Option.bind_eq_some_iff.mp ran
  rw [Machine.exec_singleton] at ran
  rcases Program.step_cases spawned with ⟨task, same, -, rfl⟩ | ⟨_, _, _, _, _, _, same, _⟩ <;>
    cases same
  rcases Program.step_cases ran with ⟨_, same, _⟩ |
    ⟨q, given, task, cell', task', started, same, ht, hs, rfl⟩ <;> cases same
  obtain ⟨sec, hn, -, rfl⟩ := session_step hs
  simp only [List.getElem?_concat_length, Option.some.injEq] at ht
  subst ht
  obtain ⟨⟨sec', pc'⟩, found, he⟩ := Option.map_eq_some_iff.mp hn
  simp only [PairPc.step] at found
  split at found <;> cases found
  cases he
  simp [Task.ofPair, Cell.apply]

def Pairing (rooms : List (Room G)) (participant : ParticipantSession) (r k : Nat) : Prop :=
  ∃ room, rooms[r]? = some room ∧ room.tasks[k]? = some (.pair participant .join)

/-- A room that changes keeps the pairings that its tasks keep. -/
theorem Pairing.set {rooms : List (Room G)} {r r' k : Nat} {participant : ParticipantSession}
    {room room' : Room G} (pairing : Pairing rooms participant r k)
    (here : rooms[r']? = some room)
    (kept : room.tasks[k]? = some (.pair participant .join) →
      room'.tasks[k]? = some (.pair participant .join)) :
    Pairing (rooms.set r' room') participant r k := by
  obtain ⟨room₁, here₁, paired⟩ := pairing
  have bound := (List.getElem?_eq_some_iff.mp here).1
  by_cases same : r' = r
  · subst same
    cases here.symm.trans here₁
    exact ⟨room', List.getElem?_set_self bound, kept paired⟩
  · exact ⟨room₁, (List.getElem?_set_ne same).trans here₁, paired⟩

/-- A new task leaves the others where they are. -/
theorem spawned_kept {room room' : Room G} {t task : Task G} {k : Nat}
    (entered : (sessionMachine G config).step room (.spawn t) = some room')
    (here : room.tasks[k]? = some task) : room'.tasks[k]? = some task := by
  rcases Program.step_cases entered with ⟨_, same, -, rfl⟩ | ⟨_, _, _, _, _, _, same, _⟩ <;>
    cases same
  exact (List.getElem?_append_left (List.getElem?_eq_some_iff.mp here).1).trans here

namespace RequestPc

/-- What is true of a request at its current point. -/
structure Sound (config : ExperimentConfig) (runtime : Runtime G) (pid : Nat)
    (applicant : Applicant) (pc : RequestPc) : Prop where
  inMode : pc.InMode config
  holder : pc.holds = true → runtime.admission = some pid
  pairing : ∀ r k, pc = .join r k → Pairing runtime.rooms applicant.participant r k

/-- Two requests are never both inside the admission section. -/
theorem Sound.exclusive {q : Nat} {applicant' : Applicant} {pc pc' : RequestPc}
    (sound : pc.Sound config runtime pid applicant)
    (sound' : pc'.Sound config runtime q applicant') (other : q ≠ pid)
    (holds : pc.holds = true) : pc'.holds = false := by
  cases inside : pc'.holds with
  | false => rfl
  | true =>
    have both := (sound'.holder inside).symm.trans (sound.holder holds)
    exact absurd (Option.some.inj both) other

theorem Sound.step {input : RequestInput G} {pc pc' : RequestPc}
    (sound : pc.Sound config runtime pid applicant)
    (stepped : pc.step config applicant runtime pid input = some (runtime', pc')) :
    pc'.Sound config runtime' pid applicant := by
  refine ⟨step_inMode sound.inMode stepped, fun inside => ?_, ?_⟩
  · rcases step_admission stepped with ⟨-, -, mine⟩ | ⟨-, outside⟩ | ⟨same, kept⟩
    · exact mine
    · rw [outside] at inside
      cases inside
    · rw [same]
      exact sound.holder (kept ▸ inside)
  · rintro r k rfl
    have did := step_rooms stepped
    generalize runtime'.rooms = rooms at did
    cases did with
    | stays joins => cases joins
    | @found _ room room' _ here paired =>
      have bound := (List.getElem?_eq_some_iff.mp here).1
      refine ⟨room', List.getElem?_set_self bound, ?_⟩
      rw [(paired_room paired).1, List.getElem?_concat_length]
    | spawned here entered agent outside => cases outside

/-- A request outside the admission section disturbs nobody. -/
theorem Sound.other {q : Nat} {applicant' : Applicant} {input : RequestInput G}
    {pc pc' u : RequestPc} (sound : pc.Sound config runtime pid applicant)
    (theirs : u.Sound config runtime q applicant') (other : q ≠ pid)
    (stepped : pc.step config applicant runtime pid input = some (runtime', pc')) :
    u.Sound config runtime' q applicant' := by
  refine ⟨theirs.inMode, fun inside => ?_, ?_⟩
  · have outside := theirs.exclusive sound (Ne.symm other) inside
    rcases step_admission stepped with ⟨-, free, -⟩ | ⟨holds, -⟩ | ⟨same, -⟩
    · rw [theirs.holder inside] at free
      cases free
    · rw [outside] at holds
      cases holds
    · exact same.trans (theirs.holder inside)
  · rintro r k rfl
    have outside := theirs.exclusive sound (Ne.symm other) rfl
    have paired := theirs.pairing r k rfl
    have did := step_rooms stepped
    generalize runtime'.rooms = rooms at did
    cases did with
    | stays => exact paired
    | spawned here entered => exact paired.set here (spawned_kept entered)
    | _ => cases outside

end RequestPc

def admissionOutline (G : Game) (config : ExperimentConfig) :
    Outline (runtimeProgram G config) Machine.unguarded where
  inv _ := True
  asn runtime pid task :=
    ∀ applicant pc, task = .request applicant pc → pc.Sound config runtime pid applicant
  entry := by
    rintro w task pid - - enter applicant pc rfl
    cases pc <;> cases enter
    exact ⟨trivial, nofun, nofun⟩
  step := by
    intro w pid input task runtime' task' started _ each _ ht h
    obtain ⟨rfl, ⟨applicant, pc, pc', given, rfl, rfl, -, stepped⟩ |
      ⟨r, action, room, room', rfl, rfl, -, -⟩⟩ := runtime_step h
    · refine ⟨trivial, ?_, fun u mem => by cases mem⟩
      rintro _ _ ⟨⟩
      exact (each pid _ ht _ _ rfl).step stepped
    · exact ⟨trivial, nofun, fun u mem => by cases mem⟩
  interference := by
    rintro w pid input task runtime' task' started q u - each - ht h other - theirs applicant' u rfl
    obtain ⟨rfl, ⟨applicant, pc, pc', given, rfl, rfl, -, stepped⟩ |
      ⟨r, action, room, room', rfl, rfl, -, here, own, ran, rfl⟩⟩ := runtime_step h
    · exact (each pid _ ht _ _ rfl).other (theirs _ _ rfl) other stepped
    · have sound := theirs _ _ rfl
      refine ⟨sound.inMode, sound.holder, ?_⟩
      rintro r' k rfl
      exact (sound.pairing r' k rfl).set here (pair_kept own ran)

/-- The states of a runtime that a run under some guard reaches. -/
theorem admissions_sound {guard : Pool (Runtime G) RuntimeTask →
      Pool.Action RuntimeTask (RuntimeInput G) → Prop} {w : Pool (Runtime G) RuntimeTask}
    (run : (runtimeMachine G config).Run guard (Runtime.initial G) w) :
    w.Each fun pid task =>
      ∀ applicant pc, task = .request applicant pc → pc.Sound config w.shared pid applicant :=
  (Outline.Valid.run (run.mono fun _ _ _ => trivial)
    (O := admissionOutline G config) ⟨trivial, fun _ _ ht => by cases ht⟩).each

/-- The guard that every action of room `r` meets: the room's agent is its own. -/
def OwnAgent (r : Nat) (_ : Room G) (a : Pool.Action (Task G) Input) : Prop :=
  ∀ call pc, a = .spawn (.agent call pc) → call.participant.id = .agent r

def Reached (config : ExperimentConfig) (r : Nat) (room : Room G) : Prop :=
  ∃ creation : Creation G, (sessionMachine G config).Run (OwnAgent r) (creation.initial config) room

theorem Reached.step {r : Nat} {room room' : Room G} {a : Pool.Action (Task G) Input}
    (reached : Reached config r room) (met : OwnAgent r room a)
    (ran : (sessionMachine G config).step room a = some room') : Reached config r room' := by
  obtain ⟨creation, run⟩ := reached
  exact ⟨creation, run.tail met ran⟩

theorem ownAgent_run {r q : Nat} {room : Room G} {input : Input} :
    OwnAgent r room (.run q input) := by
  intro call pc same
  cases same

theorem ownAgent_of_ownAction {r : Nat} {room : Room G} {action : Pool.Action (Task G) Input}
    (own : Runtime.ownAction room action = true) : OwnAgent r room action := by
  rintro call pc rfl
  cases own

/-- What holds of a changed room and of the others holds of every room. -/
theorem rooms_set {p : Nat → Room G → Prop} {rooms : List (Room G)} {r : Nat}
    {room' : Room G} (each : ∀ r room, rooms[r]? = some room → p r room) (changed : p r room')
    {q : Nat} {u : Room G} (here : (rooms.set r room')[q]? = some u) : p q u := by
  rw [List.getElem?_set] at here
  split at here
  · rename_i same
    subst same
    split at here <;> cases here
    exact changed
  · exact each q u here

theorem rooms_append {p : Nat → Room G → Prop} {rooms : List (Room G)} {room' : Room G}
    (each : ∀ r room, rooms[r]? = some room → p r room) (new : p rooms.length room')
    {q : Nat} {u : Room G} (here : (rooms ++ [room'])[q]? = some u) : p q u := by
  by_cases old : q < rooms.length
  · exact each q u ((List.getElem?_append_left old).symm.trans here)
  · rw [List.getElem?_append_right (Nat.le_of_not_lt old), List.getElem?_singleton] at here
    split at here <;> cases here
    rw [show q = rooms.length by omega]
    exact new

theorem rooms_dropLast {rooms : List (Room G)} {q : Nat} {u : Room G}
    (here : rooms.dropLast[q]? = some u) : rooms[q]? = some u := by
  rw [List.getElem?_dropLast] at here
  split at here
  · exact here
  · cases here

/-- Every room of a runtime is a state of its own session's machine. -/
theorem rooms_reached {guard : Pool (Runtime G) RuntimeTask →
      Pool.Action RuntimeTask (RuntimeInput G) → Prop} {w : Pool (Runtime G) RuntimeTask}
    (run : (runtimeMachine G config).Run guard (Runtime.initial G) w) :
    ∀ r room, w.shared.rooms[r]? = some room → Reached config r room := by
  refine run.invariant (fun r room here => by cases here) fun {t u a} each _ h => ?_
  rcases Program.step_cases h with ⟨task, rfl, -, rfl⟩ |
    ⟨pid, input, task, runtime', task', started, rfl, ht, hs, rfl⟩
  · exact each
  obtain ⟨rfl, ⟨applicant, pc, pc', given, rfl, rfl, -, stepped⟩ |
    ⟨r, action, room, room', rfl, rfl, -, here, own, ran, rfl⟩⟩ := runtime_step hs
  · intro q u
    have did := RequestPc.step_rooms stepped
    generalize runtime'.rooms = rooms at did ⊢
    cases did with
    | stays => exact each q u
    | granted => exact each q u
    | found here paired =>
      obtain ⟨creation, run⟩ := each _ _ here
      refine rooms_set each ⟨creation, run.exec (fun a mem _ => ?_) paired⟩
      rcases List.mem_pair.mp mem with rfl | rfl
      · intro call pc same
        cases same
      · exact ownAgent_run
    | joined here ran => exact rooms_set each ((each _ _ here).step ownAgent_run ran)
    | created => exact rooms_append each ⟨_, .refl⟩
    | dropped => exact fun here => each q u (rooms_dropLast here)
    | spawned here entered agent =>
      refine rooms_set each ((each _ _ here).step ?_ entered)
      rintro call pc ⟨⟩
      exact agent call pc rfl
  · exact fun q u => rooms_set each ((each r room here).step (ownAgent_of_ownAction own) ran)

end Parlando
