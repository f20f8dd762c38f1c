import Mathlib.Algebra.Order.BigOperators.Group.List
import Mathlib.Algebra.Order.Group.Nat
import Parlando.Proofs.Memberships

namespace Parlando

open Concurrency

variable {G : Game} {config : ExperimentConfig}

section Members

variable {session : LiveSession G} {sec : Section G}
  {members : Map ParticipantSessionId SessionParticipant} {q : ParticipantSource → Bool}

/-- Without joins and agents a section keeps the number of members of each source. -/
theorem MembersStep.count_kept (q : ParticipantSource → Bool)
    (step : MembersStep config session sec members)
    (joins : ∀ participant now, sec ≠ .memory (.addHuman participant now))
    (attaches : ∀ agent now, sec ≠ .memory (.attachAgent agent now))
    (detaches : ∀ id, sec ≠ .memory (.detachAgent id)) :
    members.values.countP (fun p => q p.source) =
      session.participants.values.countP fun p => q p.source := by
  cases step with
  | same => rfl
  | connect id now => exact Map.countP_modify _ fun p => rfl
  | disconnect id t d => exact Map.countP_modify _ fun p => rfl
  | agentReady id now => exact Map.countP_modify _ fun p => rfl
  | audioReady id now => exact Map.countP_modify _ fun p => rfl
  | join participant now => exact absurd rfl (joins participant now)
  | attach agent now => exact absurd rfl (attaches agent now)
  | detach id => exact absurd rfl (detaches id)

/-- Agents that come and go do not count among the members of other sources. -/
theorem MembersStep.count_agents (notAgent : q .agent = false)
    (step : MembersStep config session sec members)
    (joins : ∀ participant now, sec ≠ .memory (.addHuman participant now)) :
    members.values.countP (fun p => q p.source) ≤
      session.participants.values.countP fun p => q p.source := by
  cases step with
  | attach agent now =>
    rw [Map.values_insert, List.countP_cons]
    simpa [SessionParticipant.attached, notAgent] using
      Map.countP_erase_le (fun p => q p.source) session.participants agent.id
  | detach id => exact Map.countP_erase_le _ _ _
  | join participant now => exact absurd rfl (joins participant now)
  | same => exact Nat.le_refl _
  | connect id now => exact Nat.le_of_eq (Map.countP_modify _ fun p => rfl)
  | disconnect id t d => exact Nat.le_of_eq (Map.countP_modify _ fun p => rfl)
  | agentReady id now => exact Nat.le_of_eq (Map.countP_modify _ fun p => rfl)
  | audioReady id now => exact Nat.le_of_eq (Map.countP_modify _ fun p => rfl)

theorem MembersStep.count_joined {participant : ParticipantSession} {now : Timestamp}
    (q : ParticipantSource → Bool)
    (step : MembersStep config session (.memory (.addHuman participant now)) members) :
    session.participants.values.countP (fun p => q p.source) ≤
        members.values.countP (fun p => q p.source) ∧
      members.values.countP (fun p => q p.source) ≤
        session.participants.values.countP (fun p => q p.source) + 1 := by
  cases step with
  | same => exact ⟨Nat.le_refl _, Nat.le_succ _⟩
  | join participant now role fresh =>
    rw [Map.countP_insert_fresh _ fresh]
    split <;> omega

end Members

theorem LiveSession.Full.two_members {session : LiveSession G} (full : session.Full) :
    2 ≤ session.participants.values.length := by
  obtain ⟨a, memA, roleA⟩ := List.any_eq_true.mp (full .A)
  obtain ⟨b, memB, roleB⟩ := List.any_eq_true.mp (full .B)
  match h : session.participants.values with
  | [] =>
    rw [h] at memA
    cases memA
  | [p] =>
    rw [h] at memA memB
    simp only [List.mem_singleton] at memA memB
    subst memA
    subst memB
    rw [beq_iff_eq] at roleA roleB
    rw [roleA] at roleB
    cases roleB
  | p :: p' :: ps => simp

structure Section.Orderly (config : ExperimentConfig) (session : LiveSession G)
    (sec : Section G) : Prop where
  joins : ∀ participant now, sec ≠ .memory (.addHuman participant now)
  starts : sec.lifecycle = some .running → session.lifecycle.isEnded = false ∧
    (config.agentsMode = .humanVsHuman → session.Full)
  attaches : config.agentsMode = .humanVsHuman → ∀ agent now, sec ≠ .memory (.attachAgent agent now)
  detaches : config.agentsMode = .humanVsHuman → ∀ id, sec ≠ .memory (.detachAgent id)

/-- A limited resource: what a session holds of it, and what an admission adds at most. -/
structure Resource (G : Game) (config : ExperimentConfig) where
  weight : LiveSession G → Nat
  limit : Nat
  joining : Nat
  creating : Nat
  kept : ∀ {sec : Section G} {session session' : LiveSession G},
    SessionStep config sec session session' → sec.Orderly config session →
      weight session' ≤ weight session
  joined : config.agentsMode = .humanVsHuman → ∀ {participant now} {session session' : LiveSession G},
    SessionStep config (.memory (.addHuman participant now)) session session' →
      weight session' ≤ weight session + joining
  created : ∀ creation : Creation G, weight (.created config creation.sessionId creation.state
    creation.participant creation.createdAt creation.createdAt) ≤ creating

namespace LiveSession

/-- A session whose places are all given away: it runs, or it forms and waits for no partner. -/
def isAllocated (config : ExperimentConfig) (session : LiveSession G) : Bool :=
  session.lifecycle.isRunning || session.lifecycle.isForming &&
    (config.agentsMode == .humanVsAgent || decide (2 ≤ session.participants.values.length))

theorem length_kept {sec : Section G} {session session' : LiveSession G}
    (step : SessionStep config sec session session') (orderly : sec.Orderly config session)
    (humans : config.agentsMode = .humanVsHuman) :
    session'.participants.values.length = session.participants.values.length := by
  simpa using step.members.count_kept (fun _ => true) orderly.joins (orderly.attaches humans)
    (orderly.detaches humans)

theorem length_joined {participant : ParticipantSession} {now : Timestamp}
    {session session' : LiveSession G}
    (step : SessionStep config (.memory (.addHuman participant now)) session session') :
    session.participants.values.length ≤ session'.participants.values.length := by
  simpa using (step.members.count_joined fun _ => true).1

/-- No section makes a session form again. -/
theorem forming_before {sec : Section G} {session session' : LiveSession G}
    (step : SessionStep config sec session session')
    (forms : session'.lifecycle.isForming = true) : session.lifecycle.isForming = true := by
  rw [step.lifecycle] at forms
  cases writes : sec.lifecycle with
  | none => rwa [writes] at forms
  | some written =>
    rw [writes] at forms
    cases written with
    | forming => exact absurd writes Section.lifecycle_ne_forming
    | running => cases forms
    | ended e => cases forms

/-- Where no game starts over an end, an ended session stays ended. -/
theorem ended_after {sec : Section G} {session session' : LiveSession G}
    (step : SessionStep config sec session session')
    (starts : sec.lifecycle = some .running → session.lifecycle.isEnded = false)
    (ended : session.lifecycle.isEnded = true) : session'.lifecycle.isEnded = true := by
  rw [step.lifecycle]
  cases writes : sec.lifecycle with
  | none => exact ended
  | some written =>
    cases written with
    | forming => exact absurd writes Section.lifecycle_ne_forming
    | running =>
      rw [starts writes] at ended
      cases ended
    | ended e => rfl

/-- A session is allocated no later than it runs, and its places are given away once. -/
theorem allocated_kept {sec : Section G} {session session' : LiveSession G}
    (step : SessionStep config sec session session') (orderly : sec.Orderly config session)
    (allocated : session'.isAllocated config = true) : session.isAllocated config = true := by
  have lifecycle := step.lifecycle
  cases writes : sec.lifecycle with
  | none =>
    rw [writes, Option.getD_none] at lifecycle
    unfold isAllocated at allocated ⊢
    rw [lifecycle] at allocated
    cases mode : config.agentsMode with
    | humanVsAgent => simpa [mode] using allocated
    | humanVsHuman =>
      rw [length_kept step orderly mode, mode] at allocated
      exact allocated
  | some written =>
    rw [writes, Option.getD_some] at lifecycle
    cases written with
    | forming => exact absurd writes Section.lifecycle_ne_forming
    | ended e => simp [isAllocated, lifecycle, SessionLifecycle.isRunning, SessionLifecycle.isForming] at allocated
    | running =>
      obtain ⟨unended, full⟩ := orderly.starts writes
      unfold isAllocated
      cases before : session.lifecycle with
      | running => rfl
      | ended e =>
        rw [before] at unended
        cases unended
      | forming =>
        cases mode : config.agentsMode with
        | humanVsAgent => rfl
        | humanVsHuman =>
          simp [SessionLifecycle.isRunning, SessionLifecycle.isForming, (full mode).two_members]

end LiveSession

def weightOf (p : LiveSession G → Bool) (session : LiveSession G) : Nat :=
  if p session then 1 else 0

theorem weightOf_le {p : LiveSession G → Bool} {session session' : LiveSession G}
    (h : p session' = true → p session = true) : weightOf p session' ≤ weightOf p session := by
  unfold weightOf
  split
  · rename_i now
    rw [if_pos (h now)]
  · exact Nat.zero_le _

theorem weightOf_le_one (p : LiveSession G → Bool) (session : LiveSession G) :
    weightOf p session ≤ 1 := by
  unfold weightOf
  split <;> omega

namespace Resource

/-- Allocated sessions. -/
def active (G : Game) (config : ExperimentConfig) : Resource G config where
  weight := weightOf (LiveSession.isAllocated config)
  limit := config.capacity.maxActiveSessions
  joining := 1
  creating := if config.agentsMode = .humanVsHuman then 0 else 1
  kept step orderly := weightOf_le (LiveSession.allocated_kept step orderly)
  joined _ _ _ _ _ _ := Nat.le_add_left_of_le (weightOf_le_one _ _)
  created creation := by
    split
    · rename_i humans
      simp [weightOf, LiveSession.isAllocated, LiveSession.created, humans, Map.values,
        SessionLifecycle.isRunning, SessionLifecycle.isForming]
    · exact weightOf_le_one _ _

/-- Sessions of two humans that wait for their second one. -/
def waiting (G : Game) {config : ExperimentConfig} (humans : config.agentsMode = .humanVsHuman) :
    Resource G config where
  weight := weightOf LiveSession.isWaiting
  limit := config.capacity.maxWaitingSessions
  joining := 0
  creating := 1
  kept := by
    intro sec session session' step orderly
    refine weightOf_le fun waits => ?_
    obtain ⟨forms, few⟩ := Bool.and_eq_true_iff.mp waits
    rw [LiveSession.length_kept step orderly humans] at few
    exact Bool.and_eq_true_iff.mpr ⟨LiveSession.forming_before step forms, few⟩
  joined := by
    intro _ participant now session session' step
    refine weightOf_le fun waits => ?_
    obtain ⟨forms, few⟩ := Bool.and_eq_true_iff.mp waits
    refine Bool.and_eq_true_iff.mpr ⟨LiveSession.forming_before step forms, ?_⟩
    exact decide_eq_true (Nat.lt_of_le_of_lt (LiveSession.length_joined step) (of_decide_eq_true few))
  created creation := weightOf_le_one _ _

/-- The transcription streams of sessions that have not ended. -/
def streams (G : Game) (config : ExperimentConfig) : Resource G config where
  weight := LiveSession.streams
  limit := config.capacity.maxTranscriptionStreams
  joining := 1
  creating := 1
  kept := by
    intro sec session session' step orderly
    unfold LiveSession.streams
    cases before : session.lifecycle.isEnded with
    | true =>
      rw [if_pos (LiveSession.ended_after step (fun starts => (orderly.starts starts).1) before)]
      exact Nat.zero_le _
    | false =>
      split
      · exact Nat.zero_le _
      · exact step.members.count_agents (q := fun source => !(source == .agent)) rfl orderly.joins
  joined := by
    intro _ participant now session session' step
    unfold LiveSession.streams
    cases before : session.lifecycle.isEnded with
    | true =>
      rw [if_pos (LiveSession.ended_after step nofun before)]
      exact Nat.zero_le _
    | false =>
      split
      · exact Nat.zero_le _
      · exact (step.members.count_joined fun source => !(source == .agent)).2
  created creation := by
    refine Nat.le_trans (Nat.le_of_eq (if_neg (by simp [LiveSession.created,
      SessionLifecycle.isEnded]))) ?_
    exact List.countP_le_length

end Resource

/-- The game start that a room's action completes does not overwrite an end. -/
def StartsUnended (room : Room G) (a : Pool.Action (Task G) Input) : Prop :=
  ∀ pid input caller l t, a = .run pid input →
    room.tasks[pid]? = some (.start caller (.write l t)) → room.shared.memoryEnded = false

namespace Resource

variable (R : Resource G config)

/-- What the session of a room holds, if it is in memory. -/
def held (session : Option (LiveSession G)) : Nat := (session.map R.weight).getD 0

def load (rooms : List (Room G)) : Nat := (rooms.map fun room => R.held room.shared.session).sum

variable {R} {cell : Cell G}

theorem held_apply {sec : Section G}
    (orderly : ∀ session, cell.session = some session → sec.Orderly config session) :
    R.held (cell.apply config sec).session ≤ R.held cell.session := by
  cases here : (cell.apply config sec).session with
  | none => exact Nat.zero_le _
  | some session' =>
    obtain ⟨session, before, step⟩ := Cell.apply_step here
    rw [before]
    exact R.kept step (orderly session before)

theorem held_addHuman {participant : ParticipantSession} {now : Timestamp}
    (humans : config.agentsMode = .humanVsHuman) :
    R.held (cell.apply config (.memory (.addHuman participant now))).session ≤
      R.held cell.session + R.joining := by
  cases here : (cell.apply config (.memory (.addHuman participant now))).session with
  | none => exact Nat.zero_le _
  | some session' =>
    obtain ⟨session, before, step⟩ := Cell.apply_step here
    rw [before]
    exact R.joined humans step

/-- A room never takes more by itself. -/
theorem held_step {r : Nat} {room room' : Room G} {a : Pool.Action (Task G) Input}
    (reached : Reached config r room) (ran : (sessionMachine G config).step room a = some room')
    (unpaired : ∀ pid input participant, a = .run pid input →
      room.tasks[pid]? ≠ some (.pair participant .join))
    (unended : StartsUnended room a) :
    R.held room'.shared.session ≤ R.held room.shared.session := by
  obtain ⟨creation, run⟩ := reached
  rcases Program.step_cases ran with ⟨task, rfl, -, rfl⟩ |
    ⟨pid, input, task, cell', task', started, rfl, ht, hs, rfl⟩
  · exact Nat.le_refl _
  obtain ⟨sec, hn, -, rfl⟩ := session_step hs
  have owners := owners_sound run pid task ht
  refine held_apply fun session before => ⟨?_, fun starts => ?_, fun humans => ?_, fun humans => ?_⟩
  · rintro participant now rfl
    exact unpaired pid input participant rfl (Task.next_addHuman hn ▸ ht)
  · obtain ⟨startedAt, idleDeadlineAt, rfl⟩ := Section.start_of_lifecycle starts
    obtain ⟨caller, l, rfl⟩ := Task.next_start hn
    have alive := unended pid input caller l startedAt rfl ht
    simp only [Cell.memoryEnded, before, Option.any_some] at alive
    exact ⟨alive, fun humans => (rolesOutline_valid humans run).each pid _ ht rfl session before⟩
  · exact (Task.next_noAgents humans owners hn).1
  · exact (Task.next_noAgents humans owners hn).2

/-- A pairing takes no more than its share, and that only where admission found capacity. -/
theorem held_joined {k : Nat} {room room' : Room G} {input : Input}
    {participant : ParticipantSession} (humans : config.agentsMode = .humanVsHuman)
    (ran : (sessionMachine G config).step room (.run k input) = some room')
    (paired : room.tasks[k]? = some (.pair participant .join)) :
    R.held room'.shared.session ≤ R.held room.shared.session ∨
      input.capacityError = none ∧
        R.held room'.shared.session ≤ R.held room.shared.session + R.joining := by
  rcases Program.step_cases ran with ⟨_, same, _⟩ |
    ⟨pid, given, task, cell', task', started, same, ht, hs, rfl⟩ <;> cases same
  cases ht.symm.trans paired
  obtain ⟨sec, hn, -, rfl⟩ := session_step hs
  obtain ⟨⟨sec', pc'⟩, joined, he⟩ := Option.map_eq_some_iff.mp hn
  simp only [PairPc.step] at joined
  have did : sec = .skip ∨ input.capacityError = none ∧
      sec = .memory (.addHuman participant input.now) := by
    cases he
    repeat' first | split at joined | cases joined | exact .inl rfl
    exact .inr ⟨by assumption, rfl⟩
  rcases did with rfl | ⟨granted, rfl⟩
  · exact .inl (Nat.le_refl _)
  · exact .inr ⟨granted, held_addHuman humans⟩

section Rooms

variable {rooms : List (Room G)} {r : Nat} {room room' : Room G}

theorem load_set (here : rooms[r]? = some room) :
    R.load (rooms.set r room') + R.held room.shared.session =
      R.load rooms + R.held room'.shared.session :=
  sum_map_set _ here

theorem load_set_le (here : rooms[r]? = some room)
    (less : R.held room'.shared.session ≤ R.held room.shared.session) :
    R.load (rooms.set r room') ≤ R.load rooms := by
  have same : R.load (rooms.set r room') + R.held room.shared.session =
      R.load rooms + R.held room'.shared.session := load_set here
  omega

theorem load_append :
    R.load (rooms ++ [room]) = R.load rooms + R.held room.shared.session := by
  simp [load]

theorem load_dropLast : R.load rooms.dropLast ≤ R.load rooms :=
  ((List.dropLast_sublist rooms).map _).sum_le_sum fun _ _ => Nat.zero_le _

end Rooms

structure Granted (R : Resource G config) (w : Pool (Runtime G) RuntimeTask)
    (a : Pool.Action RuntimeTask (RuntimeInput G)) : Prop where
  joins : R.load w.shared.rooms ≤ R.limit → config.agentsMode = .humanVsHuman →
    ∀ pid input applicant r k, a = .run pid input →
    w.tasks[pid]? = some (.request applicant (.join r k)) →
    w.shared.ensureSessionCapacity config .active 1 = .ok () →
    R.load w.shared.rooms + R.joining ≤ R.limit
  creates : R.load w.shared.rooms ≤ R.limit → ∀ pid input applicant mode, a = .run pid input →
    w.tasks[pid]? = some (.request applicant (.reserve mode)) →
    RequestPc.InMode config (.reserve mode) →
    w.shared.ensureSessionCapacity config mode 1 = .ok () →
    R.load w.shared.rooms + R.creating ≤ R.limit

end Resource

def RuntimeStartsUnended (w : Pool (Runtime G) RuntimeTask)
    (a : Pool.Action RuntimeTask (RuntimeInput G)) : Prop :=
  ∀ pid r action room, a = .run pid (.room r action) → w.shared.rooms[r]? = some room →
    StartsUnended room action

theorem RequestPc.holds_of_creating {pc : RequestPc} (creates : pc.creating = true) :
    pc.holds = true := by
  cases pc <;> first | rfl | cases creates

namespace Resource

/-- The limit is respected, also by the sessions that are about to be created. -/
structure Kept (R : Resource G config) (w : Pool (Runtime G) RuntimeTask) : Prop where
  bound : R.load w.shared.rooms ≤ R.limit
  reserved : w.Each fun _ task => ∀ applicant pc, task = .request applicant pc →
    pc.creating = true → R.load w.shared.rooms + R.creating ≤ R.limit

variable {R : Resource G config} {applicant : Applicant} {runtime : Runtime G} {pid : Nat}

/-- What an admission step takes of a resource. -/
theorem step_load {pc pc' : RequestPc} {rooms : List (Room G)}
    (did : RequestPc.Step config applicant runtime pc rooms pc')
    (sound : pc.Sound config runtime pid applicant)
    (reached : ∀ r room, runtime.rooms[r]? = some room → Reached config r room)
    (reserved : pc.creating = true → R.load runtime.rooms + R.creating ≤ R.limit)
    (joins : config.agentsMode = .humanVsHuman → ∀ r k, pc = .join r k →
      runtime.ensureSessionCapacity config .active 1 = .ok () →
        R.load runtime.rooms + R.joining ≤ R.limit)
    (creates : ∀ mode, pc = .reserve mode →
      runtime.ensureSessionCapacity config mode 1 = .ok () →
        R.load runtime.rooms + R.creating ≤ R.limit) :
    (R.load rooms ≤ R.load runtime.rooms ∧
      (pc'.creating = true → R.load runtime.rooms + R.creating ≤ R.limit)) ∨
    (R.load rooms ≤ R.limit ∧ pc.holds = true ∧ pc'.creating = false) := by
  cases did with
  | stays _ creating => exact .inl ⟨Nat.le_refl _, fun now => reserved (creating now)⟩
  | @granted mode capacity => exact .inl ⟨Nat.le_refl _, fun _ => creates mode rfl capacity⟩
  | found here paired =>
    refine .inl ⟨load_set_le here (Nat.le_of_eq ?_), nofun⟩
    rw [(paired_room paired).2]
  | @joined r k room room' input _ here ran capacity =>
    obtain ⟨room₁, here₁, paired⟩ := sound.pairing _ _ rfl
    cases here.symm.trans here₁
    rcases held_joined (R := R) sound.inMode ran paired with less | ⟨none, more⟩
    · exact .inl ⟨load_set_le here less, nofun⟩
    · have room_left := joins sound.inMode r k rfl (capacity none)
      have same : R.load (runtime.rooms.set r room') + R.held room.shared.session =
          R.load runtime.rooms + R.held room'.shared.session := load_set here
      exact .inr ⟨by omega, rfl, rfl⟩
  | @created creation own =>
    have room_left := reserved rfl
    have new : R.held (creation.initial config).shared.session ≤ R.creating := R.created creation
    rw [load_append]
    exact .inr ⟨by omega, rfl, rfl⟩
  | dropped => exact .inl ⟨load_dropLast, nofun⟩
  | spawned here entered agent outside =>
    refine .inl ⟨load_set_le here (held_step (reached _ _ here) entered ?_ ?_), fun now => ?_⟩
    · intro q input participant same
      cases same
    · intro q input caller l t same
      cases same
    · rw [RequestPc.holds_of_creating now] at outside
      cases outside

theorem Kept.step {w w' : Pool (Runtime G) RuntimeTask}
    {a : Pool.Action RuntimeTask (RuntimeInput G)} (kept : R.Kept w)
    (admissions : w.Each fun pid task => ∀ applicant pc, task = .request applicant pc →
      pc.Sound config w.shared pid applicant)
    (reached : ∀ r room, w.shared.rooms[r]? = some room → Reached config r room)
    (granted : R.Granted w a) (unended : RuntimeStartsUnended w a)
    (h : (runtimeMachine G config).step w a = some w') : R.Kept w' := by
  rcases Program.step_cases h with ⟨task, rfl, enter, rfl⟩ |
    ⟨pid, input, task, runtime', task', started, rfl, ht, hs, rfl⟩
  · refine ⟨kept.bound, kept.reserved.append (fun _ _ h => h) ?_⟩
    rintro _ applicant pc rfl creates
    cases pc <;> cases enter
    cases creates
  obtain ⟨rfl, ⟨applicant, pc, pc', given, rfl, rfl, rfl, stepped⟩ |
    ⟨r, action, room, room', rfl, rfl, rfl, here, own, ran, rfl⟩⟩ := runtime_step hs
  · have sound := admissions pid _ ht _ _ rfl
    have took := step_load (R := R) (RequestPc.step_rooms stepped) sound reached
      (kept.reserved pid _ ht _ _ rfl)
      (fun humans r k same => granted.joins kept.bound humans _ _ _ _ _ rfl (same ▸ ht))
      (fun mode same => granted.creates kept.bound _ _ _ _ rfl (same ▸ ht) (same ▸ sound.inMode))
    rcases took with ⟨less, creates⟩ | ⟨bound, holds, done⟩
    · refine ⟨Nat.le_trans less kept.bound, .after ?_ (fun q u _ hu => ?_) fun u mem => by cases mem⟩
      · rintro _ _ ⟨⟩ now
        exact Nat.le_trans (Nat.add_le_add_right less _) (creates now)
      · rintro _ _ rfl now
        exact Nat.le_trans (Nat.add_le_add_right less _) (kept.reserved q _ hu _ _ rfl now)
    · refine ⟨bound, .after ?_ (fun q u other hu => ?_) fun u mem => by cases mem⟩
      · rintro _ _ ⟨⟩ now
        rw [done] at now
        cases now
      · rintro _ _ rfl now
        have outside := sound.exclusive (admissions q _ hu _ _ rfl) other holds
        rw [RequestPc.holds_of_creating now] at outside
        cases outside
  · have less : R.load (w.shared.rooms.set r room') ≤ R.load w.shared.rooms := by
      refine load_set_le here (held_step (reached r room here) ran ?_ (unended _ _ _ _ rfl here))
      rintro q input participant rfl paired
      simp [Runtime.ownAction, paired] at own
    refine ⟨Nat.le_trans less kept.bound, .after ?_ (fun q u _ hu => ?_) fun u mem => by cases mem⟩
    · rintro _ _ ⟨⟩
    · rintro _ _ rfl now
      exact Nat.le_trans (Nat.add_le_add_right less _) (kept.reserved q _ hu _ _ rfl now)

/-- A resource that admissions grant within its limit is never overdrawn. -/
theorem load_le {w : Pool (Runtime G) RuntimeTask}
    (run : (runtimeMachine G config).Run (fun w a => R.Granted w a ∧ RuntimeStartsUnended w a)
      (Runtime.initial G) w) : R.load w.shared.rooms ≤ R.limit := by
  have kept : R.Kept w := by
    refine run.invariant_of_reached ⟨Nat.zero_le _, fun _ _ ht => by cases ht⟩
      fun {t u a} before kept met h => ?_
    exact kept.step (admissions_sound before) (rooms_reached before) met.1 met.2 h
  exact kept.bound

end Resource

/-- What a granted admission has found. -/
theorem ensureSessionCapacity_ok {runtime : Runtime G} {admission : SessionAdmission} {streams : Nat}
    (h : runtime.ensureSessionCapacity config admission streams = .ok ()) :
    (admission = .waiting →
      runtime.sessions.countP LiveSession.isWaiting < config.capacity.maxWaitingSessions) ∧
    (config.speechmaticsReadinessRequired = true →
      (runtime.sessions.map LiveSession.streams).sum + streams ≤
        config.capacity.maxTranscriptionStreams) := by
  unfold Runtime.ensureSessionCapacity at h
  simp only at h
  repeat' first | split at h | cases h
  rename_i waiting active streaming
  constructor
  · rintro rfl
    exact Nat.lt_of_not_le fun full => waiting ⟨rfl, full⟩
  · exact fun required => Nat.le_of_not_lt fun more => streaming ⟨required, more⟩

theorem Resource.load_eq (R : Resource G config) (runtime : Runtime G) :
    R.load runtime.rooms = (runtime.sessions.map R.weight).sum := by
  unfold load Runtime.sessions
  induction runtime.rooms with
  | nil => rfl
  | cons room rooms ih =>
    rw [List.map_cons, List.sum_cons, ih, List.filterMap_cons]
    cases here : room.shared.session with
    | none => simp [held]
    | some session => simp [held]

theorem sum_weightOf (p : LiveSession G → Bool) (sessions : List (LiveSession G)) :
    (sessions.map (weightOf p)).sum = sessions.countP p := by
  induction sessions with
  | nil => rfl
  | cons session sessions ih =>
    rw [List.map_cons, List.sum_cons, ih, List.countP_cons, weightOf]
    omega

/--
Admissions to active play count the sessions that are allocated, not only those that run already,
and no game starts over an end.
-/
structure WithinCapacity (config : ExperimentConfig) (w : Pool (Runtime G) RuntimeTask)
    (a : Pool.Action RuntimeTask (RuntimeInput G)) : Prop where
  joins : ∀ pid input applicant r k, a = .run pid input →
    w.tasks[pid]? = some (.request applicant (.join r k)) →
    w.shared.ensureSessionCapacity config .active 1 = .ok () →
    w.shared.sessions.countP (LiveSession.isAllocated config) < config.capacity.maxActiveSessions
  creates : ∀ pid input applicant, a = .run pid input →
    w.tasks[pid]? = some (.request applicant (.reserve .active)) →
    w.shared.ensureSessionCapacity config .active 1 = .ok () →
    w.shared.sessions.countP (LiveSession.isAllocated config) < config.capacity.maxActiveSessions
  starts : RuntimeStartsUnended w a

namespace WithinCapacity

variable {w : Pool (Runtime G) RuntimeTask} {a : Pool.Action RuntimeTask (RuntimeInput G)}

theorem active (met : WithinCapacity config w a) : (Resource.active G config).Granted w a where
  joins _ _ pid input applicant r k same ht granted := by
    have below := met.joins pid input applicant r k same ht granted
    rw [Resource.load_eq]
    exact (sum_weightOf _ _).symm ▸ below
  creates bound pid input applicant mode same ht inMode granted := by
    by_cases humans : config.agentsMode = .humanVsHuman
    · rw [show (Resource.active G config).creating = 0 from if_pos humans]
      exact bound
    · have active : mode = .active := inMode.trans (if_neg humans)
      subst active
      have below := met.creates pid input applicant same ht granted
      rw [Resource.load_eq, show (Resource.active G config).creating = 1 from if_neg humans]
      exact (sum_weightOf _ _).symm ▸ below

theorem waiting (humans : config.agentsMode = .humanVsHuman) :
    (Resource.waiting G humans).Granted w a where
  joins bound _ _ _ _ _ _ _ _ _ := bound
  creates _ pid input applicant mode same ht inMode granted := by
    have below := (ensureSessionCapacity_ok granted).1 (inMode.trans (if_pos humans))
    rw [Resource.load_eq]
    exact (sum_weightOf _ _).symm ▸ below

theorem streams (required : config.speechmaticsReadinessRequired = true) :
    (Resource.streams G config).Granted w a where
  joins _ _ _ _ _ _ _ _ _ granted := by
    rw [Resource.load_eq]
    exact (ensureSessionCapacity_ok granted).2 required
  creates _ _ _ _ _ _ _ _ granted := by
    rw [Resource.load_eq]
    exact (ensureSessionCapacity_ok granted).2 required

end WithinCapacity

/-- No capacity limit is ever exceeded. -/
theorem capacity_respected {config : ExperimentConfig} {w : Pool (Runtime G) RuntimeTask}
    (run : (runtimeMachine G config).Run (WithinCapacity config) (Runtime.initial G) w) :
    (w.shared.sessions.countP fun session => session.lifecycle.isRunning) ≤
        config.capacity.maxActiveSessions ∧
    (config.agentsMode = .humanVsHuman →
      w.shared.sessions.countP LiveSession.isWaiting ≤ config.capacity.maxWaitingSessions) ∧
    (config.speechmaticsReadinessRequired = true →
      (w.shared.sessions.map LiveSession.streams).sum ≤
        config.capacity.maxTranscriptionStreams) := by
  refine ⟨?_, fun humans => ?_, fun required => ?_⟩
  · have bound := Resource.load_le (R := Resource.active G config)
      (run.mono fun _ _ met => ⟨met.active, met.starts⟩)
    rw [Resource.load_eq] at bound
    refine Nat.le_trans (List.countP_mono_left fun session _ running => ?_)
      (Nat.le_trans (Nat.le_of_eq (sum_weightOf _ _).symm) bound)
    simp [LiveSession.isAllocated, running]
  · have bound := Resource.load_le (R := Resource.waiting G humans)
      (run.mono fun _ _ met => ⟨WithinCapacity.waiting humans, met.starts⟩)
    rw [Resource.load_eq] at bound
    exact Nat.le_trans (Nat.le_of_eq (sum_weightOf _ _).symm) bound
  · have bound := Resource.load_le (R := Resource.streams G config)
      (run.mono fun _ _ met => ⟨WithinCapacity.streams required, met.starts⟩)
    rwa [Resource.load_eq] at bound

namespace TallyRequest

/-- The task `pid`, which works on the sessions, takes some actions of a room. -/
def inRoom (pid r : Nat) (actions : List TallyAction) : List TallyRequest :=
  actions.map fun action => .run pid (.room r action)

def connecting (a b : Nat) : List TallyAction :=
  [.spawn (.socket ⟨.human a, .A⟩ .register)] ++ TallyAction.steps 2 10 0 ++
  [.spawn (.socket ⟨.human b, .B⟩ .register)] ++ TallyAction.steps 3 12 0

def oneGame : List TallyRequest :=
  partners ++ [.spawn .sessions] ++ inRoom 2 0 (connecting 1 2)

/-- Two sessions are allocated before either starts; then both start. -/
def twoGames : List TallyRequest :=
  partners ++ [request 3] ++ steps 2 14 ++ [request 4] ++ steps 3 7 ++ [.spawn .sessions] ++
  inRoom 4 0 (connecting 1 2) ++ inRoom 4 1 (connecting 3 4)

def running (w : Pool (Runtime tallyGame) RuntimeTask) : Nat :=
  w.shared.sessions.countP fun session => session.lifecycle.isRunning

/-- A check that admissions count allocated sessions and that no game starts over an end. -/
def withinCapacity (config : ExperimentConfig) (w : Pool (Runtime tallyGame) RuntimeTask) :
    TallyRequest → Bool
  | .spawn _ => true
  | .run pid input =>
    (match w.tasks[pid]? with
      | some (.request _ (.join _ _)) | some (.request _ (.reserve .active)) =>
        decide (w.shared.sessions.countP (LiveSession.isAllocated config) <
          config.capacity.maxActiveSessions)
      | _ => true) &&
    (match input with
      | .room r (.run k _) => w.shared.rooms[r]?.all fun room => match room.tasks[k]? with
        | some (.start _ (.write _ _)) => !room.shared.memoryEnded
        | _ => true
      | _ => true)

theorem withinCapacity_met {config : ExperimentConfig} {w : Pool (Runtime tallyGame) RuntimeTask}
    {a : TallyRequest} (h : withinCapacity config w a = true) : WithinCapacity config w a := by
  constructor
  · rintro pid input applicant r k rfl ht -
    simp only [withinCapacity, ht, Bool.and_eq_true, decide_eq_true_eq] at h
    exact h.1
  · rintro pid input applicant rfl ht -
    simp only [withinCapacity, ht, Bool.and_eq_true, decide_eq_true_eq] at h
    exact h.1
  · rintro pid r action room rfl here k input caller l t rfl ht
    simp only [withinCapacity, here, ht, Bool.and_eq_true, Option.all_some] at h
    simpa using h.2

end TallyRequest

/-- Room for one active session, and two of them run. -/
theorem capacity_exceeded :
    ∃ w, (runtimeMachine tallyGame { capacity := { maxActiveSessions := 1 } }).Run
        Machine.unguarded (Runtime.initial tallyGame) w ∧ TallyRequest.running w = 2 := by
  have h : ((runtimeMachine tallyGame { capacity := { maxActiveSessions := 1 } }).exec
      (Runtime.initial tallyGame) TallyRequest.twoGames).map TallyRequest.running = some 2 := rfl
  obtain ⟨w, hw, h⟩ := Option.map_eq_some_iff.mp h
  exact ⟨w, .of_exec_unguarded hw, h⟩

/-- Room for one active session, and one runs. -/
theorem capacity_respected_one :
    ∃ w, TallyRequest.running w = 1 ∧ TallyRequest.running w ≤ 1 := by
  have h : (((runtimeMachine tallyGame { capacity := { maxActiveSessions := 1 } }).restrict
      (TallyRequest.withinCapacity { capacity := { maxActiveSessions := 1 } })).exec
      (Runtime.initial tallyGame) TallyRequest.oneGame).map TallyRequest.running = some 1 := rfl
  obtain ⟨w, hw, h⟩ := Option.map_eq_some_iff.mp h
  have run : (runtimeMachine tallyGame { capacity := { maxActiveSessions := 1 } }).Run
      (WithinCapacity { capacity := { maxActiveSessions := 1 } }) (Runtime.initial tallyGame) w :=
    .of_exec (fun _ _ => TallyRequest.withinCapacity_met) hw
  exact ⟨w, h, (capacity_respected run).1⟩

end Parlando
