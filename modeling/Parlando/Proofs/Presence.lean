import Parlando.Proofs.Memberships
import Parlando.Proofs.Pause
import Parlando.Proofs.ReconnectGrace
import Parlando.Proofs.TransitionLock

namespace Parlando

open Concurrency

variable {G : Game} {config : ExperimentConfig}

namespace Cell

variable {cell : Cell G} {sec : Section G}

/-- The loop's participant is in the session with the loop's role, if that is still in memory. -/
def Seat (cell : Cell G) (call : SocketCall) : Prop :=
  ∀ session, cell.session = some session →
    ∃ p, session.participants.lookup call.participantSessionId = some p ∧ p.role = call.role

theorem Seat.apply {call : SocketCall} (seat : cell.Seat call)
    (human : call.participantSessionId.isHuman = true) (spares : sec.SparesHumans) :
    (cell.apply config sec).Seat call := by
  intro session' here
  obtain ⟨session, before, step⟩ := Cell.apply_step here
  obtain ⟨p, found, role⟩ := seat session before
  have look := step.members.lookup call.participantSessionId
  generalize session'.participants.lookup call.participantSessionId = after at look
  cases look with
  | @kept _ f same => exact ⟨f p, by rw [found]; rfl, (same p).role.trans role⟩
  | connect now => exact ⟨p.connect now, by rw [found]; rfl, role⟩
  | disconnect t d => exact ⟨p.disconnect t d, by rw [found]; rfl, role⟩
  | joined participant now role' own fresh =>
    rw [fresh] at found
    cases found
  | attached agent now own =>
    rw [← own, show agent.id.isHuman = false from spares] at human
    cases human
  | detached =>
    rw [show call.participantSessionId.isHuman = false from spares] at human
    cases human

structure Connected (cell : Cell G) (session : LiveSession G) : Prop where
  distinct : ∀ id id' p p', id.isHuman = true → id'.isHuman = true →
    session.participants.lookup id = some p → session.participants.lookup id' = some p' →
      p.role = p'.role → id = id'
  agents : session.AgentsConnected
  /-- Only the sockets of members own connections. -/
  owned : ∀ role, (cell.connections.get role).isSome →
    ∃ id, id.isHuman = true ∧ cell.Seat ⟨id, role⟩
  /-- Who is connected has no reconnect deadline. -/
  free : ∀ id p, session.participants.lookup id = some p → p.connected = true →
    p.reconnectDeadlineAt = none

end Cell

namespace Task

section Steps

variable {cell : Cell G} {pid : Nat} {input : Input} {task task' : Task G}
  {started : List (Task G)}

theorem next_register {role : PlayerRole}
    (h : task.next config cell pid input = some (.register role, task', started)) :
    ∃ call, task = socket call .register ∧ role = call.role ∧
      task' = socket call (.connect cell.nextGeneration) := by
  have kind := next_kind h
  cases task <;> simp [kinds, Section.kind] at kind
  obtain ⟨⟨sec', pc'⟩, hs, he⟩ := Option.map_eq_some_iff.mp h
  rename_i pc
  cases pc <;> simp only [SocketPc.step] at hs <;>
    repeat' first | split at hs | cases hs | cases he
  exact ⟨_, rfl, rfl, rfl⟩

theorem next_unregister {role : PlayerRole} {g : Nat}
    (h : task.next config cell pid input = some (.unregister role g, task', started)) :
    ∃ call, task = socket call (.serving g) ∧ role = call.role ∧
      task' = ofSocket call (if cell.ownsConnection role g then .stamp else .closed) := by
  have kind := next_kind h
  cases task <;> simp [kinds, Section.kind] at kind
  obtain ⟨⟨sec', pc'⟩, hs, he⟩ := Option.map_eq_some_iff.mp h
  rename_i pc
  cases pc
  case serving g' =>
    simp only [SocketPc.step] at hs
    cases hs
    cases he
    exact ⟨_, rfl, rfl, rfl⟩
  all_goals
    simp only [SocketPc.step] at hs
    repeat' first | split at hs | cases hs | cases he

theorem next_dropConnections
    (h : task.next config cell pid input = some (.dropConnections, task', started)) :
    task = cleanup .dropConnections := by
  have kind := next_kind h
  cases task <;> simp [kinds, Section.kind] at kind
  obtain ⟨⟨sec', pc'⟩, hs, he⟩ := Option.map_eq_some_iff.mp h
  rename_i pc
  cases pc <;> simp only [CleanupPc.step] at hs <;>
    repeat' first | split at hs | cases hs | cases he | rfl

/-- The cleaner forgets the connections after the lock. -/
theorem next_toDropConnections {sec : Section G}
    (h : task.next config cell pid input = some (sec, cleanup .dropConnections, started)) :
    task = cleanup .dropLock ∧ sec = .dropLock := by
  cases task
  all_goals obtain ⟨⟨sec', pc'⟩, hs, he⟩ := Option.map_eq_some_iff.mp h
  case cleanup pc =>
    cases pc <;> simp only [CleanupPc.step] at hs <;>
      repeat' first | split at hs | cases hs | cases he
    exact ⟨rfl, rfl⟩
  case expire reason caller pc =>
    cases caller <;> cases pc' <;> try cases he
    rename_i result
    cases result with
    | error message => cases he
    | ok ended => cases ended <;> cases he
  case event call caller pc =>
    have owned : (ofEvent config call caller pc' : Task G).owner = caller.owner :=
      owner_ofEvent call caller pc'
    rw [show ofEvent config call caller pc' = cleanup .dropConnections from
      congrArg (fun x => x.2.1) he] at owned
    cases caller <;> cases pc' <;> first | cases he | cases owned
  case abandon id reason caller pc => cases caller <;> cases pc' <;> cases he
  case start caller pc => cases caller <;> cases pc' <;> cases he
  all_goals cases pc' <;> cases he

end Steps

end Task

/-- A role's connection after a section: its own, a new one, or none any more. -/
theorem Cell.connections_apply {cell : Cell G} {sec : Section G} {role : PlayerRole}
    (owned : ((cell.apply config sec).connections.get role).isSome) :
    sec = .register role ∨ (cell.connections.get role).isSome := by
  cases sec
  case register role' =>
    by_cases same : role' = role
    · exact .inl (same ▸ rfl)
    · right
      simpa [Cell.apply, Ne.symm same] using owned
  case unregister role' g =>
    right
    simp only [Cell.apply] at owned
    split at owned
    · cases role <;> cases role' <;> simp_all [RoleMap.erase, RoleMap.get]
    · exact owned
  case dropConnections => cases role <;> cases owned
  all_goals exact .inr owned

/-- A role's connection is lost when its owner gives it up, or with the whole session. -/
theorem Cell.connections_lost {cell : Cell G} {sec : Section G} {role : PlayerRole}
    (owned : (cell.connections.get role).isSome)
    (lost : (cell.apply config sec).connections.get role = none) :
    (∃ g, sec = .unregister role g ∧ cell.ownsConnection role g = true) ∨
      sec = .dropConnections := by
  cases sec
  case register role' =>
    simp only [Cell.apply, RoleMap.get_insert] at lost
    split at lost
    · cases lost
    · simp [lost] at owned
  case unregister role' g =>
    simp only [Cell.apply] at lost
    split at lost
    · rename_i owns
      by_cases same : role' = role
      · subst same
        exact .inl ⟨g, rfl, owns⟩
      · cases role <;> cases role' <;> simp_all [RoleMap.erase, RoleMap.get]
    · simp [lost] at owned
  case dropConnections => exact .inr rfl
  all_goals
    rw [show cell.connections.get role = none from lost] at owned
    cases owned

theorem Cell.Connected.apply {cell : Cell G} {sec : Section G} {session session' : LiveSession G}
    (connected : cell.Connected session) (step : SessionStep config sec session session')
    (spares : sec.SparesHumans) (moves : sec.MovesHumans)
    (joins : ∀ participant now, sec = .memory (.addHuman participant now) →
      participant.id.isHuman = true)
    (registers : ∀ role, sec = .register role → ∃ id, id.isHuman = true ∧ cell.Seat ⟨id, role⟩) :
    (cell.apply config sec).Connected session' where
  distinct := by
    intro id id' p p' human human' found found' same
    cases step.seat found with
    | kept before role =>
      cases step.seat found' with
      | kept before' role' =>
        exact connected.distinct id id' _ _ human human' before before'
          (role.trans (same.trans role'.symm))
      | joined own free => exact absurd (role.trans same) (LiveSession.free_of_nextRole free before)
      | attached own =>
        rw [← own, show _ = false from spares] at human'
        cases human'
    | joined own free =>
      cases step.seat found' with
      | kept before' role' =>
        exact absurd (role'.trans same.symm) (LiveSession.free_of_nextRole free before')
      | joined own' => exact own.symm.trans own'
    | attached own =>
      rw [← own, show _ = false from spares] at human
      cases human
  agents := step.agentsConnected connected.agents moves joins
  owned := by
    intro role owns
    rcases Cell.connections_apply owns with registered | before
    · obtain ⟨id, human, seat⟩ := registers role registered
      exact ⟨id, human, seat.apply human spares⟩
    · obtain ⟨id, human, seat⟩ := connected.owned role before
      exact ⟨id, human, seat.apply human spares⟩
  free := by
    intro id p' found here
    have look := step.members.lookup id
    generalize session'.participants.lookup id = after at look found
    cases look with
    | kept same =>
      obtain ⟨p, before, rfl⟩ := Option.map_eq_some_iff.mp found
      exact (same p).reconnectDeadlineAt.trans
        (connected.free id p before ((same p).connected.symm.trans here))
    | connect now =>
      obtain ⟨p, -, rfl⟩ := Option.map_eq_some_iff.mp found
      rfl
    | disconnect t d =>
      obtain ⟨p, -, rfl⟩ := Option.map_eq_some_iff.mp found
      cases here
    | joined =>
      cases found
      cases here
    | attached =>
      cases found
      rfl
    | detached => cases found

theorem Cell.Connected.clock {cell : Cell G} {session : LiveSession G}
    (connected : cell.Connected session) (now : Timestamp) :
    Cell.Connected { cell with clock := now } session :=
  ⟨connected.distinct, connected.agents, connected.owned, connected.free⟩

/-- What the connections build on: who tasks run for, and that locks are forgotten late. -/
structure OwnersKnown (config : ExperimentConfig) (w : Pool (Cell G) (Task G))
    (_ : Pool.Action (Task G) Input) : Prop where
  owners : w.Each fun _ task => ∀ o, task.owner = some o → o.Sound config
  late : w.Each fun _ task => task.DropsLate w.shared

def connectionsOutline (G : Game) (config : ExperimentConfig) :
    Outline (sessionProgram G config) (OwnersKnown config) where
  inv cell := ∀ session, cell.session = some session → cell.Connected session
  asn cell _ task := (∀ call, task.owner = some (.loop call) → cell.Seat call) ∧
    (task = .cleanup .dropConnections → cell.session = none)
  entry := by
    intro w task pid _ _ enter
    obtain ⟨entry, admitted⟩ := session_entry enter
    constructor
    · intro call owned session here
      unfold Task.entry at entry
      split at entry <;> try cases owned
      · simp only [Task.admitted, Task.isMember, here, Option.any_some] at admitted
        obtain ⟨p, found, role⟩ := (Option.any_eq_true _ _).mp admitted
        exact ⟨p, found, by simpa using role⟩
      · cases entry
    · rintro rfl
      cases entry
  step := by
    intro w pid input task cell' task' started connected each known ht h
    obtain ⟨sec, hn, -, rfl⟩ := session_step h
    have sound := known.owners pid task ht
    have spares := Task.next_sparesHumans sound hn
    refine ⟨fun session' here => ?_, ⟨fun call owned => ?_, ?_⟩, ?_⟩
    · obtain ⟨session, before, step⟩ := Cell.apply_step here
      refine ((connected session before).apply step spares
        (Task.next_movesHumans sound hn) ?_ ?_).clock input.now
      · rintro participant now rfl
        cases Task.next_addHuman hn
        exact (sound _ rfl).1
      · rintro role rfl
        obtain ⟨call, rfl, rfl, -⟩ := Task.next_register hn
        exact ⟨call.participantSessionId, sound _ rfl, (each pid _ ht).1 call rfl⟩
    · have owned := Task.next_owner hn owned
      exact ((each pid task ht).1 call owned).apply (sound _ owned) spares
    · rintro rfl
      obtain ⟨rfl, rfl⟩ := Task.next_toDropConnections hn
      exact known.late pid _ ht
    · intro u mem q
      obtain ⟨call, deadline, -, rfl⟩ := Task.mem_started hn mem
      exact ⟨nofun, nofun⟩
  interference := by
    intro w pid input task cell' task' started q u _ _ known ht h _ hu theirs
    obtain ⟨sec, hn, -, rfl⟩ := session_step h
    have spares := Task.next_sparesHumans (known.owners pid task ht) hn
    exact ⟨fun call owned => (theirs.1 call owned).apply (known.owners q u hu _ owned) spares,
      fun drops => Cell.apply_session_none (theirs.2 drops)⟩

theorem connectionsOutline_valid {creation : Creation G}
    {guard : Pool (Cell G) (Task G) → Pool.Action (Task G) Input → Prop}
    {w : Pool (Cell G) (Task G)}
    (run : (sessionMachine G config).Run guard (creation.initial config) w) :
    (connectionsOutline G config).Valid w := by
  have known := run.and_invariant fun reached =>
    And.intro (owners_sound reached) (lockOutline_valid reached)
  refine Outline.Valid.run (known.mono fun _ _ ⟨_, owners, locks⟩ =>
    ⟨owners, fun pid task ht => (locks.each pid task ht).2⟩) ⟨fun session here => ?_, ?_⟩
  · cases here
    have founder : ∀ id p, (LiveSession.created config creation.sessionId creation.state
        creation.participant creation.createdAt creation.createdAt).participants.lookup id =
          some p → id = creation.participant.id ∧ p.reconnectDeadlineAt = none := by
      intro id p found
      change (AList.singleton creation.participant.id _ :
        Map ParticipantSessionId SessionParticipant).lookup id = some p at found
      rw [Map.lookup_singleton] at found
      split at found <;> cases found
      exact ⟨‹_›, rfl⟩
    refine ⟨fun id id' p p' _ _ found found' _ => (founder id p found).1.trans
      (founder id' p' found').1.symm, fun id p found agent => ?_, fun role owned => ?_,
      fun id p found _ => (founder id p found).2⟩
    · rw [(founder id p found).1, creation.isHuman] at agent
      cases agent
    · cases role <;> cases owned
  · intro pid task ht
    cases ht

namespace Task

/-- A loop of the role between its registration and its connect section. -/
def arriving (role : PlayerRole) : Task G → Bool
  | socket call (.connect _) => call.role == role
  | _ => false

/-- A loop of the role between giving up its connection and its disconnect section. -/
def departing (role : PlayerRole) : Task G → Bool
  | socket call .stamp | socket call (.disconnect _ _) => call.role == role
  | _ => false

section Steps

variable {cell : Cell G} {pid : Nat} {input : Input} {sec : Section G} {task task' : Task G}
  {started : List (Task G)} {role : PlayerRole}

theorem next_arriving (arrives : task.arriving role = true)
    (h : task.next config cell pid input = some (sec, task', started)) :
    ∃ call, task.owner = some (.loop call) ∧ call.role = role ∧
      sec = .memory (.connect call.participantSessionId input.now) := by
  cases task <;> try cases arrives
  rename_i call pc
  obtain ⟨⟨sec', pc'⟩, hs, he⟩ := Option.map_eq_some_iff.mp h
  cases pc <;> try cases arrives
  simp only [SocketPc.step] at hs
  cases hs
  cases he
  exact ⟨call, rfl, by simpa [arriving] using arrives, rfl⟩

theorem next_departing (departs : task.departing role = true)
    (h : task.next config cell pid input = some (sec, task', started)) :
    task'.departing role = true ∨ ∃ call t d, task.owner = some (.loop call) ∧ call.role = role ∧
      sec = .memory (.disconnect call.participantSessionId t d) := by
  cases task <;> try cases departs
  rename_i call pc
  obtain ⟨⟨sec', pc'⟩, hs, he⟩ := Option.map_eq_some_iff.mp h
  cases pc <;> try cases departs
  all_goals
    simp only [SocketPc.step] at hs
    cases hs
    cases he
  · exact .inl departs
  · exact .inr ⟨call, _, _, rfl, by simpa [departing] using departs, rfl⟩

end Steps

end Task

/--
The runs in which presence and ownership do not overtake each other: a disconnect section finds the
role's connection given up or another loop about to connect, a connect section finds the connection
owned or another loop about to disconnect, and nobody comes back between the decision to end the
session for its reconnect timeout and the commit, nor, where a loop abandons the session for it,
between the disconnect and the decision.
-/
structure PresenceRespected (w : Pool (Cell G) (Task G)) (a : Pool.Action (Task G) Input) :
    Prop where
  disconnects : ∀ pid input call t d, a = .run pid input →
    w.tasks[pid]? = some (.socket call (.disconnect t d)) → w.shared.session.isSome →
    w.shared.connections.get call.role = none ∨ w.Has fun _ task => task.arriving call.role = true
  connects : ∀ pid input call g, a = .run pid input →
    w.tasks[pid]? = some (.socket call (.connect g)) → w.shared.session.isSome →
    (w.shared.connections.get call.role).isSome ∨
      w.Has fun _ task => task.departing call.role = true
  abandons : ∀ pid input id caller l session p, a = .run pid input →
    w.tasks[pid]? = some (.abandon id .reconnectTimeout caller (.check l)) →
    w.shared.session = some session → session.participants.lookup id = some p →
    p.connected = false
  returns : ∀ pid input call g, a = .run pid input →
    w.tasks[pid]? = some (.socket call (.connect g)) → w.shared.store.ended = false →
    w.Each fun _ task => ∀ e r, task.ends = some e → e.cause = .reconnectTimedOut r →
      r ≠ call.role.asStr

structure PresenceMatches (w : Pool (Cell G) (Task G)) : Prop where
  present : ∀ session id p, w.shared.session = some session → id.isHuman = true →
    session.participants.lookup id = some p → (w.shared.connections.get p.role).isSome →
    p.connected = true ∨ w.Has fun _ task => task.arriving p.role = true
  absent : ∀ session id p, w.shared.session = some session → id.isHuman = true →
    session.participants.lookup id = some p → w.shared.connections.get p.role = none →
    p.connected = false ∨ w.Has fun _ task => task.departing p.role = true

namespace PresenceMatches

variable {cell : Cell G} {tasks started : List (Task G)} {pid : Nat} {input : Input}
  {sec : Section G} {task task' : Task G}

theorem lookup_connect {id' : ParticipantSessionId} {now : Timestamp} {session' : LiveSession G}
    (here : (cell.apply config (.memory (.connect id' now))).session = some session')
    (id : ParticipantSessionId) :
    ∃ session, cell.session = some session ∧ session'.participants.lookup id =
      if id = id' then (session.participants.lookup id').map (SessionParticipant.connect now)
      else session.participants.lookup id := by
  obtain ⟨session, before, connected⟩ := Option.bind_eq_some_iff.mp here
  refine ⟨session, before, ?_⟩
  rw [← Map.lookup_modify]
  cases connected
  unfold LiveSession.connectParticipant
  dsimp only
  split <;> rfl

theorem lookup_disconnect {id' : ParticipantSessionId} {t d : Timestamp}
    {session' : LiveSession G}
    (here : (cell.apply config (.memory (.disconnect id' t d))).session = some session')
    (id : ParticipantSessionId) :
    ∃ session, cell.session = some session ∧ session'.participants.lookup id =
      if id = id' then (session.participants.lookup id').map (SessionParticipant.disconnect t d)
      else session.participants.lookup id := by
  obtain ⟨session, before, disconnected⟩ := Option.bind_eq_some_iff.mp here
  refine ⟨session, before, ?_⟩
  rw [← Map.lookup_modify]
  cases disconnected
  rfl

section Run

variable (owners : Pool.Each ⟨cell, tasks⟩ fun _ task => ∀ o, task.owner = some o → o.Sound config)
  (known : (connectionsOutline G config).Valid ⟨cell, tasks⟩)
  (ht : tasks[pid]? = some task)
  {session : LiveSession G} {id : ParticipantSessionId} {p : SessionParticipant}

include owners ht

/-- Outside of the two presence sections a human stays as it was, or is new in its role. -/
theorem member_before
    (hn : task.next config cell pid input = some (sec, task', started))
    {session' : LiveSession G} {p' : SessionParticipant}
    (connects : ∀ id now, sec ≠ .memory (.connect id now))
    (disconnects : ∀ id t d, sec ≠ .memory (.disconnect id t d))
    (here : (cell.apply config sec).session = some session') (human : id.isHuman = true)
    (found : session'.participants.lookup id = some p') :
    ∃ session, cell.session = some session ∧
      ((∃ p, session.participants.lookup id = some p ∧ p'.role = p.role ∧
        p'.connected = p.connected) ∨
      (session.nextRole = some p'.role ∧ p'.connected = false)) := by
  obtain ⟨session, before, step⟩ := Cell.apply_step here
  refine ⟨session, before, ?_⟩
  have spares := Task.next_sparesHumans (owners pid task ht) hn
  have look := step.members.lookup id
  generalize session'.participants.lookup id = after at look found
  cases look with
  | kept same =>
    obtain ⟨p, found', rfl⟩ := Option.map_eq_some_iff.mp found
    exact .inl ⟨p, found', (same p).role, (same p).connected⟩
  | connect now => exact absurd rfl (connects id now)
  | disconnect t d => exact absurd rfl (disconnects id t d)
  | joined participant now role own fresh free =>
    cases found
    exact .inr ⟨free, rfl⟩
  | attached agent now own =>
    rw [← own, show agent.id.isHuman = false from spares] at human
    cases human
  | detached =>
    rw [show id.isHuman = false from spares] at human
    cases human

include known

/-- A loop of a human's role is a loop of that human. -/
theorem loop_own (here : cell.session = some session) (human : id.isHuman = true)
    (found : session.participants.lookup id = some p) {call : SocketCall}
    (owned : task.owner = some (.loop call)) (own : call.role = p.role) :
    call.participantSessionId = id := by
  obtain ⟨q, seated, role⟩ := (known.each pid task ht).1 call owned session here
  exact (known.inv session here).distinct _ _ q p (owners pid task ht _ owned) human seated found
    (role.trans own)

variable (hn : task.next config cell pid input = some (sec, task', started))

include hn

theorem present_after (inv : PresenceMatches ⟨cell, tasks⟩)
    (met : PresenceRespected ⟨cell, tasks⟩ (.run pid input))
    {session' : LiveSession G} {p' : SessionParticipant}
    (here : (cell.apply config sec).session = some session') (human : id.isHuman = true)
    (found : session'.participants.lookup id = some p')
    (owned : ((cell.apply config sec).connections.get p'.role).isSome) :
    p'.connected = true ∨ Pool.Has ⟨cell.apply config sec, tasks.set pid task' ++ started⟩
      fun _ task => task.arriving p'.role = true := by
  rcases Cell.connections_apply owned with rfl | owned
  · obtain ⟨call, rfl, own, rfl⟩ := Task.next_register hn
    exact .inr ⟨pid, _, Pool.self_after ht, by simp [Task.arriving, own]⟩
  by_cases connects : ∃ id' now, sec = .memory (.connect id' now)
  · obtain ⟨id', now, rfl⟩ := connects
    obtain ⟨call, g, rfl, rfl⟩ := Task.next_connect hn
    obtain ⟨session, before, look⟩ := lookup_connect here id
    rw [found] at look
    split at look
    · obtain ⟨p, -, rfl⟩ := Option.map_eq_some_iff.mp look.symm
      exact .inl rfl
    · rename_i other
      rcases inv.present session id p' before human look.symm owned with present | arriving
      · exact .inl present
      · refine .inr (arriving.after ht (fun arrives => ?_) fun _ _ _ arrives => arrives)
        have own : call.role = p'.role := by simpa [Task.arriving] using arrives
        exact absurd (loop_own owners known ht before human look.symm rfl own).symm other
  by_cases disconnects : ∃ id' t d, sec = .memory (.disconnect id' t d)
  · obtain ⟨id', t, d, rfl⟩ := disconnects
    obtain ⟨call, rfl, rfl, -⟩ := Task.next_disconnect hn
    obtain ⟨session, before, look⟩ := lookup_disconnect here id
    rw [found] at look
    split at look
    · rename_i own
      subst own
      obtain ⟨p, before', rfl⟩ := Option.map_eq_some_iff.mp look.symm
      obtain ⟨q, seated, role⟩ := (known.each pid _ ht).1 call rfl session before
      cases before'.symm.trans seated
      rcases met.disconnects pid input call t d rfl ht (by simp [before]) with given | arriving
      · have kept : (cell.connections.get call.role).isSome := role ▸ owned
        rw [show cell.connections.get call.role = none from given] at kept
        cases kept
      · rw [← role] at arriving
        exact .inr (arriving.after ht nofun fun _ _ _ arrives => arrives)
    · rcases inv.present session id p' before human look.symm owned with present | arriving
      · exact .inl present
      · exact .inr (arriving.after ht nofun fun _ _ _ arrives => arrives)
  obtain ⟨session, before, ⟨p, found', role, same⟩ | ⟨free, -⟩⟩ :=
    member_before owners ht hn (fun id now h => connects ⟨id, now, h⟩)
      (fun id t d h => disconnects ⟨id, t, d, h⟩) here human found
  · rw [role] at owned ⊢
    rw [same]
    rcases inv.present session id p before human found' owned with present | arriving
    · exact .inl present
    · refine .inr (arriving.after ht (fun arrives => ?_) fun _ _ _ arrives => arrives)
      obtain ⟨call, -, -, rfl⟩ := Task.next_arriving arrives hn
      exact absurd ⟨_, _, rfl⟩ connects
  · obtain ⟨id', human', seat⟩ := (known.inv session before).owned _ owned
    obtain ⟨q, seated, taken⟩ := seat session before
    exact absurd taken (LiveSession.free_of_nextRole free seated)

theorem absent_after (inv : PresenceMatches ⟨cell, tasks⟩)
    (met : PresenceRespected ⟨cell, tasks⟩ (.run pid input))
    {session' : LiveSession G} {p' : SessionParticipant}
    (here : (cell.apply config sec).session = some session') (human : id.isHuman = true)
    (found : session'.participants.lookup id = some p')
    (free : (cell.apply config sec).connections.get p'.role = none) :
    p'.connected = false ∨ Pool.Has ⟨cell.apply config sec, tasks.set pid task' ++ started⟩
      fun _ task => task.departing p'.role = true := by
  cases owned : (cell.connections.get p'.role).isSome with
  | true =>
    rcases Cell.connections_lost owned free with ⟨g, rfl, owns⟩ | rfl
    · obtain ⟨call, rfl, own, rfl⟩ := Task.next_unregister hn
      rw [if_pos owns]
      exact .inr ⟨pid, _, Pool.self_after ht, by simp [Task.ofSocket, Task.departing, own]⟩
    · cases Task.next_dropConnections hn
      have gone := (known.each pid _ ht).2 rfl
      rw [Cell.apply_session_none gone] at here
      cases here
  | false =>
    have free : cell.connections.get p'.role = none := by simpa using owned
    by_cases connects : ∃ id' now, sec = .memory (.connect id' now)
    · obtain ⟨id', now, rfl⟩ := connects
      obtain ⟨call, g, rfl, rfl⟩ := Task.next_connect hn
      obtain ⟨session, before, look⟩ := lookup_connect here id
      rw [found] at look
      split at look
      · rename_i own
        subst own
        obtain ⟨p, before', rfl⟩ := Option.map_eq_some_iff.mp look.symm
        obtain ⟨q, seated, role⟩ := (known.each pid _ ht).1 call rfl session before
        cases before'.symm.trans seated
        rcases met.connects pid input call g rfl ht (by simp [before]) with kept | departing
        · rw [show cell.connections.get call.role = none from role ▸ free] at kept
          cases kept
        · rw [← role] at departing
          exact .inr (departing.after ht nofun fun _ _ _ departs => departs)
      · rcases inv.absent session id p' before human look.symm free with absent | departing
        · exact .inl absent
        · exact .inr (departing.after ht nofun fun _ _ _ departs => departs)
    by_cases disconnects : ∃ id' t d, sec = .memory (.disconnect id' t d)
    · obtain ⟨id', t, d, rfl⟩ := disconnects
      obtain ⟨call, rfl, rfl, -⟩ := Task.next_disconnect hn
      obtain ⟨session, before, look⟩ := lookup_disconnect here id
      rw [found] at look
      split at look
      · obtain ⟨p, -, rfl⟩ := Option.map_eq_some_iff.mp look.symm
        exact .inl rfl
      · rename_i other
        rcases inv.absent session id p' before human look.symm free with absent | departing
        · exact .inl absent
        · refine .inr (departing.after ht (fun departs => ?_) fun _ _ _ departs => departs)
          have own : call.role = p'.role := by simpa [Task.departing] using departs
          exact absurd (loop_own owners known ht before human look.symm rfl own).symm other
    obtain ⟨session, before, ⟨p, found', role, same⟩ | ⟨-, absent⟩⟩ :=
      member_before owners ht hn (fun id now h => connects ⟨id, now, h⟩)
        (fun id t d h => disconnects ⟨id, t, d, h⟩) here human found
    · rw [role] at free ⊢
      rw [same]
      rcases inv.absent session id p before human found' free with absent | departing
      · exact .inl absent
      · refine .inr (departing.after ht (fun departs => ?_) fun _ _ _ departs => departs)
        rcases Task.next_departing departs hn with again | ⟨call, t, d, -, -, rfl⟩
        · exact again
        · exact absurd ⟨_, _, _, rfl⟩ disconnects
    · exact .inl absent

end Run

theorem of_run {creation : Creation G} {w : Pool (Cell G) (Task G)}
    (run : (sessionMachine G config).Run PresenceRespected (creation.initial config) w) :
    PresenceMatches w := by
  refine run.invariant_of_reached ⟨fun session id p here _ _ owned => ?_,
    fun session id p here _ found _ => .inl ?_⟩ fun reached inv met h => ?_
  · cases role : p.role <;> rw [role] at owned <;> cases owned
  · cases here
    change (AList.singleton _ _ : Map ParticipantSessionId SessionParticipant).lookup id =
      some p at found
    rw [Map.lookup_singleton] at found
    split at found <;> cases found
    rfl
  rcases Program.step_cases h with ⟨task, -, -, rfl⟩ |
    ⟨pid, input, task, cell', task', started, rfl, ht, hs, rfl⟩
  · exact ⟨fun session id p here human found owned =>
      (inv.present session id p here human found owned).imp_right Pool.Has.append,
      fun session id p here human found free =>
        (inv.absent session id p here human found free).imp_right Pool.Has.append⟩
  · obtain ⟨sec, hn, -, rfl⟩ := session_step hs
    have owners := owners_sound reached
    have known := connectionsOutline_valid reached
    exact ⟨fun session id p here human found owned =>
      present_after owners known ht hn inv met here human found owned,
      fun session id p here human found free =>
        absent_after owners known ht hn inv met here human found free⟩

end PresenceMatches

theorem PlayerRole.asStr_injective {role role' : PlayerRole} (h : role.asStr = role'.asStr) :
    role = role' := by
  cases role <;> cases role' <;> first | rfl | exact absurd h (by decide)

theorem expiryCause_reconnect {session : LiveSession G} {pick : Nat} {r : String}
    (h : expiryCause session .reconnectTimeout pick = .reconnectTimedOut r) :
    r = "unknown" ∨ ∃ id q, session.participants.lookup id = some q ∧ q.connected = false ∧
      r = q.role.asStr := by
  simp only [expiryCause, SessionEndCause.reconnectTimedOut.injEq] at h
  subst h
  unfold LiveSession.findParticipant
  split
  · rename_i q found
    have mem := List.mem_filter.mp (List.mem_of_getElem? found)
    obtain ⟨id, seated⟩ := Map.mem_values.mp mem.1
    exact .inr ⟨id, q, seated, by simpa using mem.2, rfl⟩
  · exact .inl rfl

namespace Task

variable {cell : Cell G} {pid : Nat} {input : Input} {sec : Section G} {task task' : Task G}
  {started : List (Task G)}

/-- Whom a task that decides a reconnect timeout names: an abandoning member, or someone missing. -/
theorem next_timesOut (h : task.next config cell pid input = some (sec, task', started))
    (fresh : task.ends = none) {e : SessionEnd} (holds : task'.ends = some e) {r : String}
    (cause : e.cause = .reconnectTimedOut r) :
    ∃ session, cell.session = some session ∧
      ((∃ id caller l q, task = abandon id .reconnectTimeout caller (.check l) ∧
        session.participants.lookup id = some q ∧ r = q.role.asStr) ∨
      r = "unknown" ∨ ∃ id q, session.participants.lookup id = some q ∧ q.connected = false ∧
        r = q.role.asStr) := by
  rcases next_ends h holds with old | snapshot
  · rw [fresh] at old
    cases old
  cases snapshot with
  | completed here computed =>
    rw [(completedSessionEnd_ok computed).1] at cause
    cases cause
  | interrupted started => cases cause
  | expired here computed =>
    have reason := (expiredSessionEnd_ok computed).1 cause
    subst reason
    exact ⟨_, here, .inr (expiryCause_reconnect ((expiredSessionEnd_cause computed).symm.trans cause))⟩
  | @abandoned id reason caller l _ _ _ here computed =>
    have reason := (abandonedSessionEnd_ok computed).1 cause
    subst reason
    obtain ⟨⟨sec', pc'⟩, hs, he⟩ := Option.map_eq_some_iff.mp h
    cases he
    rw [ends_ofAbandon] at holds
    simp only [AbandonPc.step] at hs
    split at hs <;> cases hs <;> cases holds
    rename_i found
    obtain ⟨session, actor, here', seated, computed'⟩ := checkAbandon_ok found
    rw [abandonedSessionEnd_cause computed'] at cause
    cases cause
    exact ⟨session, here', .inl ⟨id, caller, l, actor, rfl, seated, rfl⟩⟩

end Task

def Cell.Away (cell : Cell G) (r : String) : Prop :=
  ∀ session id p, cell.session = some session → id.isHuman = true →
    session.participants.lookup id = some p → p.role.asStr = r → p.connected = false

namespace PresenceMatches

section Run

variable {cell : Cell G} {tasks started : List (Task G)} {pid : Nat} {input : Input}
  {sec : Section G} {task task' : Task G}
  (owners : Pool.Each ⟨cell, tasks⟩ fun _ task => ∀ o, task.owner = some o → o.Sound config)
  (known : (connectionsOutline G config).Valid ⟨cell, tasks⟩)
  (met : PresenceRespected ⟨cell, tasks⟩ (.run pid input))
  (ht : tasks[pid]? = some task)
  (hn : task.next config cell pid input = some (sec, task', started))

include known met ht hn

/-- A reconnect timeout is decided against someone who is away. -/
theorem away_of_decided (fresh : task.ends = none) {e : SessionEnd} (holds : task'.ends = some e)
    {r : String} (cause : e.cause = .reconnectTimedOut r) : cell.Away r := by
  obtain ⟨session, before, named⟩ := Task.next_timesOut hn fresh holds cause
  have connected := known.inv session before
  have alone : ∀ id q, session.participants.lookup id = some q → q.connected = false →
      r = q.role.asStr → cell.Away r := by
    rintro id q seated away rfl session' id' p here human found role
    cases before.symm.trans here
    have human' : id.isHuman = true := by
      by_contra agent
      rw [connected.agents id q seated (by simpa using agent)] at away
      cases away
    cases connected.distinct id' id p q human human' found seated (PlayerRole.asStr_injective role)
    cases found.symm.trans seated
    exact away
  rcases named with ⟨id, caller, l, q, rfl, seated, same⟩ | rfl | ⟨id, q, seated, away, same⟩
  · exact alone id q seated (met.abandons pid input id caller l session q rfl ht before seated) same
  · intro session' id p _ _ _ role
    cases held : p.role <;> rw [held] at role <;> exact absurd role (by decide)
  · exact alone id q seated away same

end Run

section Run

variable {cell : Cell G} {tasks started : List (Task G)} {pid : Nat} {input : Input}
  {sec : Section G} {task task' : Task G}

/-- Who is away stays away unless its own loop connects. -/
theorem away_after
    (owners : Pool.Each ⟨cell, tasks⟩ fun _ task => ∀ o, task.owner = some o → o.Sound config)
    (known : (connectionsOutline G config).Valid ⟨cell, tasks⟩) (ht : tasks[pid]? = some task)
    (hn : task.next config cell pid input = some (sec, task', started)) {r : String}
    (away : cell.Away r)
    (spared : ∀ call g, task = .socket call (.connect g) → r ≠ call.role.asStr) :
    (cell.apply config sec).Away r := by
  intro session' id p' here human found role
  by_cases connects : ∃ id' now, sec = .memory (.connect id' now)
  · obtain ⟨id', now, rfl⟩ := connects
    obtain ⟨call, g, rfl, rfl⟩ := Task.next_connect hn
    obtain ⟨session, before, look⟩ := lookup_connect here id
    rw [found] at look
    split at look
    · rename_i own
      subst own
      obtain ⟨p, before', rfl⟩ := Option.map_eq_some_iff.mp look.symm
      obtain ⟨q, seated, own⟩ := (known.each pid _ ht).1 call rfl session before
      cases before'.symm.trans seated
      exact absurd (own ▸ role.symm) (spared call g rfl)
    · exact away session id p' before human look.symm role
  by_cases disconnects : ∃ id' t d, sec = .memory (.disconnect id' t d)
  · obtain ⟨id', t, d, rfl⟩ := disconnects
    obtain ⟨session, before, look⟩ := lookup_disconnect here id
    rw [found] at look
    split at look
    · obtain ⟨p, -, rfl⟩ := Option.map_eq_some_iff.mp look.symm
      rfl
    · exact away session id p' before human look.symm role
  obtain ⟨session, before, ⟨p, found', same, kept⟩ | ⟨-, new⟩⟩ :=
    member_before owners ht hn (fun id now h => connects ⟨id, now, h⟩)
      (fun id t d h => disconnects ⟨id, t, d, h⟩) here human found
  · exact kept.trans (away session id p before human found' (same ▸ role))
  · exact new

end Run

/-- Pending reconnect timeouts name people who are away, as long as the row is open. -/
def TimeoutsNamed (w : Pool (Cell G) (Task G)) : Prop :=
  w.shared.store.ended = false → w.Each fun _ task => ∀ e r, task.ends = some e →
    e.cause = .reconnectTimedOut r → w.shared.Away r

theorem timeoutsNamed_of_run {creation : Creation G} {w : Pool (Cell G) (Task G)}
    (run : (sessionMachine G config).Run PresenceRespected (creation.initial config) w) :
    TimeoutsNamed w := by
  refine run.invariant_of_reached (fun _ _ _ ht => by cases ht) fun {t u a} reached inv met h => ?_
  rcases Program.step_cases h with ⟨task, rfl, enter, rfl⟩ |
    ⟨pid, input, task, cell', task', started, rfl, ht, hs, rfl⟩
  · intro isOpen
    refine (inv isOpen).append (fun _ _ h => h) fun _ e r holds => ?_
    rw [Task.ends_of_entry (session_entry enter).1] at holds
    cases holds
  obtain ⟨sec, hn, -, rfl⟩ := session_step hs
  have owners := owners_sound reached
  have known := connectionsOutline_valid reached
  intro still
  have isOpen : t.shared.store.ended = false := by
    cases before : t.shared.store.ended with
    | false => rfl
    | true => exact (Cell.ended_apply before).symm.trans still
  have stays : ∀ (q : Nat) (u : Task G), t.tasks[q]? = some u → ∀ e r, u.ends = some e →
      e.cause = .reconnectTimedOut r → (t.shared.apply config sec).Away r := by
    intro q u hu e r holds cause
    refine away_after owners known ht hn (inv isOpen q u hu e r holds cause) ?_
    rintro call g rfl
    exact met.returns pid input call g rfl ht isOpen q u hu e r holds cause
  refine .after (fun e r holds cause => ?_) (fun q u _ hu => stays q u hu) ?_
  · rcases Task.next_ends hn holds with old | snapshot
    · exact stays pid task ht e r old cause
    · have fresh : task.ends = none := by cases snapshot <;> rfl
      refine away_after owners known ht hn (away_of_decided known met ht hn fresh holds cause) ?_
      rintro call g rfl
      cases snapshot
  · intro u mem q e r holds
    obtain ⟨call, deadline, -, rfl⟩ := Task.mem_started hn mem
    cases holds

end PresenceMatches

/--
As long as no loop of the role is between two of its steps, a human is connected if and only if a
socket owns its role's connection. Where one does, the human carries no reconnect deadline, and no
step ends the session for a reconnect timeout of the human.
-/
theorem presence_matches_ownership {config : ExperimentConfig} {creation : Creation G}
    {w : Pool (Cell G) (Task G)}
    (run : (sessionMachine G config).Run PresenceRespected (creation.initial config) w)
    {session : LiveSession G} {id : ParticipantSessionId} {p : SessionParticipant}
    (here : w.shared.session = some session) (human : id.isHuman = true)
    (found : session.participants.lookup id = some p)
    (quiet : w.Each fun _ task =>
      task.arriving p.role = false ∧ task.departing p.role = false) :
    (p.connected = true ↔ (w.shared.connections.get p.role).isSome) ∧
    ((w.shared.connections.get p.role).isSome → p.reconnectDeadlineAt = none ∧
      ∀ a w' e r, (sessionMachine G config).step w a = some w' → w.shared.store.ended = false →
        w'.shared.store.EndedWith e → e.cause = .reconnectTimedOut r → r ≠ p.role.asStr) := by
  have inv := PresenceMatches.of_run run
  have iff : p.connected = true ↔ (w.shared.connections.get p.role).isSome := by
    constructor
    · intro connected
      by_contra free
      rcases inv.absent session id p here human found (by simpa using free) with absent |
        ⟨pid, task, ht, departs⟩
      · rw [absent] at connected
        cases connected
      · rw [(quiet pid task ht).2] at departs
        cases departs
    · intro owned
      rcases inv.present session id p here human found owned with present |
        ⟨pid, task, ht, arrives⟩
      · exact present
      · rw [(quiet pid task ht).1] at arrives
        cases arrives
  have known := (connectionsOutline_valid run).inv session here
  refine ⟨iff, fun owned => ⟨known.free id p found (iff.mpr owned), ?_⟩⟩
  rintro a w' e r step isOpen ends cause rfl
  rcases Program.step_cases step with ⟨task, -, -, rfl⟩ |
    ⟨pid, input, task, cell', task', started, rfl, ht, hs, rfl⟩
  · rw [ends.ended] at isOpen
    cases isOpen
  obtain ⟨sec, hn, -, rfl⟩ := session_step hs
  cases sec
  case transaction update =>
    obtain ⟨e', carried, ends'⟩ := Transaction.ended_apply isOpen ends.ended
    cases ends'.unique ends
    have away := PresenceMatches.timeoutsNamed_of_run run isOpen pid task ht e _
      (Task.next_persists hn carried) cause session id p here human found rfl
    rw [iff.mpr owned] at away
    cases away
  all_goals
    rw [show w.shared.store.ended = true from ends.ended] at isOpen
    cases isOpen

namespace TallyAction

/-- Human A's new socket connects after the old one gave up ownership and before its disconnect. -/
def overtaken : List TallyAction :=
  opening ++ steps 1 1 0 ++ reconnecting 3 0 ++ steps 1 6 0

/-- Human A leaves and comes back; task 3 is the reconnect timer. -/
def returning : List TallyAction := opening ++ closing 1 0 ++ reconnecting 4 1

/-- Whether human A is connected, owns a connection, has a deadline, and whether role A is quiet. -/
def presence (w : Pool (Cell tallyGame) (Task tallyGame)) : Option (Bool × Bool × Bool × Bool) :=
  w.shared.session.bind fun session => (session.participants.lookup (.human 1)).map fun p =>
    (p.connected, (w.shared.connections.get .A).isSome, p.reconnectDeadlineAt.isSome,
      w.tasks.all fun task => !task.arriving .A && !task.departing .A)

def respectsPresence (w : Pool (Cell tallyGame) (Task tallyGame)) : TallyAction → Bool
  | .spawn _ => true
  | .run pid _ => match w.tasks[pid]? with
    | some (.socket call (.disconnect _ _)) => (w.shared.connections.get call.role).isNone
    | some (.socket call (.connect _)) => (w.shared.connections.get call.role).isSome &&
      w.tasks.all fun task => task.ends.isNone
    | some (.abandon _ .reconnectTimeout _ _) => false
    | _ => true

theorem presenceRespected {w : Pool (Cell tallyGame) (Task tallyGame)} {a : TallyAction}
    (h : respectsPresence w a = true) : PresenceRespected w a := by
  constructor
  · rintro pid input call t d rfl ht -
    simp only [respectsPresence, ht, Option.isNone_iff_eq_none] at h
    exact .inl h
  · rintro pid input call g rfl ht -
    simp only [respectsPresence, ht, Bool.and_eq_true] at h
    exact .inl h.1
  · rintro pid input id caller l session p rfl ht
    simp [respectsPresence, ht] at h
  · rintro pid input call g rfl ht - q u hu e r holds
    simp only [respectsPresence, ht, Bool.and_eq_true, List.all_eq_true] at h
    rw [Option.isNone_iff_eq_none.mp (h.2 u (List.mem_of_getElem? hu))] at holds
    cases holds

end TallyAction

/-- The race: human A's socket is served, and human A is disconnected with a deadline. -/
theorem presence_against_ownership :
    ∃ w, (sessionMachine tallyGame {}).Run Machine.unguarded
        (TallyAction.creation.initial {}) w ∧
      TallyAction.presence w = some (false, true, true, true) := by
  have h : ((sessionMachine tallyGame {}).exec (TallyAction.creation.initial {})
      TallyAction.overtaken).map TallyAction.presence = some (some (false, true, true, true)) := rfl
  obtain ⟨w, hw, h⟩ := Option.map_eq_some_iff.mp h
  exact ⟨w, .of_exec_unguarded hw, h⟩

/-- Human A is back: connected, with a connection of its own and without a deadline. -/
theorem presence_matches_ownership_returning :
    ∃ (w : Pool (Cell tallyGame) (Task tallyGame)) (p : SessionParticipant),
      p.connected = true ∧ (w.shared.connections.get p.role).isSome ∧
      p.reconnectDeadlineAt = none := by
  have h : (((sessionMachine tallyGame {}).restrict TallyAction.respectsPresence).exec
      (TallyAction.creation.initial {}) TallyAction.returning).bind (fun w =>
        w.shared.session.bind fun session => (session.participants.lookup (.human 1)).map fun p =>
          (p.role, p.connected, w.tasks.all fun task => !task.arriving .A && !task.departing .A)) =
      some (.A, true, true) := rfl
  obtain ⟨w, hw, h⟩ := Option.bind_eq_some_iff.mp h
  obtain ⟨session, here, h⟩ := Option.bind_eq_some_iff.mp h
  obtain ⟨p, found, h⟩ := Option.map_eq_some_iff.mp h
  simp only [Prod.mk.injEq] at h
  obtain ⟨role, connected, quiet⟩ := h
  have run : (sessionMachine tallyGame {}).Run PresenceRespected
      (TallyAction.creation.initial {}) w :=
    .of_exec (fun _ _ => TallyAction.presenceRespected) hw
  have settled : w.Each fun _ task =>
      task.arriving p.role = false ∧ task.departing p.role = false := by
    intro pid task ht
    rw [role]
    simpa using List.all_eq_true.mp quiet task (List.mem_of_getElem? ht)
  obtain ⟨iff, alive⟩ := presence_matches_ownership run here rfl found settled
  have owned := iff.mp connected
  exact ⟨w, p, connected, owned, (alive owned).1⟩

end Parlando
