import Parlando.Proofs.Memberships

namespace Parlando

open Concurrency

variable {G : Game} {config : ExperimentConfig}

/-- Who sits in which role, as a membership row has it. -/
def SessionParticipantRow.seat (row : SessionParticipantRow) : ParticipantSessionId × PlayerRole :=
  (row.participantSessionId, row.role)

def SessionStore.seats (store : SessionStore) : List (ParticipantSessionId × PlayerRole) :=
  store.members.map SessionParticipantRow.seat

namespace SessionStore

variable {store : SessionStore}

theorem members_insertEvents (records : List SessionEventRecord) (gameTimeMs : Int) :
    (store.insertEvents records gameTimeMs).members = store.members := by
  induction records generalizing store with
  | nil => rfl
  | cons record records ih => exact ih

@[simp] theorem seats_persistTerminalValue (sessionEnd : SessionEnd) (endedAt : Timestamp) :
    (store.persistTerminalValue sessionEnd endedAt).seats = store.seats := by
  simp only [seats, persistTerminalValue, List.map_map]
  refine List.map_congr_left fun member _ => ?_
  simp only [Function.comp_apply]
  split <;> rfl

theorem seats_addSessionParticipant {member : SessionParticipantRow}
    {seat : ParticipantSessionId × PlayerRole}
    (mem : seat ∈ (store.addSessionParticipant member).seats) :
    seat ∈ store.seats ∨ seat = member.seat := by
  unfold addSessionParticipant seats at mem
  split at mem
  · obtain ⟨row, rowMem, rfl⟩ := List.mem_map.mp mem
    obtain ⟨old, oldMem, rfl⟩ := List.mem_map.mp rowMem
    split
    · exact .inr rfl
    · exact .inl (List.mem_map_of_mem oldMem)
  · rw [List.map_append, List.mem_append] at mem
    rcases mem with old | new
    · exact .inl old
    · exact .inr (by simpa using new)

@[simp] theorem seats_updateSessionParticipantConnection (id : ParticipantSessionId)
    (status : String) (leftAt deadline : Option Timestamp) :
    (store.updateSessionParticipantConnection id status leftAt deadline).seats = store.seats := by
  simp only [seats, updateSessionParticipantConnection, List.map_map]
  refine List.map_congr_left fun row _ => ?_
  simp only [Function.comp_apply]
  split <;> rfl

end SessionStore

/-- Only the upsert of a membership changes who sits where. -/
theorem Transaction.seats {update : Transaction} {store : SessionStore}
    {seat : ParticipantSessionId × PlayerRole} (mem : seat ∈ (update.apply store).seats) :
    seat ∈ store.seats ∨ ∃ member, update = .addMember member ∧ seat = member.seat := by
  cases update with
  | append record now => exact .inl mem
  | commit records sessionEnd now =>
    refine .inl ?_
    simp only [Transaction.apply, SessionStore.commitSessionTransition] at mem
    repeat' split at mem
    · exact mem
    · exact mem
    · rw [SessionStore.seats_persistTerminalValue, SessionStore.seats,
        SessionStore.members_insertEvents] at mem
      exact mem
    · rw [SessionStore.seats, SessionStore.members_insertEvents] at mem
      exact mem
  | endSession record sessionEnd now =>
    refine .inl ?_
    simp only [Transaction.apply, SessionStore.endSession] at mem
    split at mem
    · exact mem
    · rw [SessionStore.seats_persistTerminalValue] at mem
      exact mem
  | start startedAt idleDeadlineAt =>
    refine .inl ?_
    simp only [Transaction.apply, SessionStore.startSession] at mem
    split at mem <;> exact mem
  | touch activityAt idleDeadlineAt =>
    refine .inl ?_
    simp only [Transaction.apply, SessionStore.touchSessionActivity] at mem
    split at mem <;> exact mem
  | connection id status leftAt deadline =>
    exact .inl (by simpa [Transaction.apply] using mem)
  | addMember member =>
    exact (SessionStore.seats_addSessionParticipant mem).imp_right fun same => ⟨member, rfl, same⟩

namespace Task

def writes? : Task G → Option SessionParticipant
  | admission _ (.persistRow _ member) | agent _ (.persistRow _ member) => some member
  | _ => none

@[simp] theorem writes?_ofSocket (call : SocketCall) (pc : SocketPc) :
    (ofSocket call pc : Task G).writes? = none := by
  cases pc <;> rfl

@[simp] theorem writes?_ofEvent (call : EventCall) (caller : EventCaller) (pc : EventPc) :
    (ofEvent config call caller pc : Task G).writes? = none := by
  cases caller <;> cases pc <;> first | rfl | exact writes?_ofSocket _ _

section Steps

variable {cell : Cell G} {pid : Nat} {input : Input} {sec : Section G} {task task' : Task G}
  {started : List (Task G)}

theorem next_addMember {row : SessionParticipantRow}
    (h : task.next config cell pid input = some (.transaction (.addMember row), task', started)) :
    ∃ member, task.writes? = some member ∧
      row.seat = (member.participantSessionId, member.role) := by
  have kind := next_kind h
  cases task <;> simp [kinds, Section.kind, Transaction.kind] at kind
  all_goals
    obtain ⟨⟨sec', pc'⟩, hs, he⟩ := Option.map_eq_some_iff.mp h
    rename_i pc
  · cases pc <;> simp only [AdmitPc.step] at hs <;>
      repeat' first | split at hs | cases hs | cases he
    exact ⟨_, rfl, rfl⟩
  · cases pc <;> simp only [AgentPc.step] at hs <;>
      repeat' first | split at hs | cases hs | cases he
    exact ⟨_, rfl, rfl⟩

theorem found_of_findMember {session : Option (LiveSession G)} {id : ParticipantSessionId}
    {member : SessionParticipant} (h : findMember session id = .ok member) :
    ∃ live, session = some live ∧ live.participants.lookup id = some member := by
  unfold findMember at h
  split at h
  · cases h
  · split at h <;> cases h
    exact ⟨_, rfl, ‹_›⟩

/-- What a task is about to write it has just read in memory, or was about to write before. -/
theorem next_writes (h : task.next config cell pid input = some (sec, task', started))
    {member : SessionParticipant} (writes : task'.writes? = some member) :
    task.writes? = some member ∨ ∃ session id, cell.session = some session ∧
      session.participants.lookup id = some member := by
  cases task
  all_goals
    obtain ⟨⟨sec', pc'⟩, hs, he⟩ := Option.map_eq_some_iff.mp h
    cases he
    rename_i pc
  case admission participant =>
    cases pc <;> simp only [AdmitPc.step] at hs <;>
      repeat' first | split at hs | cases hs | cases writes
    rename_i read
    obtain ⟨live, here, found⟩ := found_of_findMember read
    exact .inr ⟨live, _, here, found⟩
  case agent call =>
    cases pc <;> simp only [AgentPc.step] at hs <;>
      repeat' first | split at hs | cases hs | cases writes
    rename_i read
    obtain ⟨live, here, found⟩ := found_of_findMember read
    exact .inr ⟨live, _, here, found⟩
  case socket => cases (writes?_ofSocket _ _).symm.trans writes
  case event => cases (writes?_ofEvent _ _ _).symm.trans writes
  case abandon id reason caller => cases caller <;> cases pc' <;> cases writes
  case expire reason caller => cases caller <;> cases pc' <;> cases writes
  case start caller => cases caller <;> cases pc' <;> cases writes
  all_goals cases pc' <;> cases writes

end Steps

end Task

theorem Task.writes?_of_entry {task : Task G} (h : task.entry = true) : task.writes? = none := by
  unfold Task.entry at h
  split at h <;> first | rfl | cases h

namespace LiveSession

variable {session : LiveSession G} {role : PlayerRole} {id : ParticipantSessionId}
  {p : SessionParticipant}

def seatOf (session : LiveSession G) (role : PlayerRole) : Option ParticipantSessionId :=
  (session.participants.entries.find? fun entry => entry.2.role == role).map Sigma.fst

theorem of_seatOf (taken : session.seatOf role = some id) :
    ∃ p, session.participants.lookup id = some p ∧ p.role = role := by
  obtain ⟨⟨key, p⟩, found, rfl⟩ := Option.map_eq_some_iff.mp taken
  refine ⟨p, AList.mem_lookup_iff.mpr (List.mem_of_find?_eq_some found), ?_⟩
  simpa using List.find?_some found

theorem free_of_seatOf (free : session.seatOf role = none)
    (found : session.participants.lookup id = some p) : p.role ≠ role := by
  have mem := AList.mem_lookup_iff.mp found
  simpa using List.find?_eq_none.mp (Option.map_eq_none_iff.mp free) ⟨id, p⟩ mem

end LiveSession

/--
Every role of the session of room `r` is one participant's for ever: in memory, in the membership
rows, and with the tasks that are about to write such a row.
-/
structure Assigned (config : ExperimentConfig) (r : Nat)
    (seats : PlayerRole → Option ParticipantSessionId) (room : Room G) : Prop where
  members : ∀ session id p, room.shared.session = some session →
    session.participants.lookup id = some p → p.participantSessionId = id ∧ seats p.role = some id
  rows : ∀ seat ∈ room.shared.store.seats, seats seat.2 = some seat.1
  writing : room.Each fun _ task => ∀ member, task.writes? = some member →
    seats member.role = some member.participantSessionId
  humans : config.agentsMode = .humanVsHuman → ∀ session, room.shared.session = some session →
    ∀ role id, seats role = some id → ∃ p, session.participants.lookup id = some p ∧ p.role = role
  agents : config.agentsMode = .humanVsAgent → ∀ id, seats .B = some id → id = .agent r

namespace Assigned

variable {r : Nat} {seats seats' : PlayerRole → Option ParticipantSessionId} {room : Room G}
  {pid : Nat} {input : Input} {sec : Section G} {task task' : Task G} {started : List (Task G)}

/-- After a step the rows and their writers have the seats there were. -/
theorem after (assigned : Assigned config r seats room)
    (kept : ∀ role id, seats role = some id → seats' role = some id)
    (ht : room.tasks[pid]? = some task)
    (hn : task.next config room.shared pid input = some (sec, task', started))
    (members : ∀ session' id p, (room.shared.apply config sec).session = some session' →
      session'.participants.lookup id = some p →
        p.participantSessionId = id ∧ seats' p.role = some id)
    (humans : config.agentsMode = .humanVsHuman →
      ∀ session', (room.shared.apply config sec).session = some session' →
      ∀ role id, seats' role = some id →
        ∃ p, session'.participants.lookup id = some p ∧ p.role = role)
    (agents : config.agentsMode = .humanVsAgent → ∀ id, seats' .B = some id → id = .agent r) :
    Assigned config r seats' ⟨{ room.shared.apply config sec with clock := input.now },
      room.tasks.set pid task' ++ started⟩ where
  members := members
  humans := humans
  agents := agents
  rows := by
    intro seat mem
    have stays : seat ∈ room.shared.store.seats → seats' seat.2 = some seat.1 :=
      fun old => kept _ _ (assigned.rows seat old)
    cases sec
    case transaction update =>
      rcases Transaction.seats mem with old | ⟨row, rfl, rfl⟩
      · exact stays old
      · obtain ⟨member, writes, same⟩ := Task.next_addMember hn
        rw [same]
        exact kept _ _ (assigned.writing pid task ht member writes)
    all_goals exact stays mem
  writing := by
    refine .after ?_ ?_ ?_
    · intro member writes
      rcases Task.next_writes hn writes with before | ⟨session, id, here, found⟩
      · exact kept _ _ (assigned.writing pid task ht member before)
      · obtain ⟨name, seat⟩ := assigned.members session id member here found
        rw [name]
        exact kept _ _ seat
    · intro q u _ hu member writes
      exact kept _ _ (assigned.writing q u hu member writes)
    · intro u mem _ member writes
      obtain ⟨call, deadline, -, rfl⟩ := Task.mem_started hn mem
      cases writes

/-- Between two humans nobody leaves his seat while the session is in memory. -/
theorem stays (assigned : Assigned config r seats room)
    (mode : config.agentsMode = .humanVsHuman) (sound : ∀ o, task.owner = some o → o.Sound config)
    (hn : task.next config room.shared pid input = some (sec, task', started))
    {session' : LiveSession G} (here : (room.shared.apply config sec).session = some session')
    {role : PlayerRole} {id : ParticipantSessionId} (seat : seats role = some id) :
    ∃ p, session'.participants.lookup id = some p ∧ p.role = role := by
  obtain ⟨session, before, step⟩ := Cell.apply_step here
  obtain ⟨q, found, held⟩ := assigned.humans mode session before role id seat
  obtain ⟨noAttach, noDetach⟩ := Task.next_noAgents mode sound hn
  have look := step.members.lookup id
  generalize now : session'.participants.lookup id = after at look
  cases look with
  | @kept _ f same => exact ⟨f q, by rw [found]; rfl, (same q).role.trans held⟩
  | connect t => exact ⟨q.connect t, by rw [found]; rfl, held⟩
  | disconnect t d => exact ⟨q.disconnect t d, by rw [found]; rfl, held⟩
  | joined participant t role' own fresh => cases fresh.symm.trans found
  | attached agent t => exact absurd rfl (noAttach agent t)
  | detached => exact absurd rfl (noDetach id)

/-- A seat taken in memory is free in the books, or was this participant's already. -/
theorem seat_of (assigned : Assigned config r seats room)
    (owners : ∀ o, task.owner = some o → o.Of config r)
    (hn : task.next config room.shared pid input = some (sec, task', started))
    {session' : LiveSession G} (here : (room.shared.apply config sec).session = some session')
    {id other : ParticipantSessionId} {p : SessionParticipant}
    (found : session'.participants.lookup id = some p) (seat : seats p.role = some other) :
    other = id := by
  obtain ⟨session, before, step⟩ := Cell.apply_step here
  cases step.seat found with
  | kept found' same =>
    have := (assigned.members session id _ before found').2
    rw [same, seat] at this
    exact Option.some.inj this
  | joined own free =>
    cases Task.next_addHuman hn
    obtain ⟨⟨-, -, mode⟩, -⟩ := owners _ rfl
    obtain ⟨q, foundQ, held⟩ := assigned.humans mode session before _ _ seat
    exact absurd held (LiveSession.free_of_nextRole free foundQ)
  | attached own second =>
    obtain ⟨call, owned, rfl⟩ := Task.next_attachAgent hn
    obtain ⟨⟨-, mode⟩, name⟩ := owners _ owned
    rw [second] at seat
    rw [assigned.agents mode other seat, ← own, name call rfl]

/-- A member is entered under the participant's own id. -/
theorem named_step (assigned : Assigned config r seats room) {session' : LiveSession G}
    (here : (room.shared.apply config sec).session = some session')
    {id : ParticipantSessionId} {p : SessionParticipant}
    (found : session'.participants.lookup id = some p) : p.participantSessionId = id := by
  obtain ⟨session, before, step⟩ := Cell.apply_step here
  have was : ∀ q, session.participants.lookup id = some q → q.participantSessionId = id :=
    fun q foundQ => (assigned.members session id q before foundQ).1
  have look := step.members.lookup id
  generalize now : session'.participants.lookup id = after at look
  rw [found] at now
  cases look with
  | @kept _ f same =>
    obtain ⟨q, foundQ, rfl⟩ := Option.map_eq_some_iff.mp now.symm
    exact (same q).participantSessionId.trans (was q foundQ)
  | connect t =>
    obtain ⟨q, foundQ, rfl⟩ := Option.map_eq_some_iff.mp now.symm
    exact was q foundQ
  | disconnect t d =>
    obtain ⟨q, foundQ, rfl⟩ := Option.map_eq_some_iff.mp now.symm
    exact was q foundQ
  | joined participant t role own =>
    cases now
    exact own
  | attached agent t own =>
    cases now
    exact own
  | detached => cases now

/-- The books after a step: a free seat goes to whoever has taken it in memory. -/
def next (seats : PlayerRole → Option ParticipantSessionId) (cell : Cell G) (role : PlayerRole) :
    Option ParticipantSessionId :=
  (seats role).or (cell.session.bind fun session => session.seatOf role)

theorem next_some {cell : Cell G} {role : PlayerRole} {id : ParticipantSessionId}
    (seat : next seats cell role = some id) : seats role = some id ∨
      ∃ session p, cell.session = some session ∧ session.participants.lookup id = some p ∧
        p.role = role := by
  unfold next at seat
  cases held : seats role with
  | some other =>
    rw [held] at seat
    exact .inl seat
  | none =>
    rw [held, Option.none_or] at seat
    obtain ⟨session, here, taken⟩ := Option.bind_eq_some_iff.mp seat
    obtain ⟨p, found, same⟩ := LiveSession.of_seatOf taken
    exact .inr ⟨session, p, here, found, same⟩

theorem step (assigned : Assigned config r seats room) (ht : room.tasks[pid]? = some task)
    (hn : task.next config room.shared pid input = some (sec, task', started))
    (owners : ∀ o, task.owner = some o → o.Of config r)
    (seated : ∀ session', (room.shared.apply config sec).session = some session' →
      Seated config r session') :
    Assigned config r (next seats (room.shared.apply config sec))
      ⟨{ room.shared.apply config sec with clock := input.now },
        room.tasks.set pid task' ++ started⟩ := by
  have kept : ∀ role id, seats role = some id →
      next seats (room.shared.apply config sec) role = some id := by
    intro role id seat
    rw [next, seat]
    rfl
  refine assigned.after kept ht hn ?_ ?_ ?_
  · intro session' id p here found
    refine ⟨assigned.named_step here found, ?_⟩
    cases seat : next seats (room.shared.apply config sec) p.role with
    | some other =>
      rcases next_some seat with old | ⟨session₂, q, here₂, found₂, same⟩
      · exact congrArg some (assigned.seat_of owners hn here found old)
      · cases here.symm.trans here₂
        exact congrArg some ((seated session' here).distinct other id q p found₂ found same)
    | none =>
      obtain ⟨-, free⟩ := Option.or_eq_none_iff.mp seat
      rw [here] at free
      exact absurd rfl (LiveSession.free_of_seatOf free found)
  · intro mode session' here role id seat
    rcases next_some seat with old | ⟨session₂, q, here₂, found₂, same⟩
    · exact assigned.stays mode (fun o owned => (owners o owned).1) hn here old
    · cases here.symm.trans here₂
      exact ⟨q, found₂, same⟩
  · intro mode id seat
    rcases next_some seat with old | ⟨session', q, here, found, same⟩
    · exact assigned.agents mode id old
    · cases human : id.isHuman with
      | true =>
        rw [(seated session' here).humans mode id q found human] at same
        cases same
      | false => exact (seated session' here).agents id q found human

end Assigned

/-- At first the participant who has created the session is alone in it. -/
theorem founder_seat {creation : Creation G} {id : ParticipantSessionId} {p : SessionParticipant}
    (found : (LiveSession.created config creation.sessionId creation.state creation.participant
      creation.createdAt creation.createdAt : LiveSession G).participants.lookup id = some p) :
    id = creation.participant.id ∧ p = .joined config creation.participant .A creation.createdAt := by
  change (AList.singleton creation.participant.id _ :
    Map ParticipantSessionId SessionParticipant).lookup id = some p at found
  rw [Map.lookup_singleton] at found
  split at found <;> cases found
  exact ⟨‹_›, rfl⟩

/-- The membership rows of a session never give one role to two participants. -/
theorem rows_seated {r : Nat} {room : Room G} (reached : Reached config r room) :
    ∀ seat ∈ room.shared.store.seats, ∀ other ∈ room.shared.store.seats,
      seat.2 = other.2 → seat = other := by
  have assigned : ∃ seats, Assigned config r seats room := by
    obtain ⟨creation, run⟩ := reached
    refine (run.and_invariant owners_of).invariant_of_reached ?_
      fun {t u a} before ⟨seats, assigned⟩ ⟨met, owners⟩ h => ?_
    · refine ⟨fun role => if role = .A then some creation.participant.id else none, ?_⟩
      refine ⟨?_, ?_, ?_, ?_, ?_⟩
      · intro session id p here found
        cases here
        obtain ⟨rfl, rfl⟩ := founder_seat found
        exact ⟨rfl, if_pos rfl⟩
      · intro seat mem
        cases mem
      · intro q task ht
        cases ht
      · intro _ session here role id seat
        cases here
        split at seat <;> cases seat
        rename_i first
        refine ⟨.joined config creation.participant .A creation.createdAt, ?_, first.symm⟩
        change (AList.singleton _ _ : Map _ _).lookup _ = _
        rw [Map.lookup_singleton, if_pos rfl]
      · intro _ id seat
        cases seat
    · rcases Program.step_cases h with ⟨task, rfl, entered, rfl⟩ |
        ⟨pid, input, task, cell', task', started, rfl, ht, hs, rfl⟩
      · refine ⟨seats, assigned.members, assigned.rows, ?_, assigned.humans, assigned.agents⟩
        refine assigned.writing.append (fun _ _ h => h) fun _ member writes => ?_
        cases (Task.writes?_of_entry (session_entry entered).1).symm.trans writes
      · obtain ⟨sec, hn, -, rfl⟩ := session_step hs
        refine ⟨_, assigned.step ht hn (owners pid task ht) fun session' here => ?_⟩
        have after : Reached config r _ := ⟨creation,
          (before.mono fun _ _ both => both.1).tail met h⟩
        exact room_seated after session' here
  obtain ⟨seats, assigned⟩ := assigned
  intro seat mem other otherMem same
  have mine := assigned.rows seat mem
  have theirs := assigned.rows other otherMem
  rw [same, theirs] at mine
  exact Prod.ext (Option.some.inj mine).symm same

end Parlando
