import Parlando.Proofs.Rooms

namespace Parlando

open Concurrency

variable {G : Game} {config : ExperimentConfig}

structure Seated (config : ExperimentConfig) (r : Nat) (session : LiveSession G) : Prop where
  agents : ∀ id p, session.participants.lookup id = some p → id.isHuman = false → id = .agent r
  humans : config.agentsMode = .humanVsAgent →
    ∀ id p, session.participants.lookup id = some p → id.isHuman = true → p.role = .A
  distinct : ∀ id id' p p', session.participants.lookup id = some p →
    session.participants.lookup id' = some p' → p.role = p'.role → id = id'

inductive SeatFrom (session : LiveSession G) (id : ParticipantSessionId)
    (role : PlayerRole) : Section G → Prop where
  | kept {sec : Section G} {p : SessionParticipant}
      (found : session.participants.lookup id = some p) (same : p.role = role) :
    SeatFrom session id role sec
  | joined {participant : ParticipantSession} {now : Timestamp} (own : participant.id = id)
      (free : session.nextRole = some role) :
    SeatFrom session id role (.memory (.addHuman participant now))
  | attached {agent : ParticipantSession} {now : Timestamp} (own : agent.id = id)
      (second : role = .B) :
    SeatFrom session id role (.memory (.attachAgent agent now))

theorem SessionStep.seat {sec : Section G} {session session' : LiveSession G}
    (step : SessionStep config sec session session') {id : ParticipantSessionId}
    {p' : SessionParticipant} (found : session'.participants.lookup id = some p') :
    SeatFrom session id p'.role sec := by
  have look := step.members.lookup id
  generalize now : session'.participants.lookup id = after at look
  rw [found] at now
  cases look with
  | @kept _ f same =>
    obtain ⟨p, before, rfl⟩ := Option.map_eq_some_iff.mp now.symm
    exact .kept before (same p).role.symm
  | connect t =>
    obtain ⟨p, before, rfl⟩ := Option.map_eq_some_iff.mp now.symm
    exact .kept before rfl
  | disconnect t d =>
    obtain ⟨p, before, rfl⟩ := Option.map_eq_some_iff.mp now.symm
    exact .kept before rfl
  | joined participant t role own _ free =>
    cases now
    exact .joined own free
  | attached agent t own =>
    cases now
    exact .attached own rfl
  | detached => cases now

theorem LiveSession.free_of_nextRole {session : LiveSession G} {role : PlayerRole}
    (free : session.nextRole = some role) {id : ParticipantSessionId} {p : SessionParticipant}
    (found : session.participants.lookup id = some p) : p.role ≠ role := by
  rintro rfl
  have taken : session.hasRole p.role = true := hasRole_iff.mpr ⟨id, p, found, rfl⟩
  unfold nextRole at free
  split at free
  · rename_i vacant
    rw [← Option.some.inj free] at taken
    simp [taken] at vacant
  · split at free
    · rename_i vacant
      rw [← Option.some.inj free] at taken
      simp [taken] at vacant
    · cases free

theorem Seated.step {r : Nat} {sec : Section G} {session session' : LiveSession G}
    (seated : Seated config r session) (step : SessionStep config sec session session')
    (joins : ∀ participant now, sec = .memory (.addHuman participant now) →
      participant.id.isHuman = true ∧ config.agentsMode = .humanVsHuman)
    (attaches : ∀ agent now, sec = .memory (.attachAgent agent now) →
      agent.id = .agent r ∧ config.agentsMode = .humanVsAgent) :
    Seated config r session' where
  agents := by
    intro id p found agent
    cases step.seat found with
    | kept before => exact seated.agents id _ before agent
    | joined own =>
      rw [← own, (joins _ _ rfl).1] at agent
      cases agent
    | attached own => exact own.symm.trans (attaches _ _ rfl).1
  humans := by
    intro mode id p found human
    cases step.seat found with
    | kept before same => exact same.symm.trans (seated.humans mode id _ before human)
    | joined =>
      rw [(joins _ _ rfl).2] at mode
      cases mode
    | attached own =>
      rw [← own, (attaches _ _ rfl).1] at human
      cases human
  distinct := by
    have second : ∀ {agent : ParticipantSession} {now : Timestamp} {id : ParticipantSessionId}
        {p : SessionParticipant}, sec = .memory (.attachAgent agent now) →
        session.participants.lookup id = some p → p.role = .B → agent.id = id := by
      intro agent now id p attached found role
      obtain ⟨own, mode⟩ := attaches agent now attached
      cases human : id.isHuman with
      | true =>
        rw [seated.humans mode id p found human] at role
        cases role
      | false => exact own.trans (seated.agents id p found human).symm
    intro id id' p p' found found' same
    cases step.seat found with
    | kept before role =>
      cases step.seat found' with
      | kept before' role' =>
        exact seated.distinct id id' _ _ before before' (role.trans (same.trans role'.symm))
      | joined own free =>
        exact absurd (role.trans same) (LiveSession.free_of_nextRole free before)
      | attached own role' => exact (second rfl before (role.trans (same.trans role'))).symm.trans own
    | joined own free =>
      cases step.seat found' with
      | kept before' role' =>
        exact absurd (role'.trans same.symm) (LiveSession.free_of_nextRole free before')
      | joined own' => exact own.symm.trans own'
    | attached own role =>
      cases step.seat found' with
      | kept before' role' =>
        exact own.symm.trans (second rfl before' (role'.trans (same.symm.trans role)))
      | attached own' => exact own.symm.trans own'

def Owner.Of (config : ExperimentConfig) (r : Nat) (o : Owner) : Prop :=
  o.Sound config ∧ ∀ call, o = .agent call → call.participant.id = .agent r

theorem owners_of {r : Nat} {creation : Creation G} {room : Room G}
    (run : (sessionMachine G config).Run (OwnAgent r) (creation.initial config) room) :
    room.Each fun _ task => ∀ o, task.owner = some o → o.Of config r := by
  refine owners_keep (fun {w task} own enter o owned => ⟨Task.owner_sound enter o owned, ?_⟩) run rfl
  rintro call rfl
  have entry := (session_entry enter).1
  unfold Task.entry at entry
  split at entry <;> try cases owned
  · exact own _ _ rfl
  · cases entry

theorem room_seated {r : Nat} {room : Room G} (reached : Reached config r room) :
    ∀ session, room.shared.session = some session → Seated config r session := by
  obtain ⟨creation, run⟩ := reached
  refine (run.and_invariant owners_of).invariant (fun session here => ?_)
    fun {t u a} seated ⟨_, owners⟩ h session' here => ?_
  · cases here
    have founder : ∀ id p, (LiveSession.created config creation.sessionId creation.state
        creation.participant creation.createdAt creation.createdAt).participants.lookup id =
          some p → id = creation.participant.id ∧ p.role = .A := by
      intro id p found
      change (AList.singleton creation.participant.id _ :
        Map ParticipantSessionId SessionParticipant).lookup id = some p at found
      rw [Map.lookup_singleton] at found
      split at found <;> cases found
      exact ⟨‹_›, rfl⟩
    refine ⟨fun id p found agent => ?_, fun _ id p found _ => (founder id p found).2,
      fun id id' p p' found found' _ => (founder id p found).1.trans (founder id' p' found').1.symm⟩
    rw [(founder id p found).1, creation.isHuman] at agent
    cases agent
  rcases Program.step_cases h with ⟨task, rfl, -, rfl⟩ |
    ⟨pid, input, task, cell', task', started, rfl, ht, hs, rfl⟩
  · exact seated session' here
  · obtain ⟨sec, hn, -, rfl⟩ := session_step hs
    obtain ⟨session, before, step⟩ := Cell.apply_step here
    refine (seated session before).step step (fun participant now joins => ?_)
      fun agent now attaches => ?_
    · subst joins
      cases Task.next_addHuman hn
      obtain ⟨⟨human, -, mode⟩, -⟩ := owners pid _ ht _ rfl
      exact ⟨human, mode⟩
    · subst attaches
      obtain ⟨call, owned, rfl⟩ := Task.next_attachAgent hn
      obtain ⟨⟨-, mode⟩, own⟩ := owners pid _ ht _ owned
      exact ⟨own call rfl, mode⟩

/-- The participant is in the session of the room. -/
def Inside (room : Room G) (id : ParticipantSessionId) : Prop :=
  ∃ session p, room.shared.session = some session ∧ session.participants.lookup id = some p

/-- The participant is in the session of room `r`. -/
def MemberOf (rooms : List (Room G)) (r : Nat) (id : ParticipantSessionId) : Prop :=
  ∃ room, rooms[r]? = some room ∧ Inside room id

/-- Humans enter a session through the pairing of a request only. -/
theorem human_entered {r : Nat} {room room' : Room G} {a : Pool.Action (Task G) Input}
    (reached : Reached config r room) (ran : (sessionMachine G config).step room a = some room')
    {id : ParticipantSessionId} (human : id.isHuman = true) (inside : Inside room' id) :
    Inside room id ∨ ∃ pid input participant, a = .run pid input ∧
      room.tasks[pid]? = some (.pair participant .join) ∧ id = participant.id := by
  obtain ⟨creation, run⟩ := reached
  obtain ⟨session', p', here, found⟩ := inside
  rcases Program.step_cases ran with ⟨task, rfl, -, rfl⟩ |
    ⟨pid, input, task, cell', task', started, rfl, ht, hs, rfl⟩
  · exact .inl ⟨session', p', here, found⟩
  obtain ⟨sec, hn, -, rfl⟩ := session_step hs
  obtain ⟨session, before, step⟩ := Cell.apply_step here
  cases step.seat found with
  | kept found => exact .inl ⟨session, _, before, found⟩
  | joined own =>
    cases Task.next_addHuman hn
    exact .inr ⟨pid, input, _, rfl, ht, own.symm⟩
  | attached own =>
    obtain ⟨call, owned, rfl⟩ := Task.next_attachAgent hn
    rw [← own, ((owners_of run) pid _ ht _ owned).2 call rfl] at human
    cases human

/-- A member after one room has changed is a member of that room, or was one before. -/
theorem MemberOf.of_set {rooms : List (Room G)} {r q : Nat} {room' : Room G}
    {id : ParticipantSessionId} (member : MemberOf (rooms.set r room') q id) :
    q = r ∧ Inside room' id ∨ MemberOf rooms q id := by
  obtain ⟨room, here, inside⟩ := member
  rw [List.getElem?_set] at here
  split at here
  · rename_i same
    split at here <;> cases here
    exact .inl ⟨same.symm, inside⟩
  · exact .inr ⟨room, here, inside⟩

namespace RequestPc

variable {applicant : Applicant} {runtime runtime' : Runtime G} {pid : Nat}

/-- A request makes its own participant a member, and no other human. -/
theorem Step.member {pc pc' : RequestPc} {rooms : List (Room G)}
    (did : Step config applicant runtime pc rooms pc')
    (sound : pc.Sound config runtime pid applicant)
    (reached : ∀ r room, runtime.rooms[r]? = some room → Reached config r room)
    {q : Nat} {id : ParticipantSessionId} (human : id.isHuman = true)
    (member : MemberOf rooms q id) :
    MemberOf runtime.rooms q id ∨
      id = applicant.participant.id ∧ ((∃ k, pc = join q k) ∨
        pc = insert ∧ q = runtime.rooms.length) := by
  cases did with
  | stays => exact .inl member
  | granted => exact .inl member
  | found here paired =>
    rcases member.of_set with ⟨rfl, session, p, inside, found⟩ | old
    · rw [(paired_room paired).2] at inside
      exact .inl ⟨_, here, session, p, inside, found⟩
    · exact .inl old
  | @joined r k room room' _ _ here ran =>
    rcases member.of_set with ⟨rfl, inside⟩ | old
    · rcases human_entered (reached _ _ here) ran human inside with
        inside | ⟨_, _, participant, same, ht, own⟩
      · exact .inl ⟨room, here, inside⟩
      · cases same
        obtain ⟨room₁, here₁, paired⟩ := sound.pairing _ _ rfl
        cases here.symm.trans here₁
        cases ht.symm.trans paired
        exact .inr ⟨own, .inl ⟨k, rfl⟩⟩
    · exact .inl old
  | @created creation own =>
    obtain ⟨room, here, session, p, inside, found⟩ := member
    by_cases old : q < runtime.rooms.length
    · exact .inl ⟨room, (List.getElem?_append_left old).symm.trans here, session, p, inside, found⟩
    · rw [List.getElem?_append_right (Nat.le_of_not_lt old), List.getElem?_singleton] at here
      split at here <;> cases here
      cases inside
      change (AList.singleton creation.participant.id _ :
        Map ParticipantSessionId SessionParticipant).lookup id = some p at found
      rw [Map.lookup_singleton, own] at found
      split at found <;> cases found
      exact .inr ⟨‹_›, .inr ⟨rfl, by omega⟩⟩
  | dropped =>
    obtain ⟨room, here, inside⟩ := member
    exact .inl ⟨room, rooms_dropLast here, inside⟩
  | spawned here entered =>
    rcases member.of_set with ⟨rfl, inside⟩ | old
    · rcases human_entered (reached _ _ here) entered human inside with
        inside | ⟨_, _, _, same, _⟩
      · exact .inl ⟨_, here, inside⟩
      · cases same
    · exact .inl old

end RequestPc

/--
Where a request adds its participant to a session, the participant is in no other one: the check
that `create_session` makes before it waits for its turn would still succeed.
-/
structure AdmitsOnce (w : Pool (Runtime G) RuntimeTask)
    (a : Pool.Action RuntimeTask (RuntimeInput G)) : Prop where
  pairing : ∀ pid input applicant r k, a = .run pid input →
    w.tasks[pid]? = some (.request applicant (.join r k)) →
    ∀ q, MemberOf w.shared.rooms q applicant.participant.id → q = r
  creation : ∀ pid input applicant, a = .run pid input →
    w.tasks[pid]? = some (.request applicant .insert) →
    ∀ q, ¬MemberOf w.shared.rooms q applicant.participant.id

def HumansApart (rooms : List (Room G)) : Prop :=
  ∀ r q id, id.isHuman = true → MemberOf rooms r id → MemberOf rooms q id → r = q

/-- In a run whose admissions find their participant in no other session, humans stay apart. -/
theorem humans_apart {w : Pool (Runtime G) RuntimeTask}
    (run : (runtimeMachine G config).Run AdmitsOnce (Runtime.initial G) w) :
    HumansApart w.shared.rooms := by
  refine run.invariant_of_reached (fun r q id _ member => ?_) fun {t u a} before apart met h => ?_
  · obtain ⟨room, here, -⟩ := member
    cases here
  rcases Program.step_cases h with ⟨task, rfl, -, rfl⟩ |
    ⟨pid, input, task, runtime', task', started, rfl, ht, hs, rfl⟩
  · exact apart
  have reached := rooms_reached before
  obtain ⟨-, ⟨applicant, pc, pc', given, rfl, rfl, -, stepped⟩ |
    ⟨s, action, room, room', rfl, rfl, -, here, own, ran, rfl⟩⟩ := runtime_step hs
  · have did := RequestPc.step_rooms stepped
    have sound := admissions_sound before pid _ ht _ _ rfl
    intro r q id human first second
    rcases did.member sound reached human first with old | ⟨rfl, new⟩
    · rcases did.member sound reached human second with old' | ⟨rfl, new'⟩
      · exact apart r q id human old old'
      · rcases new' with ⟨k, rfl⟩ | ⟨rfl, -⟩
        · exact met.pairing _ _ _ _ _ rfl ht r old
        · exact absurd old (met.creation _ _ _ rfl ht r)
    · rcases did.member sound reached human second with old' | ⟨-, new'⟩
      · rcases new with ⟨k, rfl⟩ | ⟨rfl, -⟩
        · exact (met.pairing _ _ _ _ _ rfl ht q old').symm
        · exact absurd old' (met.creation _ _ _ rfl ht q)
      · rcases new with ⟨k, rfl⟩ | ⟨rfl, rfl⟩ <;> rcases new' with ⟨k', same⟩ | ⟨same, rfl⟩ <;>
          cases same
        · rfl
        · rfl
  · have kept : ∀ q id, id.isHuman = true → MemberOf (t.shared.rooms.set s room') q id →
        MemberOf t.shared.rooms q id := by
      intro q id human member
      rcases member.of_set with ⟨rfl, inside⟩ | old
      · rcases human_entered (reached _ _ here) ran human inside with
          inside | ⟨k, _, participant, rfl, paired, -⟩
        · exact ⟨room, here, inside⟩
        · simp [Runtime.ownAction, paired] at own
      · exact old
    intro r q id human first second
    exact apart r q id human (kept r id human first) (kept q id human second)

/--
A participant is a member of at most one session, and no session seats two participants in one
role.
-/
theorem one_session_per_participant {config : ExperimentConfig} {w : Pool (Runtime G) RuntimeTask}
    (run : (runtimeMachine G config).Run AdmitsOnce (Runtime.initial G) w) :
    (∀ r q id, MemberOf w.shared.rooms r id → MemberOf w.shared.rooms q id → r = q) ∧
    (∀ (r : Nat) (room : Room G) (session : LiveSession G), w.shared.rooms[r]? = some room →
      room.shared.session = some session →
      ∀ id id' p p', session.participants.lookup id = some p →
        session.participants.lookup id' = some p' → p.role = p'.role → id = id') := by
  have seated : ∀ (r : Nat) (room : Room G) (session : LiveSession G), w.shared.rooms[r]? = some room →
      room.shared.session = some session → Seated config r session :=
    fun r room session here => room_seated (rooms_reached run r room here) session
  refine ⟨fun r q id first second => ?_, fun r room session here inside =>
    (seated r room session here inside).distinct⟩
  cases human : id.isHuman with
  | true => exact humans_apart run r q id human first second
  | false =>
    obtain ⟨room, here, session, p, inside, found⟩ := first
    obtain ⟨room', here', session', p', inside', found'⟩ := second
    have mine := (seated r room session here inside).agents id p found human
    have theirs := (seated q room' session' here' inside').agents id p' found' human
    exact ParticipantSessionId.agent.inj (mine.symm.trans theirs)

abbrev TallyRequest := Pool.Action RuntimeTask (RuntimeInput tallyGame)

namespace TallyRequest

def applicant (serial : Nat) : Applicant :=
  ⟨TallyAction.human serial, TallyAction.human_isHuman serial, TallyAction.human_notAgent serial⟩

def request (serial : Nat) : TallyRequest := .spawn (.request (applicant serial) .existing)

def steps (pid count : Nat) : List TallyRequest :=
  List.replicate count (.run pid (.request { now := 0, state := some (0 : Nat) }))

/-- Both requests pass the check for an existing session before either creates one. -/
def duplicates : List TallyRequest :=
  [request 1, request 1] ++ steps 0 3 ++ steps 1 3 ++ steps 0 9 ++ steps 1 9

def partners : List TallyRequest :=
  [request 1] ++ steps 0 14 ++ [request 2] ++ steps 1 7

def isMember (rooms : List (Room tallyGame)) (id : ParticipantSessionId) (r : Nat) : Bool :=
  rooms[r]?.any fun room => room.shared.session.any fun session =>
    (session.participants.lookup id).isSome

theorem memberOf_iff {rooms : List (Room tallyGame)} {id : ParticipantSessionId} {r : Nat} :
    MemberOf rooms r id ↔ isMember rooms id r = true := by
  simp only [isMember, MemberOf, Inside, Option.any_eq_true, Option.isSome_iff_exists]
  constructor
  · rintro ⟨room, here, session, p, inside, found⟩
    exact ⟨room, here, session, inside, p, found⟩
  · rintro ⟨room, here, session, inside, p, found⟩
    exact ⟨room, here, session, p, inside, found⟩

def roomsOf (rooms : List (Room tallyGame)) (id : ParticipantSessionId) : List Nat :=
  (List.range rooms.length).filter (isMember rooms id)

theorem mem_roomsOf {rooms : List (Room tallyGame)} {id : ParticipantSessionId} {r : Nat}
    (member : MemberOf rooms r id) : r ∈ roomsOf rooms id := by
  have found := memberOf_iff.mp member
  obtain ⟨room, here, -⟩ := member
  exact List.mem_filter.mpr
    ⟨List.mem_range.mpr (List.getElem?_eq_some_iff.mp here).1, found⟩

def admitsOnce (w : Pool (Runtime tallyGame) RuntimeTask) : TallyRequest → Bool
  | .spawn _ => true
  | .run pid _ => match w.tasks[pid]? with
    | some (.request applicant (.join r _)) =>
      (roomsOf w.shared.rooms applicant.participant.id).all fun q => q == r
    | some (.request applicant .insert) =>
      (roomsOf w.shared.rooms applicant.participant.id).isEmpty
    | _ => true

theorem admitsOnce_met {w : Pool (Runtime tallyGame) RuntimeTask} {a : TallyRequest}
    (h : admitsOnce w a = true) : AdmitsOnce w a := by
  constructor
  · rintro pid input applicant r k rfl ht q member
    simp only [admitsOnce, ht, List.all_eq_true, beq_iff_eq] at h
    exact h q (mem_roomsOf member)
  · rintro pid input applicant rfl ht q member
    simp only [admitsOnce, ht, List.isEmpty_iff] at h
    have found := mem_roomsOf member
    rw [h] at found
    cases found

end TallyRequest

/-- Two requests of one participant put him in two sessions. -/
theorem one_participant_in_two_sessions :
    ∃ w, (runtimeMachine tallyGame { agentsMode := .humanVsAgent }).Run Machine.unguarded
        (Runtime.initial tallyGame) w ∧
      MemberOf w.shared.rooms 0 (.human 1) ∧ MemberOf w.shared.rooms 1 (.human 1) := by
  have h : ((runtimeMachine tallyGame { agentsMode := .humanVsAgent }).exec
      (Runtime.initial tallyGame) TallyRequest.duplicates).map (fun w =>
        TallyRequest.roomsOf w.shared.rooms (.human 1)) = some [0, 1] := rfl
  obtain ⟨w, hw, h⟩ := Option.map_eq_some_iff.mp h
  have member : ∀ r ∈ TallyRequest.roomsOf w.shared.rooms (.human 1),
      MemberOf w.shared.rooms r (.human 1) :=
    fun r mem => TallyRequest.memberOf_iff.mpr (List.mem_filter.mp mem).2
  rw [h] at member
  exact ⟨w, .of_exec_unguarded hw, member 0 (by simp), member 1 (by simp)⟩

/-- Two partners are members of the same session, in two roles, and of no other. -/
theorem one_session_per_participant_partners :
    ∃ w : Pool (Runtime tallyGame) RuntimeTask,
      MemberOf w.shared.rooms 0 (.human 1) ∧ MemberOf w.shared.rooms 0 (.human 2) ∧
      ∀ r, MemberOf w.shared.rooms r (.human 1) → r = 0 := by
  have h : (((runtimeMachine tallyGame {}).restrict TallyRequest.admitsOnce).exec
      (Runtime.initial tallyGame) TallyRequest.partners).map (fun w =>
        (TallyRequest.isMember w.shared.rooms (.human 1) 0,
          TallyRequest.isMember w.shared.rooms (.human 2) 0)) = some (true, true) := rfl
  obtain ⟨w, hw, h⟩ := Option.map_eq_some_iff.mp h
  obtain ⟨first, second⟩ := Prod.mk.inj h
  have run : (runtimeMachine tallyGame {}).Run AdmitsOnce (Runtime.initial tallyGame) w :=
    .of_exec (fun _ _ => TallyRequest.admitsOnce_met) hw
  have one := (one_session_per_participant run).1
  have member := TallyRequest.memberOf_iff.mpr first
  exact ⟨w, member, TallyRequest.memberOf_iff.mpr second, fun r other => one r 0 _ other member⟩

end Parlando
