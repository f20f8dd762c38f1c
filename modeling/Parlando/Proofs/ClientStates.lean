import Parlando.Data.Except
import Parlando.Proofs.Pause
import Parlando.Proofs.Publishing
import Parlando.Proofs.Roles

namespace Parlando

open Concurrency

variable {G : Game} {config : ExperimentConfig}

def LiveSession.phase (session : LiveSession G) : ParticipantPhase :=
  match session.lifecycle with
  | .forming => .waiting
  | .running => if session.pause.isSome then .paused else .active
  | .ended _ => .ended

/-- The phase of the session in memory. -/
def Cell.phase (cell : Cell G) : Option ParticipantPhase := cell.session.map LiveSession.phase

theorem LiveSession.phase_of_forming {session : LiveSession G}
    (forming : session.lifecycle = .forming) : session.phase = .waiting := by
  simp [phase, forming]

theorem LiveSession.phase_of_running {session : LiveSession G}
    (running : session.lifecycle = .running) :
    session.phase = if session.pause.isSome then .paused else .active := by
  simp [phase, running]

theorem LiveSession.phase_of_ended {session : LiveSession G} {sessionEnd : SessionEnd}
    (ended : session.lifecycle = .ended sessionEnd) : session.phase = .ended := by
  simp [phase, ended]

theorem participantStateResponse_phase {session : LiveSession G} {role : PlayerRole}
    {state : ParticipantState} (h : participantStateResponse (some session) role = .ok state) :
    state.phase = session.phase := by
  simp only [participantStateResponse] at h
  split at h
  · cases h
  · split at h
    · rename_i forming
      cases h
      rw [LiveSession.phase_of_forming forming]
      rfl
    · rename_i running
      rw [LiveSession.phase_of_running running]
      split at h <;> cases h
      · rename_i reason _ paused
        simp [paused, ParticipantState.phase]
      · rename_i _ going
        simp [going, ParticipantState.phase]
    · rename_i sessionEnd ended
      rw [LiveSession.phase_of_ended ended]
      split at h <;> cases h
      rfl

theorem LiveSession.phase_eq_waiting {session : LiveSession G} :
    session.phase = .waiting ↔ session.lifecycle = .forming := by
  unfold phase
  split
  · simp [*]
  · split <;> simp [*]
  · simp [*]

theorem LiveSession.phase_eq_paused {session : LiveSession G} :
    session.phase = .paused ↔ session.lifecycle = .running ∧ session.pause.isSome = true := by
  unfold phase
  split
  · simp [*]
  · split <;> simp [*]
  · simp [*]

section Steps

variable {cell : Cell G} {pid : Nat} {input : Input} {sec : Section G} {task task' : Task G}
  {started : List (Task G)}

/-- A session that is still waiting has been waiting all the time. -/
theorem Cell.phase_waiting (waits : (cell.apply config sec).phase = some .waiting) :
    cell.phase = some .waiting := by
  obtain ⟨session', here, waits⟩ := Option.map_eq_some_iff.mp waits
  obtain ⟨session, before, lifecycle⟩ := Cell.apply_lifecycle here
  rw [LiveSession.phase_eq_waiting] at waits
  refine Option.map_eq_some_iff.mpr ⟨session, before, LiveSession.phase_eq_waiting.mpr ?_⟩
  cases writes : sec.lifecycle with
  | none => rwa [lifecycle, writes] at waits
  | some written =>
    rw [lifecycle, writes] at waits
    cases waits
    exact absurd writes Section.lifecycle_ne_forming

/-- A session is paused only by the pause section of a connection loop, while it runs. -/
theorem Cell.phase_paused (h : task.next config cell pid input = some (sec, task', started))
    (pauses : (cell.apply config sec).phase = some .paused) :
    cell.phase = some .paused ∨ ∃ call deadline, task = .socket call (.pause deadline) ∧
      cell.phase = some .active := by
  obtain ⟨session', here, pauses⟩ := Option.map_eq_some_iff.mp pauses
  obtain ⟨session, before, step⟩ := Cell.apply_step here
  obtain ⟨runs, reason⟩ := LiveSession.phase_eq_paused.mp pauses
  have ran (unwritten : sec.lifecycle = none) : session.lifecycle = .running := by
    rwa [step.lifecycle, unwritten] at runs
  have kept (unwritten : sec.lifecycle = none) (pause : session.pause.isSome = true) :
      cell.phase = some .paused :=
    Option.map_eq_some_iff.mpr
      ⟨session, before, LiveSession.phase_eq_paused.mpr ⟨ran unwritten, pause⟩⟩
  rw [step.pause] at reason
  unfold Section.pause at reason
  split at reason
  · split at reason
    · cases reason
    · exact .inl (kept rfl reason)
  · rename_i deadline
    obtain ⟨call, rfl⟩ := Task.next_pause h
    cases already : session.pause with
    | some _ => exact .inl (kept rfl (by rw [already]; rfl))
    | none =>
      refine .inr ⟨call, deadline, rfl, Option.map_eq_some_iff.mpr ⟨session, before, ?_⟩⟩
      simp [LiveSession.phase, ran rfl, already]
  · cases reason
  · cases reason
  · rename_i noStart _
    refine .inl (kept ?_ reason)
    cases writes : sec.lifecycle with
    | none => rfl
    | some written =>
      have running : written = .running := by rw [← runs, step.lifecycle, writes]; rfl
      obtain ⟨startedAt, idleDeadlineAt, rfl⟩ := Section.start_of_lifecycle (running ▸ writes)
      exact absurd rfl (noStart _ _)

end Steps

def GameSocket.stream (bus : Broadcast (ServerMessage ServerPayload))
    (socket : GameSocket ServerPayload) : List (ServerMessage ServerPayload) :=
  (bus.sent.drop socket.subscribedAt).filter (ServerMessage.isFor socket.participantSessionId)

def Accepts (shown : ParticipantState) (states : List ParticipantState) : Prop :=
  ∃ final, applySnapshots shown states = .ok final

theorem applySnapshots_append (shown : ParticipantState) (states rest : List ParticipantState) :
    applySnapshots shown (states ++ rest) =
      (applySnapshots shown states).bind fun state => applySnapshots state rest := by
  induction states generalizing shown with
  | nil => rfl
  | cons next states ih =>
    simp only [List.cons_append, applySnapshots]
    split
    · rename_i ended
      cases rest with
      | nil => rfl
      | cons first rest => simp [Except.bind, applySnapshots, ended]
    · cases reduceParticipantState (some shown) next with
      | error message => rfl
      | ok state => exact ih state

/-- Whoever accepts snapshots accepts the first of them. -/
theorem Accepts.of_append {shown : ParticipantState} {states rest : List ParticipantState}
    (accepts : Accepts shown (states ++ rest)) : Accepts shown states := by
  obtain ⟨final, all⟩ := accepts
  rw [applySnapshots_append] at all
  obtain ⟨state, first, -⟩ := Except.of_bind_ok all
  exact ⟨state, first⟩

def lastShown (shown : ParticipantState) (states : List ParticipantState) : ParticipantState :=
  states.getLastD shown

/-- A client that shows no end shows the last snapshot. -/
theorem applySnapshots_last {shown final : ParticipantState} {states : List ParticipantState}
    (all : applySnapshots shown states = .ok final) (goesOn : final.phase ≠ .ended) :
    final = lastShown shown states := by
  induction states generalizing shown with
  | nil =>
    cases all
    rfl
  | cons next states ih =>
    simp only [applySnapshots] at all
    split at all
    · cases all
      contradiction
    · have reduced : reduceParticipantState (some shown) next = .ok next ∨
          ∃ message, reduceParticipantState (some shown) next = .error message := by
        simp only [reduceParticipantState]
        split
        · exact .inl rfl
        · split
          · exact .inl rfl
          · exact .inr ⟨_, rfl⟩
      rcases reduced with taken | ⟨message, refused⟩
      · rw [taken] at all
        rw [ih all, lastShown, lastShown, List.getLastD_cons]
      · rw [refused] at all
        cases all

theorem snapshots_append (messages rest : List (ServerMessage ServerPayload)) :
    snapshots (messages ++ rest) = snapshots messages ++ snapshots rest :=
  List.filterMap_append

structure Shows (phase : Option ParticipantPhase) (state : ParticipantState) : Prop where
  joined : state.phase ≠ .registered
  waiting : phase = some .waiting → state.phase = .waiting
  paused : phase = some .paused → state.phase ≠ .waiting

/-- A snapshot of the end, or of the session's own phase, is a change the client knows. -/
theorem Shows.allowed {phase : Option ParticipantPhase} {state next : ParticipantState}
    (shows : Shows phase state) (goesOn : state.phase ≠ .ended) (other : state.phase ≠ next.phase)
    (fresh : next.phase = .ended ∨ phase = some next.phase) (possible : next.phase ≠ .registered) :
    allowedTransitions.contains (state.phase, next.phase) = true := by
  obtain ⟨joined, waiting, paused⟩ := shows
  generalize state.phase = before at *
  generalize next.phase = after at *
  cases before <;> try contradiction
  all_goals cases after <;> try contradiction
  all_goals first | rfl | skip
  · exact absurd rfl (paused (fresh.resolve_left nofun))
  · exact absurd (waiting (fresh.resolve_left nofun)) nofun
  · exact absurd (waiting (fresh.resolve_left nofun)) nofun

/-- What a connection's client has been told fits the session's phase. -/
structure Told (phase : Option ParticipantPhase) (shown : ParticipantState)
    (bus : Broadcast (ServerMessage ServerPayload)) (socket : GameSocket ServerPayload) :
    Prop where
  follows : socket.Follows bus
  told : socket.serves = true → ∃ final,
    applySnapshots shown (snapshots (socket.stream bus)) = .ok final ∧
      (final.phase = .ended ∨ Shows phase final)
  closed : socket.serves = false → socket.sends = false ∧ socket.sending = none ∧
    Accepts shown (snapshots socket.handed)

namespace Told

variable {phase phase' : Option ParticipantPhase} {shown : ParticipantState}
  {bus bus' : Broadcast (ServerMessage ServerPayload)} {socket socket' : GameSocket ServerPayload}

/-- What has been handed over starts what has been published. -/
theorem heard (told : Told phase shown bus socket) :
    Accepts shown (snapshots socket.handed) := by
  cases serves : socket.serves with
  | false => exact (told.closed serves).2.2
  | true =>
    obtain ⟨final, all, -⟩ := told.told serves
    obtain ⟨lost, received, -⟩ := told.follows.received
    obtain ⟨rest, since⟩ := bus.between_append socket.subscribedAt socket.next
    have stream : socket.stream bus = socket.handed ++ (socket.sending.toList ++ lost ++
        rest.filter (ServerMessage.isFor socket.participantSessionId)) := by
      rw [GameSocket.stream, since, List.filter_append]
      change socket.expected bus socket.next ++ _ = _
      rw [received]
      simp
    rw [stream, snapshots_append] at all
    exact Accepts.of_append ⟨final, all⟩

theorem stream_send (told : Told phase shown bus socket) (message : ServerMessage ServerPayload) :
    socket.stream (bus.send message) = socket.stream bus ++
      [message].filter (ServerMessage.isFor socket.participantSessionId) := by
  have behind := Nat.le_trans told.follows.subscribed told.follows.behind
  rw [GameSocket.stream, GameSocket.stream, Broadcast.send, List.drop_append_of_le_length behind,
    List.filter_append]

/-- A connection that ends has been told what it has been handed. -/
theorem close (told : Told phase shown bus socket) (h : socket.close = some socket') :
    Told phase shown bus socket' := by
  have follows := told.follows.close h
  have heard := told.heard
  unfold GameSocket.close at h
  split at h <;> cases h
  refine ⟨follows, fun serves => ?_, fun _ => ⟨rfl, rfl, heard⟩⟩
  cases serves

theorem receive (told : Told phase shown bus socket) (h : socket.receive bus = some socket') :
    Told phase shown bus socket' := by
  have follows := told.follows.receive h
  have sends : socket.sends = true := by
    unfold GameSocket.receive at h
    split at h
    · rename_i idle
      exact (Bool.and_eq_true_iff.mp idle).1
    · cases h
  have serves : socket.serves = true := by
    cases serves : socket.serves with
    | true => rfl
    | false =>
      rw [(told.closed serves).1] at sends
      cases sends
  have same : socket'.serves = true ∧ socket'.stream bus = socket.stream bus := by
    unfold GameSocket.receive at h
    split at h
    · split at h
      · cases h
      · cases h
        exact ⟨serves, rfl⟩
      · split at h <;> cases h <;> exact ⟨serves, rfl⟩
    · cases h
  refine ⟨follows, fun _ => ?_, fun ends => ?_⟩
  · rw [same.2]
    exact told.told serves
  · rw [same.1] at ends
    cases ends

theorem handOver {ok : Bool} (told : Told phase shown bus socket)
    (h : socket.handOver ok = some socket') : Told phase shown bus socket' := by
  have follows := told.follows.handOver h
  obtain ⟨message, sending, h⟩ := Option.map_eq_some_iff.mp h
  have serves : socket.serves = true := by
    cases serves : socket.serves with
    | true => rfl
    | false =>
      rw [(told.closed serves).2.1] at sending
      cases sending
  have same : socket'.serves = true ∧ socket'.stream bus = socket.stream bus := by
    split at h <;> cases h <;> exact ⟨serves, rfl⟩
  refine ⟨follows, fun _ => ?_, fun ends => ?_⟩
  · rw [same.2]
    exact told.told serves
  · rw [same.1] at ends
    cases ends

/-- A message that shows no state, or one for somebody else, tells a client nothing. -/
theorem send_quiet (told : Told phase shown bus socket) {message : ServerMessage ServerPayload}
    (quiet : snapshots ([message].filter (ServerMessage.isFor socket.participantSessionId)) = []) :
    Told phase shown (bus.send message) socket := by
  refine ⟨told.follows.send message, fun serves => ?_, told.closed⟩
  rw [told.stream_send message, snapshots_append, quiet, List.append_nil]
  exact told.told serves

/-- A snapshot of the end, or of the session's own phase, is accepted. -/
theorem send_snapshot (told : Told phase shown bus socket) {snapshot : ParticipantState}
    (fresh : snapshot.phase = .ended ∨ phase = some snapshot.phase)
    (possible : snapshot.phase ≠ .registered) :
    Told phase shown (bus.send (.targeted socket.participantSessionId
      (.participantState snapshot))) socket := by
  refine ⟨told.follows.send _, fun serves => ?_, told.closed⟩
  obtain ⟨final, all, fits⟩ := told.told serves
  have mine : snapshots ([ServerMessage.targeted socket.participantSessionId
      (.participantState snapshot)].filter
        (ServerMessage.isFor socket.participantSessionId)) = [snapshot] := by
    simp [ServerMessage.isFor, ServerMessage.targeted, snapshots]
  rw [told.stream_send, snapshots_append, mine, applySnapshots_append, all]
  simp only [Except.bind, applySnapshots]
  by_cases ended' : final.phase = .ended
  · rw [if_pos ended']
    exact ⟨final, rfl, .inl ended'⟩
  · rw [if_neg ended']
    have shows := fits.resolve_left ended'
    have edge : reduceParticipantState (some final) snapshot = .ok snapshot := by
      simp only [reduceParticipantState]
      split
      · rfl
      · rename_i other
        rw [if_pos (shows.allowed ended' other fresh possible)]
    rw [edge]
    refine ⟨snapshot, rfl, ?_⟩
    rcases fresh with ended | now
    · exact .inl ended
    · refine .inr ⟨possible, fun waits => ?_, fun pauses => ?_⟩
      · exact (Option.some.inj (now.symm.trans waits))
      · rw [Option.some.inj (now.symm.trans pauses)]
        exact nofun

end Told

/-- A session changes its phase as far as it fits what the client shows. -/
theorem Told.phase_after {phase phase' : Option ParticipantPhase} {shown : ParticipantState}
    {bus : Broadcast (ServerMessage ServerPayload)} {socket : GameSocket ServerPayload}
    (told : Told phase shown bus socket) (waits : phase' = some .waiting → phase = some .waiting)
    (pauses : phase' = some .paused → phase = some .paused ∨ (socket.serves = true →
      (lastShown shown (snapshots (socket.stream bus))).phase ≠ .waiting)) :
    Told phase' shown bus socket := by
  refine ⟨told.follows, fun serves => ?_, told.closed⟩
  obtain ⟨final, all, fits⟩ := told.told serves
  refine ⟨final, all, ?_⟩
  by_cases ended' : final.phase = .ended
  · exact .inl ended'
  · have shows := fits.resolve_left ended'
    refine .inr ⟨shows.joined, fun now => shows.waiting (waits now), fun now => ?_⟩
    rcases pauses now with before | behind
    · exact shows.paused before
    · rw [applySnapshots_last all ended']
      exact behind serves

namespace Published

/-- The phase of the session now. -/
def phase (s : Published G) : Option ParticipantPhase := s.room.shared.phase

def shownOn (s : Published G) (i : Nat) (socket : GameSocket ServerPayload) :
    Option ParticipantState :=
  (s.owners[i]?.bind s.opened).map fun state =>
    lastShown state (snapshots (socket.stream s.channel.bus))

end Published

/--
The steps at which no client is left behind: a snapshot that does not show the end is sent while
the session is still in the phase it shows; a session is paused only when no client of a live
connection still shows the waiting room; and no such client subscribes to a paused session.
-/
structure LeavesNobodyBehind (s : Published G) (a : PublishAction G) : Prop where
  current : ∀ pid recipient role snapshot rest, a = .publish pid →
    s.duties pid = .send recipient role (.participantState snapshot) :: rest →
    snapshot.phase = .ended ∨ s.phase = some snapshot.phase
  told : ∀ pid input call deadline, a = .task (.run pid input) →
    s.room.tasks[pid]? = some (.socket call (.pause deadline)) → s.phase = some .active →
    ∀ (i : Nat) socket shown, s.channel.sockets[i]? = some socket → socket.serves = true →
      s.shownOn i socket = some shown → shown.phase ≠ .waiting
  subscribed : ∀ pid id rest state, a = .publish pid → s.duties pid = .subscribe id :: rest →
    s.opened pid = some state → s.phase = some .paused → state.phase ≠ .waiting

/-- A connection's task knows its client, and no snapshot shows a participant without a session. -/
def Sendable (opened : Nat → Option ParticipantState) (pid : Nat) : Publication → Prop
  | .subscribe _ => (opened pid).isSome
  | .send _ _ (.participantState snapshot) => snapshot.phase ≠ .registered
  | _ => True

structure ClientsTold (s : Published G) : Prop where
  owned : s.owners.length = s.channel.sockets.length
  sockets : ∀ (i pid : Nat) socket, s.channel.sockets[i]? = some socket →
    s.owners[i]? = some pid → ∃ state, s.opened pid = some state ∧
      Told s.phase state s.channel.bus socket
  opened : ∀ pid state, s.opened pid = some state → state.phase ≠ .registered ∧
    (s.phase = some .waiting → state.phase = .waiting)
  answers : ∀ answer ∈ s.answers, s.phase = some .waiting → answer.2.phase = .waiting
  known : ∀ pid, pid ∈ s.owners ∨ s.duties pid ≠ [] → pid < s.room.tasks.length
  loops : s.room.Each fun pid task => ∀ call, task.owner = some (.loop call) →
    (s.opened pid).isSome
  duties : ∀ pid, ∀ publication ∈ s.duties pid, Sendable s.opened pid publication

namespace ClientsTold

theorem initially (creation : Creation G) : ClientsTold (.initial config creation) where
  owned := rfl
  sockets := by
    intro i pid socket here
    cases here
  opened := by
    intro pid state opened
    cases opened
  answers := by
    intro answer mem
    cases mem
  known := by
    intro pid which
    rcases which with mem | duties
    · cases mem
    · exact absurd rfl duties
  loops := by
    intro pid task ht
    cases ht
  duties := by
    intro pid publication mem
    cases mem

theorem spawned {s : Published G} {task : Task G} (inv : ClientsTold s)
    (own : ∀ call, task.owner ≠ some (.loop call)) :
    ClientsTold { s with room := ⟨s.room.shared, s.room.tasks ++ [task]⟩ } where
  owned := inv.owned
  sockets := inv.sockets
  opened := inv.opened
  answers := inv.answers
  known := by
    intro pid which
    have known := inv.known pid which
    simp only [List.length_append]
    omega
  loops := inv.loops.append (fun _ _ loop => loop) fun _ call owned => absurd owned (own call)
  duties := inv.duties

/-- Where a task's duties change, what is asked of all duties is asked of the new ones. -/
theorem duties_set {s : Published G} {pid : Nat} {publications : List Publication}
    {p : Nat → Publication → Prop} (before : ∀ q, ∀ publication ∈ s.duties q, p q publication)
    (new : ∀ publication ∈ publications, p pid publication) :
    ∀ q, ∀ publication ∈ (s.setDuties pid publications).duties q, p q publication := by
  intro q publication mem
  simp only [Published.setDuties] at mem
  split at mem
  · rename_i same
    exact same ▸ new publication mem
  · exact before q publication mem

theorem known_set {s : Published G} {owners : List Nat} {pid n : Nat}
    {publications : List Publication} (before : ∀ q, q ∈ owners ∨ s.duties q ≠ [] → q < n)
    (bound : pid < n) (q : Nat)
    (which : q ∈ owners ∨ (s.setDuties pid publications).duties q ≠ []) : q < n := by
  simp only [Published.setDuties] at which
  rcases which with owner | due
  · exact before q (.inl owner)
  · split at due
    · rename_i same
      exact same ▸ bound
    · exact before q (.inr due)

theorem ran {s : Published G} {pid : Nat} {input : Input} {task task' : Task G} {sec : Section G}
    {started : List (Task G)} (inv : ClientsTold s)
    (met : LeavesNobodyBehind s (.task (.run pid input))) (ht : s.room.tasks[pid]? = some task)
    (hn : task.next config s.room.shared pid input = some (sec, task', started)) :
    ClientsTold ({ s with room := ⟨{ s.room.shared.apply config sec with clock := input.now },
      s.room.tasks.set pid task' ++ started⟩ }.setDuties pid (task.publishes task')) := by
  have bound : pid < s.room.tasks.length := (List.getElem?_eq_some_iff.mp ht).1
  have waits {phase : Option ParticipantPhase}
      (now : (s.room.shared.apply config sec).phase = phase) (waiting : phase = some .waiting) :
      s.phase = some .waiting :=
    Cell.phase_waiting (now.trans waiting)
  constructor
  · exact inv.owned
  · intro i q socket here owner
    obtain ⟨state, opened, told⟩ := inv.sockets i q socket here owner
    refine ⟨state, opened, told.phase_after (waits rfl) fun pauses => ?_⟩
    rcases Cell.phase_paused hn pauses with before | ⟨call, deadline, rfl, active⟩
    · exact .inl before
    · refine .inr fun serves => ?_
      refine met.told pid input call deadline rfl ht active i socket _ here serves ?_
      have owner : s.owners[i]? = some q := owner
      simp [Published.shownOn, owner, opened]
  · intro q state opened
    obtain ⟨joined, waiting⟩ := inv.opened q state opened
    exact ⟨joined, fun now => waiting (waits rfl now)⟩
  · exact fun answer mem now => inv.answers answer mem (waits rfl now)
  · have longer : s.room.tasks.length ≤ (s.room.tasks.set pid task' ++ started).length := by simp
    intro q which
    exact Nat.lt_of_lt_of_le (known_set inv.known bound q which) longer
  · refine Pool.Each.after ?_ (fun q u _ hu => inv.loops q u hu) ?_
    · exact fun call owned => inv.loops pid task ht call (Task.next_owner hn owned)
    · intro u mem q call owned
      obtain ⟨call', deadline, -, rfl⟩ := Task.mem_started hn mem
      cases owned
  · refine duties_set inv.duties fun publication mem => ?_
    cases starts_of_publishes mem with
    | @subscribe call own => exact inv.loops pid task ht call own
    | _ => trivial

theorem connected {s : Published G} {call : SocketCall} {state : ParticipantState} {k : Nat}
    (inv : ClientsTold s) (found : s.answers[k]? = some (call.participantSessionId, state))
    (shows : state.phase ≠ .ended ∧ state.phase ≠ .registered) :
    ClientsTold { s with
      room := ⟨s.room.shared, s.room.tasks ++ [.socket call .register]⟩
      opened := fun pid => if pid = s.room.tasks.length then some state else s.opened pid } := by
  have older {q : Nat} (which : q ∈ s.owners ∨ s.duties q ≠ []) : q ≠ s.room.tasks.length :=
    Nat.ne_of_lt (inv.known q which)
  constructor
  · exact inv.owned
  · intro i q socket here owner
    obtain ⟨state', opened, told⟩ := inv.sockets i q socket here owner
    refine ⟨state', ?_, told⟩
    simp only
    rw [if_neg (older (.inl (List.mem_of_getElem? owner)))]
    exact opened
  · intro q state' opened
    simp only at opened
    split at opened
    · cases opened
      exact ⟨shows.2, inv.answers _ (List.mem_of_getElem? found)⟩
    · exact inv.opened q state' opened
  · exact inv.answers
  · intro q which
    have known := inv.known q which
    simp only [List.length_append]
    omega
  · intro q u hu call' owned
    simp only
    split
    · rfl
    · rename_i old
      rcases Pool.task_of_append hu with before | rfl
      · exact inv.loops q u before call' owned
      · have last := (List.getElem?_eq_some_iff.mp hu).1
        simp only [List.length_append, List.length_singleton] at last
        rw [List.getElem?_append_left (by omega)] at hu
        exact inv.loops q _ hu call' owned
  · intro q publication mem
    have same := older (.inr (List.ne_nil_of_mem mem))
    have due := inv.duties q publication mem
    unfold Sendable at due ⊢
    split <;> simp_all

theorem answered {s : Published G} {id : ParticipantSessionId} {session : LiveSession G}
    {role : PlayerRole} {state : ParticipantState} (inv : ClientsTold s)
    (here : s.room.shared.session = some session)
    (told : participantStateResponse (some session) role = .ok state) :
    ClientsTold { s with answers := s.answers ++ [(id, state)] } where
  owned := inv.owned
  sockets := inv.sockets
  opened := inv.opened
  answers := by
    intro answer mem waits
    rcases List.mem_append.mp mem with old | new
    · exact inv.answers answer old waits
    · cases List.mem_singleton.mp new
      have now : s.phase = some session.phase := by
        rw [Published.phase, Cell.phase, here, Option.map_some]
      rw [participantStateResponse_phase told]
      exact Option.some.inj (now.symm.trans waits)
  known := inv.known
  loops := inv.loops
  duties := inv.duties

theorem expanded {s : Published G} {pid : Nat} {publication : Publication}
    {rest : List Publication} (inv : ClientsTold s) (due : s.duties pid = publication :: rest) :
    ClientsTold (s.setDuties pid (publication.expand s.room.shared.session ++ rest)) where
  owned := inv.owned
  sockets := inv.sockets
  opened := inv.opened
  answers := inv.answers
  known q which := known_set inv.known (inv.known pid (.inr (by simp [due]))) q which
  loops := inv.loops
  duties := by
    refine duties_set inv.duties fun next mem => ?_
    rcases List.mem_append.mp mem with new | old
    · cases left_of_expand new with
      | @snapshot live recipient role state here told =>
        change state.phase ≠ .registered
        rw [participantStateResponse_phase told, LiveSession.phase]
        split
        · exact nofun
        · split <;> exact nofun
        · exact nofun
      | _ => trivial
    · exact inv.duties pid next (by simp [due, old])

theorem subscribed {s : Published G} {pid : Nat} {id : ParticipantSessionId}
    {rest : List Publication} (inv : ClientsTold s) (met : LeavesNobodyBehind s (.publish pid))
    (due : s.duties pid = .subscribe id :: rest) {channel : GameChannel ServerPayload}
    (opens : s.channel.step (.subscribe id) = some channel) :
    ClientsTold ({ s with channel, owners := s.owners ++ [pid] }.setDuties pid rest) := by
  have bound := inv.known pid (.inr (by simp [due]))
  cases opens
  constructor
  · simpa [Published.setDuties] using inv.owned
  · intro i q socket here owner
    have here : (s.channel.sockets ++ [_])[i]? = some socket := here
    have owner : (s.owners ++ [pid])[i]? = some q := owner
    rcases Nat.lt_or_ge i s.owners.length with old | new
    · rw [List.getElem?_append_left old] at owner
      rw [List.getElem?_append_left (inv.owned ▸ old)] at here
      exact inv.sockets i q socket here owner
    · have last : i = s.owners.length := by
        have := (List.getElem?_eq_some_iff.mp owner).1
        simp only [List.length_append, List.length_singleton] at this
        omega
      subst last
      rw [List.getElem?_concat_length] at owner
      rw [inv.owned, List.getElem?_concat_length] at here
      cases owner
      cases here
      have known := inv.duties pid (.subscribe id) (by simp [due])
      obtain ⟨state, opened⟩ := Option.isSome_iff_exists.mp known
      obtain ⟨joined, waits⟩ := inv.opened pid state opened
      refine ⟨state, opened, GameSocket.follows_subscribe _ id, fun _ => ⟨state, ?_, .inr ?_⟩, ?_⟩
      · simp [GameSocket.stream, snapshots, applySnapshots, Published.setDuties]
      · exact ⟨joined, waits, met.subscribed pid id rest state rfl due opened⟩
      · intro closed
        cases closed
  · exact inv.opened
  · exact inv.answers
  · intro q which
    refine known_set (fun q which => ?_) bound q which
    rcases which with owner | duty
    · rcases List.mem_append.mp owner with old | new
      · exact inv.known q (.inl old)
      · cases List.mem_singleton.mp new
        exact bound
    · exact inv.known q (.inr duty)
  · exact inv.loops
  · exact duties_set inv.duties fun next mem => inv.duties pid next (by simp [due, mem])

/-- What every connection keeps when a message is published. -/
theorem published {s : Published G} (inv : ClientsTold s) (message : ServerMessage ServerPayload)
    (tells : ∀ state socket, Told s.phase state s.channel.bus socket →
      Told s.phase state (s.channel.bus.send message) socket) :
    ClientsTold { s with channel := { s.channel with bus := s.channel.bus.send message } } where
  owned := inv.owned
  sockets := by
    intro i q socket here owner
    obtain ⟨state, opened, told⟩ := inv.sockets i q socket here owner
    exact ⟨state, opened, tells state socket told⟩
  opened := inv.opened
  answers := inv.answers
  known := inv.known
  loops := inv.loops
  duties := inv.duties

/-- Duties that are done may be forgotten. -/
theorem forget {s : Published G} {pid : Nat} {rest : List Publication} (inv : ClientsTold s)
    (fewer : ∀ publication ∈ rest, publication ∈ s.duties pid) :
    ClientsTold (s.setDuties pid rest) where
  owned := inv.owned
  sockets := inv.sockets
  opened := inv.opened
  answers := inv.answers
  known := by
    intro q which
    refine inv.known q ?_
    rcases which with owner | due
    · exact .inl owner
    · refine .inr ?_
      simp only [Published.setDuties] at due
      split at due
      · rename_i same
        obtain ⟨publication, mem⟩ := List.exists_mem_of_ne_nil _ due
        exact same ▸ List.ne_nil_of_mem (fewer publication mem)
      · exact due
  loops := inv.loops
  duties := duties_set inv.duties fun next mem => inv.duties pid next (fewer next mem)

theorem sent {s : Published G} {pid : Nat} {recipient : ParticipantSessionId} {role : PlayerRole}
    {payload : ServerPayload} {rest : List Publication} (inv : ClientsTold s)
    (met : LeavesNobodyBehind s (.publish pid))
    (due : s.duties pid = .send recipient role payload :: rest)
    {channel : GameChannel ServerPayload}
    (sends : s.channel.step (.publish (.targeted recipient payload)) = some channel) :
    ClientsTold ({ s with channel }.setDuties pid rest) := by
  cases sends
  refine forget (inv.published _ fun state socket told => ?_) fun publication mem => ?_
  · by_cases mine : socket.participantSessionId = recipient
    · subst mine
      cases payload with
      | participantState snapshot =>
        have possible : snapshot.phase ≠ .registered :=
          inv.duties pid (.send socket.participantSessionId role (.participantState snapshot))
            (by rw [due]; exact List.mem_cons_self)
        exact told.send_snapshot (met.current pid _ role snapshot rest rfl due) possible
      | _ =>
        refine told.send_quiet ?_
        simp [ServerMessage.isFor, ServerMessage.targeted, snapshots]
    · refine told.send_quiet ?_
      have other : recipient ≠ socket.participantSessionId := Ne.symm mine
      simp [ServerMessage.isFor, ServerMessage.targeted, snapshots, other]
  · change publication ∈ s.duties pid
    rw [due]
    exact List.mem_cons_of_mem _ mem

theorem delivered {s : Published G} {a : PublishAction G} {action : ChannelAction ServerPayload}
    {channel : GameChannel ServerPayload} (inv : ClientsTold s) (only : a.onChannel = some action)
    (moves : s.channel.step action = some channel) : ClientsTold { s with channel } := by
  have atSocket {i : Nat} {step : GameSocket ServerPayload → Option (GameSocket ServerPayload)}
      (h : s.channel.atSocket i step = some channel)
      (tells : ∀ state socket socket', Told s.phase state s.channel.bus socket →
        step socket = some socket' → Told s.phase state s.channel.bus socket') :
      ClientsTold { s with channel } := by
    obtain ⟨socket, socket', here, taken, rfl⟩ := GameChannel.atSocket_cases h
    refine ⟨by simpa using inv.owned, fun j q u there owner => ?_, inv.opened, inv.answers,
      inv.known, inv.loops, inv.duties⟩
    have set : (s.channel.sockets.set i socket')[j]? = some u := there
    rw [List.getElem?_set] at set
    split at set
    · rename_i same
      subst same
      split at set <;> cases set
      obtain ⟨state, opened, told⟩ := inv.sockets i q socket here owner
      exact ⟨state, opened, tells state socket socket' told taken⟩
    · exact inv.sockets j q u set owner
  cases a <;> cases only
  case notice recipient payload =>
    cases moves
    refine inv.published _ fun state socket told => told.send_quiet ?_
    simp only [List.filter_cons, List.filter_nil]
    split <;> rfl
  case receive i => exact atSocket moves fun _ _ _ told taken => told.receive taken
  case handOver i ok => exact atSocket moves fun _ _ _ told taken => told.handOver taken
  case close i => exact atSocket moves fun _ _ _ told taken => told.close taken

theorem dropped {s : Published G} {pid : Nat} {task task' : Task G} {held : Option Nat}
    (inv : ClientsTold s) (ht : s.room.tasks[pid]? = some task)
    (drops : task.dropped = some (task', held)) :
    ClientsTold ({ s with room := ⟨AudioRoom.dropGuard config s.room.shared held,
      s.room.tasks.set pid task'⟩ }.setDuties pid []) := by
  have memory : (AudioRoom.dropGuard config s.room.shared held).phase = s.phase := by
    cases held <;> rfl
  have bound : pid < s.room.tasks.length := (List.getElem?_eq_some_iff.mp ht).1
  have idle (call : SocketCall) : task'.owner ≠ some (.loop call) := by
    unfold Task.dropped at drops
    split at drops <;> cases drops <;> exact nofun
  constructor
  · exact inv.owned
  · intro i q socket here owner
    obtain ⟨state, opened, told⟩ := inv.sockets i q socket here owner
    refine ⟨state, opened, told.phase_after (fun waits => ?_) fun pauses => .inl ?_⟩
    · exact memory.symm.trans waits
    · exact memory.symm.trans pauses
  · exact fun q state opened => (inv.opened q state opened).imp id
      fun waits now => waits (memory.symm.trans now)
  · exact fun answer mem now => inv.answers answer mem (memory.symm.trans now)
  · intro q which
    have same : (s.room.tasks.set pid task').length = s.room.tasks.length := List.length_set
    exact Nat.lt_of_lt_of_eq (known_set inv.known bound q which) same.symm
  · intro q u hu call owned
    have hu : (s.room.tasks.set pid task')[q]? = some u := hu
    rw [List.getElem?_set] at hu
    split at hu
    · cases hu
      exact absurd owned (idle call)
    · exact inv.loops q u hu call owned
  · exact duties_set inv.duties fun publication mem => by cases mem

theorem step {s s' : Published G} {a : PublishAction G} (inv : ClientsTold s)
    (met : LeavesNobodyBehind s a) (h : (publishMachine G config).step s a = some s') :
    ClientsTold s' := by
  cases publish_step h with
  | spawned other enter =>
    refine inv.spawned fun call owned => ?_
    have entry := (session_entry enter).1
    unfold Task.entry at entry
    split at entry <;> first | cases owned | cases entry
    exact absurd rfl (other _ _)
  | ran ht idle hn => exact inv.ran met ht hn
  | connected found shows enter => exact inv.connected found shows
  | answered here found told => exact inv.answered here told
  | subscribed due opens => exact inv.subscribed met due opens
  | sent due sends => exact inv.sent met due sends
  | expanded due reads => exact inv.expanded due
  | delivered only moves => exact inv.delivered only moves
  | dropped ht drops => exact inv.dropped ht drops

end ClientsTold

/--
A client accepts every snapshot its connection hands it, as long as snapshots are current when
they are sent and no session is paused while a client still shows the waiting room.
-/
theorem clients_accept_snapshots {creation : Creation G} {s : Published G}
    (run : (publishMachine G config).Run LeavesNobodyBehind (.initial config creation) s) :
    ∀ (i : Nat) socket, s.channel.sockets[i]? = some socket →
      ∃ pid state, s.owners[i]? = some pid ∧ s.opened pid = some state ∧
        ∃ final, applySnapshots state (snapshots socket.handed) = .ok final := by
  have inv : ClientsTold s := run.invariant (ClientsTold.initially creation) fun inv met h =>
    inv.step met h
  intro i socket here
  have bound := (List.getElem?_eq_some_iff.mp here).1
  rw [← inv.owned] at bound
  have owner := List.getElem?_eq_getElem bound
  obtain ⟨state, opened, told⟩ := inv.sockets i _ socket here owner
  exact ⟨_, state, owner, opened, told.heard⟩

namespace TallyAction

abbrev TallyPublish := PublishAction tallyGame

def publishSteps (pid count : Nat) (now : Timestamp) : List TallyPublish :=
  (steps pid count now).map .task

def publishes (pid count : Nat) : List TallyPublish := List.replicate count (.publish pid)

/-- Both humans join, and B connects and waits; tasks 0 and 1 are used up. -/
def waitingForA : List TallyPublish :=
  [.task (.spawn (.pair (human 2) .find))] ++ publishSteps 0 6 0 ++
  [.answer (.human 1), .answer (.human 2), .connect ⟨.human 2, .B⟩ 1] ++ publishSteps 1 5 0 ++
  publishes 1 3 ++ publishSteps 1 5 0

def startedByA : List TallyPublish :=
  waitingForA ++ [.connect ⟨.human 1, .A⟩ 0] ++ publishSteps 2 5 0 ++ publishes 2 3 ++
  publishSteps 2 6 0

/-- A connection hands over its next message for its participant. -/
def handed (i : Nat) : List TallyPublish := [.receive i, .handOver i true]

def assigned : List TallyPublish :=
  startedByA ++ publishes 2 5 ++ publishSteps 2 1 1 ++ handed 1 ++ handed 1

def pausedBeforeAssignment : List TallyPublish :=
  startedByA ++ [.close 0] ++ publishSteps 1 7 1 ++ publishes 2 5 ++ publishSteps 2 1 1 ++
  handed 1 ++ [.receive 1] ++ handed 1

def leavesNobodyBehind (s : Published tallyGame) : TallyPublish → Bool
  | .publish pid => match s.duties pid with
    | .send _ _ (.participantState snapshot) :: _ =>
      snapshot.phase == .ended || s.phase == some snapshot.phase
    | .subscribe _ :: _ => s.phase != some .paused
    | _ => true
  | .task (.run pid _) => match s.room.tasks[pid]? with
    | some (.socket _ (.pause _)) => false
    | _ => true
  | _ => true

theorem leavesNobodyBehind_sound {s : Published tallyGame} {a : TallyPublish}
    (h : leavesNobodyBehind s a = true) : LeavesNobodyBehind s a := by
  constructor
  · intro pid recipient role snapshot rest same due
    subst same
    simpa [leavesNobodyBehind, due] using h
  · intro pid input call deadline same ht
    subst same
    simp [leavesNobodyBehind, ht] at h
  · intro pid id rest state same due _ paused
    subst same
    simp [leavesNobodyBehind, due, paused] at h

def phasesHanded (s : Published tallyGame) (i : Nat) : Option (List ParticipantPhase) :=
  s.channel.sockets[i]?.map fun socket => (snapshots socket.handed).map ParticipantState.phase

/-- The client of a connection has run into an error. -/
def refused (s : Published tallyGame) (i : Nat) : Bool :=
  s.channel.sockets[i]?.any fun socket => ((s.owners[i]?.bind s.opened).any fun state =>
    match applySnapshots state (snapshots socket.handed) with
    | .error _ => true
    | .ok _ => false)

end TallyAction

/-- A waits and then plays. -/
theorem clients_accept_snapshots_started :
    ∃ (s : Published tallyGame) (i : Nat) (socket : GameSocket ServerPayload),
      s.channel.sockets[i]? = some socket ∧
      (snapshots socket.handed).map ParticipantState.phase = [.waiting, .active] ∧
      ∃ pid state, s.owners[i]? = some pid ∧ s.opened pid = some state ∧
        ∃ final, applySnapshots state (snapshots socket.handed) = .ok final := by
  have h : (((publishMachine tallyGame {}).restrict TallyAction.leavesNobodyBehind).exec
      (.initial {} TallyAction.creation) TallyAction.assigned).bind
        (TallyAction.phasesHanded · 1) = some [.waiting, .active] := rfl
  obtain ⟨s, hs, seen⟩ := Option.bind_eq_some_iff.mp h
  obtain ⟨socket, here, seen⟩ := Option.map_eq_some_iff.mp seen
  exact ⟨s, 1, socket, here, seen,
    clients_accept_snapshots (.of_exec (fun _ _ => TallyAction.leavesNobodyBehind_sound) hs) 1
      socket here⟩

/--
The game starts, and B's connection is lost before the roles are assigned: the snapshot that
assigns A his role shows a pause, which no waiting client accepts.
-/
theorem waiting_client_is_paused :
    ∃ (s : Published tallyGame) (i pid : Nat) (socket : GameSocket ServerPayload)
      (state : ParticipantState),
      (publishMachine tallyGame {}).Run Machine.unguarded (.initial {} TallyAction.creation) s ∧
      s.channel.sockets[i]? = some socket ∧ s.owners[i]? = some pid ∧ s.opened pid = some state ∧
      (snapshots socket.handed).map ParticipantState.phase = [.waiting, .paused] ∧
      ∃ message, applySnapshots state (snapshots socket.handed) = .error message := by
  have h : ((publishMachine tallyGame {}).exec (.initial {} TallyAction.creation)
      TallyAction.pausedBeforeAssignment).bind
        (fun s => (TallyAction.phasesHanded s 1).map fun phases =>
          (phases, TallyAction.refused s 1)) = some ([.waiting, .paused], true) := rfl
  obtain ⟨s, hs, seen⟩ := Option.bind_eq_some_iff.mp h
  obtain ⟨phases, handed, seen⟩ := Option.map_eq_some_iff.mp seen
  obtain ⟨rfl, refused⟩ := Prod.mk.inj seen
  obtain ⟨socket, here, handed⟩ := Option.map_eq_some_iff.mp handed
  simp only [TallyAction.refused, here, Option.any_some] at refused
  obtain ⟨state, opened, refused⟩ := (Option.any_eq_true _ _).mp refused
  obtain ⟨pid, owner, opened⟩ := Option.bind_eq_some_iff.mp opened
  split at refused
  · rename_i message error
    exact ⟨s, 1, pid, socket, state, .of_exec_unguarded hs, here, owner, opened, handed, message,
      error⟩
  · cases refused

end Parlando
