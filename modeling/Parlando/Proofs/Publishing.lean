import Parlando.Proofs.GameChannel
import Parlando.Proofs.Members
import Parlando.Publishing

namespace Parlando

open Concurrency

variable {G : Game} {config : ExperimentConfig}

def PublishAction.onChannel : PublishAction G → Option (ChannelAction ServerPayload)
  | .notice recipient payload => some (.publish ⟨2, .notice payload, recipient⟩)
  | .receive i => some (.receive i)
  | .handOver i ok => some (.handOver i ok)
  | .close i => some (.close i)
  | _ => none

def Publication.Reads : Publication → Prop
  | .subscribe _ | .send _ _ _ => False
  | _ => True

inductive PublishStep (config : ExperimentConfig) (s : Published G) :
    PublishAction G → Published G → Prop where
  | spawned {task : Task G} (other : ∀ call pc, task ≠ .socket call pc)
    (enter : (sessionProgram G config).entry s.room.shared task = true) :
    PublishStep config s (.task (.spawn task))
      { s with room := ⟨s.room.shared, s.room.tasks ++ [task]⟩ }
  | ran {pid : Nat} {input : Input} {task task' : Task G} {sec : Section G}
    {started : List (Task G)} (ht : s.room.tasks[pid]? = some task) (idle : s.duties pid = [])
    (hn : task.next config s.room.shared pid input = some (sec, task', started)) :
    PublishStep config s (.task (.run pid input))
      ({ s with room := ⟨{ s.room.shared.apply config sec with clock := input.now },
        s.room.tasks.set pid task' ++ started⟩ }.setDuties pid (task.publishes task'))
  | connected {call : SocketCall} {k : Nat} {state : ParticipantState}
    (found : s.answers[k]? = some (call.participantSessionId, state))
    (shows : state.phase ≠ .ended ∧ state.phase ≠ .registered)
    (enter : (sessionProgram G config).entry s.room.shared (.socket call .register) = true) :
    PublishStep config s (.connect call k)
      { s with
        room := ⟨s.room.shared, s.room.tasks ++ [.socket call .register]⟩
        opened := fun pid => if pid = s.room.tasks.length then some state else s.opened pid }
  | answered {id : ParticipantSessionId} {session : LiveSession G} {p : SessionParticipant}
    {state : ParticipantState} (here : s.room.shared.session = some session)
    (found : session.participants.lookup id = some p)
    (told : participantStateResponse (some session) p.role = .ok state) :
    PublishStep config s (.answer id) { s with answers := s.answers ++ [(id, state)] }
  | subscribed {pid : Nat} {id : ParticipantSessionId} {rest : List Publication}
    {channel : GameChannel ServerPayload} (due : s.duties pid = .subscribe id :: rest)
    (opens : s.channel.step (.subscribe id) = some channel) :
    PublishStep config s (.publish pid)
      ({ s with channel, owners := s.owners ++ [pid] }.setDuties pid rest)
  | sent {pid : Nat} {recipient : ParticipantSessionId} {role : PlayerRole}
    {payload : ServerPayload} {rest : List Publication} {channel : GameChannel ServerPayload}
    (due : s.duties pid = .send recipient role payload :: rest)
    (sends : s.channel.step (.publish (.targeted recipient payload)) = some channel) :
    PublishStep config s (.publish pid) ({ s with channel }.setDuties pid rest)
  | expanded {pid : Nat} {publication : Publication} {rest : List Publication}
    (due : s.duties pid = publication :: rest) (reads : publication.Reads) :
    PublishStep config s (.publish pid)
      (s.setDuties pid (publication.expand s.room.shared.session ++ rest))
  | delivered {a : PublishAction G} {action : ChannelAction ServerPayload}
    {channel : GameChannel ServerPayload} (only : a.onChannel = some action)
    (moves : s.channel.step action = some channel) :
    PublishStep config s a { s with channel }
  | dropped {pid : Nat} {task task' : Task G} {held : Option Nat}
    (ht : s.room.tasks[pid]? = some task) (drops : task.dropped = some (task', held)) :
    PublishStep config s (.drop pid)
      ({ s with room := ⟨AudioRoom.dropGuard config s.room.shared held,
        s.room.tasks.set pid task'⟩ }.setDuties pid [])

theorem publish_step {s s' : Published G} {a : PublishAction G}
    (h : (publishMachine G config).step s a = some s') : PublishStep config s a s' := by
  change s.step config a = some s' at h
  cases a with
  | task action =>
    cases action with
    | spawn task =>
      have other (call : SocketCall) (pc : SocketPc) : task ≠ .socket call pc := by
        rintro rfl
        cases h
      have h' : ((sessionMachine G config).step s.room (.spawn task)).map
          (fun room => { s with room }) = some s' := by
        cases task <;> first | exact h | exact absurd rfl (other _ _)
      obtain ⟨room, stepped, rfl⟩ := Option.map_eq_some_iff.mp h'
      rcases Program.step_cases stepped with ⟨t, same, enter, rfl⟩ |
        ⟨_, _, _, _, _, _, same, _⟩ <;> cases same
      exact .spawned other enter
    | run pid input =>
      obtain ⟨task, ht, h⟩ := Option.bind_eq_some_iff.mp h
      split at h
      · cases h
      · rename_i free
        obtain ⟨room, stepped, rfl⟩ := Option.map_eq_some_iff.mp h
        rcases Program.step_cases stepped with ⟨_, same, _⟩ |
          ⟨q, given, t, cell', task', started, same, ht', hs, rfl⟩ <;> cases same
        cases ht.symm.trans ht'
        obtain ⟨sec, hn, -, rfl⟩ := session_step hs
        have idle : s.duties pid = [] := by
          simp only [Published.busy, Bool.or_eq_true, not_or] at free
          simpa using free.1
        simp only [Pool.self_after ht, Option.map_some, Option.getD_some]
        exact .ran ht idle hn
  | connect call k =>
    obtain ⟨⟨id, state⟩, found, h⟩ := Option.bind_eq_some_iff.mp h
    simp only at h
    split at h
    · rename_i allowed
      obtain ⟨rfl, shows⟩ := allowed
      obtain ⟨room, stepped, rfl⟩ := Option.map_eq_some_iff.mp h
      rcases Program.step_cases stepped with ⟨t, same, enter, rfl⟩ |
        ⟨_, _, _, _, _, _, same, _⟩ <;> cases same
      exact .connected found shows enter
    · cases h
  | answer id =>
    obtain ⟨session, here, h⟩ := Option.bind_eq_some_iff.mp h
    obtain ⟨p, found, h⟩ := Option.bind_eq_some_iff.mp h
    cases told : participantStateResponse (some session) p.role with
    | error error =>
      simp only [told] at h
      cases h
    | ok state =>
      simp only [told] at h
      cases h
      exact .answered here found told
  | publish pid =>
    change s.publish pid = some s' at h
    unfold Published.publish at h
    cases due : s.duties pid with
    | nil =>
      rw [due] at h
      cases h
    | cons publication rest =>
      rw [due] at h
      cases publication
      case subscribe id =>
        obtain ⟨channel, opens, rfl⟩ := Option.map_eq_some_iff.mp h
        exact .subscribed due opens
      case send recipient role payload =>
        obtain ⟨channel, sends, rfl⟩ := Option.map_eq_some_iff.mp h
        exact .sent due sends
      all_goals
        cases h
        exact .expanded due trivial
  | notice recipient payload =>
    simp only [Published.step] at h
    obtain ⟨channel, moves, rfl⟩ := Option.map_eq_some_iff.mp h
    exact .delivered rfl moves
  | receive i =>
    simp only [Published.step] at h
    split at h
    · obtain ⟨channel, moves, rfl⟩ := Option.map_eq_some_iff.mp h
      exact .delivered rfl moves
    · cases h
  | handOver i ok =>
    simp only [Published.step] at h
    obtain ⟨channel, moves, rfl⟩ := Option.map_eq_some_iff.mp h
    exact .delivered rfl moves
  | close i =>
    simp only [Published.step] at h
    split at h
    · obtain ⟨channel, moves, rfl⟩ := Option.map_eq_some_iff.mp h
      exact .delivered rfl moves
    · cases h
  | drop pid =>
    obtain ⟨task, ht, h⟩ := Option.bind_eq_some_iff.mp h
    obtain ⟨⟨task', held⟩, drops, rfl⟩ := Option.map_eq_some_iff.mp h
    exact .dropped ht drops

/-- What a task starts to publish: broadcasts, or the first snapshot of its own connection. -/
inductive Published.Starts (task : Task G) : Publication → Prop where
  | participantStates : Starts task .participantStates
  | playerViews (actor : PlayerRole) (action : Value) : Starts task (.playerViews actor action)
  | roleAssignments : Starts task .roleAssignments
  | subscribe {call : SocketCall} (own : task.owner = some (.loop call)) :
    Starts task (.subscribe call.participantSessionId)
  | state {call : SocketCall} (own : task.owner = some (.loop call)) :
    Starts task (.state call.participantSessionId call.role)

theorem starts_of_publishes {task task' : Task G} {publication : Publication}
    (mem : publication ∈ task.publishes task') : Published.Starts task publication := by
  have broadcast (mem : publication ∈ [Publication.participantStates]) :
      Published.Starts task publication := by
    cases List.mem_singleton.mp mem
    exact .participantStates
  unfold Task.publishes at mem
  split at mem
  case h_1 =>
    cases List.mem_singleton.mp mem
    exact .roleAssignments
  case h_2 =>
    rcases List.mem_pair.mp mem with rfl | rfl
    · exact .subscribe rfl
    · exact .state rfl
  case h_11 =>
    split at mem
    · cases mem
    · rcases List.mem_cons.mp mem with rfl | mem
      · exact .playerViews _ _
      · split at mem
        · exact broadcast mem
        · cases mem
  case h_13 => cases mem
  all_goals exact broadcast mem

/-- Reading the memory leaves snapshots and views to take, or a message to send. -/
inductive Publication.Left (session : Option (LiveSession G)) : Publication → Prop where
  | state (recipient : ParticipantSessionId) (role : PlayerRole) :
    Left session (.state recipient role)
  | view (recipient : ParticipantSessionId) (role actor : PlayerRole) (action : Value) :
    Left session (.view recipient role actor action)
  | snapshot {live : LiveSession G} {recipient : ParticipantSessionId} {role : PlayerRole}
    {state : ParticipantState} (here : session = some live)
    (told : participantStateResponse (some live) role = .ok state) :
    Left session (.send recipient role (.participantState state))
  | transition {live : LiveSession G} {recipient : ParticipantSessionId} {role actor : PlayerRole}
    {action observation presence : Value} {availableActions : Option (List Value)}
    (here : session = some live)
    (told : participantView live role = .ok ⟨presence, some observation, availableActions⟩) :
    Left session (.send recipient role (.transition actor action observation availableActions))

theorem left_of_expand {session : Option (LiveSession G)} {publication next : Publication}
    (mem : next ∈ publication.expand session) : next.Left session := by
  cases publication <;> simp only [Publication.expand] at mem
  case participantStates =>
    obtain ⟨p, _, rfl⟩ := List.mem_map.mp mem
    exact .state _ _
  case playerViews =>
    obtain ⟨p, _, rfl⟩ := List.mem_map.mp mem
    exact .view _ _ _ _
  case roleAssignments =>
    obtain ⟨p, _, rfl⟩ := List.mem_map.mp mem
    exact .state _ _
  case state recipient role =>
    cases session with
    | none => cases mem
    | some live =>
      split at mem
      · rename_i told
        cases List.mem_singleton.mp mem
        exact .snapshot rfl told
      · cases mem
  case view recipient role actor action =>
    cases session with
    | none => cases mem
    | some live =>
      split at mem
      · rename_i told
        cases List.mem_singleton.mp mem
        exact .transition rfl (Option.some.inj told)
      · cases mem
  all_goals cases mem

end Parlando
