import Parlando.Proofs.Owners

namespace Parlando

open Concurrency

variable {G : Game} {config : ExperimentConfig}

structure SessionParticipant.Same (before after : SessionParticipant) : Prop where
  participantSessionId : after.participantSessionId = before.participantSessionId
  source : after.source = before.source
  role : after.role = before.role
  connected : after.connected = before.connected
  disconnectedAt : after.disconnectedAt = before.disconnectedAt
  reconnectDeadlineAt : after.reconnectDeadlineAt = before.reconnectDeadlineAt

inductive LookupStep (config : ExperimentConfig) (session : LiveSession G)
    (id : ParticipantSessionId) : Section G → Option SessionParticipant → Prop where
  | kept {sec : Section G} {f : SessionParticipant → SessionParticipant}
      (same : ∀ p : SessionParticipant, p.Same (f p)) :
    LookupStep config session id sec ((session.participants.lookup id).map f)
  | connect (now : Timestamp) :
    LookupStep config session id (.memory (.connect id now))
      ((session.participants.lookup id).map (SessionParticipant.connect now))
  | disconnect (disconnectedAt deadline : Timestamp) :
    LookupStep config session id (.memory (.disconnect id disconnectedAt deadline))
      ((session.participants.lookup id).map
        (SessionParticipant.disconnect disconnectedAt deadline))
  | joined (participant : ParticipantSession) (now : Timestamp) (role : PlayerRole)
      (own : participant.id = id) (fresh : session.participants.lookup id = none)
      (free : session.nextRole = some role) :
    LookupStep config session id (.memory (.addHuman participant now))
      (some (.joined config participant role now))
  | attached (agent : ParticipantSession) (now : Timestamp) (own : agent.id = id)
      (forming : session.lifecycle.isForming = true) :
    LookupStep config session id (.memory (.attachAgent agent now)) (some (.attached agent now))
  | detached : LookupStep config session id (.memory (.detachAgent id)) none

theorem LookupStep.unchanged {session : LiveSession G} {id : ParticipantSessionId}
    {sec : Section G} :
    LookupStep config session id sec (session.participants.lookup id) := by
  have kept : LookupStep config session id sec ((session.participants.lookup id).map fun p => p) :=
    .kept fun p => ⟨rfl, rfl, rfl, rfl, rfl, rfl⟩
  rwa [Option.map_id'] at kept

theorem MembersStep.lookup {session : LiveSession G} {sec : Section G}
    {members : Map ParticipantSessionId SessionParticipant}
    (step : MembersStep config session sec members) (id : ParticipantSessionId) :
    LookupStep config session id sec (members.lookup id) := by
  cases step
  case same => exact .unchanged
  case connect id' now =>
    rw [Map.lookup_modify]
    split
    · rename_i own
      subst own
      exact .connect now
    · exact .unchanged
  case disconnect id' disconnectedAt deadline =>
    rw [Map.lookup_modify]
    split
    · rename_i own
      subst own
      exact .disconnect disconnectedAt deadline
    · exact .unchanged
  case agentReady id' now =>
    rw [Map.lookup_modify]
    split
    · rename_i own
      subst own
      exact .kept fun p => ⟨rfl, rfl, rfl, rfl, rfl, rfl⟩
    · exact .unchanged
  case audioReady id' now =>
    rw [Map.lookup_modify]
    split
    · rename_i own
      subst own
      exact .kept fun p => ⟨rfl, rfl, rfl, rfl, rfl, rfl⟩
    · exact .unchanged
  case join participant now role fresh free =>
    rw [Map.lookup_insert_eq]
    split
    · rename_i own
      subst own
      exact .joined participant now role rfl fresh free
    · exact .unchanged
  case attach agent now forming =>
    rw [Map.lookup_insert_eq]
    split
    · rename_i own
      subst own
      exact .attached agent now rfl forming
    · exact .unchanged
  case detach id' =>
    rw [Map.lookup_erase_eq]
    split
    · rename_i own
      subst own
      exact .detached
    · exact .unchanged

def Section.SparesHumans : Section G → Prop
  | .memory (.attachAgent agent _) => agent.id.isHuman = false
  | .memory (.detachAgent id) => id.isHuman = false
  | _ => True

def Section.MovesHumans : Section G → Prop
  | .memory (.connect id _) => id.isHuman = true
  | .memory (.disconnect id _ _) => id.isHuman = true
  | _ => True

namespace Task

section Steps

variable {cell : Cell G} {pid : Nat} {input : Input} {task task' : Task G}
  {started : List (Task G)} {id : ParticipantSessionId} {now : Timestamp}

/-- Only a connection loop connects, and it connects its own participant. -/
theorem next_connect (h : task.next config cell pid input =
      some (.memory (.connect id now), task', started)) :
    ∃ call g, task = socket call (.connect g) ∧ id = call.participantSessionId := by
  have kind := next_kind h
  cases task <;> simp [kinds, Section.kind, MemorySection.kind] at kind
  obtain ⟨⟨sec', pc'⟩, hs, he⟩ := Option.map_eq_some_iff.mp h
  rename_i pc
  cases pc <;> simp only [SocketPc.step] at hs <;>
    repeat' first | split at hs | cases hs | cases he
  exact ⟨_, _, rfl, rfl⟩

theorem next_disconnect {disconnectedAt deadline : Timestamp}
    (h : task.next config cell pid input =
      some (.memory (.disconnect id disconnectedAt deadline), task', started)) :
    ∃ call, task = socket call (.disconnect disconnectedAt deadline) ∧
      id = call.participantSessionId ∧
      task' = socket call (.persistDisconnected disconnectedAt deadline) := by
  have kind := next_kind h
  cases task <;> simp [kinds, Section.kind, MemorySection.kind] at kind
  obtain ⟨⟨sec', pc'⟩, hs, he⟩ := Option.map_eq_some_iff.mp h
  rename_i pc
  cases pc <;> simp only [SocketPc.step] at hs <;>
    repeat' first | split at hs | cases hs | cases he
  exact ⟨_, rfl, rfl, rfl⟩

theorem next_addHuman {participant : ParticipantSession}
    (h : task.next config cell pid input =
      some (.memory (.addHuman participant now), task', started)) :
    task = pair participant .join := by
  have kind := next_kind h
  cases task <;> simp [kinds, Section.kind, MemorySection.kind] at kind
  obtain ⟨⟨sec', pc'⟩, hs, he⟩ := Option.map_eq_some_iff.mp h
  rename_i pc
  cases pc <;> simp only [PairPc.step] at hs <;>
    repeat' first | split at hs | cases hs | cases he
  rfl

theorem next_attachAgent {agent : ParticipantSession}
    (h : task.next config cell pid input =
      some (.memory (.attachAgent agent now), task', started)) :
    ∃ call, task.owner = some (.agent call) ∧ agent = call.participant := by
  have kind := next_kind h
  cases task <;> simp [kinds, Section.kind, MemorySection.kind] at kind
  obtain ⟨⟨sec', pc'⟩, hs, he⟩ := Option.map_eq_some_iff.mp h
  rename_i pc
  cases pc <;> simp only [AgentPc.step] at hs <;>
    repeat' first | split at hs | cases hs | cases he
  exact ⟨_, rfl, rfl⟩

theorem next_detachAgent
    (h : task.next config cell pid input = some (.memory (.detachAgent id), task', started)) :
    ∃ call, task.owner = some (.agent call) ∧ id = call.participant.id := by
  have kind := next_kind h
  cases task <;> simp [kinds, Section.kind, MemorySection.kind] at kind
  obtain ⟨⟨sec', pc'⟩, hs, he⟩ := Option.map_eq_some_iff.mp h
  rename_i pc
  cases pc <;> simp only [AgentPc.step] at hs <;>
    repeat' first | split at hs | cases hs | cases he
  exact ⟨_, rfl, rfl⟩

theorem next_sparesHumans (sound : ∀ o, task.owner = some o → o.Sound config)
    {sec : Section G}
    (h : task.next config cell pid input = some (sec, task', started)) : sec.SparesHumans := by
  unfold Section.SparesHumans
  split
  · obtain ⟨call, owned, rfl⟩ := next_attachAgent h
    exact (sound _ owned).1
  · obtain ⟨call, owned, rfl⟩ := next_detachAgent h
    exact (sound _ owned).1
  · trivial

theorem next_movesHumans (sound : ∀ o, task.owner = some o → o.Sound config)
    {sec : Section G}
    (h : task.next config cell pid input = some (sec, task', started)) : sec.MovesHumans := by
  unfold Section.MovesHumans
  split
  · obtain ⟨call, g, rfl, rfl⟩ := next_connect h
    exact sound _ rfl
  · obtain ⟨call, rfl, rfl, -⟩ := next_disconnect h
    exact sound _ rfl
  · trivial

end Steps

end Task

end Parlando
