import Parlando.Proofs.Store

namespace Parlando

variable {G : Game} {config : ExperimentConfig}

namespace Cell

variable {cell : Cell G} {sec : Section G}

/-- A session that has left memory does not come back. -/
theorem apply_session_none (gone : cell.session = none) :
    (cell.apply config sec).session = none := by
  cases sec <;> simp [apply, gone]

theorem session_isSome_of_apply (h : (cell.apply config sec).session.isSome) :
    cell.session.isSome := by
  cases gone : cell.session with
  | some session => rfl
  | none => simp [apply_session_none gone] at h

/-- A session leaves memory only when it is removed. -/
theorem apply_session_gone (gone : (cell.apply config sec).session = none) :
    cell.session = none ∨ sec = .memory .remove := by
  cases sec
  case memory update =>
    cases here : cell.session with
    | none => exact .inl rfl
    | some session =>
      simp only [apply, here, Option.bind_some] at gone
      cases update <;> simp only [MemorySection.apply] at gone
      case remove => exact .inr rfl
      all_goals repeat' first | cases gone | split at gone
  all_goals exact .inl gone

theorem ended_apply (ended : cell.store.ended = true) :
    (cell.apply config sec).store.ended = true := by
  cases sec
  case transaction update => exact Transaction.ended_stays ended
  all_goals exact ended

end Cell

/-- The lifecycle a section writes to memory, where it writes one. -/
def Section.lifecycle : Section G → Option SessionLifecycle
  | memory (.start _ _) => some .running
  | memory (.transition _ sessionEnd _ _) => sessionEnd.map .ended
  | memory (.terminate sessionEnd _) => some (.ended sessionEnd)
  | _ => none

theorem Section.lifecycle_ne_forming {sec : Section G} : sec.lifecycle ≠ some .forming := by
  cases sec
  case memory update =>
    cases update
    case transition after sessionEnd completedAt voiceEndsAt => cases sessionEnd <;> simp [lifecycle]
    all_goals simp [lifecycle]
  all_goals simp [lifecycle]

inductive MembersStep (config : ExperimentConfig) (session : LiveSession G) :
    Section G → Map ParticipantSessionId SessionParticipant → Prop where
  | same {sec : Section G} : MembersStep config session sec session.participants
  | connect (id : ParticipantSessionId) (now : Timestamp) :
    MembersStep config session (.memory (.connect id now))
      (session.participants.modify id (SessionParticipant.connect now))
  | disconnect (id : ParticipantSessionId) (disconnectedAt deadline : Timestamp) :
    MembersStep config session (.memory (.disconnect id disconnectedAt deadline))
      (session.participants.modify id (SessionParticipant.disconnect disconnectedAt deadline))
  | agentReady (id : ParticipantSessionId) (now : Timestamp) :
    MembersStep config session (.memory (.agentReady id now))
      (session.participants.modify id fun participant =>
        { participant with ready := true, updatedAt := now })
  | audioReady (id : ParticipantSessionId) (now : Timestamp) :
    MembersStep config session (.memory (.audioReady id now))
      (session.participants.modify id fun participant =>
        { participant with audioReady := true, updatedAt := now })
  | join (participant : ParticipantSession) (now : Timestamp) (role : PlayerRole)
      (fresh : session.participants.lookup participant.id = none)
      (free : session.nextRole = some role) :
    MembersStep config session (.memory (.addHuman participant now))
      (session.participants.insert participant.id (.joined config participant role now))
  | attach (agent : ParticipantSession) (now : Timestamp)
      (forming : session.lifecycle.isForming = true) :
    MembersStep config session (.memory (.attachAgent agent now))
      (session.participants.insert agent.id (.attached agent now))
  | detach (id : ParticipantSessionId) :
    MembersStep config session (.memory (.detachAgent id)) (session.participants.erase id)

def Section.pause (sec : Section G) (before after : LiveSession G) :
    Option ParticipantPauseReason :=
  match sec with
  | .memory (.connect _ _) => if after.allConnected then none else before.pause
  | .memory (.pause deadline) =>
    if before.lifecycle.isRunning then some (.partnerReconnecting deadline) else before.pause
  | .memory (.start _ _) | .memory (.terminate _ _) => none
  | _ => before.pause

structure SessionStep (config : ExperimentConfig) (sec : Section G)
    (before after : LiveSession G) : Prop where
  sessionId : after.sessionId = before.sessionId
  purpose : after.purpose = before.purpose
  lifecycle : after.lifecycle = sec.lifecycle.getD before.lifecycle
  pause : after.pause = sec.pause before after
  idle : before.idleDeadlineAt.isSome → after.idleDeadlineAt.isSome
  idleStarted : sec.lifecycle = some .running → after.idleDeadlineAt.isSome
  members : MembersStep config before sec after.participants

theorem MemorySection.apply_step {session session' : LiveSession G} {update : MemorySection G}
    (h : update.apply config session = some session') :
    SessionStep config (.memory update) session session' := by
  cases update <;> simp only [MemorySection.apply] at h
  case remove => cases h
  case connect id now =>
    cases h
    unfold LiveSession.connectParticipant
    dsimp only
    split
    · rename_i all
      exact ⟨rfl, rfl, rfl, (if_pos all).symm, fun set => set, nofun, .connect id now⟩
    · rename_i some
      exact ⟨rfl, rfl, rfl, (if_neg some).symm, fun set => set, nofun, .connect id now⟩
  case pause deadline =>
    cases h
    unfold LiveSession.pauseForReconnect
    split
    · rename_i running
      exact ⟨rfl, rfl, rfl, (if_pos running).symm, fun set => set, nofun, .same⟩
    · rename_i resting
      exact ⟨rfl, rfl, rfl, (if_neg resting).symm, fun set => set, nofun, .same⟩
  case transition after sessionEnd completedAt voiceEndsAt =>
    cases h
    cases sessionEnd <;> exact ⟨rfl, rfl, rfl, rfl, fun set => set, nofun, .same⟩
  case addHuman participant now =>
    split at h <;> cases h
    · rename_i joined
      unfold LiveSession.addHumanParticipant at joined
      repeat' first | split at joined | cases joined
      · exact ⟨rfl, rfl, rfl, rfl, fun set => set, nofun, .same⟩
      · rename_i fresh _ free
        exact ⟨rfl, rfl, rfl, rfl, fun set => set, nofun, .join participant now _ fresh free⟩
    · exact ⟨rfl, rfl, rfl, rfl, fun set => set, nofun, .same⟩
  case attachAgent agent now =>
    split at h <;> cases h
    · rename_i attached
      unfold LiveSession.attachAgent at attached
      split at attached <;> cases attached
      rename_i forming
      exact ⟨rfl, rfl, rfl, rfl, fun set => set, nofun, .attach agent now forming⟩
    · exact ⟨rfl, rfl, rfl, rfl, fun set => set, nofun, .same⟩
  case disconnect id disconnectedAt deadline =>
    cases h
    exact ⟨rfl, rfl, rfl, rfl, fun set => set, nofun, .disconnect id disconnectedAt deadline⟩
  case detachAgent id =>
    cases h
    exact ⟨rfl, rfl, rfl, rfl, fun set => set, nofun, .detach id⟩
  case agentReady id now =>
    cases h
    exact ⟨rfl, rfl, rfl, rfl, fun set => set, nofun, .agentReady id now⟩
  case audioReady id now =>
    cases h
    exact ⟨rfl, rfl, rfl, rfl, fun set => set, nofun, .audioReady id now⟩
  case start =>
    cases h
    exact ⟨rfl, rfl, rfl, rfl, fun _ => rfl, fun _ => rfl, .same⟩
  case terminate =>
    cases h
    exact ⟨rfl, rfl, rfl, rfl, fun set => set, nofun, .same⟩
  case touch =>
    cases h
    exact ⟨rfl, rfl, rfl, rfl, fun _ => rfl, nofun, .same⟩

theorem Cell.apply_step {cell : Cell G} {sec : Section G} {session' : LiveSession G}
    (h : (cell.apply config sec).session = some session') :
    ∃ session, cell.session = some session ∧ SessionStep config sec session session' := by
  cases sec
  case memory update =>
    obtain ⟨session, hs, hu⟩ := Option.bind_eq_some_iff.mp h
    exact ⟨session, hs, MemorySection.apply_step hu⟩
  all_goals exact ⟨session', h, rfl, rfl, rfl, rfl, fun set => set, nofun, .same⟩

theorem Cell.apply_lifecycle {cell : Cell G} {sec : Section G} {session' : LiveSession G}
    (h : (cell.apply config sec).session = some session') :
    ∃ session, cell.session = some session ∧
      session'.lifecycle = sec.lifecycle.getD session.lifecycle := by
  obtain ⟨session, here, step⟩ := Cell.apply_step h
  exact ⟨session, here, step.lifecycle⟩

end Parlando
