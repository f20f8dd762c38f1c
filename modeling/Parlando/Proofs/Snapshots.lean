import Parlando.Data.Except
import Parlando.Proofs.Steps

namespace Parlando

variable {G : Game} {config : ExperimentConfig}

def ResultsOf (config : ExperimentConfig) (session : LiveSession G)
    (results : RoleMap ParticipantResult) : Prop :=
  ∃ finalState gameStarted reason completion outcome,
    participantResults config session finalState gameStarted reason completion outcome =
      .ok results

section Computed

variable {session : LiveSession G} {e : SessionEnd}

theorem completedSessionEnd_ok {finalState : G.State} {completion : Value}
    (h : completedSessionEnd config session finalState completion = .ok e) :
    e.cause = .gameCompleted ∧ ResultsOf config session e.participantResults := by
  unfold completedSessionEnd at h
  obtain ⟨results, computed, h⟩ := Except.of_bind_ok h
  cases h
  exact ⟨rfl, _, _, _, _, _, computed⟩

theorem abandonedSessionEnd_ok {actor : SessionParticipant} {reason : EndReason}
    (h : abandonedSessionEnd config session actor reason = .ok e) :
    (∀ {role}, e.cause = .reconnectTimedOut role → reason = .reconnectTimeout) ∧
      ResultsOf config session e.participantResults := by
  unfold abandonedSessionEnd at h
  obtain ⟨results, computed, h⟩ := Except.of_bind_ok h
  cases h
  refine ⟨fun cause => ?_, _, _, _, _, _, computed⟩
  by_contra other
  simp [other] at cause

/-- The cause of an abandonment names the participant who abandons. -/
theorem abandonedSessionEnd_cause {actor : SessionParticipant}
    (h : abandonedSessionEnd config session actor .reconnectTimeout = .ok e) :
    e.cause = .reconnectTimedOut actor.role.asStr := by
  unfold abandonedSessionEnd at h
  obtain ⟨results, -, h⟩ := Except.of_bind_ok h
  cases h
  rfl

theorem expiredSessionEnd_cause {reason : EndReason} {pick : Nat}
    (h : expiredSessionEnd config session reason pick = .ok e) :
    e.cause = expiryCause session reason pick := by
  unfold expiredSessionEnd at h
  obtain ⟨results, -, h⟩ := Except.of_bind_ok h
  cases h
  rfl

theorem expiredSessionEnd_ok {reason : EndReason} {pick : Nat}
    (h : expiredSessionEnd config session reason pick = .ok e) :
    (∀ {role}, e.cause = .reconnectTimedOut role → reason = .reconnectTimeout) ∧
      ResultsOf config session e.participantResults := by
  refine ⟨fun cause => ?_, ?_⟩
  · rw [expiredSessionEnd_cause h] at cause
    cases reason <;> first | rfl | cases cause
  · unfold expiredSessionEnd at h
    obtain ⟨results, computed, h⟩ := Except.of_bind_ok h
    cases h
    exact ⟨_, _, _, _, _, computed⟩

end Computed

def SubmitPc.ends : SubmitPc G → Option SessionEnd
  | record _ _ sessionEnd | recordCompleted _ _ sessionEnd _ _ | commit _ _ sessionEnd _
  | write _ _ sessionEnd => sessionEnd
  | _ => none

def AbandonPc.ends : AbandonPc → Option SessionEnd
  | record _ sessionEnd | commit _ sessionEnd _ | write _ sessionEnd => some sessionEnd
  | _ => none

def ExpirePc.ends : ExpirePc → Option SessionEnd
  | commit sessionEnd | write sessionEnd => some sessionEnd
  | _ => none

def FinalizePc.ends : FinalizePc → Option SessionEnd
  | commit sessionEnd => some sessionEnd
  | _ => none

namespace Task

/-- The terminal value a task has computed and not yet written to memory. -/
def ends : Task G → Option SessionEnd
  | submit _ pc => pc.ends
  | abandon _ _ _ pc => pc.ends
  | expire _ _ pc => pc.ends
  | finalize pc => pc.ends
  | _ => none

inductive Snapshot (config : ExperimentConfig) (cell : Cell G) : Task G → SessionEnd → Prop where
  | completed {call : SubmitCall G} {l : Nat} {t : Transition G} {completion : Value}
      {session : LiveSession G} {e : SessionEnd} (here : cell.session = some session)
      (computed : completedSessionEnd config session t.after completion = .ok e) :
    Snapshot config cell (submit call (.finish l t completion)) e
  | abandoned {id : ParticipantSessionId} {reason : EndReason} {caller : AbandonCaller} {l : Nat}
      {session : LiveSession G} {actor : SessionParticipant} {e : SessionEnd}
      (here : cell.session = some session)
      (computed : abandonedSessionEnd config session actor reason = .ok e) :
    Snapshot config cell (abandon id reason caller (.check l)) e
  | expired {reason : EndReason} {caller : ExpireCaller} {pick : Nat} {session : LiveSession G}
      {e : SessionEnd} (here : cell.session = some session)
      (computed : expiredSessionEnd config session reason pick = .ok e) :
    Snapshot config cell (expire reason caller .check) e
  | interrupted (started : Bool) :
    Snapshot config cell (finalize (.members started))
      (interruptedSessionEnd config started cell.store.members)

@[simp] theorem ends_ofSocket (call : SocketCall) (pc : SocketPc) :
    (ofSocket call pc : Task G).ends = none := by
  cases pc <;> rfl

@[simp] theorem ends_ofAgent (call : AgentCall) (pc : AgentPc) :
    (ofAgent call pc : Task G).ends = none := by
  cases pc <;> rfl

@[simp] theorem ends_ofEvent (call : EventCall) (caller : EventCaller) (pc : EventPc) :
    (ofEvent config call caller pc : Task G).ends = none := by
  cases caller <;> cases pc <;> first | rfl | simp [ofEvent]

@[simp] theorem ends_ofAbandon (id : ParticipantSessionId) (reason : EndReason)
    (caller : AbandonCaller) (pc : AbandonPc) :
    (ofAbandon id reason caller pc : Task G).ends = pc.ends := by
  cases caller <;> cases pc <;> rfl

@[simp] theorem ends_ofExpire (reason : EndReason) (caller : ExpireCaller) (pc : ExpirePc) :
    (ofExpire reason caller pc : Task G).ends = pc.ends := by
  cases caller <;> cases pc <;> rfl

theorem ends_of_entry {task : Task G} (h : task.entry = true) : task.ends = none := by
  unfold entry at h
  split at h <;> first | rfl | cases h

end Task

section Steps

variable {cell : Cell G} {pid : Nat} {input : Input} {sec : Section G} {task task' : Task G}
  {started : List (Task G)} {e : SessionEnd}

theorem SubmitPc.step_ends {call : SubmitCall G} {pc pc' : SubmitPc G}
    (h : pc.step config call cell pid input = some (sec, pc')) (holds : pc'.ends = some e) :
    pc.ends = some e ∨ Task.Snapshot config cell (.submit call pc) e := by
  cases pc <;> simp only [step] at h
  case finish l t completion =>
    split at h
    · cases h
      cases holds
    · rename_i session here
      split at h <;> cases h <;> cases holds
      rename_i computed
      exact .inr (.completed here computed)
  all_goals repeat' first | split at h | cases h
  all_goals first | exact .inl holds | cases holds

theorem checkAbandon_ok {session? : Option (LiveSession G)} {id : ParticipantSessionId}
    {reason : EndReason} (h : checkAbandon config session? id reason = .ok (some e)) :
    ∃ session actor, session? = some session ∧ session.participants.lookup id = some actor ∧
      abandonedSessionEnd config session actor reason = .ok e := by
  unfold checkAbandon at h
  repeat' first | split at h | cases h
  rename_i session _ _ actor found
  cases computed : abandonedSessionEnd config session actor reason with
  | error message =>
    rw [computed] at h
    cases h
  | ok e' =>
    rw [computed] at h
    cases h
    exact ⟨session, actor, rfl, found, computed⟩

theorem AbandonPc.step_ends {id : ParticipantSessionId} {reason : EndReason}
    {caller : AbandonCaller} {pc pc' : AbandonPc}
    (h : pc.step config id reason cell pid input = some (sec, pc')) (holds : pc'.ends = some e) :
    pc.ends = some e ∨ Task.Snapshot config cell (.abandon id reason caller pc) e := by
  cases pc <;> simp only [step] at h
  case check l =>
    right
    split at h <;> cases h <;> cases holds
    rename_i found
    obtain ⟨session, actor, here, -, computed⟩ := checkAbandon_ok found
    exact .abandoned here computed
  all_goals repeat' first | split at h | cases h
  all_goals first | exact .inl holds | cases holds

theorem ExpirePc.step_ends {reason : EndReason} {caller : ExpireCaller} {pc pc' : ExpirePc}
    (h : pc.step config reason cell input = some (sec, pc')) (holds : pc'.ends = some e) :
    pc.ends = some e ∨ Task.Snapshot config cell (.expire reason caller pc) e := by
  cases pc <;> simp only [step] at h
  case check =>
    right
    split at h <;> cases h <;> cases holds
    rename_i found
    unfold checkExpiry at found
    repeat' first | split at found | cases found
    rename_i session here _
    cases computed : expiredSessionEnd config session reason input.pick with
    | error message =>
      rw [computed] at found
      cases found
    | ok e' =>
      rw [computed] at found
      cases found
      exact .expired here computed
  all_goals repeat' first | split at h | cases h
  all_goals first | exact .inl holds | cases holds

namespace Task

/-- A terminal value was there before or is computed in this step. -/
theorem next_ends (h : task.next config cell pid input = some (sec, task', started))
    (holds : task'.ends = some e) : task.ends = some e ∨ Snapshot config cell task e := by
  cases task
  all_goals
    obtain ⟨⟨sec', pc'⟩, hs, he⟩ := Option.map_eq_some_iff.mp h
    cases he
  case submit => exact SubmitPc.step_ends hs holds
  case abandon =>
    rw [ends_ofAbandon] at holds
    exact AbandonPc.step_ends hs holds
  case expire =>
    rw [ends_ofExpire] at holds
    exact ExpirePc.step_ends hs holds
  case finalize pc =>
    cases pc <;> simp only [FinalizePc.step] at hs
    case members started =>
      split at hs <;> cases hs <;> cases holds
      exact .inr (.interrupted started)
    all_goals repeat' first | split at hs | cases hs | cases holds
  case event => simp at holds
  case socket => simp at holds
  case agent => simp at holds
  case start caller pc => cases caller <;> cases pc' <;> cases holds
  case touch => cases holds
  all_goals cases pc' <;> cases holds

/-- Only a task that holds a terminal value writes it to the database. -/
theorem next_persists {update : Transaction}
    (h : task.next config cell pid input = some (.transaction update, task', started))
    (persists : update.sessionEnd = some e) : task.ends = some e := by
  have kind := next_kind h
  cases update <;> try cases persists
  case commit records now =>
    cases task <;> simp [kinds, Section.kind, Transaction.kind] at kind
    obtain ⟨⟨sec', pc'⟩, hs, he⟩ := Option.map_eq_some_iff.mp h
    rename_i pc
    cases pc <;> simp only [SubmitPc.step] at hs <;>
      repeat' first | split at hs | cases hs | cases he
    rfl
  case endSession record now =>
    cases task <;> simp [kinds, Section.kind, Transaction.kind] at kind
    all_goals
      obtain ⟨⟨sec', pc'⟩, hs, he⟩ := Option.map_eq_some_iff.mp h
      rename_i pc
    case abandon =>
      cases pc <;> simp only [AbandonPc.step] at hs <;>
        repeat' first | split at hs | cases hs | cases he | rfl
    case expire =>
      cases pc <;> simp only [ExpirePc.step] at hs <;>
        repeat' first | split at hs | cases hs | cases he | rfl
    case finalize =>
      cases pc <;> simp only [FinalizePc.step] at hs <;>
        repeat' first | split at hs | cases hs | cases he | rfl

end Task

end Steps

end Parlando
