import Parlando.Cell

namespace Parlando

namespace SessionEventRecord

/-- The record of an accepted action. -/
def isAccepted (record : SessionEventRecord) : Bool := record.eventType == "game_action_accepted"

end SessionEventRecord

namespace SessionStore

variable {store : SessionStore} {now : Timestamp}

/-- The accepted actions in the database, oldest first. -/
def acceptedActions (store : SessionStore) : List SessionEventRecord :=
  (store.events.map SessionEvent.toSessionEventRecord).filter SessionEventRecord.isAccepted

@[simp] theorem acceptedActions_insertEvent (record : SessionEventRecord) (gameTimeMs : Int) :
    (store.insertEvent record gameTimeMs).acceptedActions =
      store.acceptedActions ++ [record].filter SessionEventRecord.isAccepted := by
  simp [acceptedActions, insertEvent]

@[simp] theorem acceptedActions_insertEvents (records : List SessionEventRecord)
    (gameTimeMs : Int) :
    (store.insertEvents records gameTimeMs).acceptedActions =
      store.acceptedActions ++ records.filter SessionEventRecord.isAccepted := by
  induction records generalizing store with
  | nil => simp [insertEvents]
  | cons record records ih =>
    change ((store.insertEvent record gameTimeMs).insertEvents records gameTimeMs).acceptedActions
      = _
    rw [ih, acceptedActions_insertEvent, List.append_assoc, ← List.filter_append]
    rfl

@[simp] theorem acceptedActions_persistTerminalValue (sessionEnd : SessionEnd) :
    (store.persistTerminalValue sessionEnd now).acceptedActions = store.acceptedActions := rfl

theorem acceptedActions_startSession (idleDeadlineAt : Timestamp) :
    (store.startSession now idleDeadlineAt).1.acceptedActions = store.acceptedActions := by
  unfold startSession
  split
  · simp [acceptedActions, Function.comp_def]
  · rfl

theorem acceptedActions_endSession {record : SessionEventRecord} (sessionEnd : SessionEnd)
    (other : record.isAccepted = false) :
    (store.endSession record sessionEnd now).1.acceptedActions = store.acceptedActions := by
  unfold endSession
  split
  · rfl
  · simp [other]

theorem acceptedActions_touchSessionActivity (idleDeadlineAt : Timestamp) :
    (store.touchSessionActivity now idleDeadlineAt).acceptedActions = store.acceptedActions := by
  unfold touchSessionActivity
  split <;> rfl

theorem acceptedActions_addSessionParticipant (member : SessionParticipantRow) :
    (store.addSessionParticipant member).acceptedActions = store.acceptedActions := by
  unfold addSessionParticipant
  split <;> rfl

/-- On an open row a transition's accepted actions join the log. -/
theorem acceptedActions_commitSessionTransition {records : List SessionEventRecord}
    {sessionEnd : Option SessionEnd} (some : records ≠ []) (isOpen : store.ended = false) :
    (store.commitSessionTransition records sessionEnd now).1.acceptedActions =
      store.acceptedActions ++ records.filter SessionEventRecord.isAccepted := by
  unfold commitSessionTransition
  rw [if_neg (by simpa using some), if_neg (by simp [isOpen])]
  cases sessionEnd <;> simp

/-- The row is ended with this terminal value. -/
def EndedWith (store : SessionStore) (sessionEnd : SessionEnd) : Prop :=
  store.row.lifecycle = .ended ∧ store.row.sessionEnd = some sessionEnd

variable {sessionEnd e e' : SessionEnd}

theorem EndedWith.ended (h : store.EndedWith e) : store.ended = true := by
  simp [SessionStore.ended, h.1]

theorem EndedWith.unique (h : store.EndedWith e) (h' : store.EndedWith e') : e = e' :=
  Option.some.inj (h.2.symm.trans h'.2)

structure SameEnd (before after : SessionStore) : Prop where
  lifecycle : after.row.lifecycle = before.row.lifecycle
  sessionEnd : after.row.sessionEnd = before.row.sessionEnd

theorem SameEnd.refl (store : SessionStore) : SameEnd store store := ⟨rfl, rfl⟩

theorem sameEnd_insertEvents (records : List SessionEventRecord) (gameTimeMs : Int) :
    SameEnd store (store.insertEvents records gameTimeMs) := by
  induction records generalizing store with
  | nil => exact ⟨rfl, rfl⟩
  | cons record records ih =>
    have rest : SameEnd (store.insertEvent record gameTimeMs)
        ((store.insertEvent record gameTimeMs).insertEvents records gameTimeMs) := ih
    exact ⟨rest.lifecycle, rest.sessionEnd⟩

theorem SameEnd.ended {before after : SessionStore} (same : SameEnd before after) :
    after.ended = before.ended := by
  simp [SessionStore.ended, same.lifecycle]

theorem endedWith_persistTerminalValue (isOpen : store.ended = false) :
    (store.persistTerminalValue e now).EndedWith e := by
  simp [EndedWith, persistTerminalValue, isOpen]

theorem endSession_open {record : SessionEventRecord} (isOpen : store.ended = false) :
    (store.endSession record e now).2 = true ∧
      (store.endSession record e now).1.EndedWith e := by
  unfold endSession
  rw [if_neg (by simp [isOpen])]
  exact ⟨rfl, endedWith_persistTerminalValue isOpen⟩

theorem endSession_ended {record : SessionEventRecord} (ended : store.ended = true) :
    store.endSession record e now = (store, false) := by
  unfold endSession
  rw [if_pos ended]

/-- An ended row refuses every transition. -/
theorem commitSessionTransition_ended (store : SessionStore) (records : List SessionEventRecord)
    (sessionEnd : Option SessionEnd) (now : Timestamp) (ended : store.ended = true) :
    store.commitSessionTransition records sessionEnd now = (store, false) := by
  unfold commitSessionTransition
  rw [if_pos ended, ite_self]

theorem commitSessionTransition_open {records : List SessionEventRecord}
    {sessionEnd : Option SessionEnd} (some' : records ≠ []) (isOpen : store.ended = false) :
    store.commitSessionTransition records sessionEnd now =
      let inserted := store.insertEvents records (store.storedGameTimeMs now)
      (match sessionEnd with
        | some e => inserted.persistTerminalValue e now
        | none => inserted, true) := by
  unfold commitSessionTransition
  rw [if_neg (by simpa using some'), if_neg (by simp [isOpen])]
  cases sessionEnd <;> rfl

theorem commitSessionTransition_endedWith {records : List SessionEventRecord}
    (some' : records ≠ []) (isOpen : store.ended = false) :
    (store.commitSessionTransition records (some e) now).1.EndedWith e := by
  rw [commitSessionTransition_open some' isOpen]
  exact endedWith_persistTerminalValue ((sameEnd_insertEvents _ _).ended.trans isOpen)

/-- A row is refused by `commit_session_transition`, or keeps its end, or takes the transition's. -/
theorem commitSessionTransition_cases (records : List SessionEventRecord)
    (sessionEnd : Option SessionEnd) :
    SameEnd store (store.commitSessionTransition records sessionEnd now).1 ∨
      store.ended = false ∧ ∃ e, sessionEnd = some e ∧
        (store.commitSessionTransition records sessionEnd now).1.EndedWith e := by
  by_cases none : records = []
  · simp [commitSessionTransition, none, SameEnd.refl]
  · cases isOpen : store.ended with
    | true => simp [commitSessionTransition, isOpen, SameEnd.refl]
    | false =>
      cases sessionEnd with
      | none =>
        rw [commitSessionTransition_open none isOpen]
        exact .inl (sameEnd_insertEvents _ _)
      | some e => exact .inr ⟨rfl, e, rfl, commitSessionTransition_endedWith none isOpen⟩

end SessionStore

namespace Transaction

/-- The transaction writes no accepted action. -/
def Quiet : Transaction → Prop
  | append record _ => record.isAccepted = false
  | commit _ _ _ => False
  | endSession record _ _ => record.isAccepted = false
  | _ => True

theorem Quiet.acceptedActions {store : SessionStore} {update : Transaction} (quiet : update.Quiet) :
    (update.apply store).acceptedActions = store.acceptedActions := by
  cases update with
  | append record now => simp [apply, SessionStore.appendSessionEvent, show _ = false from quiet]
  | commit => cases quiet
  | endSession record sessionEnd now => exact SessionStore.acceptedActions_endSession _ quiet
  | start startedAt idleDeadlineAt => exact SessionStore.acceptedActions_startSession _
  | touch activityAt idleDeadlineAt => exact SessionStore.acceptedActions_touchSessionActivity _
  | connection => rfl
  | addMember member => exact SessionStore.acceptedActions_addSessionParticipant _

def sessionEnd : Transaction → Option SessionEnd
  | commit _ sessionEnd _ => sessionEnd
  | endSession _ sessionEnd _ => some sessionEnd
  | _ => none

variable {store : SessionStore} {update : Transaction} {e : SessionEnd}

/-- A transaction leaves the row's end alone, or starts the row, or ends it while it is open. -/
theorem apply_cases (store : SessionStore) (update : Transaction) :
    SessionStore.SameEnd store (update.apply store) ∨
    (store.row.lifecycle = .forming ∧ (update.apply store).row.lifecycle = .running) ∨
    (store.ended = false ∧ ∃ e, update.sessionEnd = some e ∧
      (update.apply store).EndedWith e) := by
  cases update with
  | append record now => exact .inl ⟨rfl, rfl⟩
  | commit records sessionEnd now =>
    rcases SessionStore.commitSessionTransition_cases records sessionEnd with same | ends
    · exact .inl same
    · exact .inr (.inr ends)
  | endSession record sessionEnd now =>
    cases isOpen : store.ended with
    | true =>
      rw [apply, SessionStore.endSession_ended isOpen]
      exact .inl ⟨rfl, rfl⟩
    | false => exact .inr (.inr ⟨rfl, _, rfl, (SessionStore.endSession_open isOpen).2⟩)
  | start startedAt idleDeadlineAt =>
    simp only [apply, SessionStore.startSession]
    split
    · rename_i forming
      exact .inr (.inl ⟨forming.1, rfl⟩)
    · exact .inl ⟨rfl, rfl⟩
  | touch activityAt idleDeadlineAt =>
    simp only [apply, SessionStore.touchSessionActivity]
    split <;> exact .inl ⟨rfl, rfl⟩
  | connection => exact .inl ⟨rfl, rfl⟩
  | addMember member =>
    simp only [apply, SessionStore.addSessionParticipant]
    split <;> exact .inl ⟨rfl, rfl⟩

/-- An ended row keeps its terminal value. -/
theorem endedWith_apply (h : store.EndedWith e) : (update.apply store).EndedWith e := by
  rcases apply_cases store update with same | ⟨forming, -⟩ | ⟨isOpen, -⟩
  · exact ⟨same.lifecycle.trans h.1, same.sessionEnd.trans h.2⟩
  · rw [h.1] at forming
    cases forming
  · rw [h.ended] at isOpen
    cases isOpen

theorem ended_stays (ended : store.ended = true) : (update.apply store).ended = true := by
  rcases apply_cases store update with same | ⟨forming, -⟩ | ⟨-, e, -, ends⟩
  · exact same.ended.trans ended
  · simp [SessionStore.ended, forming] at ended
  · exact ends.ended

/-- An open row is ended only by a transaction that carries a terminal value, and with it. -/
theorem ended_apply (isOpen : store.ended = false) (ended : (update.apply store).ended = true) :
    ∃ e, update.sessionEnd = some e ∧ (update.apply store).EndedWith e := by
  rcases apply_cases store update with same | ⟨-, running⟩ | ⟨-, ends⟩
  · rw [same.ended, isOpen] at ended
    cases ended
  · simp [SessionStore.ended, running] at ended
  · exact ends

/-- No transaction takes a row back to forming. -/
theorem forming_of_apply (forming : (update.apply store).row.lifecycle = .forming) :
    store.row.lifecycle = .forming := by
  rcases apply_cases store update with same | ⟨before, -⟩ | ⟨-, e, -, ends⟩
  · exact same.lifecycle.symm.trans forming
  · exact before
  · rw [ends.1] at forming
    cases forming

end Transaction

end Parlando
