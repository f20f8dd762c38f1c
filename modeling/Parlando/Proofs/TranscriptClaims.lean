import Parlando.Concurrency.Claims
import Parlando.Proofs.LastWords

namespace Parlando

open Concurrency

variable {G : Game}

namespace TranscriptCall

/-- What tells utterances apart: the provider's result ids, or times and text where there are none. -/
def identity (call : TranscriptCall) : List String ⊕ (Int × Int × String) :=
  if call.utterance.resultIds.isEmpty then
    .inr (call.utterance.startTimeMs, call.utterance.endTimeMs, call.utterance.text)
  else .inl call.utterance.resultIds

/-- The utterance that a call delivers, of all streams of the session. -/
def utteranceId (call : TranscriptCall) :
    ParticipantSessionId × Timestamp × (List String ⊕ (Int × Int × String)) :=
  (call.participantSessionId, call.streamStartedAt, call.identity)

theorem providerIdentity_congr {a b : TranscriptCall} (same : a.identity = b.identity) :
    a.providerIdentity = b.providerIdentity := by
  unfold identity at same
  unfold providerIdentity
  split at same <;> split at same <;> rename_i ha hb
  · obtain ⟨start, stop, text⟩ : _ ∧ _ ∧ _ := by simpa using same
    rw [if_pos ha, if_pos hb, start, stop, text]
  · cases same
  · cases same
  · rw [if_neg ha, if_neg hb, Sum.inl.inj same]

/-- Deliveries of one utterance have one key. -/
theorem key_congr {a b : TranscriptCall} (texts : SessionTexts)
    (same : a.utteranceId = b.utteranceId) :
    a.idempotencyKey texts = b.idempotencyKey texts := by
  simp only [utteranceId, Prod.mk.injEq] at same
  rw [idempotencyKey, idempotencyKey, same.1, same.2.1, providerIdentity_congr same.2.2]

end TranscriptCall

namespace MessagePc

def isKept : MessagePc → Bool
  | .touch | .touchStore _ | .returned (.ok _) => true
  | _ => false

def hasFailed : MessagePc → Bool
  | .returned (.error _) => true
  | _ => false

end MessagePc

namespace TalkTask

def call? : TalkTask G → Option TranscriptCall
  | transcript call _ => some call
  | _ => none

def holds (texts : SessionTexts) : TalkTask G → Option String
  | transcript call (.message _ _ pc) => if pc.isKept then none else some (call.idempotencyKey texts)
  | transcript call (.unclaim _) => some (call.idempotencyKey texts)
  | _ => none

end TalkTask

/-- The claims on the session's transcripts. -/
def claims (texts : SessionTexts) (w : Pool (Talk G) (TalkTask G)) : Claims String where
  claimed := w.shared.committed
  done := w.shared.stored.map fun call => call.idempotencyKey texts
  hold pid := (w.tasks[pid]?).bind fun task => task.holds texts

section Steps

variable {config : ExperimentConfig} {texts : SessionTexts} {jsonBytes : Value → Nat}
  {talk talk' : Talk G} {pid : Nat} {input : TalkInput}
  {task task' : TalkTask G} {started : List (TalkTask G)}

structure SameNotes (talk talk' : Talk G) : Prop where
  committed : talk'.committed = talk.committed
  stored : talk'.stored = talk.stored
  declined : talk'.declined = talk.declined

/-- Only the calls of `commit_final_transcript` touch the transcripts. -/
theorem TalkTask.next_transcript
    (h : task.next config texts jsonBytes talk pid input = some (talk', task', started)) :
    (task.call? = none ∧ task'.call? = none ∧ SameNotes talk talk') ∨
    ∃ call pc pc', task = transcript call pc ∧ task' = transcript call pc' ∧
      TranscriptStep config texts jsonBytes call
        { talk with cell := { talk.cell with clock := input.now } } input pc talk' pc' := by
  cases task with
  | session task =>
    obtain ⟨_, -, he⟩ := Option.map_eq_some_iff.mp h
    cases he
    exact .inl ⟨rfl, rfl, rfl, rfl, rfl⟩
  | message call pc =>
    obtain ⟨_, -, he⟩ := Option.map_eq_some_iff.mp h
    cases he
    exact .inl ⟨rfl, rfl, rfl, rfl, rfl⟩
  | transcript call pc =>
    obtain ⟨_, hs, he⟩ := Option.map_eq_some_iff.mp h
    cases he
    exact .inr ⟨call, pc, _, rfl, rfl, TranscriptPc.step_cases hs⟩

theorem TalkTask.holds_of_call_none (none : task.call? = none) : task.holds texts = .none := by
  cases task <;> first | rfl | cases none

theorem MessagePc.step_kept {call : MessageCall} {cell : Cell G} {sec : Section G}
    {pc pc' : MessagePc} (h : pc.step config texts jsonBytes call cell input = some (sec, pc')) :
    (pc.isKept = false ∧ pc'.isKept = true ∧ pc'.isStored = true) ∨
      (pc'.isKept = pc.isKept ∧ pc'.isStored = false) := by
  cases pc <;> simp only [step] at h
  case append event =>
    split at h <;> cases h
    · exact .inl ⟨rfl, rfl, rfl⟩
    · exact .inr ⟨rfl, rfl⟩
  case touch =>
    cases h
    split <;> exact .inr ⟨rfl, rfl⟩
  all_goals
    repeat' first | split at h | cases h
    all_goals exact .inr ⟨rfl, rfl⟩

inductive ClaimsStep (c : Claims String) (pid : Nat) : Claims String → Prop where
  | same : ClaimsStep c pid c
  | claim (key : String) (free : key ∉ c.claimed) (idle : c.hold pid = none) :
    ClaimsStep c pid (c.claim pid key)
  | finish (key : String) (holds : c.hold pid = some key) : ClaimsStep c pid (c.finish pid key)
  | release (key : String) (holds : c.hold pid = some key) : ClaimsStep c pid (c.release pid key)

theorem ClaimsStep.exclusive {c c' : Claims String} (step : ClaimsStep c pid c')
    (exclusive : c.Exclusive) : c'.Exclusive := by
  cases step with
  | same => exact exclusive
  | claim key free idle => exact exclusive.claim free idle
  | finish key holds => exact exclusive.finish holds
  | release key holds => exact exclusive.release holds

/-- What the tasks hold after a step whose new tasks hold nothing. -/
theorem hold_after {tasks : List (TalkTask G)} (ht : tasks[pid]? = some task)
    (new : ∀ u ∈ started, u.holds texts = none) :
    (fun q => ((tasks.set pid task' ++ started)[q]?).bind fun task => task.holds texts) =
      Function.update (fun q => (tasks[q]?).bind fun task => task.holds texts) pid
        (task'.holds texts) := by
  funext q
  by_cases same : q = pid
  · subst same
    rw [Pool.self_after ht, Function.update_self]
    rfl
  · rw [Function.update_of_ne same]
    cases hq : (tasks.set pid task' ++ started)[q]? with
    | none =>
      cases old : tasks[q]? with
      | none => rfl
      | some u =>
        rw [Pool.other_after same old] at hq
        cases hq
    | some u =>
      rcases Pool.task_after hq with ⟨here, -⟩ | ⟨-, old⟩ | mem
      · exact absurd here same
      · rw [old]
      · cases old : tasks[q]? with
        | none => exact new u mem
        | some v =>
          rw [Pool.other_after same old] at hq
          cases hq
          rfl

theorem TalkTask.holds_of_entry
    (h : (talkProgram G config texts jsonBytes).entry talk task = true) :
    task.holds texts = none := by
  have enter := (talk_entry h).1
  cases task with
  | transcript call pc => cases pc <;> first | rfl | cases enter
  | _ => rfl

/-- The claims after a call's step, which keeps, takes, keeps for ever or gives up the call's key. -/
theorem TranscriptStep.claimsStep {call : TranscriptCall} {pc pc' : TranscriptPc} {c : Claims String}
    (step : TranscriptStep config texts jsonBytes call talk input pc talk' pc')
    (claimed : c.claimed = talk.committed)
    (done : c.done = talk.stored.map fun call => call.idempotencyKey texts)
    (own : c.hold pid = (TalkTask.transcript call pc : TalkTask G).holds texts) :
    ClaimsStep c pid ⟨talk'.committed, talk'.stored.map fun call => call.idempotencyKey texts,
      Function.update c.hold pid ((TalkTask.transcript call pc' : TalkTask G).holds texts)⟩ := by
  have still (keeps : (TalkTask.transcript call pc' : TalkTask G).holds texts = c.hold pid)
      (committed : talk'.committed = talk.committed) (stored : talk'.stored = talk.stored) :
      ClaimsStep c pid ⟨talk'.committed, talk'.stored.map fun call => call.idempotencyKey texts,
        Function.update c.hold pid ((TalkTask.transcript call pc' : TalkTask G).holds texts)⟩ := by
    rw [keeps, Function.update_eq_self, committed, stored, ← claimed, ← done]
    exact .same
  cases step with
  | checks before after =>
    refine still (Eq.trans ?_ own.symm) rfl rfl
    have free : (TalkTask.transcript call pc : TalkTask G).holds texts = none := by
      cases pc <;> first | rfl | cases before
    rw [free]
    cases pc' <;> simp [TranscriptPc.isChecking, TranscriptPc.isRefused] at after <;> rfl
  | declines role start stop tokens held => exact still own.symm rfl rfl
  | claims role start stop tokens free =>
    have claim := ClaimsStep.claim (call.idempotencyKey texts) (claimed ▸ free) own
    rw [Claims.claim, claimed, done] at claim
    exact claim
  | commits segment message pc pc' sec step =>
    rcases MessagePc.step_kept step with ⟨before, after, stored⟩ | ⟨keeps, other⟩
    · have holds : c.hold pid = some (call.idempotencyKey texts) := by
        rw [own, TalkTask.holds, before]
        rfl
      have finish := ClaimsStep.finish _ holds
      rw [Claims.finish, claimed, done] at finish
      simp only [stored, if_true, TalkTask.holds, after, List.map_append]
      exact finish
    · refine still ?_ rfl ?_
      · rw [own, TalkTask.holds, TalkTask.holds, keeps]
      · simp [other]
  | answers segment message => exact still own.symm rfl rfl
  | fails segment message error => exact still own.symm rfl rfl
  | releases error =>
    have release := ClaimsStep.release _ own
    rw [Claims.release, claimed, done] at release
    exact release

theorem claims_step {w w' : Pool (Talk G) (TalkTask G)} {a : Pool.Action (TalkTask G) TalkInput}
    (h : (talkMachine G config texts jsonBytes).step w a = some w') :
    ∃ pid, ClaimsStep (claims texts w) pid (claims texts w') := by
  rcases Program.step_cases h with ⟨task, rfl, enter, rfl⟩ |
    ⟨pid, input, task, talk', task', started, rfl, ht, hs, rfl⟩
  · refine ⟨0, ?_⟩
    have same : claims texts ⟨w.shared, w.tasks ++ [task]⟩ = claims texts w := by
      simp only [claims, Claims.mk.injEq, true_and]
      funext q
      by_cases hq : q < w.tasks.length
      · rw [List.getElem?_append_left hq]
      · rw [List.getElem?_append_right (Nat.le_of_not_lt hq),
          List.getElem?_eq_none (Nat.le_of_not_lt hq)]
        cases new : ([task])[q - w.tasks.length]? with
        | none => rfl
        | some u =>
          cases List.mem_singleton.mp (List.mem_of_getElem? new)
          exact TalkTask.holds_of_entry enter
    rw [same]
    exact .same
  · refine ⟨pid, ?_⟩
    have next := (talk_step hs).1
    have idle : ∀ u ∈ started, u.holds texts = none := by
      intro u mem
      obtain ⟨id, deadline, wakeAt, rfl⟩ := TalkTask.mem_started next mem
      rfl
    have own : (claims texts w).hold pid = task.holds texts := by
      change (w.tasks[pid]?).bind _ = _
      rw [ht]
      rfl
    have after : claims texts ⟨talk', w.tasks.set pid task' ++ started⟩ =
        ⟨talk'.committed, talk'.stored.map fun call => call.idempotencyKey texts,
          Function.update (claims texts w).hold pid (task'.holds texts)⟩ := by
      rw [claims, hold_after ht idle]
      rfl
    rcases TalkTask.next_transcript next with ⟨before, next, notes⟩ | ⟨call, pc, pc', rfl, rfl, step⟩
    · rw [after, TalkTask.holds_of_call_none next, ← TalkTask.holds_of_call_none before, ← own,
        Function.update_eq_self, notes.committed, notes.stored]
      exact .same
    · rw [after]
      exact step.claimsStep rfl rfl own

end Steps

namespace SessionEventRecord

def isTranscript (record : SessionEventRecord) : Bool :=
  record.eventType == "conversation_message" &&
    (record.payload.get? "origin").bind Value.asStr? == some "voice_transcript"

def text? (record : SessionEventRecord) : Option String :=
  (record.payload.get? "text").bind Value.asStr?

variable {record : SessionEventRecord}

theorem not_transcript_of_type (type : record.eventType ≠ "conversation_message") :
    record.isTranscript = false := by
  simp [isTranscript, type]

theorem not_transcript_of_silent (silent : record.isSpoken = false) :
    record.isTranscript = false := by
  refine not_transcript_of_type fun type => ?_
  simp [isSpoken, type] at silent

theorem not_transcript_of_terminal (terminal : record.isTerminal = true) :
    record.isTranscript = false :=
  not_transcript_of_silent (not_spoken_of_terminal terminal)

theorem not_transcript_of_accepted (accepted : record.isAccepted = true) :
    record.isTranscript = false := by
  refine not_transcript_of_type fun type => ?_
  simp [isAccepted, type] at accepted

end SessionEventRecord

namespace SessionStore

variable {store : SessionStore} {record : SessionEventRecord}

/-- The texts of the transcripts in the log, oldest first. -/
def transcripts (store : SessionStore) : List (Option String) :=
  (store.events.filter fun event => event.isTranscript).map fun event => event.text?

theorem transcripts_insertEvent (record : SessionEventRecord) (gameTimeMs : Int) :
    (store.insertEvent record gameTimeMs).transcripts =
      store.transcripts ++ if record.isTranscript then [record.text?] else [] := by
  rw [transcripts, insertEvent, List.filter_append, List.map_append, transcripts]
  cases here : record.isTranscript <;> simp [here]

theorem transcripts_insertEvent_other {gameTimeMs : Int} (other : record.isTranscript = false) :
    (store.insertEvent record gameTimeMs).transcripts = store.transcripts := by
  simp [transcripts_insertEvent, other]

end SessionStore

/-- A session's own transactions store no transcript. -/
theorem Transaction.Titled.transcripts {store : SessionStore} {update : Transaction}
    (titled : update.Titled) : (update.apply store).transcripts = store.transcripts := by
  cases update with
  | append record now =>
    exact store.transcripts_insertEvent_other
      (SessionEventRecord.not_transcript_of_silent titled.1)
  | commit records sessionEnd now =>
    obtain ⟨accepted, rest, rfl, action, shape⟩ := titled
    have quiet := SessionEventRecord.not_transcript_of_accepted action
    cases isOpen : store.ended with
    | true => rw [apply, SessionStore.commitSessionTransition_ended _ _ _ _ isOpen]
    | false =>
      rw [apply, SessionStore.commitSessionTransition_open (by simp) isOpen]
      cases sessionEnd with
      | none =>
        cases shape
        exact store.transcripts_insertEvent_other quiet
      | some sessionEnd =>
        obtain ⟨completed, rfl, terminal⟩ := shape
        have last := SessionEventRecord.not_transcript_of_terminal terminal
        change ((store.insertEvent accepted _).insertEvent completed _).transcripts = _
        rw [SessionStore.transcripts_insertEvent_other last,
          SessionStore.transcripts_insertEvent_other quiet]
  | endSession record sessionEnd now =>
    have quiet := SessionEventRecord.not_transcript_of_terminal titled
    cases isOpen : store.ended with
    | true => rw [apply, SessionStore.endSession_ended isOpen]
    | false =>
      simp only [apply, SessionStore.endSession, isOpen, Bool.false_eq_true, if_false]
      exact store.transcripts_insertEvent_other quiet
  | start startedAt idleDeadlineAt =>
    simp only [apply, SessionStore.startSession]
    split
    · simp only [SessionStore.transcripts, List.filter_map, List.map_map]
      rfl
    · rfl
  | touch activityAt idleDeadlineAt =>
    simp only [apply, SessionStore.touchSessionActivity]
    split <;> rfl
  | connection => rfl
  | addMember member =>
    simp only [apply, SessionStore.addSessionParticipant]
    split <;> rfl

theorem MessageCall.Fills.isTranscript {texts : SessionTexts} {call : MessageCall}
    {record : SessionEventRecord} (type : record.eventType = "conversation_message")
    (fills : call.Fills texts record.payload) :
    record.isTranscript = (call.origin == .voiceTranscript) ∧ record.text? = some call.text := by
  obtain ⟨id, role, payload⟩ := fills
  have origin : ((call.payload texts id role).get? "origin").bind Value.asStr? =
      some call.origin.asStr := by
    simp [MessageCall.payload, Value.get?, Value.asStr?]
  constructor
  · rw [SessionEventRecord.isTranscript, type, payload, origin]
    cases call.origin <;> simp [ConversationOrigin.asStr]
  · rw [SessionEventRecord.text?, payload]
    simp [MessageCall.payload, Value.get?, Value.asStr?]

def TalkTask.Voiced : TalkTask G → Prop
  | message call _ => call.origin ≠ .voiceTranscript
  | transcript call (.message _ said _) =>
    said.origin = .voiceTranscript ∧ said.text = call.utterance.text
  | _ => True

section Steps

variable {config : ExperimentConfig} {texts : SessionTexts} {jsonBytes : Value → Nat}
  {talk talk' : Talk G} {pid : Nat} {input : TalkInput}
  {task task' : TalkTask G} {started : List (TalkTask G)}

/-- The step that stores a message adds it to the log, and no other step of it adds anything. -/
theorem MessagePc.step_transcripts {call : MessageCall} {cell : Cell G} {sec : Section G}
    {pc pc' : MessagePc} (titled : pc.Titled texts call)
    (h : pc.step config texts jsonBytes call cell input = some (sec, pc')) :
    (cell.apply config sec).store.transcripts = cell.store.transcripts ++
      if pc'.isStored ∧ call.origin = .voiceTranscript then [some call.text] else [] := by
  cases pc <;> simp only [step] at h
  case append event =>
    split at h <;> cases h
    · obtain ⟨type, fills⟩ := titled
      obtain ⟨voice, text⟩ := fills.isTranscript type
      change (cell.store.appendSessionEvent event input.now).transcripts = _
      rw [SessionStore.appendSessionEvent, SessionStore.transcripts_insertEvent, voice, text]
      simp [isStored]
    · simp [Cell.apply, isStored]
  case touch =>
    cases h
    split <;> simp [Cell.apply, isStored]
  case touchStore activityAt =>
    cases h
    split
    · simp only [Cell.apply, Transaction.apply, SessionStore.touchSessionActivity]
      split <;> simp [SessionStore.transcripts, isStored]
    · simp [Cell.apply, isStored]
  all_goals
    repeat' first | split at h | cases h
    all_goals simp [Cell.apply, isStored]

theorem TalkTask.voiced_of_entry
    (h : (talkProgram G config texts jsonBytes).entry talk task = true) : task.Voiced := by
  have enter := (talk_entry h).1
  cases task with
  | message call pc => cases pc <;> first | cases enter | simpa [entry, Voiced] using enter
  | transcript call pc => cases pc <;> trivial
  | session task => trivial

theorem TalkTask.next_voiced (titled : task.Titled texts) (voiced : task.Voiced)
    (h : task.next config texts jsonBytes talk pid input = some (talk', task', started))
    (log : talk.cell.store.transcripts = talk.stored.map fun call => some call.utterance.text) :
    task'.Voiced ∧
      talk'.cell.store.transcripts = talk'.stored.map fun call => some call.utterance.text := by
  cases task with
  | session task =>
    obtain ⟨⟨sec, task'', started'⟩, hn, he⟩ := Option.map_eq_some_iff.mp h
    cases he
    refine ⟨trivial, Eq.trans ?_ log⟩
    cases sec with
    | transaction update => exact (task.next_transaction titled hn).transcripts
    | _ => rfl
  | message call pc =>
    obtain ⟨⟨sec, pc'⟩, hs, he⟩ := Option.map_eq_some_iff.mp h
    cases he
    refine ⟨voiced, (MessagePc.step_transcripts titled hs).trans ?_⟩
    rw [if_neg fun voice => voiced voice.2, List.append_nil]
    exact log
  | transcript call pc =>
    obtain ⟨⟨talk'', pc'⟩, hs, he⟩ := Option.map_eq_some_iff.mp h
    cases he
    cases TranscriptPc.step_cases hs with
    | checks before after =>
      refine ⟨?_, log⟩
      cases pc' <;> first | trivial | simp [TranscriptPc.isChecking, TranscriptPc.isRefused] at after
    | claims role start stop tokens free => exact ⟨⟨rfl, rfl⟩, log⟩
    | commits segment message pc pc' sec step =>
      refine ⟨voiced, (MessagePc.step_transcripts titled step).trans ?_⟩
      have old : ({ talk.cell with clock := input.now } : Cell G).store.transcripts = _ := log
      rw [old, voiced.1, voiced.2]
      cases stored : pc'.isStored <;> simp
    | _ => exact ⟨trivial, log⟩

end Steps

/-- The observer's notes: the stored transcripts are the voice messages in the log. -/
def transcriptsOutline (G : Game) (config : ExperimentConfig) (texts : SessionTexts)
    (jsonBytes : Value → Nat) :
    Outline (talkProgram G config texts jsonBytes) Machine.unguarded where
  inv talk := talk.cell.store.transcripts = talk.stored.map fun call => some call.utterance.text
  asn _ _ task := task.Titled texts ∧ task.Voiced
  entry _ _ _ enter := ⟨(TalkTask.titled_of_entry enter).1, TalkTask.voiced_of_entry enter⟩
  step log each _ ht hs := by
    have h := (talk_step hs).1
    obtain ⟨titled, voiced⟩ := each _ _ ht
    obtain ⟨voiced', log'⟩ := TalkTask.next_voiced titled voiced h log
    refine ⟨log', ⟨(TalkTask.next_rows titled h).1, voiced'⟩, fun u mem q => ?_⟩
    obtain ⟨id, deadline, wakeAt, rfl⟩ := TalkTask.mem_started h mem
    exact ⟨trivial, trivial⟩
  interference _ _ _ _ _ _ _ asn := asn

end Parlando
