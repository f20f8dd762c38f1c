import Parlando.Proofs.TranscriptClaims
import Parlando.Transcription

namespace Parlando

open Concurrency

variable {G : Game}

/-- The answer to a message with too much metadata. -/
def metadataTooLarge : AppError := ⟨.badRequest, "Conversation metadata is too large"⟩

/-- The bytes of the token on a game clock that shows `streamStart` at the start of its stream. -/
def TranscriptToken.bytes (floatBytes : Rat → Nat) (streamStart : Int) (token : TranscriptToken) :
    Nat :=
  39 + Value.stringBytes token.kind + Value.stringBytes token.text +
    (toString (streamStart + token.startTimeMs)).length +
    (toString (streamStart + token.endTimeMs)).length +
    (token.confidence.map fun confidence => 14 + floatBytes confidence).getD 0

/-- The bytes of an utterance as metadata: its provider, result ids, times and tokens. -/
def TranscriptCall.metadataBytes (floatBytes : Rat → Nat) (provider : String) (streamStart : Int)
    (call : TranscriptCall) : Nat :=
  99 + Value.stringBytes provider +
    Value.arrayBytes (call.utterance.resultIds.map Value.stringBytes) +
    (toString (streamStart + call.utterance.startTimeMs)).length +
    (toString (streamStart + call.utterance.endTimeMs)).length +
    Value.arrayBytes (call.utterance.tokens.map (TranscriptToken.bytes floatBytes streamStart))

namespace TalkTask

/-- The task has failed to store a transcript under the key and has not given the key up yet. -/
def hasFailed (texts : SessionTexts) (key : String) : TalkTask G → Bool
  | transcript call (.message _ _ pc) => pc.hasFailed && call.idempotencyKey texts == key
  | transcript call (.unclaim _) => call.idempotencyKey texts == key
  | _ => false

/-- The task is about to store the utterance: its message has neither been stored nor failed. -/
def stores (call : TranscriptCall) : TalkTask G → Prop
  | transcript other (.message _ _ pc) =>
    pc.isKept = false ∧ pc.hasFailed = false ∧ other.utteranceId = call.utteranceId
  | _ => False

variable (config : ExperimentConfig) (texts : SessionTexts) (floatBytes : Rat → Nat)

/--
Calls of one key deliver one utterance; no call finds its key claimed by one that has failed; no
message of a claimed key fails once another call of the key has been declined; and an utterance of
at most 4000 characters has no more provider, result ids, times and tokens than 8192 bytes hold.
-/
def keepsTranscripts (w : Pool (Talk G) (TalkTask G)) : Pool.Action (TalkTask G) TalkInput → Bool
  | .spawn (.transcript call _) => w.tasks.all fun task => task.call?.all fun other =>
      other.idempotencyKey texts != call.idempotencyKey texts ||
        decide (other.utteranceId = call.utteranceId)
  | .spawn _ => true
  | .run pid input => (w.tasks[pid]?).all fun task =>
    match task with
    | transcript call (.gameTime _) =>
      (w.shared.cell.store.sessionGameTimeMs call.streamStartedAt).all fun streamStart =>
        decide (4000 < call.utterance.text.length) || decide
          (call.metadataBytes floatBytes config.transcription.provider streamStart ≤ 8 * 1024)
    | transcript call (.claim _ _ _ _) =>
      !w.tasks.any (hasFailed texts (call.idempotencyKey texts))
    | transcript call (.message _ said pc) =>
      !w.shared.declined.any (fun other =>
          other.idempotencyKey texts == call.idempotencyKey texts) ||
        !(pc.step config texts (Value.jsonBytes floatBytes) said w.shared.cell input).any
          fun next => next.2.hasFailed
    | _ => true

end TalkTask

section Runs

variable {config : ExperimentConfig} {texts : SessionTexts} {jsonBytes : Value → Nat}
  {floatBytes : Rat → Nat}
  {w w' : Pool (Talk G) (TalkTask G)} {a : Pool.Action (TalkTask G) TalkInput}

def WasDelivered (w : Pool (Talk G) (TalkTask G)) (call : TranscriptCall) : Prop :=
  w.Has fun _ task => task.call? = some call

theorem delivered_step {call : TranscriptCall}
    (h : (talkMachine G config texts jsonBytes).step w a = some w') :
    WasDelivered w' call ↔ WasDelivered w call ∨ ∃ pc, a = .spawn (.transcript call pc) := by
  rcases Program.step_cases h with ⟨task, rfl, enter, rfl⟩ |
    ⟨pid, input, task, talk', task', started, rfl, ht, hs, rfl⟩
  · constructor
    · rintro ⟨q, u, hu, is⟩
      by_cases hq : q < w.tasks.length
      · exact .inl ⟨q, u, (List.getElem?_append_left hq).symm.trans hu, is⟩
      · rw [List.getElem?_append_right (Nat.le_of_not_lt hq)] at hu
        cases List.mem_singleton.mp (List.mem_of_getElem? hu)
        cases task <;> cases is
        exact .inr ⟨_, rfl⟩
    · rintro (has | ⟨pc, same⟩)
      · exact has.append
      · cases same
        exact ⟨w.tasks.length, .transcript call pc, by simp, rfl⟩
  · have next := (talk_step hs).1
    have kept : task'.call? = task.call? := by
      rcases TalkTask.next_transcript next with ⟨before, after, -⟩ | ⟨call, pc, pc', rfl, rfl, -⟩
      · rw [before, after]
      · rfl
    constructor
    · rintro ⟨q, u, hu, is⟩
      rcases Pool.task_after hu with ⟨rfl, rfl⟩ | ⟨-, hu⟩ | mem
      · exact .inl ⟨q, task, ht, kept.symm.trans is⟩
      · exact .inl ⟨q, u, hu, is⟩
      · obtain ⟨id, deadline, wakeAt, rfl⟩ := TalkTask.mem_started next mem
        cases is
    · rintro (has | ⟨pc, same⟩)
      · exact has.after ht (fun is => kept.trans is) fun _ _ _ is => is
      · cases same

/-- Calls of one key deliver one utterance, and only what has been delivered has been stored. -/
structure OneUtterance (texts : SessionTexts) (w : Pool (Talk G) (TalkTask G)) : Prop where
  named : ∀ one other, WasDelivered w one → WasDelivered w other →
    one.idempotencyKey texts = other.idempotencyKey texts → one.utteranceId = other.utteranceId
  stored : ∀ call ∈ w.shared.stored, WasDelivered w call

/-- Whatever a step stores has been delivered. -/
theorem stored_step (stored : ∀ call ∈ w.shared.stored, WasDelivered w call)
    (h : (talkMachine G config texts jsonBytes).step w a = some w') :
    ∀ call ∈ w'.shared.stored, WasDelivered w' call := by
  intro call mem
  refine (delivered_step h).mpr (.inl ?_)
  rcases Program.step_cases h with ⟨task, rfl, enter, rfl⟩ |
    ⟨pid, input, task, talk', task', started, rfl, ht, hs, rfl⟩
  · exact stored call mem
  · rcases TalkTask.next_transcript (talk_step hs).1 with
      ⟨-, -, notes⟩ | ⟨own, pc, pc', rfl, rfl, step⟩
    · rw [notes.stored] at mem
      exact stored call mem
    · cases step with
      | commits segment said pc pc' sec step =>
        simp only at mem
        split at mem
        · rcases List.mem_append.mp mem with old | new
          · exact stored call old
          · cases List.mem_singleton.mp new
            exact ⟨pid, _, ht, rfl⟩
        · exact stored call mem
      | _ => exact stored call mem

theorem OneUtterance.step (one : OneUtterance texts w)
    (met : TalkTask.keepsTranscripts config texts floatBytes w a = true)
    (h : (talkMachine G config texts (Value.jsonBytes floatBytes)).step w a = some w') :
    OneUtterance texts w' where
  stored := stored_step one.stored h
  named first second hFirst hSecond key := by
    -- A call that has just been delivered has the name of every earlier one of its key.
    have fresh : ∀ call pc other, a = .spawn (.transcript call pc) → WasDelivered w other →
        other.idempotencyKey texts = call.idempotencyKey texts →
        other.utteranceId = call.utteranceId := by
      rintro call pc other rfl ⟨q, u, hu, is⟩ same
      have checked := List.all_eq_true.mp met u (List.mem_of_getElem? hu)
      rw [is, Option.all_some] at checked
      simpa [same] using checked
    rcases (delivered_step h).mp hFirst with old | ⟨pc, spawned⟩ <;>
      rcases (delivered_step h).mp hSecond with old' | ⟨pc', spawned'⟩
    · exact one.named first second old old' key
    · exact fresh second pc' first spawned' old key
    · exact (fresh first pc second spawned old' key.symm).symm
    · cases spawned.symm.trans spawned'
      rfl

/-- The call's utterance has been stored or is about to be. -/
def Promised (w : Pool (Talk G) (TalkTask G)) (call : TranscriptCall) : Prop :=
  (∃ kept ∈ w.shared.stored, kept.utteranceId = call.utteranceId) ∨
    w.Has fun _ task => task.stores call

/-- A message looks at no clock but the one of its step. -/
theorem MessagePc.step_clock (call : MessageCall) (cell : Cell G) (now : Timestamp)
    (input : TalkInput) (pc : MessagePc) :
    pc.step config texts jsonBytes call { cell with clock := now } input =
      pc.step config texts jsonBytes call cell input := by
  cases pc <;> rfl

/-- A message of a declined key does not fail. -/
theorem not_failed_of_declined {pid : Nat} {input : TalkInput} {call other : TranscriptCall}
    {segment : TranscriptSegment} {said : MessageCall} {pc pc' : MessagePc} {sec : Section G}
    (met : TalkTask.keepsTranscripts config texts floatBytes w (.run pid input) = true)
    (ht : w.tasks[pid]? = some (.transcript other (.message segment said pc)))
    (step : pc.step config texts (Value.jsonBytes floatBytes) said w.shared.cell input =
      some (sec, pc'))
    (declined : call ∈ w.shared.declined)
    (key : call.idempotencyKey texts = other.idempotencyKey texts) : pc'.hasFailed = false := by
  have any : w.shared.declined.any (fun call =>
      call.idempotencyKey texts == other.idempotencyKey texts) = true :=
    List.any_eq_true.mpr ⟨call, declined, by simp [key]⟩
  rw [TalkTask.keepsTranscripts, ht, Option.all_some] at met
  simpa only [any, step, Bool.not_true, Bool.false_or, Option.any_some, Bool.not_eq_true'] using met

/-- A promise survives every step in which no message of the utterance fails. -/
theorem Promised.step {call : TranscriptCall} (promised : Promised w call)
    (unfailed : ∀ pid input other segment said pc pc' sec, a = .run pid input →
      w.tasks[pid]? = some (.transcript other (.message segment said pc)) →
      pc.step config texts jsonBytes said w.shared.cell input = some (sec, pc') →
      call.idempotencyKey texts = other.idempotencyKey texts → pc'.hasFailed = false)
    (h : (talkMachine G config texts jsonBytes).step w a = some w') : Promised w' call := by
  rcases Program.step_cases h with ⟨task, rfl, enter, rfl⟩ |
    ⟨pid, input, task, talk', task', started, rfl, ht, hs, rfl⟩
  · exact promised.imp_right fun has => has.append
  · have next := (talk_step hs).1
    rcases TalkTask.next_transcript next with ⟨none, -, notes⟩ | ⟨own, pc, pc', rfl, rfl, step⟩
    · rcases promised with ⟨kept, mem, same⟩ | has
      · exact .inl ⟨kept, notes.stored.symm ▸ mem, same⟩
      · refine .inr (has.after ht (fun stores => ?_) fun _ _ _ stores => stores)
        cases task <;> first | cases stores | cases none
    · rcases promised with ⟨kept, mem, same⟩ | ⟨q, u, hu, stores⟩
      · refine .inl ⟨kept, ?_, same⟩
        cases step with
        | commits segment said pc pc' sec step =>
          simp only
          split
          · exact List.mem_append_left _ mem
          · exact mem
        | _ => exact mem
      · by_cases same : q = pid
        · subst same
          cases hu.symm.trans ht
          cases step with
          | commits segment said pc pc' sec step =>
            obtain ⟨unkept, healthy, name⟩ := stores
            rcases MessagePc.step_kept step with ⟨-, -, stored⟩ | ⟨keeps, -⟩
            · refine .inl ⟨own, ?_, name⟩
              simp only [stored, if_true]
              exact List.mem_append_right _ (.head _)
            · rw [MessagePc.step_clock] at step
              have healthy := unfailed q input own segment said pc pc' sec rfl ht step
                (TranscriptCall.key_congr texts name.symm)
              exact .inr ⟨q, _, Pool.self_after ht, keeps.trans unkept, healthy, name⟩
          | checks before after => cases pc <;> first | exact stores.elim | cases before
          | answers segment said => cases stores.1
          | fails segment said error => cases stores.2.1
          | _ => exact False.elim stores
        · exact .inr ⟨q, u, Pool.other_after same hu, stores⟩

/-- A call that finds its key claimed has its utterance stored or about to be. -/
theorem promised_of_claimed {pid : Nat} {input : TalkInput} {call : TranscriptCall}
    {role : PlayerRole} {start stop : Int} {tokens : List Value}
    (exclusive : (claims texts w).Exclusive) (one : OneUtterance texts w)
    (met : TalkTask.keepsTranscripts config texts floatBytes w (.run pid input) = true)
    (ht : w.tasks[pid]? = some (.transcript call (.claim role start stop tokens)))
    (claimed : call.idempotencyKey texts ∈ w.shared.committed) : Promised w call := by
  have delivered : WasDelivered w call := ⟨pid, _, ht, rfl⟩
  rcases exclusive.cause _ claimed with done | ⟨q, holds⟩
  · obtain ⟨kept, mem, key⟩ := List.mem_map.mp done
    exact .inl ⟨kept, mem, one.named kept call (one.stored kept mem) delivered key⟩
  · obtain ⟨u, hu, holds⟩ := Option.bind_eq_some_iff.mp holds
    rw [TalkTask.keepsTranscripts, ht, Option.all_some] at met
    rw [Bool.not_eq_true'] at met
    have healthy := List.any_eq_false.mp met u (List.mem_of_getElem? hu)
    refine .inr ⟨q, u, hu, ?_⟩
    cases u with
    | transcript other pc =>
      have deliveredOther : WasDelivered w other := ⟨q, _, hu, rfl⟩
      cases pc with
      | message segment said pc =>
        rw [TalkTask.holds] at holds
        split at holds
        · cases holds
        · rename_i unkept
          have key := Option.some.inj holds
          refine ⟨by simpa using unkept, ?_, one.named other call deliveredOther delivered key⟩
          simpa [TalkTask.hasFailed, key] using healthy
      | unclaim error =>
        have key := Option.some.inj holds
        exact absurd (by simp [TalkTask.hasFailed, key]) healthy
      | _ => cases holds
    | _ => cases holds

/-- Every call answered as committed already has its utterance stored, now or soon. -/
structure Answered (w : Pool (Talk G) (TalkTask G)) : Prop where
  promised : ∀ call ∈ w.shared.declined, Promised w call
  declined : w.Each fun _ task => ∀ call, task = .transcript call (.returned (.ok none)) →
    call ∈ w.shared.declined

/-- A step that answers a call as committed already notes it and finds its key claimed. -/
theorem declined_step
    (h : (talkMachine G config texts jsonBytes).step w a = some w') {call : TranscriptCall}
    (mem : call ∈ w'.shared.declined) :
    call ∈ w.shared.declined ∨ ∃ pid input role start stop tokens, a = .run pid input ∧
      w.tasks[pid]? = some (.transcript call (.claim role start stop tokens)) ∧
      call.idempotencyKey texts ∈ w.shared.committed := by
  rcases Program.step_cases h with ⟨task, rfl, enter, rfl⟩ |
    ⟨pid, input, task, talk', task', started, rfl, ht, hs, rfl⟩
  · exact .inl mem
  · rcases TalkTask.next_transcript (talk_step hs).1 with ⟨-, -, notes⟩ | ⟨own, pc, pc', rfl, rfl, step⟩
    · exact .inl (notes.declined ▸ mem)
    · cases step with
      | declines role start stop tokens claimed =>
        rcases List.mem_append.mp mem with old | new
        · exact .inl old
        · cases List.mem_singleton.mp new
          exact .inr ⟨pid, input, role, start, stop, tokens, rfl, ht, claimed⟩
      | _ => exact .inl mem

/-- The notes of declined calls only grow. -/
theorem declined_grows
    (h : (talkMachine G config texts jsonBytes).step w a = some w') {call : TranscriptCall}
    (mem : call ∈ w.shared.declined) : call ∈ w'.shared.declined := by
  rcases Program.step_cases h with ⟨task, rfl, enter, rfl⟩ |
    ⟨pid, input, task, talk', task', started, rfl, ht, hs, rfl⟩
  · exact mem
  · rcases TalkTask.next_transcript (talk_step hs).1 with ⟨-, -, notes⟩ | ⟨own, pc, pc', rfl, rfl, step⟩
    · exact notes.declined.symm ▸ mem
    · cases step with
      | declines => exact List.mem_append_left _ mem
      | _ => exact mem

/-- A call that its step answers as committed already has been noted. -/
theorem declined_of_answer
    (declined : w.Each fun _ task => ∀ call, task = .transcript call (.returned (.ok none)) →
      call ∈ w.shared.declined)
    (h : (talkMachine G config texts jsonBytes).step w a = some w') :
    w'.Each fun _ task => ∀ call, task = .transcript call (.returned (.ok none)) →
      call ∈ w'.shared.declined := by
  rintro q u hu call rfl
  rcases Program.step_cases h with ⟨task, rfl, enter, rfl⟩ |
    ⟨pid, input, task, talk', task', started, rfl, ht, hs, rfl⟩
  · by_cases hq : q < w.tasks.length
    · exact declined q _ ((List.getElem?_append_left hq).symm.trans hu) call rfl
    · rw [List.getElem?_append_right (Nat.le_of_not_lt hq)] at hu
      cases List.mem_singleton.mp (List.mem_of_getElem? hu)
      cases (talk_entry enter).1
  · have next := (talk_step hs).1
    rcases Pool.task_after hu with ⟨rfl, rfl⟩ | ⟨-, hu⟩ | mem
    · rcases TalkTask.next_transcript next with ⟨-, none, -⟩ | ⟨own, pc, pc', rfl, same, step⟩
      · cases none
      · cases same
        cases step with
        | checks before after => cases after <;> contradiction
        | declines => exact List.mem_append_right _ (.head _)
    · exact declined_grows h (declined q _ hu call rfl)
    · obtain ⟨id, deadline, wakeAt, same⟩ := TalkTask.mem_started next mem
      cases same

theorem Answered.step (answered : Answered w) (exclusive : (claims texts w).Exclusive)
    (one : OneUtterance texts w)
    (met : TalkTask.keepsTranscripts config texts floatBytes w a = true)
    (h : (talkMachine G config texts (Value.jsonBytes floatBytes)).step w a = some w') :
    Answered w' where
  declined := declined_of_answer answered.declined h
  promised call mem := by
    rcases declined_step h mem with old | ⟨pid, input, role, start, stop, tokens, rfl, ht, claimed⟩
    · refine (answered.promised call old).step ?_ h
      rintro pid input other segment said pc pc' sec rfl ht step key
      exact not_failed_of_declined met ht step old key
    · refine (promised_of_claimed exclusive one met ht claimed).step ?_ h
      rintro pid' input' other segment said pc pc' sec same ht' -
      cases same
      cases ht.symm.trans ht'

theorem eq_of_checkedAdd {a b c : Int} (h : checkedAdd a b = some c) : c = a + b := by
  unfold checkedAdd at h
  split at h <;> cases h
  rfl

theorem TranscriptToken.jsonBytes_json {streamStart : Int} {token : TranscriptToken} {value : Value}
    (h : token.json streamStart = .ok value) :
    Value.jsonBytes floatBytes value = token.bytes floatBytes streamStart := by
  have keys : Value.stringBytes "confidence" = 12 ∧ Value.stringBytes "end_ms" = 8 ∧
      Value.stringBytes "kind" = 6 ∧ Value.stringBytes "start_ms" = 10 ∧
      Value.stringBytes "text" = 6 := by decide
  obtain ⟨confidence, endMs, kind, startMs, text⟩ := keys
  unfold json at h
  split at h
  · cases h
  · cases h
  · rename_i start stop
    cases h
    rw [eq_of_checkedAdd start, eq_of_checkedAdd stop, bytes]
    cases token.confidence with
    | none =>
      simp only [Option.map_none, Option.toList_none, List.nil_append, Value.jsonBytes,
        Value.memberBytes, List.isEmpty_cons, Bool.toNat_false, Option.getD_none, endMs, kind,
        startMs, text]
      omega
    | some value =>
      simp only [Option.map_some, Option.toList_some, List.cons_append, List.nil_append,
        Value.jsonBytes, Value.memberBytes, List.isEmpty_cons, Bool.toNat_false, Option.getD_some,
        confidence, endMs, kind, startMs, text]
      omega

/-- The metadata has the bytes that are counted on the utterance. -/
theorem TranscriptCall.jsonBytes_metadata {call : TranscriptCall} {streamStart start stop : Int}
    {tokens : List Value} (h : call.onGameClock streamStart = .ok (start, stop, tokens))
    (id : String) (role : PlayerRole) :
    Value.jsonBytes floatBytes
      (call.message (call.segment config id role start stop) tokens).metadata =
        call.metadataBytes floatBytes config.transcription.provider streamStart := by
  have keys : Value.stringBytes "client_metadata" = 17 ∧
      Value.stringBytes "end_game_time_ms" = 18 ∧ Value.stringBytes "provider" = 10 ∧
      Value.stringBytes "result_ids" = 12 ∧ Value.stringBytes "start_game_time_ms" = 20 ∧
      Value.stringBytes "tokens" = 8 := by decide
  obtain ⟨clientMetadata, endTime, provider, resultIds, startTime, tokenKey⟩ := keys
  unfold onGameClock at h
  split at h
  · cases h
  · cases h
  · rename_i started stopped
    cases made : call.utterance.tokens.mapM (TranscriptToken.json streamStart) with
    | error error =>
      rw [made] at h
      cases h
    | ok values =>
      rw [made] at h
      cases h
      have lengths : tokens.map (Value.jsonBytes floatBytes) =
          call.utterance.tokens.map (TranscriptToken.bytes floatBytes streamStart) :=
        Except.map_of_mapM_ok made fun _ _ json => TranscriptToken.jsonBytes_json json
      have ids : (call.utterance.resultIds.map Value.string).map (Value.jsonBytes floatBytes) =
          call.utterance.resultIds.map Value.stringBytes := by
        rw [List.map_map]
        rfl
      rw [message, segment, metadataBytes, eq_of_checkedAdd started, eq_of_checkedAdd stopped,
        ← lengths, ← ids]
      simp only [Value.jsonBytes, Value.memberBytes, Value.itemBytes_eq_sum, Value.arrayBytes,
        List.isEmpty_map, List.isEmpty_cons, Bool.toNat_false, clientMetadata, endTime, provider,
        resultIds, startTime, tokenKey]
      omega

def TalkTask.Fits (config : ExperimentConfig) (floatBytes : Rat → Nat) : TalkTask G → Prop
  | transcript call pc => call.utterance.text.length ≤ 4000 →
    match pc with
    | .claim _ start stop tokens => ∀ id role, Value.jsonBytes floatBytes
        (call.message (call.segment config id role start stop) tokens).metadata ≤ 8 * 1024
    | .message _ said pc => Value.jsonBytes floatBytes said.metadata ≤ 8 * 1024 ∧
        ∀ error, pc = .returned (.error error) → error ≠ metadataTooLarge
    | .unclaim error | .returned (.error error) => error ≠ metadataTooLarge
    | _ => True
  | _ => True

theorem ensureParticipantInteractionActive_status {session : Option (LiveSession G)}
    {error : AppError} (h : ensureParticipantInteractionActive session = .error error) :
    error.status ≠ .badRequest := by
  unfold ensureParticipantInteractionActive at h
  repeat' first | split at h | cases h
  all_goals simp

theorem participantRole_status {session : Option (LiveSession G)} {id : ParticipantSessionId}
    {error : AppError} (h : participantRole session id = .error error) :
    error.status ≠ .badRequest := by
  unfold participantRole at h
  repeat' first | split at h | cases h
  all_goals simp

theorem TranscriptCall.onGameClock_status {call : TranscriptCall} {streamStart : Int}
    {error : AppError} (h : call.onGameClock streamStart = .error error) :
    error.status ≠ .badRequest := by
  unfold onGameClock at h
  repeat' first | split at h | cases h
  · simp
  · simp
  · cases tokens : call.utterance.tokens.mapM (TranscriptToken.json streamStart) with
    | ok values =>
      rw [tokens] at h
      cases h
    | error error' =>
      rw [tokens] at h
      cases h
      obtain ⟨token, -, failed⟩ := Except.of_mapM_error tokens
      unfold TranscriptToken.json at failed
      repeat' first | split at failed | cases failed
      all_goals simp

theorem ne_metadataTooLarge {error : AppError} (status : error.status ≠ .badRequest) :
    error ≠ metadataTooLarge := by
  rintro rfl
  exact status rfl

theorem MessageCall.checkSize_fits {call : MessageCall} {error : AppError}
    (small : jsonBytes call.metadata ≤ 8 * 1024) (h : call.checkSize jsonBytes = .error error) :
    error ≠ metadataTooLarge := by
  unfold checkSize at h
  repeat' first | split at h | cases h
  · simp [metadataTooLarge]
  · omega

theorem MessagePc.step_fits {call : MessageCall} {cell : Cell G} {input : TalkInput}
    {sec : Section G} {pc pc' : MessagePc} (small : jsonBytes call.metadata ≤ 8 * 1024)
    (h : pc.step config texts jsonBytes call cell input = some (sec, pc')) :
    ∀ error, pc' = .returned (.error error) → error ≠ metadataTooLarge := by
  rintro error rfl
  cases pc <;> simp only [step] at h
  case active =>
    split at h
    · rename_i inactive
      cases h
      exact ne_metadataTooLarge (ensureParticipantInteractionActive_status inactive)
    · split at h <;> cases h
      rename_i refused
      exact call.checkSize_fits small refused
  case role =>
    split at h <;> cases h
    rename_i refused
    exact ne_metadataTooLarge (participantRole_status refused)
  case touch =>
    simp only [Option.some.injEq, Prod.mk.injEq] at h
    obtain ⟨-, h⟩ := h
    split at h <;> cases h
  all_goals
    repeat' first | split at h | cases h
    all_goals exact ne_metadataTooLarge (by simp [internalError])

theorem TranscriptPc.checks_fits {call : TranscriptCall} {talk talk' : Talk G} {input : TalkInput}
    {pc : TranscriptPc} {error : AppError} (checking : pc.isChecking = true)
    (h : pc.step config texts jsonBytes call talk input = some (talk', .returned (.error error))) :
    error ≠ metadataTooLarge := by
  cases pc <;> simp only [step] at h
  case role =>
    split at h <;> cases h
    rename_i refused
    exact ne_metadataTooLarge (participantRole_status refused)
  case active role =>
    split at h <;> cases h
    rename_i refused
    exact ne_metadataTooLarge (ensureParticipantInteractionActive_status refused)
  case session role =>
    split at h <;> cases h
    exact ne_metadataTooLarge (by simp)
  case gameTime role =>
    repeat' first | split at h | cases h
    · exact ne_metadataTooLarge (by simp [internalError])
    · rename_i refused
      exact ne_metadataTooLarge (TranscriptCall.onGameClock_status refused)
  case claim role start stop tokens =>
    split at h <;> cases h
  all_goals cases checking

/-- The claim comes behind the reading of the game clock. -/
theorem TranscriptPc.step_claim {call : TranscriptCall} {talk talk' : Talk G} {input : TalkInput}
    {pc : TranscriptPc} {role : PlayerRole} {start stop : Int} {tokens : List Value}
    (h : pc.step config texts jsonBytes call talk input =
      some (talk', .claim role start stop tokens)) :
    ∃ streamStart, pc = .gameTime role ∧
      talk.cell.store.sessionGameTimeMs call.streamStartedAt = some streamStart ∧
      call.onGameClock streamStart = .ok (start, stop, tokens) := by
  cases TranscriptPc.step_cases h with
  | checks before after =>
    cases pc <;> simp only [step] at h
    case gameTime member =>
      split at h
      · cases h
      · rename_i streamStart read
        split at h <;> cases h
        rename_i timed
        refine ⟨streamStart, rfl, ?_, timed⟩
        split at read
        · exact read
        · cases read
    case claim =>
      split at h
      · exact absurd (congrArg Prod.snd (Option.some.inj h)) (by simp)
      · exact absurd (congrArg Prod.snd (Option.some.inj h)) (by simp)
    case message | unclaim => cases before
    all_goals repeat' first | split at h | cases h

theorem TalkTask.fits_of_entry {talk : Talk G} {task : TalkTask G}
    (h : (talkProgram G config texts (Value.jsonBytes floatBytes)).entry talk task = true) :
    task.Fits config floatBytes := by
  have enter := (talk_entry h).1
  cases task with
  | transcript call pc => cases pc <;> first | exact fun _ => trivial | cases enter
  | _ => trivial

theorem TalkTask.next_fits {pid : Nat} {input : TalkInput} {talk' : Talk G}
    {task task' : TalkTask G} {started : List (TalkTask G)} (fits : task.Fits config floatBytes)
    (met : keepsTranscripts config texts floatBytes w (.run pid input) = true)
    (ht : w.tasks[pid]? = some task)
    (h : task.next config texts (Value.jsonBytes floatBytes) w.shared pid input =
      some (talk', task', started)) :
    task'.Fits config floatBytes := by
  cases task with
  | transcript call pc =>
    obtain ⟨⟨talk'', pc'⟩, hs, he⟩ := Option.map_eq_some_iff.mp h
    cases he
    intro short
    cases TranscriptPc.step_cases hs with
    | checks before after =>
      cases pc' with
      | returned result =>
        cases result with
        | error error => exact TranscriptPc.checks_fits before hs
        | ok segment => trivial
      | message | unclaim => rcases after with after | after <;> cases after
      | claim member start stop tokens =>
        obtain ⟨streamStart, rfl, read, timed⟩ := TranscriptPc.step_claim hs
        rw [keepsTranscripts, ht, Option.all_some] at met
        have met := (Option.all_eq_true _ _).mp met streamStart read
        have long : ¬4000 < call.utterance.text.length := Nat.not_lt.mpr short
        have small := (Bool.or_eq_true_iff.mp met).resolve_left fun exceeds =>
          long (of_decide_eq_true exceeds)
        intro id role
        rw [TranscriptCall.jsonBytes_metadata timed]
        exact of_decide_eq_true small
      | _ => trivial
    | claims role start stop tokens free =>
      exact ⟨fits short _ _, fun error same => by cases same⟩
    | commits segment said pc pc' sec step =>
      obtain ⟨small, -⟩ := fits short
      exact ⟨small, MessagePc.step_fits small step⟩
    | fails segment said error => exact (fits short).2 error rfl
    | releases error => exact fits short
    | _ => trivial
  | _ =>
    obtain ⟨_, -, he⟩ := Option.map_eq_some_iff.mp h
    cases he
    trivial

def fitsOutline (G : Game) (config : ExperimentConfig) (texts : SessionTexts)
    (floatBytes : Rat → Nat) :
    Outline (talkProgram G config texts (Value.jsonBytes floatBytes)) fun w a =>
      TalkTask.keepsTranscripts config texts floatBytes w a = true where
  inv _ := True
  asn _ _ task := task.Fits config floatBytes
  entry _ _ _ enter := TalkTask.fits_of_entry enter
  step _ each met ht hs := by
    have h := (talk_step hs).1
    refine ⟨trivial, TalkTask.next_fits (each _ _ ht) met ht h, fun u mem q => ?_⟩
    obtain ⟨id, deadline, wakeAt, rfl⟩ := TalkTask.mem_started h mem
    trivial
  interference _ _ _ _ _ _ _ asn := asn

variable {creation : Creation G} {guard : Pool (Talk G) (TalkTask G) →
  Pool.Action (TalkTask G) TalkInput → Prop}

/-- In every run a claimed key is stored for ever or held by exactly one call. -/
theorem claims_run (run : (talkMachine G config texts jsonBytes).Run guard (creation.talk config) w) :
    (claims texts w).Exclusive := by
  refine run.invariant ?_ fun exclusive _ h => ?_
  · exact ⟨.nil, .nil, fun _ mem => (by cases mem), fun _ _ holds => (by cases holds),
      fun _ _ _ holds => (by cases holds), fun _ mem => (by cases mem)⟩
  · obtain ⟨pid, step⟩ := claims_step h
    exact step.exclusive exclusive

/-- In every run the stored transcripts are the voice messages in the log. -/
theorem transcripts_run
    (run : (talkMachine G config texts jsonBytes).Run guard (creation.talk config) w) :
    w.shared.cell.store.transcripts =
      w.shared.stored.map fun call => some call.utterance.text := by
  have valid : (transcriptsOutline G config texts jsonBytes).Valid w :=
    Outline.Valid.run (run.mono fun _ _ _ => trivial) ⟨rfl, fun _ _ h => by cases h⟩
  exact valid.inv

/-- In every run each utterance is stored at most once. -/
theorem stored_once (run : (talkMachine G config texts jsonBytes).Run guard (creation.talk config) w) :
    (w.shared.stored.map TranscriptCall.utteranceId).Nodup := by
  have once := (claims_run run).once
  refine List.Pairwise.map _ ?_ (List.pairwise_map.mp once)
  intro one other differ same
  exact differ (TranscriptCall.key_congr texts same)

theorem answered_run
    (run : (talkMachine G config texts (Value.jsonBytes floatBytes)).Run
      (fun w a => TalkTask.keepsTranscripts config texts floatBytes w a = true)
      (creation.talk config) w) : OneUtterance texts w ∧ Answered w := by
  refine run.invariant_of_reached ?_ fun reached ⟨one, answered⟩ met h =>
    ⟨one.step met h, answered.step (claims_run reached) one met h⟩
  refine ⟨⟨fun _ _ has => ?_, fun _ mem => ?_⟩, ⟨fun _ mem => ?_, fun _ _ ht => ?_⟩⟩
  · obtain ⟨_, _, ht, _⟩ := has
    cases ht
  · cases mem
  · cases mem
  · cases ht

/--
As long as calls of one key deliver one utterance, no claim fails that another call has relied on
or relies on, and the metadata of short messages is short: the voice messages in the log are the
stored transcripts, each utterance is stored once at most, a call answered as committed already
has its utterance stored or about to be, and no short utterance is refused for its metadata.
-/
theorem final_transcripts_stored_once
    (run : (talkMachine G config texts (Value.jsonBytes floatBytes)).Run
      (fun w a => TalkTask.keepsTranscripts config texts floatBytes w a = true)
      (creation.talk config) w) :
    w.shared.cell.store.transcripts =
      w.shared.stored.map (fun call => some call.utterance.text) ∧
    (w.shared.stored.map TranscriptCall.utteranceId).Nodup ∧
    (∀ (pid : Nat) (call : TranscriptCall),
      w.tasks[pid]? = some (.transcript call (.returned (.ok none))) → Promised w call) ∧
    ∀ (pid : Nat) (call : TranscriptCall) (error : AppError),
      w.tasks[pid]? = some (.transcript call (.returned (.error error))) →
        call.utterance.text.length ≤ 4000 → error ≠ metadataTooLarge := by
  have answered := (answered_run run).2
  have fits : (fitsOutline G config texts floatBytes).Valid w :=
    Outline.Valid.run run ⟨trivial, fun _ _ h => by cases h⟩
  exact ⟨transcripts_run run, stored_once run,
    fun pid call ht => answered.promised call (answered.declined pid _ ht call rfl),
    fun pid call error ht short => fits.each pid _ ht short⟩

end Runs

namespace TalkAction

/-- An utterance on a stream of human A that opened at the start of the game. -/
def delivery (utterance : FinalTranscriptUtterance) : TranscriptCall := ⟨.human 1, 0, utterance⟩

def spoken : FinalTranscriptUtterance := ⟨0, 500, "hi", ["u1"], [⟨"word", "hi", 0, 500, none⟩]⟩

/-- One utterance is delivered twice; the second call finds its key claimed by the first. -/
def deliveredTwice : List TalkAction :=
  TallyAction.opening.map own ++ .spawn (.transcript (delivery spoken) .role) :: steps 3 5 1 ++
    .spawn (.transcript (delivery spoken) .role) :: steps 4 5 1

def storedByFirst : List TalkAction := deliveredTwice ++ steps 3 8 1

def failedByFirst : List TalkAction :=
  deliveredTwice ++ steps 3 4 1 ++ .run 3 { now := 1, storeOk := false } :: steps 3 2 1

def word : Value := .object [
  ("alternatives", .array [.object [("content", .string "two")]]),
  ("end_time", .int 1),
  ("start_time", .int 1),
  ("type", .string "word")]

/-- A long number, which the provider spells out in 150 words. -/
def longNumber : Value := .object [
  ("metadata", .object [
    ("end_time", .int 1),
    ("start_time", .int 1),
    ("transcript", .string "222222222222222222222222222222")]),
  ("results", .array [.object [
    ("spoken_form", .array (List.replicate 150 word)),
    ("type", .string "entity")]])]

/-- The utterance that the provider's final makes by itself. -/
def utteranceOf (payload : Value) : Option FinalTranscriptUtterance :=
  (parseFragment payload).toOption.join.bind fun fragment => takeUtterance [fragment]

/-- The utterance is delivered as task 3, and the call runs to its end. -/
def delivered (utterance : FinalTranscriptUtterance) : List TalkAction :=
  TallyAction.opening.map own ++ .spawn (.transcript (delivery utterance) .role) :: steps 3 9 1

def isRefused : TalkTask tallyGame → Bool
  | .transcript call (.returned (.error error)) =>
    call.utterance.text.length ≤ 4000 && error == metadataTooLarge
  | _ => false

end TalkAction

theorem final_transcripts_stored_once_redelivered :
    ∃ w : Pool (Talk tallyGame) (TalkTask tallyGame),
      w.tasks[4]? = some (.transcript (TalkAction.delivery TalkAction.spoken) (.returned (.ok none))) ∧
      w.shared.cell.store.transcripts = [some "hi"] ∧
      Promised w (TalkAction.delivery TalkAction.spoken) := by
  have h : ((TalkAction.machine.restrict (TalkTask.keepsTranscripts {} TalkAction.texts
      fun _ => 0)).exec TalkAction.start TalkAction.storedByFirst).map (fun w =>
        (w.tasks[4]?, w.shared.cell.store.transcripts)) =
          some (some (.transcript (TalkAction.delivery TalkAction.spoken) (.returned (.ok none))),
            [some "hi"]) := rfl
  obtain ⟨w, reached, is⟩ := Option.map_eq_some_iff.mp h
  obtain ⟨answer, log⟩ := Prod.mk.inj is
  have run := Machine.Run.of_exec (fun _ _ met => met) reached
  exact ⟨w, answer, log, (final_transcripts_stored_once run).2.2.1 4 _ answer⟩

theorem TalkTask.stores_holds (texts : SessionTexts) {call : TranscriptCall} {task : TalkTask G}
    (stores : task.stores call) : (task.holds texts).isSome = true := by
  cases task with
  | transcript other pc =>
    cases pc with
    | message segment said pc =>
      rw [holds, stores.1]
      rfl
    | _ => exact stores.elim
  | _ => exact False.elim stores

theorem TalkAction.isRefused_eq {task : TalkTask tallyGame} (refused : isRefused task = true) :
    ∃ call, task = .transcript call (.returned (.error metadataTooLarge)) ∧
      call.utterance.text.length ≤ 4000 := by
  unfold isRefused at refused
  split at refused
  · rw [Bool.and_eq_true] at refused
    exact ⟨_, by rw [eq_of_beq refused.2], of_decide_eq_true refused.1⟩
  · cases refused

/--
A redelivery is answered as committed although the first delivery then fails, and the words of a
long number are too much metadata for a message of thirty characters.
-/
theorem final_transcripts_lost :
    (∃ w : Pool (Talk tallyGame) (TalkTask tallyGame),
      TalkAction.machine.Run Machine.unguarded TalkAction.start w ∧
      w.tasks[4]? = some (.transcript (TalkAction.delivery TalkAction.spoken) (.returned (.ok none))) ∧
      ¬Promised w (TalkAction.delivery TalkAction.spoken)) ∧
    ∃ utterance w call, TalkAction.utteranceOf TalkAction.longNumber = some utterance ∧
      TalkAction.machine.exec TalkAction.start (TalkAction.delivered utterance) = some w ∧
      w.tasks[3]? = some (.transcript call (.returned (.error metadataTooLarge))) ∧
      call.utterance.text.length ≤ 4000 := by
  constructor
  · have h : (TalkAction.machine.exec TalkAction.start TalkAction.failedByFirst).map (fun w =>
        (w.tasks[4]?, w.shared.stored, w.tasks.all fun task => (task.holds TalkAction.texts).isNone)) =
          some (some (.transcript (TalkAction.delivery TalkAction.spoken) (.returned (.ok none))),
            [], true) := rfl
    obtain ⟨w, reached, is⟩ := Option.map_eq_some_iff.mp h
    simp only [Prod.mk.injEq] at is
    obtain ⟨answer, stored, idle⟩ := is
    refine ⟨w, .of_exec_unguarded reached, answer, ?_⟩
    rintro (⟨kept, mem, -⟩ | ⟨q, u, hu, stores⟩)
    · rw [stored] at mem
      cases mem
    · have holds := TalkTask.stores_holds TalkAction.texts stores
      have free := List.all_eq_true.mp idle u (List.mem_of_getElem? hu)
      rw [Option.isNone_iff_eq_none.mp free] at holds
      cases holds
  · have h : ((TalkAction.utteranceOf TalkAction.longNumber).bind fun utterance =>
        (TalkAction.machine.exec TalkAction.start (TalkAction.delivered utterance)).map fun w =>
          w.tasks[3]?.any TalkAction.isRefused) = some true := by decide +kernel
    obtain ⟨utterance, said, h⟩ := Option.bind_eq_some_iff.mp h
    obtain ⟨w, reached, refused⟩ := Option.map_eq_some_iff.mp h
    cases ht : w.tasks[3]? with
    | none =>
      rw [ht] at refused
      cases refused
    | some task =>
      rw [ht] at refused
      obtain ⟨call, rfl, short⟩ := TalkAction.isRefused_eq refused
      exact ⟨utterance, w, call, said, reached, ht, short⟩

end Parlando
