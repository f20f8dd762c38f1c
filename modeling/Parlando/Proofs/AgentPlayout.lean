import Parlando.AgentPlayout
import Parlando.Configuration
import Parlando.Proofs.AudioPublisher

namespace Parlando

open Concurrency

variable {prebuffer late : Nat} {chunks : List AudioChunk} {s s' : AgentPlayout}

/-- The frames that a call of `publish` sends for these chunks. -/
def frameCount (chunks : List AudioChunk) : Nat :=
  match collectPcm chunks with
  | .ok pcm => (payloads pcm).length
  | .error _ => 0

def AgentPublish.unsent (publish : AgentPublish) : Bool :=
  match publish.pc with
  | .publishing _ (_ :: _) => true
  | _ => false

/-- While frames are left the queue and the periods that have ended are paid for by the frames sent. -/
structure Playing (prebuffer : Nat) (chunks : List AudioChunk) (late : Nat) (s : AgentPlayout) :
    Prop where
  publishes : Publishes prebuffer chunks s.publish
  sent : s.queue.length ≤ s.publish.count
  within : s.publish.unsent = true → s.publish.now ≤ s.periodEnd
  inTime : AgentPlayout.inTime prebuffer late s.publish = true
  balance : s.publish.unsent = true →
    s.queue.length + s.periods + s.drained.toNat ≤ late / framePeriod + s.publish.count

theorem playing_start : Playing prebuffer chunks late {} where
  publishes := publishes_start
  sent := Nat.le_refl 0
  within := Bool.noConfusion
  inTime := rfl
  balance := Bool.noConfusion

theorem AgentPublish.of_unsent {publish : AgentPublish} (unsent : publish.unsent = true) :
    ∃ pcm payload rest, publish.pc = .publishing pcm (payload :: rest) := by
  unfold AgentPublish.unsent at unsent
  split at unsent
  · exact ⟨_, _, _, ‹_›⟩
  · cases unsent

/-- A frame that is left belongs to the utterance. -/
theorem Publishes.count_lt {publish : AgentPublish} (publishes : Publishes prebuffer chunks publish)
    (unsent : publish.unsent = true) : publish.count < frameCount chunks := by
  obtain ⟨pcm, payload, rest, here⟩ := AgentPublish.of_unsent unsent
  have at_pc := publishes.at_pc
  rw [here] at at_pc
  obtain ⟨collected, -, left⟩ := at_pc
  unfold frameCount
  rw [collected]
  exact List.length_lt_of_drop_ne_nil (by rw [← left]; exact List.cons_ne_nil _ _)

/-- A period cannot end with a frame too late. -/
theorem periods_le_of_inTime
    (inTime : AgentPlayout.inTime prebuffer late s.publish = true)
    (unsent : s.publish.unsent = true) (ends : s.publish.now = s.periodEnd) :
    s.periods + 1 ≤ late / framePeriod + s.publish.count := by
  obtain ⟨pcm, payload, rest, here⟩ := AgentPublish.of_unsent unsent
  unfold AgentPlayout.inTime at inTime
  rw [here] at inTime
  have bound := of_decide_eq_true inTime
  rw [ends, AgentPlayout.periodEnd, frameSendOffset] at bound
  unfold framePeriod at bound ⊢
  omega

theorem Playing.collect {publish : AgentPublish} (playing : Playing prebuffer chunks late s)
    (h : s.publish.step prebuffer chunks .collect = some publish) :
    Playing prebuffer chunks late { s with publish, periods := 0, drained := false } := by
  have publishes := playing.publishes.step h
  simp only [AgentPublish.step] at h
  split at h <;> cases h
  rename_i here
  have none : s.publish.sent = [] := by
    have at_pc := playing.publishes.at_pc
    rwa [here] at at_pc
  have unstarted : s.publish.count = 0 := by
    rw [← playing.publishes.counted, none]
    rfl
  have empty : s.queue.length = 0 := by
    have := playing.sent
    omega
  unfold AgentPublish.collect at publishes ⊢
  cases collected : collectPcm chunks with
  | error error =>
    rw [collected] at publishes
    exact ⟨publishes, playing.sent, Bool.noConfusion, rfl, Bool.noConfusion⟩
  | ok pcm =>
    rw [collected] at publishes
    simp only at publishes ⊢
    split
    · rename_i blank
      rw [if_pos blank] at publishes
      exact ⟨publishes, playing.sent, Bool.noConfusion, rfl, Bool.noConfusion⟩
    · rename_i some
      rw [if_neg some] at publishes
      refine ⟨publishes, playing.sent, fun _ => Nat.le_add_right _ _, ?_, fun _ => ?_⟩
      · unfold AgentPlayout.inTime
        split
        · exact decide_eq_true (by simp only; omega)
        · rfl
      · simp [empty]

/-- Sending a frame pays for its place in the queue. -/
theorem Playing.send {pcm payload : List UInt8} {rest : List (List UInt8)} {queue refused}
    (playing : Playing prebuffer chunks late s)
    (here : s.publish.pc = .publishing pcm (payload :: rest))
    (due : s.publish.startedAt + frameSendOffset s.publish.count prebuffer ≤ s.publish.now)
    (grown : queue.length ≤ s.queue.length + 1) :
    Playing prebuffer chunks late { s with
      publish := { s.publish with
        sent := s.publish.sent ++ [(s.publish.now, agentFrame s.publish.count payload)]
        count := s.publish.count + 1
        pc := .publishing pcm rest }
      queue, refused } := by
  have unsent : s.publish.unsent = true := by simp [AgentPublish.unsent, here]
  have sent := playing.sent
  refine ⟨playing.publishes.send here due, by simp only; omega, fun _ => playing.within unsent, ?_,
    fun _ => ?_⟩
  · have inTime := playing.inTime
    unfold AgentPlayout.inTime at inTime ⊢
    rw [here] at inTime
    have before := of_decide_eq_true inTime
    have later : frameSendOffset s.publish.count prebuffer ≤
        frameSendOffset (s.publish.count + 1) prebuffer := frameSendOffset_mono (Nat.le_succ _)
    split
    · exact decide_eq_true (by simp only; omega)
    · rfl
  · have balance := playing.balance unsent
    simp only
    omega

/-- The queue holds at most the prebuffer and what may be late. -/
theorem Playing.queue_length_le (playing : Playing prebuffer chunks late s)
    (lead : 0 < prebuffer) (unsent : s.publish.unsent = true)
    (due : s.publish.startedAt + frameSendOffset s.publish.count prebuffer ≤ s.publish.now) :
    s.queue.length ≤ prebuffer + late / framePeriod := by
  have balance := playing.balance unsent
  have within := playing.within unsent
  have reached : frameSendOffset s.publish.count prebuffer ≤ (s.periods + 1) * framePeriod := by
    unfold AgentPlayout.periodEnd at within
    omega
  rw [frameSendOffset_le lead, Nat.mul_div_cancel _ (by decide : 0 < framePeriod)] at reached
  omega

/-- A step refuses nothing when the queue has room for what may come together. -/
theorem Playing.step {a : PlayoutAction} (playing : Playing prebuffer chunks late s)
    (lead : 0 < prebuffer)
    (fits : frameCount chunks ≤ audioOutboundQueueCapacity ∨
      prebuffer + late / framePeriod < audioOutboundQueueCapacity)
    (h : s.step prebuffer chunks late a = some s') :
    Playing prebuffer chunks late s' ∧ s'.refused = s.refused := by
  have ⟨publishes, sent, within, inTime, balance⟩ := playing
  cases a with
  | elapse nanos =>
    simp only [AgentPlayout.step] at h
    split at h <;> cases h
    rename_i allowed
    have elapsed := publishes.step (a := .elapse nanos) rfl
    exact ⟨⟨elapsed, sent, fun _ => allowed.1, allowed.2, balance⟩, rfl⟩
  | collect =>
    obtain ⟨publish, collects, rfl⟩ := Option.map_eq_some_iff.mp h
    exact ⟨playing.collect collects, rfl⟩
  | send =>
    obtain ⟨publish, sends, rfl⟩ := Option.map_eq_some_iff.mp h
    simp only [AgentPublish.step] at sends
    split at sends
    · rename_i pcm payload rest here
      split at sends <;> cases sends
      rename_i due
      have unsent : s.publish.unsent = true := by simp [AgentPublish.unsent, here]
      have room : s.queue.length < audioOutboundQueueCapacity := by
        obtain few | soon := fits
        · have := publishes.count_lt unsent
          omega
        · have := playing.queue_length_le lead unsent due
          omega
      simp only [List.getLast?_concat, AgentPlayout.trySend]
      rw [if_pos room]
      exact ⟨playing.send here due (by simp), rfl⟩
    · cases sends
  | finish =>
    obtain ⟨publish, finishes, rfl⟩ := Option.map_eq_some_iff.mp h
    have finished := publishes.step finishes
    simp only [AgentPublish.step] at finishes
    split at finishes <;> cases finishes
    exact ⟨⟨finished, sent, Bool.noConfusion, rfl, Bool.noConfusion⟩, rfl⟩
  | drain =>
    simp only [AgentPlayout.step] at h
    split at h <;> cases h
    rename_i message queue here
    rw [here, List.length_cons] at sent balance
    refine ⟨⟨publishes, by simp only; omega, within, inTime, fun unsent => ?_⟩, rfl⟩
    have paid := balance unsent
    simp only [Bool.toNat_true]
    omega
  | period =>
    simp only [AgentPlayout.step] at h
    split at h <;> cases h
    rename_i ends
    obtain ⟨ends, taken⟩ := ends
    refine ⟨⟨publishes, sent, fun unsent => ?_, inTime, fun unsent => ?_⟩, rfl⟩
    · refine (within unsent).trans ?_
      unfold AgentPlayout.periodEnd
      exact Nat.add_le_add_left (Nat.mul_le_mul_right _ (Nat.le_succ _)) _
    · have paid := balance unsent
      have inside := periods_le_of_inTime inTime unsent ends
      obtain drained | empty := taken
      · rw [drained, Bool.toNat_true] at paid
        simp only [Bool.toNat_false]
        omega
      · simp only [empty, List.length_nil, Bool.toNat_false]
        omega

theorem refused_of_fits (lead : 0 < prebuffer)
    (fits : frameCount chunks ≤ audioOutboundQueueCapacity ∨
      prebuffer + late / framePeriod < audioOutboundQueueCapacity)
    (run : (agentPlayoutMachine prebuffer chunks late).Run Machine.unguarded {} s) :
    s.refused = [] := by
  have accepted : Playing prebuffer chunks late s ∧ s.refused = [] := by
    refine run.invariant ⟨playing_start, rfl⟩ fun {t u a} playing _ step => ?_
    obtain ⟨next, same⟩ := playing.1.step lead fits step
    exact ⟨next, same.trans playing.2⟩
  exact accepted.2

/-- Time passes while the publisher may wait. -/
theorem elapse_step {nanos : Nat} (within : s.publish.now + nanos ≤ s.periodEnd)
    (patient : s.publish.now + nanos ≤
      s.publish.startedAt + frameSendOffset s.publish.count prebuffer + late) :
    (agentPlayoutMachine prebuffer chunks late).step s (.elapse nanos) =
      some { s with publish := { s.publish with now := s.publish.now + nanos } } := by
  refine if_pos ⟨within, ?_⟩
  unfold AgentPlayout.inTime
  split
  · exact decide_eq_true patient
  · rfl

/-- A frame whose offset has passed is offered to the queue. -/
theorem send_step {pcm payload : List UInt8} {rest : List (List UInt8)}
    (here : s.publish.pc = .publishing pcm (payload :: rest))
    (due : s.publish.startedAt + frameSendOffset s.publish.count prebuffer ≤ s.publish.now) :
    (agentPlayoutMachine prebuffer chunks late).step s .send = some (
      { s with publish := { s.publish with
          sent := s.publish.sent ++ [(s.publish.now, agentFrame s.publish.count payload)]
          count := s.publish.count + 1
          pc := .publishing pcm rest } }.trySend (agentFrame s.publish.count payload).encode) := by
  change (s.publish.step prebuffer chunks .send).map _ = _
  simp only [AgentPublish.step, here, if_pos due, Option.map_some, List.getLast?_concat]

/-- The publisher has waited for some periods. -/
def waiting (pcm : List UInt8) (periods : Nat) : AgentPlayout where
  publish := { now := periods * framePeriod, pc := .publishing pcm (payloads pcm) }
  periods := periods

theorem reaches_waiting {pcm : List UInt8} (collected : collectPcm chunks = .ok pcm)
    (present : payloads pcm ≠ []) {periods : Nat} (patient : periods * framePeriod ≤ late) :
    (agentPlayoutMachine prebuffer chunks late).Run Machine.unguarded {} (waiting pcm periods) := by
  induction periods with
  | zero =>
    have some : pcm.isEmpty = false := by
      cases pcm with
      | nil => exact absurd rfl present
      | cons => rfl
    refine .tail (a := .collect) .refl trivial ?_
    change Option.some { ({} : AgentPlayout) with publish := AgentPublish.collect {} chunks } = _
    simp only [AgentPublish.collect, collected, some]
    simp [waiting]
  | succ periods ih =>
    rw [Nat.succ_mul] at patient
    have run := ih (by omega)
    have sleep : (agentPlayoutMachine prebuffer chunks late).step (waiting pcm periods)
        (.elapse framePeriod) = some _ :=
      elapse_step (by simp only [waiting, AgentPlayout.periodEnd, Nat.succ_mul]; omega)
        (by simp only [waiting]; omega)
    refine .tail (a := .period) (.tail run trivial sleep) trivial ?_
    have ends : periods * framePeriod + framePeriod = 0 + (periods + 1) * framePeriod := by
      rw [Nat.succ_mul, Nat.zero_add]
    refine (if_pos ⟨ends, .inr rfl⟩).trans (congrArg some ?_)
    simp [waiting, Nat.succ_mul]

/-- Frames whose offset has passed may be sent together. -/
theorem reaches_burst {pcm : List UInt8} (collected : collectPcm chunks = .ok pcm)
    {n : Nat} (room : n ≤ audioOutboundQueueCapacity) (inside : n < (payloads pcm).length)
    (due : n ≤ prebuffer + late / framePeriod) (lead : 0 < prebuffer) :
    ∃ s, (agentPlayoutMachine prebuffer chunks late).Run Machine.unguarded {} s ∧
      s.publish.startedAt = 0 ∧ s.publish.now = late / framePeriod * framePeriod ∧
      s.publish.count = n ∧ s.publish.pc = .publishing pcm ((payloads pcm).drop n) ∧
      s.queue.length = n ∧ s.periods = late / framePeriod := by
  induction n with
  | zero =>
    have present : payloads pcm ≠ [] := List.ne_nil_of_length_pos inside
    exact ⟨_, reaches_waiting collected present (Nat.div_mul_le_self _ _), rfl, rfl, rfl, rfl, rfl,
      rfl⟩
  | succ n ih =>
    obtain ⟨s, run, started, now, count, pc, queue, periods⟩ :=
      ih (by omega) (by omega) (by omega)
    rw [List.drop_eq_getElem_cons (by omega)] at pc
    have passed : s.publish.startedAt + frameSendOffset s.publish.count prebuffer ≤
        s.publish.now := by
      rw [started, now, count, Nat.zero_add, frameSendOffset_le lead,
        Nat.mul_div_cancel _ (by decide : 0 < framePeriod)]
      omega
    refine ⟨_, .tail run trivial (send_step pc passed), ?_⟩
    unfold AgentPlayout.trySend
    rw [if_pos (by simp only; omega)]
    exact ⟨started, now, by simp [count], rfl, by simp [queue], periods⟩

/-- One frame more than the queue takes is lost when it comes before the queue is drained. -/
theorem reaches_refused {pcm : List UInt8} (collected : collectPcm chunks = .ok pcm)
    (many : audioOutboundQueueCapacity < (payloads pcm).length)
    (due : audioOutboundQueueCapacity ≤ prebuffer + late / framePeriod) (lead : 0 < prebuffer) :
    ∃ s, (agentPlayoutMachine prebuffer chunks late).Run Machine.unguarded {} s ∧
      s.refused ≠ [] := by
  obtain ⟨s, run, started, now, count, pc, queue, periods⟩ :=
    reaches_burst collected (Nat.le_refl _) many due lead
  rw [List.drop_eq_getElem_cons many] at pc
  have positive : 0 < framePeriod := by decide
  obtain passed | next := Nat.lt_or_ge audioOutboundQueueCapacity (prebuffer + late / framePeriod)
  · have due : s.publish.startedAt + frameSendOffset s.publish.count prebuffer ≤
        s.publish.now := by
      rw [started, now, count, Nat.zero_add, frameSendOffset_le lead,
        Nat.mul_div_cancel _ positive]
      exact passed
    refine ⟨_, .tail run trivial (send_step pc due), ?_⟩
    unfold AgentPlayout.trySend
    rw [if_neg (by simp only; omega)]
    simp
  · have offset : frameSendOffset s.publish.count prebuffer =
        late / framePeriod * framePeriod + framePeriod := by
      rw [count, frameSendOffset, ← Nat.succ_mul]
      congr 1
      omega
    have sleep : (agentPlayoutMachine prebuffer chunks late).step s (.elapse framePeriod) =
        some _ := elapse_step
      (by rw [AgentPlayout.periodEnd, started, now, periods, Nat.succ_mul]; omega)
      (by rw [started, now, offset]; omega)
    have run := run.tail trivial sleep
    refine ⟨_, .tail run trivial (send_step pc ?_), ?_⟩
    · simp only [started, now, offset]
      omega
    · unfold AgentPlayout.trySend
      rw [if_neg (by simp only; omega)]
      simp

/--
Every frame of every schedule is accepted exactly when all frames fit into the queue, or those that
may come before the first is taken do: the prebuffer and what the publisher may be late.
-/
theorem agent_frames_accepted_iff (config : RuntimeConfig) (chunks : List AudioChunk)
    (late : Nat) :
    (∀ s, (agentPlayoutMachine (prebufferFrames config.stored.voice.jitterBufferMs) chunks
        late).Run Machine.unguarded {} s → s.refused = []) ↔
      frameCount chunks ≤ audioOutboundQueueCapacity ∨
        prebufferFrames config.stored.voice.jitterBufferMs + late / framePeriod <
          audioOutboundQueueCapacity := by
  have lead := prebufferFrames_pos config.stored.voice.jitterBufferMs
  refine ⟨fun accepted => ?_, fun fits s => refused_of_fits lead fits⟩
  obtain few | many := Nat.lt_or_ge audioOutboundQueueCapacity (frameCount chunks)
  · obtain soon | burst := Nat.lt_or_ge (prebufferFrames config.stored.voice.jitterBufferMs +
        late / framePeriod) audioOutboundQueueCapacity
    · exact .inr soon
    · unfold frameCount at few
      cases collected : collectPcm chunks with
      | error error =>
        rw [collected] at few
        exact absurd few (Nat.not_lt_zero _)
      | ok pcm =>
        rw [collected] at few
        obtain ⟨s, run, some⟩ := reaches_refused collected few burst lead
        exact absurd (accepted s run) some
  · exact .inl many

def longestJitterBuffer : RuntimeConfig where
  experimentId := none
  server := {}
  databaseUrl := "sqlite:parlando.db"
  stored := {
    voice := { enabled := true, jitterBufferMs := 5000 }
    tts := { enabled := true } }

def localFormats : TextFormats where
  parseUri text :=
    if text == "http://localhost:8000" then
      some ⟨some "http", some "localhost:8000", some "localhost", "/", none⟩
    else if text == "wss://api.elevenlabs.io" then
      some ⟨some "wss", some "api.elevenlabs.io", some "api.elevenlabs.io", "/", none⟩
    else none
  parseYaml _ := none

/-- The configured prebuffer of five seconds overflows the queue at once, whoever is on time. -/
theorem prebuffer_overflows : ¬∀ (formats : TextFormats) (config : RuntimeConfig),
    config.validate formats = .ok () → ∀ chunks late s, (agentPlayoutMachine (prebufferFrames config.stored.voice.jitterBufferMs)
      chunks late).Run Machine.unguarded {} s → s.refused = [] := by
  intro accepted
  have valid : longestJitterBuffer.validate localFormats = .ok () := by decide +kernel
  have collected := collectPcm_silence 62399
  have many : audioOutboundQueueCapacity <
      (payloads (List.replicate (62399 + 1) (0 : UInt8))).length := by
    rw [length_payloads, List.length_replicate]
    decide
  obtain ⟨s, run, some⟩ := @reaches_refused
    (prebufferFrames longestJitterBuffer.stored.voice.jitterBufferMs) 0 _ _ collected many
    (by decide) (prebufferFrames_pos _)
  exact some (accepted _ _ valid _ 0 s run)

end Parlando
