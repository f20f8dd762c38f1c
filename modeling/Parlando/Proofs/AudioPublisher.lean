import Parlando.AudioPublisher
import Mathlib.Algebra.Ring.Nat
import Mathlib.Data.List.Range
import Mathlib.Data.List.Basic

namespace Parlando

open Concurrency

variable {prebuffer : Nat} {chunks : List AudioChunk} {pcm : List UInt8} {s s' : AgentPublish}

def speechFrames (pcm : List UInt8) : List AudioFrame := (payloads pcm).mapIdx agentFrame

/-- The audio that is collected is that of all chunks. -/
theorem of_collectPcm (h : collectPcm chunks = .ok pcm) : pcm = (chunks.map (·.data)).flatten := by
  have gathers : ∀ (chunks : List AudioChunk) (front : List UInt8),
      (chunks.filter fun chunk => !chunk.data.isEmpty).foldlM (fun pcm chunk =>
        if chunk.sampleRate ≠ audioSampleRate ∨ chunk.channels ≠ audioChannels then
          .error "agent TTS must return 24000 Hz mono PCM"
        else .ok (pcm ++ chunk.data)) front = Except.ok pcm →
      pcm = front ++ (chunks.map (·.data)).flatten := by
    intro chunks
    induction chunks with
    | nil =>
      intro front h
      cases h
      simp
    | cons chunk rest ih =>
      intro front h
      cases empty : chunk.data.isEmpty with
      | true =>
        rw [List.filter_cons_of_neg (by simp [empty])] at h
        have none : chunk.data = [] := List.isEmpty_iff.mp empty
        simpa [none] using ih front h
      | false =>
        rw [List.filter_cons_of_pos (by simp [empty]), List.foldlM_cons] at h
        split at h
        · cases h
        · simpa using ih (front ++ chunk.data) h
  simpa using gathers chunks [] h

theorem length_payloads (pcm : List UInt8) :
    (payloads pcm).length = (pcm.length + 959) / 960 := by
  simp [payloads, audioFrameBytes]

theorem length_speechFrames (pcm : List UInt8) :
    (speechFrames pcm).length = (pcm.length + 959) / 960 := by
  rw [speechFrames, List.length_mapIdx, length_payloads]

/-- A payload starts inside the audio. -/
theorem lt_length_of_speechFrames {k : Nat} (inside : k < (speechFrames pcm).length) :
    960 * k < pcm.length := by
  rw [length_speechFrames] at inside
  omega

theorem getElem?_speechFrames {k : Nat} (inside : k < (speechFrames pcm).length) :
    (speechFrames pcm)[k]? = some (agentFrame k ((pcm.drop (960 * k)).take 960)) := by
  have within : k < (pcm.length + 959) / 960 := by rwa [length_speechFrames] at inside
  simp [speechFrames, payloads, audioFrameBytes, within]

/-- The first frames hold the audio from its start, and silence after its end. -/
theorem flatten_take_speechFrames (pcm : List UInt8) {n : Nat}
    (inside : n ≤ (speechFrames pcm).length) :
    (((speechFrames pcm).take n).map (·.pcm)).flatten =
      pcm.take (960 * n) ++ List.replicate (960 * n - pcm.length) 0 := by
  induction n with
  | zero => simp
  | succ n ih =>
    have here := getElem?_speechFrames inside
    have full := lt_length_of_speechFrames inside
    have whole : 960 * n - pcm.length = 0 := by omega
    rw [List.take_add_one, here, List.map_append, List.flatten_append, ih (by omega), whole,
      List.replicate_zero, List.append_nil, Nat.mul_succ, List.take_add]
    have rest : 960 - ((pcm.drop (960 * n)).take 960).length = 960 * n + 960 - pcm.length := by
      rw [List.length_take, List.length_drop]
      omega
    simp [agentFrame, audioFrameBytes]
    omega

/-- Silence completes the last frame only. -/
theorem flatten_speechFrames (pcm : List UInt8) :
    ∃ padding < 960, ((speechFrames pcm).map (·.pcm)).flatten =
      pcm ++ List.replicate padding 0 ∧ pcm.length + padding = 960 * (speechFrames pcm).length := by
  have all := flatten_take_speechFrames pcm (Nat.le_refl _)
  have length := length_speechFrames pcm
  rw [List.take_length, List.take_of_length_le (by omega)] at all
  exact ⟨_, by omega, all, by omega⟩

theorem frameSendOffset_mono {k l : Nat} (below : k ≤ l) :
    frameSendOffset k prebuffer ≤ frameSendOffset l prebuffer :=
  Nat.mul_le_mul_right _ (Nat.sub_le_sub_right below _)

theorem prebufferFrames_pos (jitterBufferMs : Nat) : 0 < prebufferFrames jitterBufferMs := by
  unfold prebufferFrames
  omega

/-- The frames whose offset has passed are the prebuffer and one for each period. -/
theorem frameSendOffset_le (some : 0 < prebuffer) (k t : Nat) :
    frameSendOffset k prebuffer ≤ t ↔ k < prebuffer + t / framePeriod := by
  unfold frameSendOffset framePeriod
  omega

theorem countP_lt_range (total bound : Nat) :
    (List.range total).countP (fun k => decide (k < bound)) = min total bound := by
  induction total with
  | zero => simp
  | succ total ih =>
    rw [List.range_succ, List.countP_append, ih]
    by_cases inside : total < bound
    · simp [inside]
      omega
    · simp [inside]
      omega

theorem countP_frameSendOffset (some : 0 < prebuffer) (total t : Nat) :
    (List.range total).countP (fun k => decide (frameSendOffset k prebuffer ≤ t)) =
      min total (prebuffer + t / framePeriod) := by
  rw [← countP_lt_range]
  exact List.countP_congr fun k _ => by simp [frameSendOffset_le some]

def PublishesAt (chunks : List AudioChunk) (s : AgentPublish) : AgentPublishPc → Prop
  | .called => s.sent = []
  | .publishing pcm rest => collectPcm chunks = .ok pcm ∧
      s.sent.map (·.2) = (speechFrames pcm).take s.count ∧ rest = (payloads pcm).drop s.count
  | .returned (.ok summary) => ∃ pcm, collectPcm chunks = .ok pcm ∧
      s.sent.map (·.2) = speechFrames pcm ∧ summary.bytesPublished = pcm.length ∧
      summary.chunksPublished = s.sent.length
  | .returned (.error _) => s.sent = []

/-- A call sends the frames of its chunks in order, none of them before its offset. -/
structure Publishes (prebuffer : Nat) (chunks : List AudioChunk) (s : AgentPublish) : Prop where
  at_pc : PublishesAt chunks s s.pc
  counted : s.sent.length = s.count
  paced : ∀ (k : Nat) t frame, s.sent[k]? = some (t, frame) →
    s.startedAt + frameSendOffset k prebuffer ≤ t

theorem publishes_start : Publishes prebuffer chunks {} where
  at_pc := rfl
  counted := rfl
  paced := by simp

theorem Publishes.collect (publishes : Publishes prebuffer chunks s) (here : s.pc = .called) :
    Publishes prebuffer chunks (s.collect chunks) := by
  have none : s.sent = [] := by
    have := publishes.at_pc
    rwa [here] at this
  have counted := publishes.counted
  rw [none] at counted
  unfold AgentPublish.collect
  cases collected : collectPcm chunks with
  | error error => exact ⟨none, publishes.counted, publishes.paced⟩
  | ok pcm =>
    simp only
    split
    · exact ⟨none, publishes.counted, publishes.paced⟩
    · refine ⟨⟨collected, ?_, ?_⟩, publishes.counted, ?_⟩
      · simp [none, ← counted]
      · simp [← counted]
      · simp [none]

theorem Publishes.send {payload : List UInt8} {rest : List (List UInt8)}
    (publishes : Publishes prebuffer chunks s) (here : s.pc = .publishing pcm (payload :: rest))
    (due : s.startedAt + frameSendOffset s.count prebuffer ≤ s.now) :
    Publishes prebuffer chunks { s with
      sent := s.sent ++ [(s.now, agentFrame s.count payload)]
      count := s.count + 1
      pc := .publishing pcm rest } := by
  have counted := publishes.counted
  have at_pc := publishes.at_pc
  rw [here] at at_pc
  obtain ⟨collected, sent, left⟩ := at_pc
  have next : (payloads pcm)[s.count]? = some payload := by
    rw [← List.head?_drop, ← left]
    rfl
  refine ⟨⟨collected, ?_, ?_⟩, by simp [counted], ?_⟩
  · rw [List.map_append, sent, List.take_add_one, speechFrames, List.getElem?_mapIdx, next]
    rfl
  · rw [← List.drop_drop, ← left]
    rfl
  · intro k t frame at_k
    obtain before | last := Nat.lt_or_ge k s.sent.length
    · rw [List.getElem?_append_left before] at at_k
      exact publishes.paced k t frame at_k
    · rw [List.getElem?_append_right last] at at_k
      obtain ⟨is, same⟩ := List.getElem?_eq_some_iff.mp at_k
      have : k = s.count := by
        simp at is
        omega
      subst this
      simp only [counted, Nat.sub_self, List.getElem_cons_zero, Prod.mk.injEq] at same
      rw [← same.1]
      exact due

theorem Publishes.finish (publishes : Publishes prebuffer chunks s)
    (here : s.pc = .publishing pcm []) :
    Publishes prebuffer chunks { s with pc := .returned (.ok {
        chunksPublished := s.count
        bytesPublished := pcm.length
        sampleRate := audioSampleRate
        channels := audioChannels }) } := by
  have at_pc := publishes.at_pc
  rw [here] at at_pc
  obtain ⟨collected, sent, left⟩ := at_pc
  have all : (speechFrames pcm).length ≤ s.count := by
    rw [speechFrames, List.length_mapIdx]
    exact List.drop_eq_nil_iff.mp left.symm
  rw [List.take_of_length_le all] at sent
  exact ⟨⟨pcm, collected, sent, rfl, publishes.counted.symm⟩, publishes.counted, publishes.paced⟩

theorem Publishes.step {a : AgentPublishAction} (publishes : Publishes prebuffer chunks s)
    (h : s.step prebuffer chunks a = some s') : Publishes prebuffer chunks s' := by
  unfold AgentPublish.step at h
  cases a with
  | elapse nanos =>
    cases h
    exact ⟨publishes.at_pc, publishes.counted, publishes.paced⟩
  | collect =>
    simp only at h
    split at h <;> cases h
    rename_i here
    exact publishes.collect here
  | send =>
    simp only at h
    split at h
    · rename_i here
      split at h <;> cases h
      rename_i due
      exact publishes.send here due
    · cases h
  | finish =>
    simp only at h
    split at h <;> cases h
    rename_i here
    exact publishes.finish here

theorem publishes_of_run (run : (agentPublishMachine prebuffer chunks).Run Machine.unguarded {} s) :
    Publishes prebuffer chunks s :=
  run.invariant publishes_start fun publishes _ => publishes.step

/-- From anywhere in its frames a call can go on to its end. -/
theorem publish_returns (left : List (List UInt8)) (here : s.pc = .publishing pcm left) :
    ∃ s', (agentPublishMachine prebuffer chunks).Run Machine.unguarded s s' ∧
      ∃ summary, s'.pc = .returned (.ok summary) := by
  induction left generalizing s with
  | nil =>
    let summary : AudioPublishSummary :=
      ⟨s.count, pcm.length, audioSampleRate, audioChannels⟩
    have finish : (agentPublishMachine prebuffer chunks).step s .finish =
        some { s with pc := .returned (.ok summary) } := by
      change s.step prebuffer chunks .finish = _
      simp only [AgentPublish.step, here, summary]
    exact ⟨_, .tail .refl trivial finish, summary, rfl⟩
  | cons payload rest ih =>
    let due := s.startedAt + frameSendOffset s.count prebuffer
    let woken : AgentPublish := { s with now := s.now + due }
    let sent : AgentPublish := { woken with
      sent := s.sent ++ [(woken.now, agentFrame s.count payload)]
      count := s.count + 1
      pc := .publishing pcm rest }
    have sleep : (agentPublishMachine prebuffer chunks).step s (.elapse due) = some woken := rfl
    have send : (agentPublishMachine prebuffer chunks).step woken .send = some sent := by
      change woken.step prebuffer chunks .send = _
      simp only [AgentPublish.step, woken, here]
      rw [if_pos (Nat.le_add_left _ _)]
    obtain ⟨s', run, returned⟩ := ih (s := sent) rfl
    exact ⟨s', .head trivial sleep (.head trivial send run), returned⟩

theorem publish_of_collect (collected : collectPcm chunks = .ok pcm) (some : pcm ≠ []) :
    ∃ s, (agentPublishMachine prebuffer chunks).Run Machine.unguarded {} s ∧
      ∃ summary, s.pc = .returned (.ok summary) := by
  let started : AgentPublish := { pc := .publishing pcm (payloads pcm) }
  have collect : (agentPublishMachine prebuffer chunks).step {} .collect = Option.some started := by
    change Option.some (AgentPublish.collect {} chunks) = _
    have present : pcm.isEmpty = false := by simpa using some
    simp only [AgentPublish.collect, collected, present, started]
    rfl
  obtain ⟨s, run, returned⟩ := publish_returns (s := started) _ rfl
  exact ⟨s, .head trivial collect run, returned⟩

/--
What has been said of a published utterance: its audio in frames, silence after the last of them,
consecutive numbers as far as their fields reach, and a schedule with a fixed lead.
-/
theorem agent_speech_framing {jitterBufferMs : Nat}
    (run : (agentPublishMachine (prebufferFrames jitterBufferMs) chunks).Run
      Machine.unguarded {} s) :
    (∀ summary, s.pc = .returned (.ok summary) →
      (∃ padding < 960, (s.sent.map (·.2.pcm)).flatten =
          (chunks.map (·.data)).flatten ++ List.replicate padding 0 ∧
        ((chunks.map (·.data)).flatten).length + padding = 960 * s.sent.length) ∧
      (∀ (k : Nat) t frame, s.sent[k]? = some (t, frame) →
        frame.sequence.toNat = k % 2 ^ 32 ∧ frame.timestampMs.toNat = 20 * k % 2 ^ 64) ∧
      summary.bytesPublished = ((chunks.map (·.data)).flatten).length ∧
      summary.chunksPublished = s.sent.length) ∧
    (∀ error, s.pc = .returned (.error error) → s.sent = []) ∧
    (∀ (k : Nat) t frame, s.sent[k]? = some (t, frame) →
      s.startedAt + frameSendOffset k (prebufferFrames jitterBufferMs) ≤ t) ∧
    (∀ k l, k ≤ l → frameSendOffset k (prebufferFrames jitterBufferMs) ≤
      frameSendOffset l (prebufferFrames jitterBufferMs)) ∧
    (∀ total t, (List.range total).countP
        (fun k => decide (frameSendOffset k (prebufferFrames jitterBufferMs) ≤ t)) =
      min total (prebufferFrames jitterBufferMs + t / framePeriod)) := by
  have publishes := publishes_of_run run
  have at_pc := publishes.at_pc
  refine ⟨fun summary here => ?_, fun error here => ?_, publishes.paced,
    fun k l => frameSendOffset_mono, countP_frameSendOffset (prebufferFrames_pos _)⟩
  · rw [here] at at_pc
    obtain ⟨pcm, collected, sent, bytes, frames⟩ := at_pc
    obtain rfl := of_collectPcm collected
    have length : s.sent.length = (speechFrames (chunks.map (·.data)).flatten).length := by
      rw [← sent, List.length_map]
    refine ⟨?_, fun k t frame at_k => ?_, bytes, frames⟩
    · obtain ⟨padding, short, all, whole⟩ := flatten_speechFrames (chunks.map (·.data)).flatten
      refine ⟨padding, short, ?_, by rw [whole, length]⟩
      rw [← all, ← sent, List.map_map]
      rfl
    · have inside := (List.getElem?_eq_some_iff.mp at_k).1
      have same := congrArg (·[k]?) sent
      simp only [List.getElem?_map, at_k] at same
      rw [getElem?_speechFrames (length ▸ inside)] at same
      obtain rfl := Option.some.inj same
      refine ⟨UInt32.toNat_ofNat', ?_⟩
      change (UInt64.ofNat (k * 20)).toNat = _
      rw [UInt64.toNat_ofNat', Nat.mul_comm]
  · rwa [here] at at_pc

/-- Two chunks, one of them empty, make one frame. -/
theorem agent_speech_framing_short : ∃ s,
    (agentPublishMachine (prebufferFrames 100) [⟨[1, 2], 24000, 1⟩, ⟨[], 0, 0⟩]).Run
      Machine.unguarded {} s ∧
    ∃ summary, s.pc = .returned (.ok summary) ∧ summary.bytesPublished = 2 := by
  obtain ⟨s, ran, summary, here⟩ : ∃ s,
      (agentPublishMachine (prebufferFrames 100) [⟨[1, 2], 24000, 1⟩, ⟨[], 0, 0⟩]).exec {}
        [.collect, .send, .finish] = some s ∧ ∃ summary, s.pc = .returned (.ok summary) :=
    ⟨_, rfl, _, rfl⟩
  have run := Machine.Run.of_exec_unguarded ran
  exact ⟨s, run, summary, here, ((agent_speech_framing run).1 summary here).2.2.1⟩

/-- Silence of any length can be collected. -/
theorem collectPcm_silence (n : Nat) :
    collectPcm [⟨List.replicate (n + 1) 0, audioSampleRate, audioChannels⟩] =
      .ok (List.replicate (n + 1) 0) := by
  simp [collectPcm, List.replicate_succ]

/-- Past 2^32 frames the sequence numbers start again at zero. -/
theorem sequence_restarts : ¬∀ chunks s,
    (agentPublishMachine (prebufferFrames 100) chunks).Run Machine.unguarded {} s →
    (∃ summary, s.pc = .returned (.ok summary)) →
    ∀ (k : Nat) t frame, s.sent[k]? = some (t, frame) → frame.sequence.toNat = k := by
  intro consecutive
  have collected := collectPcm_silence (960 * 2 ^ 32)
  obtain ⟨s, run, summary, here⟩ :=
    @publish_of_collect (prebufferFrames 100) _ _ collected (List.cons_ne_nil _ _)
  have publishes := publishes_of_run run
  have at_pc := publishes.at_pc
  rw [here] at at_pc
  obtain ⟨pcm, same, sent, -⟩ := at_pc
  rw [collected] at same
  cases same
  have inside : 2 ^ 32 < (speechFrames (List.replicate (960 * 2 ^ 32 + 1) 0)).length := by
    rw [length_speechFrames, List.length_replicate]
    omega
  have last := getElem?_speechFrames inside
  rw [← sent, List.getElem?_map] at last
  obtain ⟨⟨t, frame⟩, at_last, rfl⟩ := Option.map_eq_some_iff.mp last
  have exceeds := consecutive _ s run ⟨summary, here⟩ _ t _ at_last
  change (UInt32.ofNat (2 ^ 32)).toNat = 2 ^ 32 at exceeds
  rw [UInt32.toNat_ofNat', Nat.mod_self] at exceeds
  omega

end Parlando
