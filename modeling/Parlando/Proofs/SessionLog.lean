import Mathlib.Algebra.Order.BigOperators.Group.List
import Mathlib.Algebra.Order.Group.Nat
import Parlando.Concurrency.Pool
import Parlando.SessionLog

namespace Parlando

open Concurrency

namespace LogPc

variable {inner inner' : SessionLoggerInner} {index : Nat} {entry : PendingSessionLog}
  {pc pc' : LogPc}

/-- The bytes a call has added to `accepted_bytes` and not given back. -/
def held (entry : PendingSessionLog) : LogPc → Nat
  | acquire | push | refund _ | returned (.ok ()) => entry.bytes
  | start | reserve | returned (.error _) => 0

/-- The places of the channel a call has taken and not filled. -/
def places : LogPc → Nat
  | push => 1
  | _ => 0

def sent (index : Nat) (entry : PendingSessionLog) : LogPc → List (Nat × PendingSessionLog)
  | returned (.ok ()) => [(index, entry)]
  | _ => []

inductive Step (inner : SessionLoggerInner) (index : Nat) (entry : PendingSessionLog) :
    LogPc → SessionLoggerInner → LogPc → Prop where
  | enter : Step inner index entry start inner reserve
  | tooLarge : Step inner index entry start inner (returned (.error .entryTooLarge))
  | limit : Step inner index entry reserve inner (returned (.error .sessionLimitExceeded))
  | reserved (fits : inner.acceptedBytes + entry.bytes ≤ maxSessionLogBytes) :
    Step inner index entry reserve
      { inner with acceptedBytes := inner.acceptedBytes + entry.bytes } acquire
  | refused (error : SessionLogError) : Step inner index entry acquire inner (refund error)
  | acquired (opened : inner.sender.closed = false) :
    Step inner index entry acquire
      { inner with sender := { inner.sender with reserved := inner.sender.reserved + 1 } } push
  | pushed : Step inner index entry push
      { inner with sender := inner.sender.send (index, entry) } (returned (.ok ()))
  | refunded (error : SessionLogError) :
    Step inner index entry (refund error)
      { inner with acceptedBytes := inner.acceptedBytes - entry.bytes } (returned (.error error))

namespace Step

theorem limit_kept (step : Step inner index entry pc inner' pc')
    (limit : inner.acceptedBytes ≤ maxSessionLogBytes) :
    inner'.acceptedBytes ≤ maxSessionLogBytes := by
  cases step with
  | reserved fits => exact fits
  | refunded error => exact Nat.le_trans (Nat.sub_le ..) limit
  | _ => exact limit

/-- What a step adds to the counter the call holds afterwards. -/
theorem bytes_balance (step : Step inner index entry pc inner' pc')
    (covered : pc.held entry ≤ inner.acceptedBytes) :
    inner'.acceptedBytes + pc.held entry = inner.acceptedBytes + pc'.held entry := by
  cases step with
  | refunded error => exact Nat.sub_add_cancel covered
  | _ => rfl

theorem places_balance (step : Step inner index entry pc inner' pc')
    (covered : pc.places ≤ inner.sender.reserved) :
    inner'.sender.reserved + pc.places = inner.sender.reserved + pc'.places := by
  cases step with
  | pushed => exact Nat.sub_add_cancel covered
  | _ => rfl

/-- A step sends what the call has sent when it is over. -/
theorem sent_after (step : Step inner index entry pc inner' pc') :
    inner'.sender.sent = inner.sender.sent ++ pc'.sent index entry := by
  cases step with
  | pushed => rfl
  | _ => exact (List.append_nil _).symm

theorem sent_before (step : Step inner index entry pc inner' pc') : pc.sent index entry = [] := by
  cases step <;> rfl

/-- A call leaves the receiver's end of the channel alone. -/
theorem receiver_kept (step : Step inner index entry pc inner' pc') :
    inner'.sender.received = inner.sender.received ∧ inner'.sender.closed = inner.sender.closed := by
  cases step <;> exact ⟨rfl, rfl⟩

/-- Nothing is sent through a closed channel in which no place is taken. -/
theorem finished (step : Step inner index entry pc inner' pc') (closed : inner.sender.closed = true)
    (free : pc.places = 0) : inner'.sender = inner.sender := by
  cases step with
  | acquired opened => cases closed.symm.trans opened
  | pushed => cases free
  | _ => rfl

end Step

end LogPc

namespace LogCall

variable {inner inner' : SessionLoggerInner} {index : Nat} {call call' : LogCall}

def held (call : LogCall) : Nat := call.pc.held call.entry

def places (call : LogCall) : Nat := call.pc.places

theorem step_cases (h : call.step inner index = some (inner', call')) :
    call'.entry = call.entry ∧ call.pc.Step inner index call.entry inner' call'.pc := by
  obtain ⟨entry, pc⟩ := call
  cases pc with
  | start =>
    change (if _ then _ else _) = _ at h
    split at h <;> cases h
    · exact ⟨rfl, .tooLarge⟩
    · exact ⟨rfl, .enter⟩
  | reserve =>
    change (if _ then _ else _) = _ at h
    split at h <;> cases h
    · exact ⟨rfl, .reserved ‹_›⟩
    · exact ⟨rfl, .limit⟩
  | acquire =>
    simp only [step] at h
    split at h <;> cases h
    · rename_i reserved
      obtain ⟨opened, rfl⟩ := Channel.reserve_ok reserved
      exact ⟨rfl, .acquired opened⟩
    · exact ⟨rfl, .refused _⟩
    · exact ⟨rfl, .refused _⟩
  | push =>
    cases h
    exact ⟨rfl, .pushed⟩
  | refund error =>
    cases h
    exact ⟨rfl, .refunded error⟩
  | returned result => cases h

theorem mem_sent {entry : PendingSessionLog} {i : Nat} :
    (i, entry) ∈ call.pc.sent index call.entry ↔
      i = index ∧ call.isAccepted = true ∧ call.entry = entry := by
  obtain ⟨own, pc⟩ := call
  rcases pc with - | - | - | - | - | ⟨-⟩ | ⟨⟩
  case returned.ok =>
    simp only [LogPc.sent, isAccepted, List.mem_singleton, Prod.mk.injEq, true_and]
    exact and_congr_right fun _ => eq_comm
  all_goals simp [LogPc.sent, isAccepted]

end LogCall

namespace SessionLog

variable {s t : SessionLog} {a : SessionLogAction}

structure Accounted (s : SessionLog) : Prop where
  bytes : s.inner.acceptedBytes = (s.calls.map LogCall.held).sum
  limit : s.inner.acceptedBytes ≤ maxSessionLogBytes
  places : s.inner.sender.reserved = (s.calls.map LogCall.places).sum
  once : (s.accepted.map Prod.fst).Nodup
  returned : ∀ index entry, (index, entry) ∈ s.accepted ↔
    ∃ call, s.calls[index]? = some call ∧ call.isAccepted = true ∧ call.entry = entry

inductive Step (s : SessionLog) : SessionLogAction → SessionLog → Prop where
  | call (source : SessionLogSource) (text : String) :
    Step s (.call source text) { s with calls := s.calls ++ [{ entry := ⟨source, text⟩ }] }
  | log {index : Nat} {call call' : LogCall} {inner : SessionLoggerInner}
    (here : s.calls[index]? = some call) (same : call'.entry = call.entry)
    (step : call.pc.Step s.inner index call.entry inner call'.pc) :
    Step s (.log index) { s with inner, calls := s.calls.set index call' }
  | signal (reading : s.writer = .reading) : Step s (.write .signal) { s with
      writer := .closing, inner := { s.inner with sender := s.inner.sender.close } }
  | received {index : Nat} {entry : PendingSessionLog} (closing : Bool)
    (idle : s.writer = .reading ∨ s.writer = .closing)
    (message : s.inner.sender.receive = .message (index, entry)) :
    Step s (.write .receive) { s with
      writer := .appending entry closing
      inner := { s.inner with sender := s.inner.sender.take } }
  | finished (idle : s.writer = .reading ∨ s.writer = .closing)
    (finished : s.inner.sender.receive = .ended) : Step s (.write .receive) s.endWriter
  | append {entry : PendingSessionLog} {closing : Bool} (ok : Bool)
    (appending : s.writer = .appending entry closing) :
    Step s (.write (.append ok)) { s with
      writer := if closing then .closing else .reading
      appended := if ok then s.appended ++ [entry.record] else s.appended }
  | cancel (aborted : s.shutdown = .returned true) : Step s (.write .cancel) s.endWriter
  | shutdown (first : s.shutdown = .notCalled) :
    Step s (.shutdown .call) { s with shutdown := .waiting }
  | joined (waiting : s.shutdown = .waiting) (ended : s.writer = .ended) :
    Step s (.shutdown .joined) { s with shutdown := .returned false }
  | timeout (waiting : s.shutdown = .waiting) :
    Step s (.shutdown .timeout) { s with shutdown := .returned true }
  | drop : Step s .drop { s with inner := { s.inner with
      sender := { s.inner.sender with dropped := true } } }

theorem receive_cases {closing : Bool} (idle : s.writer = .reading ∨ s.writer = .closing)
    (h : s.receive closing = some t) : Step s (.write .receive) t := by
  unfold receive at h
  split at h <;> cases h
  · exact .finished idle ‹_›
  · exact .received closing idle ‹_›

theorem writerStep_cases {input : LogWriterInput} (h : s.writerStep s.writer input = some t) :
    Step s (.write input) t := by
  have cancelled (h : (if s.shutdown = .returned true then some s.endWriter else none) = some t) :
      Step s (.write .cancel) t := by
    split at h <;> cases h
    exact .cancel ‹_›
  cases at_ : s.writer with
  | reading =>
    rw [at_] at h
    cases input with
    | signal =>
      simp only [writerStep] at h
      split at h <;> cases h
      exact .signal at_
    | receive => exact receive_cases (.inl at_) h
    | append ok => cases h
    | cancel => exact cancelled h
  | closing =>
    rw [at_] at h
    cases input with
    | receive => exact receive_cases (.inr at_) h
    | cancel => exact cancelled h
    | _ => cases h
  | appending entry closing =>
    rw [at_] at h
    cases input with
    | append ok =>
      cases h
      exact .append ok at_
    | cancel => exact cancelled h
    | _ => cases h
  | ended =>
    rw [at_] at h
    cases input <;> cases h

theorem shutdownStep_cases {input : LogShutdownInput}
    (h : s.shutdownStep s.shutdown input = some t) : Step s (.shutdown input) t := by
  cases at_ : s.shutdown with
  | notCalled =>
    rw [at_] at h
    cases input <;> cases h
    exact .shutdown at_
  | waiting =>
    rw [at_] at h
    cases input with
    | call => cases h
    | joined =>
      simp only [shutdownStep] at h
      split at h <;> cases h
      exact .joined at_ ‹_›
    | timeout =>
      simp only [shutdownStep] at h
      split at h <;> cases h
      exact .timeout at_
  | returned aborted =>
    rw [at_] at h
    cases input <;> cases h

theorem step_cases (h : sessionLogMachine.step s a = some t) : Step s a t := by
  change s.step a = some t at h
  cases a with
  | call source text =>
    simp only [step] at h
    split at h <;> cases h
    exact .call source text
  | log index =>
    obtain ⟨call, here, h⟩ := Option.bind_eq_some_iff.mp h
    obtain ⟨⟨inner, call'⟩, stepped, h⟩ := Option.map_eq_some_iff.mp h
    cases h
    obtain ⟨same, step⟩ := LogCall.step_cases stepped
    exact .log here same step
  | write input => exact writerStep_cases h
  | shutdown input => exact shutdownStep_cases h
  | drop =>
    simp only [step] at h
    split at h <;> cases h
    exact .drop

namespace Accounted

/-- The writer, the shutdown and the drop of the handles leave the accounts alone. -/
theorem frame (accounted : Accounted s) (calls : t.calls = s.calls)
    (bytes : t.inner.acceptedBytes = s.inner.acceptedBytes)
    (sent : t.inner.sender.sent = s.inner.sender.sent)
    (reserved : t.inner.sender.reserved = s.inner.sender.reserved) : Accounted t where
  bytes := by rw [bytes, calls, accounted.bytes]
  limit := bytes ▸ accounted.limit
  places := by rw [reserved, calls, accounted.places]
  once := by
    rw [accepted, sent]
    exact accounted.once
  returned := by
    rw [accepted, sent, calls]
    exact accounted.returned

theorem call (accounted : Accounted s) (source : SessionLogSource) (text : String) :
    Accounted { s with calls := s.calls ++ [{ entry := ⟨source, text⟩ }] } where
  bytes := by
    rw [List.map_append, List.sum_append, accounted.bytes]
    rfl
  limit := accounted.limit
  places := by
    rw [List.map_append, List.sum_append]
    exact accounted.places
  once := accounted.once
  returned index entry := by
    refine (accounted.returned index entry).trans ⟨?_, ?_⟩
    · rintro ⟨call, here, accepted, same⟩
      have inside : index < s.calls.length := (List.getElem?_eq_some_iff.mp here).1
      exact ⟨call, (List.getElem?_append_left inside).trans here, accepted, same⟩
    · rintro ⟨call, here, accepted, same⟩
      rcases Pool.task_of_append here with old | rfl
      · exact ⟨call, old, accepted, same⟩
      · cases accepted

/-- A call that takes a step is not among the accepted ones. -/
theorem fresh {index : Nat} {call : LogCall} (accounted : Accounted s)
    (here : s.calls[index]? = some call) (unsent : call.pc.sent index call.entry = [])
    (entry : PendingSessionLog) : (index, entry) ∉ s.accepted := by
  intro mem
  obtain ⟨other, there, accepted, same⟩ := (accounted.returned index entry).mp mem
  cases there.symm.trans here
  have sent : (index, entry) ∈ call.pc.sent index call.entry :=
    LogCall.mem_sent.mpr ⟨rfl, accepted, same⟩
  rw [unsent] at sent
  cases sent

theorem log {index : Nat} {call call' : LogCall} {inner : SessionLoggerInner}
    (accounted : Accounted s) (here : s.calls[index]? = some call)
    (same : call'.entry = call.entry)
    (step : call.pc.Step s.inner index call.entry inner call'.pc) :
    Accounted { s with inner, calls := s.calls.set index call' } where
  bytes := by
    have covered : call.held ≤ s.inner.acceptedBytes := by
      rw [accounted.bytes]
      exact List.le_sum_of_mem (List.mem_map_of_mem (List.mem_of_getElem? here))
    have balance := step.bytes_balance covered
    have total := sum_map_set LogCall.held here (y := call')
    rw [← accounted.bytes] at total
    simp only [LogCall.held, same] at total balance ⊢
    omega
  limit := step.limit_kept accounted.limit
  places := by
    have covered : call.places ≤ s.inner.sender.reserved := by
      rw [accounted.places]
      exact List.le_sum_of_mem (List.mem_map_of_mem (List.mem_of_getElem? here))
    have balance := step.places_balance covered
    have total := sum_map_set LogCall.places here (y := call')
    rw [← accounted.places] at total
    simp only [LogCall.places] at total balance ⊢
    omega
  once := by
    rw [accepted, step.sent_after, List.map_append]
    refine List.nodup_append.mpr ⟨accounted.once, ?_, ?_⟩
    · unfold LogPc.sent
      split <;> simp
    · intro i old j new
      obtain ⟨⟨i, entry⟩, mem, rfl⟩ := List.mem_map.mp old
      obtain ⟨⟨j, entry'⟩, mem', rfl⟩ := List.mem_map.mp new
      rw [← same] at mem'
      obtain ⟨rfl, -, -⟩ := LogCall.mem_sent.mp mem'
      rintro rfl
      exact accounted.fresh here step.sent_before entry mem
  returned i entry := by
    rw [accepted, step.sent_after, List.mem_append, ← same, LogCall.mem_sent]
    by_cases own : i = index
    · subst own
      rw [List.getElem?_set_self (List.getElem?_eq_some_iff.mp here).1]
      refine ⟨?_, ?_⟩
      · rintro (old | ⟨-, accepted, same⟩)
        · exact absurd old (accounted.fresh here step.sent_before entry)
        · exact ⟨call', rfl, accepted, same⟩
      · rintro ⟨_, rest, accepted, same⟩
        cases rest
        exact .inr ⟨rfl, accepted, same⟩
    · rw [List.getElem?_set_ne (Ne.symm own)]
      refine (or_iff_left ?_).trans (accounted.returned i entry)
      rintro ⟨mine, -⟩
      exact own mine

theorem step (accounted : Accounted s) (h : sessionLogMachine.step s a = some t) :
    Accounted t := by
  cases step_cases h with
  | call source text => exact accounted.call source text
  | log here same step => exact accounted.log here same step
  | _ => exact accounted.frame rfl rfl rfl rfl

theorem run (run : sessionLogMachine.Run Machine.unguarded s t) (accounted : Accounted s) :
    Accounted t :=
  run.invariant accounted fun accounted _ h => accounted.step h

end Accounted

def records (messages : List (Nat × PendingSessionLog)) : List SessionEventRecord :=
  messages.map fun message => message.2.record

def Appends (s : SessionLog) : LogWriter → Prop
  | .reading | .closing => s.appended = records (s.accepted.take s.inner.sender.received)
  | .appending entry _ => ∃ before index, s.inner.sender.received = before + 1 ∧
      s.accepted[before]? = some (index, entry) ∧
      s.appended = records (s.accepted.take before)
  | .ended => s.appended = records s.accepted ∧ s.inner.sender.closed = true ∧
      s.inner.sender.reserved = 0

structure Delivering (s : SessionLog) : Prop where
  bound : s.inner.sender.received ≤ s.accepted.length
  appends : s.Appends s.writer
  intime : s.shutdown ≠ .returned true
  joined : s.shutdown = .returned false → s.writer = .ended

/-- The step is no failing append and no timeout of the shutdown. -/
def drains (_ : SessionLog) : SessionLogAction → Prop
  | .write (.append ok) => ok = true
  | .shutdown .timeout => False
  | _ => True

structure Stopped (s : SessionLog) : Prop where
  ended : s.writer = .ended
  closed : s.inner.sender.closed = true
  free : s.inner.sender.reserved = 0

theorem Accounted.unplaced {index : Nat} {call : LogCall} (accounted : Accounted s)
    (free : s.inner.sender.reserved = 0) (here : s.calls[index]? = some call) :
    call.pc.places = 0 := by
  have covered : call.places ≤ (s.calls.map LogCall.places).sum :=
    List.le_sum_of_mem (List.mem_map_of_mem (List.mem_of_getElem? here))
  rw [← accounted.places, free] at covered
  exact Nat.le_zero.mp covered

namespace Delivering

theorem log {index : Nat} {call call' : LogCall} {inner : SessionLoggerInner}
    (delivering : Delivering s) (accounted : Accounted s) (here : s.calls[index]? = some call)
    (step : call.pc.Step s.inner index call.entry inner call'.pc) :
    Delivering { s with inner, calls := s.calls.set index call' } where
  bound := by
    rw [accepted, step.sent_after, step.receiver_kept.1, List.length_append]
    exact Nat.le_add_right_of_le delivering.bound
  appends := by
    have appends := delivering.appends
    have bound := delivering.bound
    have received := step.receiver_kept.1
    have grown : inner.sender.sent = s.accepted ++ call'.pc.sent index call.entry :=
      step.sent_after
    cases at_ : s.writer with
    | reading | closing =>
      rw [at_] at appends
      change s.appended = records (inner.sender.sent.take inner.sender.received)
      rw [received, grown, List.take_append_of_le_length bound]
      exact appends
    | appending entry closing =>
      rw [at_] at appends
      obtain ⟨before, i, next, message, appended⟩ := appends
      have inside : before < s.accepted.length := (List.getElem?_eq_some_iff.mp message).1
      refine ⟨before, i, received.trans next, ?_, ?_⟩
      · rw [accepted, grown, List.getElem?_append_left inside]
        exact message
      · rw [accepted, grown, List.take_append_of_le_length (Nat.le_of_lt inside)]
        exact appended
    | ended =>
      rw [at_] at appends
      obtain ⟨appended, shut, free⟩ := appends
      have same := step.finished shut (accounted.unplaced free here)
      simp only [Appends, accepted, same]
      exact ⟨appended, shut, free⟩
  intime := delivering.intime
  joined := delivering.joined

/-- The writer receives its next entry. -/
theorem received {index : Nat} {entry : PendingSessionLog} {closing : Bool}
    (delivering : Delivering s) (idle : s.writer = .reading ∨ s.writer = .closing)
    (message : s.inner.sender.receive = .message (index, entry)) :
    Delivering { s with
      writer := .appending entry closing
      inner := { s.inner with sender := s.inner.sender.take } } where
  bound := (List.getElem?_eq_some_iff.mp (Channel.receive_message message)).1
  appends := by
    refine ⟨_, index, rfl, Channel.receive_message message, ?_⟩
    have appends := delivering.appends
    rcases idle with idle | idle <;> rw [idle] at appends <;> exact appends
  intime := delivering.intime
  joined finished := by
    have ended := delivering.joined finished
    rcases idle with idle | idle <;> cases idle.symm.trans ended

/-- The writer ends when all is received and nothing is on its way. -/
theorem finished (delivering : Delivering s) (idle : s.writer = .reading ∨ s.writer = .closing)
    (finished : s.inner.sender.receive = .ended) : Delivering s.endWriter where
  bound := delivering.bound
  appends := by
    obtain ⟨all, free⟩ := Channel.receive_ended finished
    have appends := delivering.appends
    have taken : s.accepted.take s.inner.sender.received = s.accepted :=
      List.take_of_length_le all
    rcases idle with idle | idle <;> rw [idle, Appends, taken] at appends <;>
      exact ⟨appends, rfl, free⟩
  intime := delivering.intime
  joined _ := rfl

/-- The writer appends the entry it has received. -/
theorem append {entry : PendingSessionLog} {closing : Bool} (delivering : Delivering s)
    (appending : s.writer = .appending entry closing) :
    Delivering { s with
      writer := if closing then .closing else .reading
      appended := s.appended ++ [entry.record] } where
  bound := delivering.bound
  appends := by
    have appends := delivering.appends
    rw [appending] at appends
    obtain ⟨before, index, next, message, appended⟩ := appends
    have grown : s.appended ++ [entry.record] =
        records (s.accepted.take s.inner.sender.received) := by
      rw [next, List.take_add_one, message, appended]
      simp [records]
    cases closing <;> exact grown
  intime := delivering.intime
  joined finished := by cases appending.symm.trans (delivering.joined finished)

theorem step (delivering : Delivering s) (accounted : Accounted s) (met : drains s a)
    (h : sessionLogMachine.step s a = some t) : Delivering t := by
  cases step_cases h with
  | call source text =>
    exact ⟨delivering.bound, delivering.appends, delivering.intime, delivering.joined⟩
  | log here same step => exact delivering.log accounted here step
  | signal reading =>
    have appends := delivering.appends
    rw [reading] at appends
    exact ⟨delivering.bound, appends, delivering.intime, fun finished => by
      cases reading.symm.trans (delivering.joined finished)⟩
  | received closing idle message => exact delivering.received idle message
  | finished idle finished => exact delivering.finished idle finished
  | append ok appending =>
    cases met
    exact delivering.append appending
  | cancel aborted => exact absurd aborted delivering.intime
  | shutdown first => exact ⟨delivering.bound, delivering.appends, nofun, nofun⟩
  | joined waiting ended => exact ⟨delivering.bound, delivering.appends, nofun, fun _ => ended⟩
  | timeout waiting => cases met
  | drop => exact ⟨delivering.bound, delivering.appends, delivering.intime, delivering.joined⟩

theorem stopped (delivering : Delivering s) {aborted : Bool}
    (finished : s.shutdown = .returned aborted) :
    Stopped s ∧ s.appended = records s.accepted := by
  have ended : s.writer = .ended := by
    cases aborted with
    | false => exact delivering.joined finished
    | true => exact absurd finished delivering.intime
  have appends := delivering.appends
  rw [ended] at appends
  exact ⟨⟨ended, appends.2.1, appends.2.2⟩, appends.1⟩

end Delivering

/-- Once the writer has stopped nothing is accepted any more. -/
theorem Stopped.step (stopped : Stopped s) (accounted : Accounted s)
    (h : sessionLogMachine.step s a = some t) : Stopped t ∧ t.accepted = s.accepted := by
  obtain ⟨ended, closed, free⟩ := stopped
  cases step_cases h with
  | log here same step =>
    have kept := step.finished closed (accounted.unplaced free here)
    exact ⟨⟨ended, kept ▸ closed, kept ▸ free⟩, congrArg Channel.sent kept⟩
  | signal idle => cases idle.symm.trans ended
  | received closing idle | finished idle =>
    rcases idle with idle | idle <;> cases idle.symm.trans ended
  | append ok appending => cases appending.symm.trans ended
  | cancel => exact ⟨⟨rfl, rfl, free⟩, rfl⟩
  | _ => exact ⟨⟨ended, closed, free⟩, rfl⟩

theorem Stopped.run (stopped : Stopped s) (accounted : Accounted s)
    (run : sessionLogMachine.Run Machine.unguarded s t) : Accounted t ∧ t.accepted = s.accepted := by
  have kept : Accounted t ∧ Stopped t ∧ t.accepted = s.accepted := by
    refine @Machine.Run.invariant _ _ _ _ _ _
      (fun u => Accounted u ∧ Stopped u ∧ u.accepted = s.accepted) run
      ⟨accounted, stopped, rfl⟩ fun ⟨accounted, stopped, same⟩ _ h => ?_
    obtain ⟨stopped, still⟩ := stopped.step accounted h
    exact ⟨accounted.step h, stopped, still.trans same⟩
  exact ⟨kept.1, kept.2.2⟩

theorem accepted_prefix (run : sessionLogMachine.Run Machine.unguarded s t) :
    s.accepted <+: t.accepted := by
  refine @Machine.Run.invariant _ _ _ _ _ _ (fun u => s.accepted <+: u.accepted) run
    (List.prefix_refl _) fun before _ h => before.trans ?_
  cases step_cases h with
  | log here same step => exact ⟨_, step.sent_after.symm⟩
  | _ => exact List.prefix_refl _

/-- The UTF-8 bytes of the entries for which `log` has returned `Ok`. -/
def acceptedTotal (s : SessionLog) : Nat :=
  ((s.calls.filter LogCall.isAccepted).map fun call => call.entry.bytes).sum

/-- The UTF-8 bytes that calls in progress have reserved and may still give back. -/
def reservedTotal (s : SessionLog) : Nat :=
  ((s.calls.filter fun call => !call.isReturned).map LogCall.held).sum

end SessionLog

theorem LogCall.held_eq (call : LogCall) :
    call.held = (if call.isAccepted then call.entry.bytes else 0) +
      if call.isReturned then 0 else call.held := by
  obtain ⟨entry, pc⟩ := call
  rcases pc with - | - | - | - | - | ⟨-⟩ | ⟨⟩
  case returned.ok => rfl
  all_goals exact (Nat.zero_add _).symm

namespace SessionLog

variable {s : SessionLog}

theorem held_total (calls : List LogCall) :
    (calls.map LogCall.held).sum =
      ((calls.filter LogCall.isAccepted).map fun call => call.entry.bytes).sum +
        ((calls.filter fun call => !call.isReturned).map LogCall.held).sum := by
  induction calls with
  | nil => rfl
  | cons call calls ih =>
    have own := call.held_eq
    rw [List.map_cons, List.sum_cons, ih, List.filter_cons, List.filter_cons]
    cases accepted : call.isAccepted <;> cases returned : call.isReturned <;>
      simp only [accepted, returned, Bool.false_eq_true, if_true, if_false, Bool.not_true,
        Bool.not_false, List.map_cons, List.sum_cons] at own ⊢ <;> omega

theorem accounted_start : Accounted {} where
  bytes := rfl
  limit := Nat.zero_le _
  places := rfl
  once := List.nodup_nil
  returned index entry := by
    refine ⟨fun mem => absurd mem List.not_mem_nil, ?_⟩
    rintro ⟨call, here, -⟩
    cases here

theorem delivering_start : Delivering {} where
  bound := Nat.le_refl _
  appends := rfl
  intime := nofun
  joined := nofun

theorem delivering_of_run (run : sessionLogMachine.Run drains {} s) : Delivering s := by
  have both : Accounted s ∧ Delivering s :=
    run.invariant ⟨accounted_start, delivering_start⟩ fun ⟨accounted, delivering⟩ met h =>
      ⟨accounted.step h, delivering.step accounted met h⟩
  exact both.2

end SessionLog

/--
Under every interleaving the session's byte limit holds, the counter is what accepted calls and
calls in progress hold, and every accepted call is listed once, in a list that only grows at its end.
If no append fails and the shutdown does not time out, what is appended once the shutdown has
returned is that list, and no later call is accepted.
-/
theorem session_log_delivered {s : SessionLog}
    (run : sessionLogMachine.Run Machine.unguarded {} s) :
    (s.acceptedTotal ≤ maxSessionLogBytes ∧
      s.inner.acceptedBytes = s.acceptedTotal + s.reservedTotal) ∧
    ((s.accepted.map Prod.fst).Nodup ∧
      (∀ index entry, (index, entry) ∈ s.accepted ↔
        ∃ call, s.calls[index]? = some call ∧ call.isAccepted = true ∧ call.entry = entry) ∧
      ∀ t, sessionLogMachine.Run Machine.unguarded s t → s.accepted <+: t.accepted) ∧
    (sessionLogMachine.Run SessionLog.drains {} s → ∀ aborted, s.shutdown = .returned aborted →
      s.appended = s.accepted.map (fun message => message.2.record) ∧
      ∀ t, sessionLogMachine.Run Machine.unguarded s t → t.accepted = s.accepted ∧
        ∀ index call, s.calls.length ≤ index → t.calls[index]? = some call →
          call.isAccepted = false) := by
  have accounted : SessionLog.Accounted s := .run run SessionLog.accounted_start
  have bytes : s.inner.acceptedBytes = s.acceptedTotal + s.reservedTotal :=
    accounted.bytes.trans (SessionLog.held_total s.calls)
  refine ⟨⟨?_, bytes⟩, ⟨accounted.once, accounted.returned, fun t later => ?_⟩,
    fun drained aborted finished => ?_⟩
  · have limit := accounted.limit
    omega
  · exact SessionLog.accepted_prefix later
  · obtain ⟨stopped, appended⟩ := (SessionLog.delivering_of_run drained).stopped finished
    refine ⟨appended, fun t later => ?_⟩
    obtain ⟨accounted', same⟩ := stopped.run accounted later
    refine ⟨same, fun index call new here => ?_⟩
    by_contra accepted
    have mem : (index, call.entry) ∈ t.accepted :=
      (accounted'.returned index call.entry).mpr ⟨call, here, by simpa using accepted, rfl⟩
    rw [same] at mem
    obtain ⟨old, there, -⟩ := (accounted.returned index call.entry).mp mem
    exact absurd (List.getElem?_eq_some_iff.mp there).1 (Nat.not_lt.mpr new)

namespace SessionLog

def acceptedCall (index : Nat) (source : SessionLogSource) (text : String) :
    List SessionLogAction := [.call source text, .log index, .log index, .log index, .log index]

/-- A game and an agent log; the shutdown's signal finds the agent's entry still queued. -/
def signalledEarly : List SessionLogAction :=
  acceptedCall 0 .game "start" ++ [.write .receive] ++ acceptedCall 1 (.agent 7 .B) "hi" ++
    [.shutdown .call, .write (.append true), .write .signal, .write .receive,
      .write (.append true), .write .receive, .shutdown .joined]

def signalledEarlyEnd : SessionLog where
  inner :=
    { sender :=
        { capacity := 256
          sent := [(0, ⟨.game, "start"⟩), (1, ⟨.agent 7 .B, "hi"⟩)]
          received := 2
          closed := true }
      acceptedBytes := 7 }
  calls := [⟨⟨.game, "start"⟩, .returned (.ok ())⟩,
    ⟨⟨.agent 7 .B, "hi"⟩, .returned (.ok ())⟩]
  writer := .ended
  shutdown := .returned false
  appended := [PendingSessionLog.record ⟨.game, "start"⟩,
    PendingSessionLog.record ⟨.agent 7 .B, "hi"⟩]

theorem signalledEarly_run : sessionLogMachine.Run drains {} signalledEarlyEnd := by
  refine Machine.Run.refl.exec (fun a mem s => ?_)
    (show sessionLogMachine.exec {} signalledEarly = some signalledEarlyEnd from rfl)
  simp only [signalledEarly, acceptedCall, List.mem_append, List.mem_cons, List.not_mem_nil] at mem
  rcases mem with (((mem | mem) | mem) | mem) <;> (repeat' rcases mem with rfl | mem) <;> trivial

end SessionLog

theorem session_log_signalledEarly :
    SessionLog.signalledEarlyEnd.appended = SessionLog.signalledEarlyEnd.accepted.map
      (fun message => message.2.record) ∧
    ∀ t, sessionLogMachine.Run Machine.unguarded SessionLog.signalledEarlyEnd t →
      t.accepted = [(0, ⟨.game, "start"⟩), (1, ⟨.agent 7 .B, "hi"⟩)] := by
  have run := SessionLog.signalledEarly_run
  obtain ⟨appended, kept⟩ :=
    (session_log_delivered (run.mono fun _ _ _ => trivial)).2.2 run false rfl
  exact ⟨appended, fun t later => (kept t later).1⟩

end Parlando
