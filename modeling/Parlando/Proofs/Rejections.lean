import Parlando.Rejections
import Mathlib.Data.List.Basic
import Mathlib.Data.List.Induction

namespace Parlando

open Concurrency

variable {key key' : RejectionKey} {session participant : MintedId} {s : RejectionState}
  {history : List RejectionRecord} {record : RejectionRecord} {event : RejectionEvent} {now : Int}
  {window : RejectionWindow}

theorem append_nul_inj {a b x y : List Char} (plain : nul ∉ a) (plain' : nul ∉ b)
    (h : a ++ nul :: x = b ++ nul :: y) : a = b ∧ x = y := by
  induction a generalizing b with
  | nil =>
    cases b with
    | nil => exact ⟨rfl, List.tail_eq_of_cons_eq h⟩
    | cons c b =>
      obtain ⟨same, -⟩ := List.cons.inj h
      exact absurd (same ▸ List.mem_cons_self ..) plain'
  | cons c a ih =>
    cases b with
    | nil =>
      obtain ⟨same, -⟩ := List.cons.inj h
      exact absurd (same ▸ List.mem_cons_self ..) plain
    | cons d b =>
      obtain ⟨same, h⟩ := List.cons.inj h
      obtain ⟨rest, tail⟩ := ih (fun mem => plain (.tail _ mem)) (fun mem => plain' (.tail _ mem)) h
      exact ⟨by rw [same, rest], tail⟩

theorem splitNul_append {a : List Char} (plain : nul ∉ a) (b : List Char) :
    splitNul (a ++ nul :: b) = a :: splitNul b := by
  induction a with
  | nil => exact if_pos rfl
  | cons c a ih =>
    have other : ¬c = nul := fun same => plain (same ▸ List.mem_cons_self ..)
    rw [List.cons_append, splitNul, if_neg other, ih fun mem => plain (.tail _ mem)]

theorem splitNul_plain {a : List Char} (plain : nul ∉ a) : splitNul a = [a] := by
  induction a with
  | nil => rfl
  | cons c a ih =>
    have other : ¬c = nul := fun same => plain (same ▸ List.mem_cons_self ..)
    rw [splitNul, if_neg other, ih fun mem => plain (.tail _ mem)]

namespace RejectedInput

theorem plain (eventType : RejectedInput) : nul ∉ eventType.text.toList := by
  cases eventType <;> decide

theorem text_inj {a b : RejectedInput} (same : a.text = b.text) : a = b := by
  cases a <;> cases b <;> first | rfl | exact absurd same (by decide)

end RejectedInput

namespace RejectionKey

theorem toList_text (key : RejectionKey) : key.text.toList = key.session.text.toList ++
    nul :: (key.participant.text.toList ++
      nul :: (key.eventType.text.toList ++ nul :: key.reason.toList)) := by
  simp [text, flushPrefix]

theorem text_inj (same : key.text = key'.text) : key = key' := by
  have same := congrArg String.toList same
  rw [toList_text, toList_text] at same
  obtain ⟨session, same⟩ := append_nul_inj key.session.plain key'.session.plain same
  obtain ⟨participant, same⟩ := append_nul_inj key.participant.plain key'.participant.plain same
  obtain ⟨eventType, reason⟩ := append_nul_inj key.eventType.plain key'.eventType.plain same
  obtain ⟨⟨_, _⟩, ⟨_, _⟩, _, _⟩ := key
  obtain ⟨⟨_, _⟩, ⟨_, _⟩, _, _⟩ := key'
  obtain rfl := String.toList_injective session
  obtain rfl := String.toList_injective participant
  obtain rfl := RejectedInput.text_inj (String.toList_injective eventType)
  obtain rfl := String.toList_injective reason
  rfl

/-- A flush finds the windows of its participant in its session. -/
theorem of_startsWith
    (starts : Text.startsWith (flushPrefix session participant) key.text = true) :
    key.session = session ∧ key.participant = participant := by
  obtain ⟨rest, same⟩ := Text.exists_of_startsWith starts
  have same := congrArg String.toList same
  have split : (flushPrefix session participant ++ rest).toList = session.text.toList ++
      nul :: (participant.text.toList ++ nul :: rest.toList) := by
    simp [flushPrefix]
  rw [toList_text, split] at same
  obtain ⟨sameSession, same⟩ := append_nul_inj key.session.plain session.plain same
  obtain ⟨sameParticipant, -⟩ := append_nul_inj key.participant.plain participant.plain same
  obtain ⟨⟨_, _⟩, ⟨_, _⟩, _, _⟩ := key
  obtain ⟨_, _⟩ := session
  obtain ⟨_, _⟩ := participant
  obtain rfl := String.toList_injective sameSession
  obtain rfl := String.toList_injective sameParticipant
  exact ⟨rfl, rfl⟩

/-- A reason code without the separator is read back from the key. -/
theorem splitKey_text (plain : nul ∉ key.reason.toList) :
    splitKey key.text = some (key.eventType, key.reason) := by
  unfold splitKey
  rw [toList_text, splitNul_append key.session.plain, splitNul_append key.participant.plain,
    splitNul_append key.eventType.plain, splitNul_plain plain]
  simp only [String.ofList_toList]
  cases key.eventType <;> rfl

end RejectionKey

/-- The events of a key, in order. -/
def eventsOf (key : RejectionKey) (history : List RejectionRecord) : List RejectionEvent :=
  history.filterMap fun record => match record with
    | .persisted event => if event.key = key then some event else none
    | _ => none

/-- The times of the calls of `persist_rejected_input` for a key. -/
def callTimes (key : RejectionKey) (history : List RejectionRecord) : List Int :=
  history.filterMap fun record => match record with
    | .rejected other now => if other = key then some now else none
    | _ => none

/-- The rejections that are waiting in a key's window. -/
def pendingTimes (s : RejectionState) (key : RejectionKey) : List Int :=
  ((s.windows.lookup key.text).map RejectionWindow.counted).getD []

/-- The occurrences still pending in a key's window. -/
def pendingOccurrences (s : RejectionState) (key : RejectionKey) : Nat :=
  ((s.windows.lookup key.text).map RejectionWindow.occurrences).getD 0

/-- The occurrences of all events of a key. -/
def persistedOccurrences (key : RejectionKey) (history : List RejectionRecord) : Nat :=
  (eventsOf key history).foldr (fun event total => event.occurrences + total) 0

def InPeriod (event : RejectionEvent) (history : List RejectionRecord) : Prop :=
  ∃ front middle, history = front ++ .persisted event :: middle ∧
    .flushed event.key.session event.key.participant ∉ middle

/-- Between two flushes the events that are not coalesced are sixty seconds apart. -/
def Apart (history : List RejectionRecord) : Prop :=
  ∀ front middle back event event',
    history = front ++ .persisted event :: (middle ++ .persisted event' :: back) →
    event.key = event'.key → event.coalesced = false → event'.coalesced = false →
    .flushed event.key.session event.key.participant ∉ middle →
    event.persistedAt + 60 ≤ event'.persistedAt

/-- The interval of an earlier event of the same key ends before that of a later one. -/
def Successive : RejectionRecord → RejectionRecord → Prop
  | .persisted event, .persisted event' =>
    event.key = event'.key → event.lastSeenAt ≤ event'.firstSeenAt
  | _, _ => True

structure WindowOk (history : List RejectionRecord) (now : Int) (key : RejectionKey)
    (window : RejectionWindow) : Prop where
  size : window.counted.length = window.occurrences
  within : ∀ t ∈ window.counted, window.firstSeen ≤ t ∧ t ≤ window.lastSeen
  first : window.firstSeen ≤ now
  last : window.lastSeen ≤ now
  later : ∀ event ∈ eventsOf key history, event.lastSeenAt ≤ window.firstSeen

structure EventOk (now : Int) (event : RejectionEvent) : Prop where
  size : event.counted.length = event.occurrences
  within : ∀ t ∈ event.counted, event.firstSeenAt ≤ t ∧ t ≤ event.lastSeenAt
  last : event.lastSeenAt ≤ now

structure Coalesces (s : RejectionState) : Prop where
  keyed : ∀ text window, s.windows.lookup text = some window → ∃ key : RejectionKey, text = key.text
  counts : ∀ key, (eventsOf key s.history).flatMap (·.counted) ++ pendingTimes s key =
    callTimes key s.history
  windows : ∀ (key : RejectionKey) window, s.windows.lookup key.text = some window →
    WindowOk s.history s.now key window
  paced : ∀ (key : RejectionKey) window, s.windows.lookup key.text = some window →
    ∀ event, InPeriod event s.history → event.key = key → event.coalesced = false →
      event.persistedAt ≤ window.lastPersisted
  events : ∀ event, .persisted event ∈ s.history → EventOk s.now event
  successive : s.history.Pairwise Successive
  apart : Apart s.history

theorem coalesces_start (now : Int) : Coalesces { now } where
  keyed _ _ found := by cases found
  counts _ := rfl
  windows _ _ found := by cases found
  paced _ _ found := by cases found
  events _ mem := absurd mem List.not_mem_nil
  successive := .nil
  apart front _ _ _ _ h := by cases front <;> cases h

theorem eventsOf_append (key : RejectionKey) (history more : List RejectionRecord) :
    eventsOf key (history ++ more) = eventsOf key history ++ eventsOf key more :=
  List.filterMap_append

theorem callTimes_append (key : RejectionKey) (history more : List RejectionRecord) :
    callTimes key (history ++ more) = callTimes key history ++ callTimes key more :=
  List.filterMap_append

theorem mem_eventsOf : event ∈ eventsOf key history ↔ .persisted event ∈ history ∧ event.key = key := by
  unfold eventsOf
  rw [List.mem_filterMap]
  constructor
  · rintro ⟨record, mem, found⟩
    cases record with
    | persisted other =>
      simp only at found
      split at found
      · cases found
        exact ⟨mem, ‹_›⟩
      · cases found
    | rejected => cases found
    | flushed => cases found
  · rintro ⟨mem, same⟩
    exact ⟨_, mem, if_pos same⟩

theorem InPeriod.mem (period : InPeriod event history) : .persisted event ∈ history := by
  obtain ⟨front, middle, rfl, -⟩ := period
  simp

theorem InPeriod.of_append (period : InPeriod event (history ++ [record])) :
    (InPeriod event history ∧
      record ≠ .flushed event.key.session event.key.participant) ∨ record = .persisted event := by
  obtain ⟨front, middle, same, unflushed⟩ := period
  cases middle using List.reverseRecOn with
  | nil => exact .inr (List.append_inj_right' same rfl |> List.head_eq_of_cons_eq)
  | append_singleton middle last =>
    have same : history ++ [record] = (front ++ .persisted event :: middle) ++ [last] := by
      rw [same]
      simp
    obtain ⟨rfl, is⟩ := List.append_inj' same rfl
    obtain rfl := List.head_eq_of_cons_eq is
    refine .inl ⟨⟨front, middle, rfl, fun mem => unflushed (List.mem_append_left _ mem)⟩, ?_⟩
    rintro rfl
    exact unflushed (List.mem_append_right _ (.head _))

theorem Apart.append (apart : Apart history)
    (last : ∀ event', record = .persisted event' → event'.coalesced = false →
      ∀ event, InPeriod event history → event.key = event'.key → event.coalesced = false →
        event.persistedAt + 60 ≤ event'.persistedAt) : Apart (history ++ [record]) := by
  intro front middle back event event' same keys first second unflushed
  cases back using List.reverseRecOn with
  | nil =>
    have same : history ++ [record] = (front ++ .persisted event :: middle) ++
        [.persisted event'] := by
      rw [same]
      simp
    obtain ⟨rfl, is⟩ := List.append_inj' same rfl
    exact last event' (List.head_eq_of_cons_eq is) second event ⟨front, middle, rfl, unflushed⟩ keys
      first
  | append_singleton back tail =>
    have same : history ++ [record] = (front ++ .persisted event ::
        (middle ++ .persisted event' :: back)) ++ [tail] := by
      rw [same]
      simp
    obtain ⟨rfl, -⟩ := List.append_inj' same rfl
    exact apart front middle back event event' rfl keys first second unflushed

theorem successive_append (successive : history.Pairwise Successive)
    (last : ∀ event', record = .persisted event' → ∀ event ∈ eventsOf event'.key history,
      event.lastSeenAt ≤ event'.firstSeenAt) :
    (history ++ [record]).Pairwise Successive := by
  refine List.pairwise_append.mpr ⟨successive, List.pairwise_singleton _ _, fun old mem new is => ?_⟩
  obtain rfl := List.mem_singleton.mp is
  cases old with
  | rejected => exact trivial
  | flushed => exact trivial
  | persisted event =>
    cases new with
    | rejected => exact trivial
    | flushed => exact trivial
    | persisted event' => exact fun same => last event' rfl event (mem_eventsOf.mpr ⟨mem, same⟩)

theorem WindowOk.advance (ok : WindowOk history now key window) {later : Int} (le : now ≤ later) :
    WindowOk history later key window :=
  { ok with first := Int.le_trans ok.first le, last := Int.le_trans ok.last le }

theorem EventOk.advance (ok : EventOk now event) {later : Int} (le : now ≤ later) :
    EventOk later event :=
  { ok with last := Int.le_trans ok.last le }

theorem Coalesces.advance (coalesces : Coalesces s) {later : Int} (le : s.now ≤ later) :
    Coalesces { s with now := later } :=
  { coalesces with
    windows := fun key window found => (coalesces.windows key window found).advance le
    events := fun event mem => (coalesces.events event mem).advance le }

/-- Windows without pending rejections may go. -/
theorem Coalesces.shrink (coalesces : Coalesces s) {windows : Map String RejectionWindow}
    (kept : ∀ text window, windows.lookup text = some window →
      s.windows.lookup text = some window)
    (gone : ∀ key : RejectionKey, windows.lookup key.text = none → pendingTimes s key = []) :
    Coalesces { s with windows } :=
  { coalesces with
    keyed := fun text window found => coalesces.keyed text window (kept text window found)
    counts := fun key => by
      have counts := coalesces.counts key
      cases found : windows.lookup key.text with
      | none =>
        rw [gone key found] at counts
        simpa [pendingTimes, found] using counts
      | some window => simpa [pendingTimes, found, kept _ _ found] using counts
    windows := fun key window found => coalesces.windows key window (kept _ _ found)
    paced := fun key window found => coalesces.paced key window (kept _ _ found) }

/-- A flush of the participant begins a new period. -/
theorem Coalesces.flushed (coalesces : Coalesces s) (session participant : MintedId) :
    Coalesces { s with history := s.history ++ [.flushed session participant] } := by
  have same (key : RejectionKey) :
      eventsOf key (s.history ++ [.flushed session participant]) = eventsOf key s.history := by
    rw [eventsOf_append]
    exact List.append_nil _
  exact { coalesces with
    counts := fun key => by
      have counts := coalesces.counts key
      rw [same, callTimes_append]
      exact counts.trans (List.append_nil _).symm
    windows := fun key window found =>
      { coalesces.windows key window found with
        later := by
          rw [same]
          exact (coalesces.windows key window found).later }
    paced := fun key window found event period keys single => by
      obtain ⟨before, -⟩ | is := period.of_append
      · exact coalesces.paced key window found event before keys single
      · cases is
    events := fun event mem => by
      obtain before | is := List.mem_append.mp mem
      · exact coalesces.events event before
      · cases List.mem_singleton.mp is
    successive := successive_append coalesces.successive fun _ is => by cases is
    apart := coalesces.apart.append fun _ is => by cases is }

theorem lookup_insert_text (windows : Map String RejectionWindow) (key key' : RejectionKey)
    (window : RejectionWindow) : (windows.insert key.text window).lookup key'.text =
      if key' = key then some window else windows.lookup key'.text := by
  rw [Map.lookup_insert_eq]
  by_cases same : key' = key
  · rw [if_pos same, if_pos (congrArg _ same)]
  · rw [if_neg same, if_neg fun text => same (RejectionKey.text_inj text)]

theorem lookup_erase_text (windows : Map String RejectionWindow) (key key' : RejectionKey) :
    (windows.erase key.text).lookup key'.text =
      if key' = key then none else windows.lookup key'.text := by
  rw [Map.lookup_erase_eq]
  by_cases same : key' = key
  · rw [if_pos same, if_pos (congrArg _ same)]
  · rw [if_neg same, if_neg fun text => same (RejectionKey.text_inj text)]

/-- What is pending in a window may be persisted when the window goes. -/
theorem Coalesces.persistPending (coalesces : Coalesces s)
    (found : s.windows.lookup key.text = some window) (is : event.key = key)
    (size : event.occurrences = window.occurrences) (counted : event.counted = window.counted)
    (first : event.firstSeenAt = window.firstSeen) (last : event.lastSeenAt = window.lastSeen)
    (coalesced : event.coalesced = true) :
    Coalesces { s with
      windows := s.windows.erase key.text
      history := s.history ++ [.persisted event] } := by
  have ok := coalesces.windows key window found
  have events (other : RejectionKey) : eventsOf other (s.history ++ [.persisted event]) =
      eventsOf other s.history ++ if other = key then [event] else [] := by
    rw [eventsOf_append, ← is]
    by_cases same : other = event.key
    · simp [eventsOf, same]
    · simp [eventsOf, same, Ne.symm same]
  have period {old : RejectionEvent} (period : InPeriod old (s.history ++ [.persisted event]))
      (single : old.coalesced = false) : InPeriod old s.history := by
    obtain ⟨before, -⟩ | same := period.of_append
    · exact before
    · cases same
      rw [coalesced] at single
      cases single
  constructor
  · intro text other lookup
    rw [Map.lookup_erase_eq] at lookup
    split at lookup
    · cases lookup
    · exact coalesces.keyed text other lookup
  · intro other
    have counts := coalesces.counts other
    rw [events, callTimes_append, List.flatMap_append, ← counts]
    simp only [pendingTimes, lookup_erase_text]
    by_cases same : other = key
    · subst same
      simp [found, counted, callTimes]
    · simp [same, callTimes]
  · intro other w lookup
    rw [lookup_erase_text] at lookup
    split at lookup
    · cases lookup
    · rename_i different
      have before := coalesces.windows other w lookup
      refine { before with later := ?_ }
      rw [events, if_neg different, List.append_nil]
      exact before.later
  · intro other w lookup old within keys single
    rw [lookup_erase_text] at lookup
    split at lookup
    · cases lookup
    · exact coalesces.paced other w lookup old (period within single) keys single
  · intro old mem
    obtain before | same := List.mem_append.mp mem
    · exact coalesces.events old before
    · cases List.mem_singleton.mp same
      exact ⟨by rw [counted, size, ok.size], by rw [counted, first, last]; exact ok.within,
        by rw [last]; exact ok.last⟩
  · refine successive_append coalesces.successive fun event' same old mem => ?_
    cases same
    rw [is] at mem
    rw [first]
    exact ok.later old mem
  · refine coalesces.apart.append fun event' same single => ?_
    cases same
    rw [coalesced] at single
    cases single

theorem eventsOf_rejected (key other : RejectionKey) (now : Int) :
    eventsOf other (history ++ [.rejected key now]) = eventsOf other history := by
  rw [eventsOf_append]
  exact List.append_nil _

theorem callTimes_rejected (key other : RejectionKey) (now : Int) :
    callTimes other (history ++ [.rejected key now]) =
      callTimes other history ++ if other = key then [now] else [] := by
  rw [callTimes_append]
  by_cases same : other = key
  · simp [callTimes, same]
  · simp [callTimes, same, Ne.symm same]

theorem InPeriod.of_rejected (period : InPeriod event (history ++ [.rejected key now])) :
    InPeriod event history := by
  obtain ⟨before, -⟩ | is := period.of_append
  · exact before
  · cases is

/-- A rejection is added to what is waiting in its window. -/
theorem Coalesces.suppress (coalesces : Coalesces s)
    (ok : WindowOk s.history s.now key window) (waiting : pendingTimes s key = window.counted)
    (recent : ∀ event, InPeriod event s.history → event.key = key → event.coalesced = false →
      event.persistedAt ≤ window.lastPersisted) :
    Coalesces { s with
      windows := s.windows.insert key.text { window with
        occurrences := window.occurrences + 1
        lastSeen := s.now
        counted := window.counted ++ [s.now] }
      history := s.history ++ [.rejected key s.now] } := by
  constructor
  · intro text other lookup
    rw [Map.lookup_insert_eq] at lookup
    split at lookup
    · exact ⟨key, ‹_›⟩
    · exact coalesces.keyed text other lookup
  · intro other
    have counts := coalesces.counts other
    rw [eventsOf_rejected, callTimes_rejected, ← counts]
    simp only [pendingTimes, lookup_insert_text]
    by_cases same : other = key
    · subst same
      rw [pendingTimes] at waiting
      simp [waiting]
    · simp [same]
  · intro other w lookup
    rw [lookup_insert_text] at lookup
    split at lookup
    · rename_i same
      subst same
      cases lookup
      refine ⟨by simp [ok.size], fun t mem => ?_, ok.first, Int.le_refl _, ?_⟩
      · obtain before | is := List.mem_append.mp mem
        · have := ok.within t before
          have := ok.last
          simp only
          omega
        · obtain rfl := List.mem_singleton.mp is
          exact ⟨ok.first, Int.le_refl _⟩
      · rw [eventsOf_rejected]
        exact ok.later
    · have before := coalesces.windows other w lookup
      refine { before with later := ?_ }
      rw [eventsOf_rejected]
      exact before.later
  · intro other w lookup event period keys single
    rw [lookup_insert_text] at lookup
    split at lookup
    · rename_i same
      subst same
      cases lookup
      exact recent event period.of_rejected keys single
    · exact coalesces.paced other w lookup event period.of_rejected keys single
  · intro event mem
    obtain before | is := List.mem_append.mp mem
    · exact coalesces.events event before
    · cases List.mem_singleton.mp is
  · exact successive_append coalesces.successive fun _ is => by cases is
  · exact coalesces.apart.append fun _ is => by cases is

/-- A rejection is persisted together with what is waiting in its window. -/
theorem Coalesces.persist (coalesces : Coalesces s)
    (ok : WindowOk s.history s.now key window) (waiting : pendingTimes s key = window.counted)
    (rested : ∀ event, InPeriod event s.history → event.key = key → event.coalesced = false →
      event.persistedAt + 60 ≤ s.now)
    (is : event.key = key) (size : event.occurrences = window.occurrences + 1)
    (counted : event.counted = window.counted ++ [s.now])
    (first : event.firstSeenAt = window.firstSeen) (last : event.lastSeenAt = s.now)
    (at_now : event.persistedAt = s.now) :
    Coalesces { s with
      windows := s.windows.insert key.text ⟨s.now, s.now, s.now, 0, []⟩
      history := s.history ++ [.rejected key s.now] ++ [.persisted event] } := by
  have events (other : RejectionKey) :
      eventsOf other (s.history ++ [.rejected key s.now] ++ [.persisted event]) =
        eventsOf other s.history ++ if other = key then [event] else [] := by
    rw [eventsOf_append, eventsOf_rejected, ← is]
    by_cases same : other = event.key
    · simp [eventsOf, same]
    · simp [eventsOf, same, Ne.symm same]
  have evented : EventOk s.now event := by
    refine ⟨by simp [counted, size, ok.size], ?_, Int.le_of_eq last⟩
    rw [counted, first, last]
    intro t mem
    obtain before | here := List.mem_append.mp mem
    · have := ok.within t before
      have := ok.last
      omega
    · obtain rfl := List.mem_singleton.mp here
      exact ⟨ok.first, Int.le_refl _⟩
  constructor
  · intro text other lookup
    rw [Map.lookup_insert_eq] at lookup
    split at lookup
    · exact ⟨key, ‹_›⟩
    · exact coalesces.keyed text other lookup
  · intro other
    have counts := coalesces.counts other
    rw [events, callTimes_append, callTimes_rejected, ← counts, List.flatMap_append]
    simp only [pendingTimes, lookup_insert_text]
    by_cases same : other = key
    · subst same
      rw [pendingTimes] at waiting
      simp [waiting, counted, callTimes]
    · simp [same, callTimes]
  · intro other w lookup
    rw [lookup_insert_text] at lookup
    split at lookup
    · rename_i same
      subst same
      cases lookup
      refine ⟨rfl, fun t mem => absurd mem List.not_mem_nil, Int.le_refl _, Int.le_refl _, ?_⟩
      intro old mem
      rw [events, if_pos rfl] at mem
      obtain before | here := List.mem_append.mp mem
      · exact (coalesces.events old (mem_eventsOf.mp before).1).last
      · obtain rfl := List.mem_singleton.mp here
        exact evented.last
    · rename_i different
      have before := coalesces.windows other w lookup
      refine { before with later := ?_ }
      rw [events, if_neg different, List.append_nil]
      exact before.later
  · intro other w lookup old period keys single
    obtain ⟨before, -⟩ | same := period.of_append
    · rw [lookup_insert_text] at lookup
      split at lookup
      · rename_i here
        cases lookup
        have := rested old before.of_rejected (keys.trans here) single
        simp only
        omega
      · exact coalesces.paced other w lookup old before.of_rejected keys single
    · cases same
      rw [lookup_insert_text, if_pos (keys.symm.trans is)] at lookup
      cases lookup
      exact Int.le_of_eq at_now
  · intro old mem
    obtain before | same := List.mem_append.mp mem
    · obtain before | same := List.mem_append.mp before
      · exact coalesces.events old before
      · cases List.mem_singleton.mp same
    · cases List.mem_singleton.mp same
      exact evented
  · refine successive_append (successive_append coalesces.successive fun _ same => by cases same)
      fun event' same old mem => ?_
    cases same
    rw [eventsOf_rejected, is] at mem
    rw [first]
    exact ok.later old mem
  · refine (coalesces.apart.append fun _ same => by cases same).append
      fun event' same single old period keys single' => ?_
    cases same
    rw [at_now]
    exact rested old period.of_rejected (keys.trans is) single'

/-- A call of `persist_rejected_input`, where it does not open a window too soon. -/
theorem Coalesces.reject (coalesces : Coalesces s) (sha256 : List UInt8 → String)
    (error : String) (rawInput : Option (List UInt8)) (le : s.now ≤ now)
    (rested : s.windows.lookup key.text = none → ∀ event, InPeriod event s.history →
      event.key = key → event.coalesced = false → event.persistedAt + 60 ≤ now) :
    Coalesces (s.persistRejectedInput sha256 key error rawInput now) := by
  replace coalesces := coalesces.advance le
  unfold RejectionState.persistRejectedInput
  cases found : s.windows.lookup key.text with
  | none =>
    simp only [Option.getD_none]
    have ok : WindowOk s.history now key ⟨now, now, now - 61, 0, []⟩ := by
      refine ⟨rfl, fun _ mem => absurd mem List.not_mem_nil, Int.le_refl _, Int.le_refl _,
        fun event mem => ?_⟩
      exact (coalesces.events event (mem_eventsOf.mp mem).1).last
    rw [if_neg (by omega)]
    exact coalesces.persist ok (by simp [pendingTimes, found]) (rested found) rfl rfl rfl rfl rfl rfl
  | some window =>
    have ok := coalesces.windows key window found
    have waiting : pendingTimes { s with now } key = window.counted := by simp [pendingTimes, found]
    have recent := coalesces.paced key window found
    simp only [Option.getD_some]
    split
    · exact coalesces.suppress ok waiting recent
    · refine coalesces.persist ok waiting (fun event period keys single => ?_) rfl rfl rfl rfl rfl rfl
      have := recent event period keys single
      simp only
      omega

def Readable (session participant : MintedId) (s : RejectionState) : Prop :=
  ∀ (key : RejectionKey) window, s.windows.lookup key.text = some window →
    key.session = session → key.participant = participant → 0 < window.occurrences →
      nul ∉ key.reason.toList

theorem Coalesces.erase (coalesces : Coalesces s)
    (found : s.windows.lookup key.text = some window) (none : window.occurrences = 0) :
    Coalesces { s with windows := s.windows.erase key.text } := by
  refine coalesces.shrink (fun text other lookup => ?_) fun other gone => ?_
  · rw [Map.lookup_erase_eq] at lookup
    split at lookup
    · cases lookup
    · exact lookup
  · rw [lookup_erase_text] at gone
    split at gone
    · rename_i same
      subst same
      have size := (coalesces.windows other window found).size
      rw [none] at size
      simp [pendingTimes, found, List.length_eq_zero_iff.mp size]
    · simp [pendingTimes, gone]

theorem Readable.erase (readable : Readable session participant s) (text : String)
    (history : List RejectionRecord) :
    Readable session participant { s with windows := s.windows.erase text, history } := by
  intro other w lookup
  rw [Map.lookup_erase_eq] at lookup
  split at lookup
  · cases lookup
  · exact readable other w lookup

theorem Coalesces.flushKey (coalesces : Coalesces s) (readable : Readable session participant s)
    {text : String}
    (starts : Text.startsWith (RejectionKey.flushPrefix session participant) text = true) :
    Coalesces (RejectionState.flushKey session participant s text) ∧
      Readable session participant (RejectionState.flushKey session participant s text) := by
  unfold RejectionState.flushKey
  cases found : s.windows.lookup text with
  | none => exact ⟨coalesces, readable⟩
  | some window =>
    obtain ⟨key, rfl⟩ := coalesces.keyed text window found
    obtain ⟨rfl, rfl⟩ := RejectionKey.of_startsWith starts
    by_cases pending : 0 < window.occurrences
    · rw [RejectionKey.splitKey_text (readable key window found rfl rfl pending)]
      simp only [if_pos pending]
      exact ⟨coalesces.persistPending found rfl rfl rfl rfl rfl rfl, readable.erase _ _⟩
    · simp only [if_neg pending]
      have erased := coalesces.erase found (Nat.eq_zero_of_not_pos pending)
      split
      · exact ⟨erased, readable.erase _ _⟩
      · exact ⟨erased, readable.erase _ _⟩

theorem Coalesces.flush (coalesces : Coalesces s) (readable : Readable session participant s)
    (le : s.now ≤ now) :
    Coalesces (s.flushRejectedInputAggregates session participant now) := by
  have flushes : ∀ (texts : List String) (t : RejectionState), Coalesces t →
      Readable session participant t → (∀ text ∈ texts,
        Text.startsWith (RejectionKey.flushPrefix session participant) text = true) →
      Coalesces (texts.foldl (RejectionState.flushKey session participant) t) := by
    intro texts
    induction texts with
    | nil => exact fun t coalesces _ _ => coalesces
    | cons text texts ih =>
      intro t coalesces readable starts
      obtain ⟨coalesces, readable⟩ := coalesces.flushKey readable (starts text (.head _))
      exact ih _ coalesces readable fun text mem => starts text (.tail _ mem)
  refine Coalesces.flushed (flushes _ _ (coalesces.advance le) readable fun text mem => ?_) _ _
  exact (List.mem_filter.mp mem).2

/-- Windows that have nothing waiting may be cleaned up. -/
theorem Coalesces.retain (coalesces : Coalesces s) {cleaned : String → Bool}
    (idle : ∀ text window, s.windows.lookup text = some window → cleaned text = true →
      window.occurrences = 0) :
    Coalesces { s with windows := s.windows.retain fun text => !cleaned text } := by
  refine coalesces.shrink (fun text window lookup => ?_) fun key gone => ?_
  · rw [Map.lookup_retain] at lookup
    split at lookup
    · exact lookup
    · cases lookup
  · rw [Map.lookup_retain] at gone
    cases found : s.windows.lookup key.text with
    | none => simp [pendingTimes, found]
    | some window =>
      rw [found] at gone
      have swept : cleaned key.text = true := by
        by_contra kept
        simp [kept] at gone
      have size := (coalesces.windows key window found).size
      rw [idle _ window found swept] at size
      simp [pendingTimes, found, List.length_eq_zero_iff.mp size]

/-- No count goes with a window, and no window is opened anew too soon. -/
def RejectionState.keepsCounts (s : RejectionState) : RejectionAction → Prop
  | .reject key _ _ now => s.windows.lookup key.text = none → ∀ event, InPeriod event s.history →
      event.key = key → event.coalesced = false → event.persistedAt + 60 ≤ now
  | .flush session participant _ => Readable session participant s
  | .cleanupRooms removed _ => ∀ text window, s.windows.lookup text = some window →
      cleanedWithRooms removed text = true → window.occurrences = 0
  | .cleanupParticipants stale _ => ∀ text window, s.windows.lookup text = some window →
      cleanedWithParticipants stale text = true → window.occurrences = 0

theorem Coalesces.step {sha256 : List UInt8 → String} {s' : RejectionState} {a : RejectionAction}
    (coalesces : Coalesces s) (met : s.keepsCounts a) (h : s.step sha256 a = some s') :
    Coalesces s' := by
  unfold RejectionState.step at h
  cases a with
  | reject key error rawInput now =>
    simp only at h
    split at h <;> cases h
    rename_i le
    exact coalesces.reject sha256 error rawInput le met
  | flush session participant now =>
    simp only at h
    split at h <;> cases h
    rename_i le
    exact coalesces.flush met le
  | cleanupRooms removed now =>
    simp only at h
    split at h <;> cases h
    rename_i le
    exact (coalesces.advance le).retain met
  | cleanupParticipants stale now =>
    simp only at h
    split at h <;> cases h
    rename_i le
    exact (coalesces.advance le).retain met

theorem persistedOccurrences_eq (key : RejectionKey)
    (sized : ∀ event, .persisted event ∈ history → event.counted.length = event.occurrences) :
    persistedOccurrences key history = ((eventsOf key history).flatMap (·.counted)).length := by
  have sized : ∀ event ∈ eventsOf key history, event.counted.length = event.occurrences :=
    fun event mem => sized event (mem_eventsOf.mp mem).1
  unfold persistedOccurrences
  generalize eventsOf key history = events at sized ⊢
  induction events with
  | nil => rfl
  | cons event events ih =>
    obtain ⟨here, later⟩ := List.forall_mem_cons.mp sized
    rw [List.foldr_cons, ih later, List.flatMap_cons, List.length_append, here]

/--
Rejections are counted once each, by an event or in a window; events that are not coalesced are
a minute apart between two flushes, and the intervals of events hold what they count in order.
-/
theorem rejections_counted {sha256 : List UInt8 → String} {start : Int}
    (run : (rejectionMachine sha256).Run RejectionState.keepsCounts { now := start } s) :
    (∀ key, persistedOccurrences key s.history + pendingOccurrences s key =
      (callTimes key s.history).length) ∧
    (∀ key, (eventsOf key s.history).flatMap (·.counted) ++ pendingTimes s key =
      callTimes key s.history) ∧
    Apart s.history ∧
    (∀ event, .persisted event ∈ s.history → ∀ t ∈ event.counted,
      event.firstSeenAt ≤ t ∧ t ≤ event.lastSeenAt) ∧
    s.history.Pairwise Successive := by
  have coalesces : Coalesces s :=
    run.invariant (coalesces_start start) fun coalesces met => coalesces.step met
  refine ⟨fun key => ?_, coalesces.counts, coalesces.apart,
    fun event mem => (coalesces.events event mem).within, coalesces.successive⟩
  rw [persistedOccurrences_eq key fun event mem => (coalesces.events event mem).size,
    ← coalesces.counts key, List.length_append]
  congr 1
  cases found : s.windows.lookup key.text with
  | none => simp [pendingOccurrences, pendingTimes, found]
  | some window =>
    simp [pendingOccurrences, pendingTimes, found, (coalesces.windows key window found).size]

def loneSession : MintedId := ⟨"session", by decide⟩

def loneParticipant : MintedId := ⟨"participant", by decide⟩

def blockedMove : RejectionKey := ⟨loneSession, loneParticipant, .gameActionRejected, "blocked"⟩

def twiceBlocked : List RejectionAction :=
  [.reject blockedMove "blocked" none 0, .reject blockedMove "blocked" none 10]

theorem rejections_counted_flushed : ∃ s,
    (rejectionMachine fun _ => "").Run RejectionState.keepsCounts { now := 0 } s ∧
    (callTimes blockedMove s.history).length = 2 ∧
    persistedOccurrences blockedMove s.history + pendingOccurrences s blockedMove = 2 := by
  let check (s : RejectionState) : RejectionAction → Bool
    | .reject key _ _ _ => (s.windows.lookup key.text).isSome || s.history.isEmpty
    | .flush .. => s.windows.keys.all fun text => text == blockedMove.text
    | _ => false
  have implied (s : RejectionState) (a : RejectionAction) (passes : check s a = true) :
      s.keepsCounts a := by
    cases a with
    | reject key error rawInput now =>
      intro none event period
      simp only [check, none, Option.isSome_none, Bool.false_or, List.isEmpty_iff] at passes
      have mem := period.mem
      rw [passes] at mem
      cases mem
    | flush session participant now =>
      intro key window found _ _ _
      have mem : key.text ∈ s.windows.keys :=
        AList.mem_keys.mp (AList.lookup_isSome.mp (by rw [found]; rfl))
      have same := List.all_eq_true.mp passes key.text mem
      rw [RejectionKey.text_inj (beq_iff_eq.mp same)]
      decide
    | cleanupRooms => cases passes
    | cleanupParticipants => cases passes
  have ran : (((rejectionMachine fun _ => "").restrict check).exec { now := 0 }
      (twiceBlocked ++ [.flush loneSession loneParticipant 20])).map
        (fun s => (callTimes blockedMove s.history).length) = some 2 := by decide +kernel
  obtain ⟨s, ran, called⟩ := Option.map_eq_some_iff.mp ran
  have run := Machine.Run.of_exec implied ran
  exact ⟨s, run, called, ((rejections_counted run).1 blockedMove).trans called⟩

/-- The window goes with its room, and the count that is pending in it goes too. -/
theorem cleanup_loses_rejection : ¬∀ s,
    (rejectionMachine fun _ => "").Run Machine.unguarded { now := 0 } s →
    ∀ key, persistedOccurrences key s.history + pendingOccurrences s key =
      (callTimes key s.history).length := by
  intro conserved
  have ran : ((rejectionMachine fun _ => "").exec { now := 0 }
      (twiceBlocked ++ [.cleanupRooms [loneSession] 20])).map (fun s =>
        (persistedOccurrences blockedMove s.history + pendingOccurrences s blockedMove,
          (callTimes blockedMove s.history).length)) = some (1, 2) := by decide +kernel
  obtain ⟨s, ran, outcome⟩ := Option.map_eq_some_iff.mp ran
  obtain ⟨counted, called⟩ := Prod.mk.inj outcome
  have same := conserved s (Machine.Run.of_exec_unguarded ran) blockedMove
  rw [counted, called] at same
  cases same

end Parlando
