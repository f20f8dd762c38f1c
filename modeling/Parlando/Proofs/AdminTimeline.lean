import Parlando.AdminTimeline

namespace Parlando

variable {toText : Value → String} {event : AdminEventSummary} {bundle : AdminEventBundle}
  {timeline after : AdminTimeline} {shown : List AdminEventSummary}

structure OnlyLast {α : Type} (p : α → Bool) (items : List α) : Prop where
  once : items.countP p ≤ 1
  last : ∀ item ∈ items.dropLast, p item = false

theorem OnlyLast.concat {α : Type} {p : α → Bool} {items : List α}
    (none : items.any p = false) (item : α) : OnlyLast p (items ++ [item]) := by
  have before : ∀ item ∈ items, ¬ p item = true := by simpa using none
  constructor
  · rw [List.countP_append, List.countP_eq_zero.mpr before, List.countP_singleton]
    split <;> omega
  · simpa using none

namespace AdminEventBundle

/-- What the events of a bundle have in common, and how often some of them occur. -/
structure WellFormed (bundle : AdminEventBundle) : Prop where
  kind : ∀ event ∈ bundle.events, adminBundleKind event = bundle.kind
  role : ∀ event ∈ bundle.events, adminEventRole event = bundle.role
  action : bundle.kind = "action" →
    ∃ action, ∀ event ∈ bundle.events, adminEventAction event = action
  request : bundle.kind = "action" → bundle.events.countP adminEventIsActionRequest ≤ 1
  result : bundle.kind = "action" → OnlyLast adminEventIsActionResult bundle.events
  message : bundle.kind = "transcript" → bundle.events.countP adminEventIsMessage ≤ 1
  readyOrGone : bundle.kind = "participant" → OnlyLast adminEventIsReadyOrGone bundle.events

theorem wellFormed_found (event : AdminEventSummary) (key : String) (seen : Bool) :
    (found event (adminBundleKind event) (adminEventRole event) key seen).WellFormed where
  kind := by simp [found]
  role := by simp [found]
  action _ := ⟨adminEventAction event, by simp [found]⟩
  request _ := List.countP_le_length
  result _ := OnlyLast.concat List.any_nil event
  message _ := List.countP_le_length
  readyOrGone _ := OnlyLast.concat List.any_nil event

end AdminEventBundle

theorem countP_concat {α : Type} {p : α → Bool} {items : List α} {item : α}
    (once : items.countP p ≤ 1) (new : (items.any p && p item) = false) :
    (items ++ [item]).countP p ≤ 1 := by
  rw [List.countP_append, List.countP_singleton]
  split
  · rename_i here
    have before : items.any p = false := by simpa [here] using new
    have none : items.countP p = 0 := List.countP_eq_zero.mpr (by simpa using before)
    omega
  · omega

namespace AdminEventBundle

theorem same_of_canAppend {kind : String} {role : Option String}
    (can : canAppendAdminBundle bundle event kind role = true) :
    bundle.kind = kind ∧ bundle.role = role := by
  unfold canAppendAdminBundle at can
  split at can
  · cases can
  · rename_i sameKind
    split at can
    · cases can
    · rename_i sameRole
      refine ⟨Decidable.not_not.mp sameKind, ?_⟩
      cases held : bundle.role <;> cases new : role <;> simp_all

theorem action_of_canAppend {role : Option String}
    (can : canAppendAdminBundle bundle event "action" role = true) :
    bundle.events.head?.bind adminEventAction = adminEventAction event ∧
      (bundle.events.any adminEventIsActionRequest && adminEventIsActionRequest event) = false := by
  obtain ⟨sameKind, sameRole⟩ := same_of_canAppend can
  simp only [canAppendAdminBundle, sameKind, sameRole, ne_eq, not_true, decide_false, Bool.and_false,
    Bool.false_eq_true, ↓reduceIte, Bool.and_eq_true, decide_eq_true_eq, Bool.not_eq_true'] at can
  exact ⟨can.1.2, can.2⟩

theorem message_of_canAppend {role : Option String}
    (can : canAppendAdminBundle bundle event "transcript" role = true) :
    (bundle.events.any adminEventIsMessage && adminEventIsMessage event) = false := by
  obtain ⟨sameKind, sameRole⟩ := same_of_canAppend can
  simp only [canAppendAdminBundle, sameKind, sameRole, ne_eq, not_true, decide_false, Bool.and_false,
    Bool.false_eq_true, ↓reduceIte, Bool.and_eq_true, Bool.not_eq_true'] at can
  rw [Bool.and_comm]
  exact can.1

/-- An open bundle takes in what it can append. -/
theorem WellFormed.push (formed : bundle.WellFormed) (isOpen : adminBundleIsClosed bundle = false)
    (can : canAppendAdminBundle bundle event (adminBundleKind event) (adminEventRole event) = true)
    (seen : Bool) : (bundle.push event seen).WellFormed := by
  obtain ⟨sameKind, sameRole⟩ := same_of_canAppend can
  constructor
  · intro item mem
    rcases List.mem_append.mp mem with old | new
    · exact formed.kind item old
    · rw [List.mem_singleton.mp new]
      exact sameKind.symm
  · intro item mem
    rcases List.mem_append.mp mem with old | new
    · exact formed.role item old
    · rw [List.mem_singleton.mp new]
      exact sameRole.symm
  · intro (kind : bundle.kind = "action")
    rw [← sameKind, kind] at can
    obtain ⟨action, all⟩ := formed.action kind
    have first : bundle.events.head?.bind adminEventAction = action := by
      rw [List.head?_eq_some_head bundle.constructed]
      exact all _ (List.head_mem _)
    refine ⟨action, ?_⟩
    intro item mem
    rcases List.mem_append.mp mem with old | new
    · exact all item old
    · rw [List.mem_singleton.mp new, ← (action_of_canAppend can).1, first]
  · intro (kind : bundle.kind = "action")
    rw [← sameKind, kind] at can
    exact countP_concat (formed.request kind) (action_of_canAppend can).2
  · intro (kind : bundle.kind = "action")
    exact .concat (by simpa [adminBundleIsClosed, kind] using isOpen) event
  · intro (kind : bundle.kind = "transcript")
    rw [← sameKind, kind] at can
    exact countP_concat (formed.message kind) (message_of_canAppend can)
  · intro (kind : bundle.kind = "participant")
    exact .concat (by simpa [adminBundleIsClosed, kind] using isOpen) event

end AdminEventBundle

namespace AdminTimeline

/-- The bundles group the events so far, and an open index leads to an open bundle of its key. -/
structure Follows (timeline : AdminTimeline) (shown : List AdminEventSummary) : Prop where
  grouped : ∃ places, Grouping shown places ∧
    timeline.bundles.map (·.events) = places.map (Grouping.gather shown)
  formed : ∀ bundle ∈ timeline.bundles, bundle.WellFormed
  opened : ∀ key index, timeline.openBundles.lookup key = some index →
    ∃ bundle, timeline.bundles[index]? = some bundle ∧ bundle.key = key ∧
      adminBundleIsClosed bundle = false

theorem follows_nil : Follows {} [] where
  grouped := ⟨[], .nil, rfl⟩
  formed := by simp
  opened := by
    intro key index found
    cases found

theorem Follows.found (follows : timeline.Follows shown) (event : AdminEventSummary)
    (key : String) :
    (timeline.found event (adminBundleKind event) (adminEventRole event) key).Follows
      (shown ++ [event]) where
  grouped := by
    obtain ⟨places, grouping, same⟩ := follows.grouped
    refine ⟨_, grouping.push event, ?_⟩
    rw [List.map_append, grouping.map_gather_append, ← same]
    simp [AdminTimeline.found, AdminEventBundle.found, Grouping.gather_last]
  formed := by
    intro bundle mem
    rcases List.mem_append.mp mem with old | new
    · exact follows.formed bundle old
    · rw [List.mem_singleton.mp new]
      exact AdminEventBundle.wellFormed_found event key _
  opened := by
    intro key' index lookup
    have kept (stays : timeline.openBundles.lookup key' = some index) :
        ∃ bundle, (timeline.found event (adminBundleKind event) (adminEventRole event)
          key).bundles[index]? = some bundle ∧ bundle.key = key' ∧
          adminBundleIsClosed bundle = false := by
      obtain ⟨bundle, here, sameKey, isOpen⟩ := follows.opened key' index stays
      have bound := (List.getElem?_eq_some_iff.mp here).1
      exact ⟨bundle, (List.getElem?_append_left bound).trans here, sameKey, isOpen⟩
    simp only [AdminTimeline.found] at lookup
    split at lookup
    · exact kept lookup
    · rename_i isOpen
      rw [Map.lookup_insert_eq] at lookup
      split at lookup
      · rename_i same
        cases lookup
        refine ⟨_, List.getElem?_concat_length, same.symm, by simpa using isOpen⟩
      · exact kept lookup

theorem Follows.append (follows : timeline.Follows shown) {index : Nat}
    (here : timeline.bundles[index]? = some bundle)
    (isOpen : adminBundleIsClosed bundle = false)
    (can : canAppendAdminBundle bundle event (adminBundleKind event) (adminEventRole event) = true) :
    (timeline.append index bundle event bundle.key).Follows (shown ++ [event]) where
  grouped := by
    obtain ⟨places, grouping, same⟩ := follows.grouped
    have events : (places.map (Grouping.gather shown))[index]? = some bundle.events := by
      rw [← same, List.getElem?_map, here, Option.map_some]
    rw [List.getElem?_map] at events
    obtain ⟨place, placed, gathered⟩ := Option.map_eq_some_iff.mp events
    refine ⟨_, grouping.extend placed event, ?_⟩
    rw [grouping.map_gather_set placed, gathered, ← same]
    exact List.map_set
  formed := by
    intro other mem
    rcases List.mem_or_eq_of_mem_set mem with old | rfl
    · exact follows.formed other old
    · exact (follows.formed bundle (List.mem_of_getElem? here)).push isOpen can _
  opened := by
    intro key index' lookup
    have old : timeline.openBundles.lookup key = some index' ∧
        (adminBundleIsClosed (bundle.push event timeline.terminalEventSeen) = true →
          key ≠ bundle.key) := by
      simp only [AdminTimeline.append] at lookup
      split at lookup
      · rw [Map.lookup_erase_eq] at lookup
        split at lookup
        · cases lookup
        · rename_i other
          exact ⟨lookup, fun _ => other⟩
      · rename_i isOpen
        exact ⟨lookup, fun closed => absurd closed isOpen⟩
    obtain ⟨other, found, sameKey, otherOpen⟩ := follows.opened key index' old.1
    by_cases there : index' = index
    · subst there
      cases found.symm.trans here
      refine ⟨_, List.getElem?_set_self (List.getElem?_eq_some_iff.mp here).1, sameKey, ?_⟩
      exact Bool.eq_false_iff.mpr fun closed => old.2 closed sameKey.symm
    · exact ⟨other, (List.getElem?_set_ne (Ne.symm there)).trans found, sameKey, otherOpen⟩

/-- No round indexes past the bundles. -/
theorem Follows.add (follows : timeline.Follows shown) (event : AdminEventSummary) :
    ∃ after, timeline.add toText event = some after ∧ after.Follows (shown ++ [event]) := by
  unfold AdminTimeline.add
  simp only
  split
  · rename_i index lookup
    obtain ⟨bundle, here, sameKey, isOpen⟩ := follows.opened _ index lookup
    rw [here, Option.bind_eq_bind, Option.bind_some]
    split
    · rename_i can
      rw [← sameKey]
      exact ⟨_, rfl, follows.append here isOpen can⟩
    · exact ⟨_, rfl, follows.found event _⟩
  · exact ⟨_, rfl, follows.found event _⟩

theorem Follows.run (events : List AdminEventSummary) (follows : timeline.Follows shown) :
    ∃ after, events.foldlM (AdminTimeline.add toText) timeline = some after ∧
      after.Follows (shown ++ events) := by
  induction events generalizing timeline shown with
  | nil => exact ⟨timeline, rfl, by rwa [List.append_nil]⟩
  | cons event events ih =>
    obtain ⟨next, step, stays⟩ := @Follows.add toText _ _ follows event
    obtain ⟨after, rest, final⟩ := ih stays
    refine ⟨after, ?_, by rwa [List.append_assoc] at final⟩
    rw [List.foldlM_cons, step]
    exact rest

end AdminTimeline

theorem adminBundleJson_events (bundle : AdminEventBundle) :
    (adminBundleJson bundle).index "events" = .array (bundle.events.map (·.toJson)) := by
  rw [adminBundleJson, Value.index, Value.get?_json]
  simp [Value.member?_cons]

/-- The rows split the events that are shown, in their order, into well-formed bundles. -/
theorem admin_timeline_bundles (toText : Value → String) (events : List AdminEventSummary) :
    ∃ bundles : List AdminEventBundle, ∃ places : List (List Nat),
      adminEventBundles toText events = some (bundles.map adminBundleJson) ∧
      Grouping (events.filter showAdminEventInTimeline) places ∧
      bundles.map (·.events) =
        places.map (Grouping.gather (events.filter showAdminEventInTimeline)) ∧
      ∀ bundle ∈ bundles, bundle.WellFormed ∧
        (adminBundleJson bundle).index "events" = .array (bundle.events.map (·.toJson)) := by
  obtain ⟨timeline, done, follows⟩ := @AdminTimeline.Follows.run toText _ _
    (events.filter showAdminEventInTimeline) AdminTimeline.follows_nil
  obtain ⟨places, grouping, same⟩ := follows.grouped
  refine ⟨timeline.bundles, places, ?_, grouping, same, ?_⟩
  · rw [adminEventBundles, adminBundles, done]
    rfl
  · intro bundle mem
    exact ⟨follows.formed bundle mem, adminBundleJson_events bundle⟩

end Parlando
