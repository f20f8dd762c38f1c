import Parlando.AgentTask
import Parlando.Proofs.Steps
import Mathlib.Data.List.Basic

namespace Parlando

open Concurrency
open Headless (otherRole)

variable {G : Game}

inductive Replay (G : Game) (start : G.State) : List (Accepted G) → G.State → Prop where
  | nil : Replay G start [] start
  | concat {transitions : List (Accepted G)} {state : G.State} {transition : Accepted G}
      (replay : Replay G start transitions state)
      (ok : G.applyAction state transition.action transition.actor = .ok transition.after) :
      Replay G start (transitions ++ [transition]) transition.after

def AgentObservation.isAction : AgentObservation G → Bool
  | .action .. => true
  | .message .. => false

inductive AgentCallback (G : Game) where
  | observe (observation : AgentObservation G)
  | respond (availableActions : Option (List G.Action))
  | finish (completion : G.Completion)

namespace AgentCallback

def observation? : AgentCallback G → Option (AgentObservation G)
  | observe observation => some observation
  | _ => none

def completion? : AgentCallback G → Option G.Completion
  | finish completion => some completion
  | _ => none

end AgentCallback

/-- The instance that a call leaves behind. -/
def Agent.after (A : Agent G) (agent : A.State) : AgentCallback G → A.State
  | .observe (.action actor action resulting _) =>
    (A.observeTransition agent actor action resulting).2
  | .observe (.message speaker text) => (A.observeMessage agent speaker text).2
  | .respond availableActions => (A.respond agent availableActions).2
  | .finish completion => (A.finish agent completion).2

namespace AgentSession

variable {A : Agent G} {role : PlayerRole} {limit : Nat} {start : G.State} {s t : AgentSession G A}

@[simp] theorem isAction_noticeOf (transition : Accepted G) :
    (noticeOf role transition).isAction = true := rfl

def reports (s : AgentSession G A) : List (AgentObservation G) :=
  s.inbox.sent.filter AgentObservation.isAction

/-- Those of them that the agent has been told of. -/
def told (s : AgentSession G A) : List (AgentObservation G) :=
  (s.inbox.sent.take s.inbox.received).filter AgentObservation.isAction

/-- What is accepted reaches the inbox in order and once, as long as the inbox is registered. -/
structure Delivered (role : PlayerRole) (start : G.State) (s : AgentSession G A) : Prop where
  replay : Replay G start s.accepted s.state
  reported : s.reports <+: s.accepted.map (noticeOf role)
  whole : s.inbox.dropped = false →
    s.reports ++ s.notice.toList = s.accepted.map (noticeOf role)
  notice : ∀ observation ∈ s.notice, observation.isAction = true
  received : s.inbox.received ≤ s.inbox.sent.length
  unreserved : s.inbox.reserved = 0
  closed : s.inbox.closed = true → s.inbox.dropped = true

structure SameTraffic (s t : AgentSession G A) : Prop where
  state : t.state = s.state
  accepted : t.accepted = s.accepted
  notice : t.notice = s.notice
  inbox : t.inbox = s.inbox

theorem Delivered.frame (delivered : Delivered role start s) (same : SameTraffic s t) :
    Delivered role start t := by
  obtain ⟨state, accepted, notice, inbox⟩ := same
  obtain ⟨replay, reported, whole, action, received, unreserved, closed⟩ := delivered
  unfold reports at reported whole
  refine ⟨?_, ?_, ?_, ?_, ?_, ?_, ?_⟩
  · rw [accepted, state]
    exact replay
  · rw [reports, inbox, accepted]
    exact reported
  · rw [reports, inbox, accepted, notice]
    exact whole
  · rw [notice]
    exact action
  · rw [inbox]
    exact received
  · rw [inbox]
    exact unreserved
  · rw [inbox]
    exact closed

/-- The inbox goes, and nothing more is put into it. -/
theorem Delivered.drop (delivered : Delivered role start s) (closed : Bool) :
    Delivered role start { s with inbox := { s.inbox with closed, dropped := true } } where
  replay := delivered.replay
  reported := delivered.reported
  whole unregistered := by cases unregistered
  notice := delivered.notice
  received := delivered.received
  unreserved := delivered.unreserved
  closed _ := rfl

theorem Delivered.stop (delivered : Delivered role start s) : Delivered role start s.stop :=
  (delivered.drop true).frame ⟨rfl, rfl, rfl, rfl⟩

theorem Delivered.take (delivered : Delivered role start s)
    (more : s.inbox.received < s.inbox.sent.length) :
    Delivered role start { s with inbox := s.inbox.take } where
  replay := delivered.replay
  reported := delivered.reported
  whole := delivered.whole
  notice := delivered.notice
  received := more
  unreserved := delivered.unreserved
  closed := delivered.closed

/-- With the lock free, an action that the game accepts is committed. -/
theorem Delivered.commit (delivered : Delivered role start s) (free : s.notice = none)
    {actor : PlayerRole} {action : G.Action} {after : G.State}
    (ok : G.applyAction s.state action actor = .ok after) :
    Delivered role start (s.commit role actor action after) where
  replay := show Replay G start (s.accepted ++ [⟨actor, action, after⟩]) after from
    delivered.replay.concat ok
  reported := by
    change s.reports <+: (s.accepted ++ [_]).map (noticeOf role)
    rw [List.map_append]
    exact delivered.reported.trans (List.prefix_append _ _)
  whole registered := by
    change s.reports ++ [noticeOf role ⟨actor, action, after⟩] = (s.accepted ++ [_]).map (noticeOf role)
    have whole := delivered.whole registered
    rw [free, Option.toList_none, List.append_nil] at whole
    rw [whole, List.map_append, List.map_singleton]
  notice observation held := by
    cases held
    rfl
  received := delivered.received
  unreserved := delivered.unreserved
  closed := delivered.closed

/-- A delivery reaches the inbox, or there is none any more. -/
theorem deliver_cases {observation : AgentObservation G} (delivered : Delivered role start s)
    (done : s.deliver observation = some t) :
    (s.inbox.dropped = true ∧ t = s) ∨
      s.inbox.dropped = false ∧
        t = { s with inbox := { s.inbox with sent := s.inbox.sent ++ [observation] } } := by
  unfold deliver at done
  split at done
  · rename_i gone
    exact .inl ⟨gone, (Option.some.inj done).symm⟩
  rename_i registered
  rw [Bool.not_eq_true] at registered
  have opened : s.inbox.closed = false := by
    by_contra closed
    rw [Bool.not_eq_false] at closed
    rw [delivered.closed closed] at registered
    cases registered
  cases reserved : s.inbox.reserve with
  | ok inbox =>
    obtain ⟨-, rfl⟩ := Channel.reserve_ok reserved
    simp only [reserved, Option.some.injEq] at done
    refine .inr ⟨registered, ?_⟩
    rw [← done]
    simp [Channel.send, delivered.unreserved]
  | error refusal =>
    cases refusal with
    | full => simp [reserved] at done
    | closed =>
      rw [Channel.reserve, opened] at reserved
      split at reserved
      · contradiction
      · split at reserved <;> cases reserved

/-- A message joins the inbox, which is no accepted action. -/
theorem Delivered.say (delivered : Delivered role start s) {speaker : PlayerRole} {text : String}
    (done : s.deliver (.message speaker text) = some t) : Delivered role start t := by
  obtain ⟨-, rfl⟩ | ⟨registered, rfl⟩ := deliver_cases delivered done
  · exact delivered
  have same : ({ s with inbox := { s.inbox with
      sent := s.inbox.sent ++ [.message speaker text] } } : AgentSession G A).reports = s.reports := by
    simp [reports, AgentObservation.isAction]
  refine ⟨delivered.replay, same ▸ delivered.reported, fun _ => same ▸ delivered.whole registered,
    delivered.notice, ?_, delivered.unreserved, delivered.closed⟩
  change s.inbox.received ≤ (s.inbox.sent ++ [_]).length
  rw [List.length_append]
  exact delivered.received.trans (Nat.le_add_right _ _)

/-- The notification moves from its sender into the inbox. -/
theorem Delivered.sendNotice (delivered : Delivered role start s)
    (done : s.sendNotice = some t) : Delivered role start t := by
  obtain ⟨observation, held, done⟩ := Option.bind_eq_some_iff.mp done
  obtain ⟨sent, delivers, rfl⟩ := Option.map_eq_some_iff.mp done
  have isAction := delivered.notice observation held
  obtain ⟨gone, rfl⟩ | ⟨registered, rfl⟩ := deliver_cases delivered delivers
  · exact ⟨delivered.replay, delivered.reported,
      fun registered => absurd gone (Bool.eq_false_iff.mp registered), (fun _ held => by cases held),
      delivered.received, delivered.unreserved, delivered.closed⟩
  have whole := delivered.whole registered
  rw [held, Option.toList_some] at whole
  have joined : (s.inbox.sent ++ [observation]).filter AgentObservation.isAction =
      s.accepted.map (noticeOf role) := by
    rw [← whole, List.filter_append, reports]
    simp [isAction]
  refine ⟨delivered.replay, ?_, fun _ => ?_, (fun _ held => by cases held), ?_,
    delivered.unreserved, delivered.closed⟩
  · change (s.inbox.sent ++ [observation]).filter _ <+: _
    rw [joined]
  · change (s.inbox.sent ++ [observation]).filter _ ++ [] = _
    rw [joined, List.append_nil]
  · change s.inbox.received ≤ (s.inbox.sent ++ [_]).length
    rw [List.length_append]
    exact delivered.received.trans (Nat.le_add_right _ _)

theorem Delivered.decide (delivered : Delivered role start s) :
    Delivered role start (s.decide role) := by
  unfold AgentSession.decide
  dsimp only
  split
  · exact delivered.frame ⟨rfl, rfl, rfl, rfl⟩
  · exact delivered.frame ⟨rfl, rfl, rfl, rfl⟩
  · exact delivered.frame ⟨rfl, rfl, rfl, rfl⟩
  · exact delivered.frame ⟨rfl, rfl, rfl, rfl⟩
  · exact (delivered.drop true).frame ⟨rfl, rfl, rfl, rfl⟩
  · exact (delivered.drop true).frame ⟨rfl, rfl, rfl, rfl⟩

theorem Delivered.submitOwn (delivered : Delivered role start s) (free : s.notice = none)
    (action : G.Action) (message : Option String) (input : AgentInput) :
    Delivered role start (s.submitOwn role limit action message input) := by
  unfold AgentSession.submitOwn
  split
  · exact delivered.stop
  split
  · dsimp only
    split
    · exact delivered.frame ⟨rfl, rfl, rfl, rfl⟩
    · exact (delivered.drop true).frame ⟨rfl, rfl, rfl, rfl⟩
  · rename_i after ok
    split
    · exact (delivered.commit free ok).frame ⟨rfl, rfl, rfl, rfl⟩
    · exact delivered.stop

theorem Delivered.observe (delivered : Delivered role start s)
    (observation : AgentObservation G) : Delivered role start (s.observe limit observation) := by
  have told : Delivered role start (s.tell observation) := delivered.frame ⟨rfl, rfl, rfl, rfl⟩
  unfold AgentSession.observe afterObservation
  split
  · exact (told.drop true).frame ⟨rfl, rfl, rfl, rfl⟩
  · split
    · exact told.stop
    · exact told.frame ⟨rfl, rfl, rfl, rfl⟩

theorem Delivered.runTask (delivered : Delivered role start s) {input : AgentInput}
    (done : s.runTask role limit input = some t) : Delivered role start t := by
  unfold AgentSession.runTask at done
  split at done
  · cases done
    split
    · exact delivered.decide
    · exact delivered.stop
  · split at done
    · cases done
    rename_i action message _ free
    rw [Option.not_isSome_iff_eq_none] at free
    cases done
    split
    · exact delivered.submitOwn free action message input
    · exact delivered.stop
  · cases done
    exact delivered.frame ⟨rfl, rfl, rfl, rfl⟩
  · split at done
    · rename_i observation received
      cases done
      have more := (List.getElem?_eq_some_iff.mp (Channel.receive_message received)).1
      exact (delivered.take more).observe observation
    · cases done
      exact delivered.stop
    · cases done
  · cases done
  · cases done

theorem Delivered.step (delivered : Delivered role start s) {action : AgentSessionAction G}
    (done : s.step role limit action = some t) : Delivered role start t := by
  cases action with
  | submit action committed =>
    change (if s.notice.isSome then none else _) = some t at done
    split at done
    · cases done
    rename_i free
    rw [Option.not_isSome_iff_eq_none] at free
    cases done
    split
    · rename_i after _ ok
      split
      · exact delivered.commit free ok
      · exact delivered
    · exact delivered
  | notify => exact delivered.sendNotice done
  | say text => exact delivered.say done
  | pause =>
    cases done
    split
    · exact delivered.frame ⟨rfl, rfl, rfl, rfl⟩
    · exact delivered
  | resume =>
    cases done
    split
    · exact delivered.frame ⟨rfl, rfl, rfl, rfl⟩
    · exact delivered
  | expire =>
    cases done
    exact delivered.frame ⟨rfl, rfl, rfl, rfl⟩
  | unregister =>
    cases done
    exact (delivered.drop s.inbox.closed).frame ⟨rfl, rfl, rfl, rfl⟩
  | run input => exact delivered.runTask done

/-- Only the last accepted action completes the game, and the agent is finished with it once. -/
structure Concluded (s : AgentSession G A) : Prop where
  going : s.interaction ≠ .ended → ∀ transition ∈ s.accepted, G.completion transition.after = none
  last : ∀ transition ∈ s.accepted.dropLast, G.completion transition.after = none
  playing : s.place ≠ .stopped → s.finished = []
  finished : s.finished = [] ∨ ∃ completion transition, s.finished = [completion] ∧
    s.accepted.getLast? = some transition ∧ G.completion transition.after = some completion

structure SameEnding (s t : AgentSession G A) : Prop where
  accepted : t.accepted = s.accepted
  finished : t.finished = s.finished
  interaction : t.interaction ≠ .ended → s.interaction ≠ .ended
  place : t.place ≠ .stopped → s.place ≠ .stopped

theorem Concluded.frame (concluded : Concluded s) (same : SameEnding s t) : Concluded t where
  going going := by
    rw [same.accepted]
    exact concluded.going (same.interaction going)
  last := by
    rw [same.accepted]
    exact concluded.last
  playing playing := by
    rw [same.finished]
    exact concluded.playing (same.place playing)
  finished := by
    rw [same.accepted, same.finished]
    exact concluded.finished

theorem Concluded.commit (concluded : Concluded s) (active : s.interaction = .active)
    {actor : PlayerRole} {action : G.Action} {after : G.State} :
    Concluded (s.commit role actor action after) := by
  have going := concluded.going (by simp [active])
  have unfinished : s.finished = [] := by
    obtain none_ | ⟨completion, transition, -, isLast, completes⟩ := concluded.finished
    · exact none_
    · rw [going transition (List.mem_of_getLast? isLast)] at completes
      cases completes
  refine ⟨fun still transition mem => ?_, fun transition mem => ?_, fun _ => unfinished,
    .inl unfinished⟩
  · obtain mem | same := List.mem_append.mp mem
    · exact going transition mem
    · rw [List.mem_singleton.mp same]
      by_contra completes
      refine still (if_pos ?_)
      rwa [Option.isSome_iff_ne_none]
  · have all : (s.commit role actor action after).accepted.dropLast = s.accepted :=
      List.dropLast_concat
    rw [all] at mem
    exact going transition mem

/-- A completion that the agent is told of belongs to the last accepted action. -/
theorem Concluded.isLast (concluded : Concluded s) {transition : Accepted G}
    (mem : transition ∈ s.accepted) {completion : G.Completion}
    (completes : G.completion transition.after = some completion) :
    s.accepted.getLast? = some transition := by
  obtain empty | ⟨earlier, final, split⟩ := s.accepted.eq_nil_or_concat'
  · rw [empty] at mem
    cases mem
  rw [split] at mem ⊢
  obtain mem | same := List.mem_append.mp mem
  · have none_ := concluded.last transition (by rwa [split, List.dropLast_concat])
    rw [none_] at completes
    cases completes
  · rw [List.mem_singleton.mp same, List.getLast?_concat]

theorem Concluded.stop (concluded : Concluded s) : Concluded s.stop :=
  concluded.frame ⟨rfl, rfl, id, fun playing => absurd rfl playing⟩

theorem Concluded.decide (concluded : Concluded s) (playing : s.place ≠ .stopped) :
    Concluded (s.decide role) := by
  unfold AgentSession.decide
  dsimp only
  split
  · exact concluded.frame ⟨rfl, rfl, id, fun _ => playing⟩
  · exact concluded.frame ⟨rfl, rfl, id, fun _ => playing⟩
  · exact concluded.frame ⟨rfl, rfl, id, fun _ => playing⟩
  · exact concluded.frame ⟨rfl, rfl, id, fun _ => playing⟩
  · exact concluded.frame ⟨rfl, rfl, id, fun stopped => absurd rfl stopped⟩
  · exact concluded.frame ⟨rfl, rfl, id, fun stopped => absurd rfl stopped⟩

theorem Concluded.submitOwn (concluded : Concluded s) (playing : s.place ≠ .stopped)
    (action : G.Action) (message : Option String) (input : AgentInput) :
    Concluded (s.submitOwn role limit action message input) := by
  unfold AgentSession.submitOwn
  split
  · exact concluded.stop
  rename_i active
  simp only [Bool.or_eq_true, decide_eq_true_eq, not_or, ne_eq, not_not] at active
  split
  · dsimp only
    split
    · exact concluded.frame ⟨rfl, rfl, id, fun _ => playing⟩
    · exact concluded.frame ⟨rfl, rfl, id, fun stopped => absurd rfl stopped⟩
  · rename_i after _
    have committed : Concluded (s.commit role role action after) := concluded.commit active.1
    split
    · exact committed.frame ⟨rfl, rfl, id, fun _ => playing⟩
    · exact concluded.stop

/-- The agent's loop ends with the completion it is told of. -/
theorem Concluded.observe (concluded : Concluded s) (playing : s.place ≠ .stopped)
    {observation : AgentObservation G}
    (reported : observation.isAction = true → observation ∈ s.accepted.map (noticeOf role)) :
    Concluded (s.observe limit observation) := by
  have told : Concluded (s.tell observation) := concluded.frame ⟨rfl, rfl, id, fun _ => playing⟩
  unfold AgentSession.observe afterObservation
  split
  · rename_i actor action resulting completion
    obtain ⟨transition, mem, same⟩ := List.mem_map.mp (reported rfl)
    simp only [noticeOf, AgentObservation.action.injEq] at same
    have completes : G.completion transition.after = some completion := same.2.2.2
    refine ⟨told.going, told.last, fun stopped => absurd rfl stopped, .inr ?_⟩
    refine ⟨completion, transition, ?_, concluded.isLast mem completes, completes⟩
    change s.finished ++ [completion] = [completion]
    rw [concluded.playing playing, List.nil_append]
  · split
    · exact told.stop
    · exact told.frame ⟨rfl, rfl, id, fun _ => playing⟩

theorem Concluded.runTask (concluded : Concluded s) (delivered : Delivered role start s)
    {input : AgentInput} (done : s.runTask role limit input = some t) : Concluded t := by
  unfold AgentSession.runTask at done
  cases place : s.place with
  | deciding =>
    simp only [place, Option.some.injEq] at done
    subst done
    split
    · exact concluded.decide (by simp [place])
    · exact concluded.stop
  | submitting action message =>
    simp only [place] at done
    split at done
    · cases done
    cases done
    split
    · exact concluded.submitOwn (by simp [place]) action message input
    · exact concluded.stop
  | saying message =>
    simp only [place, Option.some.injEq] at done
    subst done
    exact concluded.frame ⟨rfl, rfl, id, fun _ => by simp [place]⟩
  | receiving =>
    have playing : s.place ≠ .stopped := by simp [place]
    simp only [place] at done
    split at done
    · rename_i observation received
      cases done
      have taken : Concluded { s with inbox := s.inbox.take } :=
        concluded.frame ⟨rfl, rfl, id, fun _ => playing⟩
      have sent := List.mem_of_getElem? (Channel.receive_message received)
      have reported (isAction : observation.isAction = true) :
          observation ∈ s.accepted.map (noticeOf role) :=
        delivered.reported.subset (List.mem_filter.mpr ⟨sent, isAction⟩)
      exact taken.observe playing reported
    · cases done
      exact concluded.stop
    · cases done
  | notifying message => simp [place] at done
  | stopped => simp [place] at done

theorem Concluded.step (concluded : Concluded s) (delivered : Delivered role start s)
    {action : AgentSessionAction G} (done : s.step role limit action = some t) : Concluded t := by
  cases action with
  | submit action committed =>
    change (if s.notice.isSome then none else _) = some t at done
    split at done
    · cases done
    cases done
    split
    · rename_i active _
      split
      · exact concluded.commit active
      · exact concluded
    · exact concluded
  | notify =>
    obtain ⟨observation, held, done⟩ := Option.bind_eq_some_iff.mp done
    obtain ⟨sent, delivers, rfl⟩ := Option.map_eq_some_iff.mp done
    have place (place : AgentPlace G.Action) (playing : place.afterNotice ≠ .stopped) :
        place ≠ .stopped := by
      rintro rfl
      exact playing rfl
    obtain ⟨-, rfl⟩ | ⟨-, rfl⟩ := deliver_cases delivered delivers
    · exact concluded.frame ⟨rfl, rfl, id, place _⟩
    · exact concluded.frame ⟨rfl, rfl, id, place _⟩
  | say text =>
    obtain ⟨-, rfl⟩ | ⟨-, rfl⟩ := deliver_cases delivered done
    · exact concluded
    · exact concluded.frame ⟨rfl, rfl, id, id⟩
  | pause =>
    cases done
    split
    · rename_i active
      exact concluded.frame ⟨rfl, rfl, fun _ => by simp [active], id⟩
    · exact concluded
  | resume =>
    cases done
    split
    · rename_i paused
      exact concluded.frame ⟨rfl, rfl, fun _ => by simp [paused], id⟩
    · exact concluded
  | expire =>
    cases done
    exact concluded.frame ⟨rfl, rfl, fun going => absurd rfl going, id⟩
  | unregister =>
    cases done
    exact concluded.frame ⟨rfl, rfl, id, id⟩
  | run input => exact concluded.runTask delivered done

/-- A step leaves the session's state alone, or it is an accepted action of an active session. -/
structure Played (role : PlayerRole) (s t : AgentSession G A) : Prop where
  capacity : t.inbox.capacity = s.inbox.capacity
  ended : s.interaction = .ended → t.interaction = .ended
  state : t.state = s.state ∧ t.accepted = s.accepted ∨
    ∃ transition : Accepted G, s.interaction = .active ∧
      G.applyAction s.state transition.action transition.actor = .ok transition.after ∧
      t.state = transition.after ∧ t.accepted = s.accepted ++ [transition] ∧
      (transition.actor = otherRole role ∨
        transition.actor = role ∧ ∃ message, s.place = .submitting transition.action message)

theorem Played.still (capacity : t.inbox.capacity = s.inbox.capacity) (state : t.state = s.state)
    (accepted : t.accepted = s.accepted) (interaction : t.interaction = s.interaction) :
    Played role s t :=
  ⟨capacity, fun ended => interaction.trans ended, .inl ⟨state, accepted⟩⟩

theorem played_runTask {input : AgentInput} (done : s.runTask role limit input = some t) :
    Played role s t := by
  unfold AgentSession.runTask at done
  cases place : s.place with
  | deciding =>
    simp only [place, Option.some.injEq] at done
    subst done
    split
    · unfold AgentSession.decide
      dsimp only
      split <;> exact .still rfl rfl rfl rfl
    · exact .still rfl rfl rfl rfl
  | submitting action message =>
    simp only [place] at done
    split at done
    · cases done
    cases done
    split
    · unfold AgentSession.submitOwn
      split
      · exact .still rfl rfl rfl rfl
      rename_i active
      split
      · dsimp only
        split <;> exact .still rfl rfl rfl rfl
      · rename_i after ok
        split
        · have running : s.interaction = .active := by
            by_contra other
            exact active (by simp [other])
          refine ⟨rfl, fun ended => by simp [running] at ended, .inr ?_⟩
          exact ⟨⟨role, action, after⟩, running, ok, rfl, rfl, .inr ⟨rfl, message, place⟩⟩
        · exact .still rfl rfl rfl rfl
    · exact .still rfl rfl rfl rfl
  | saying message =>
    simp only [place, Option.some.injEq] at done
    subst done
    exact .still rfl rfl rfl rfl
  | receiving =>
    simp only [place] at done
    split at done
    · cases done
      unfold AgentSession.observe afterObservation
      split
      · exact .still rfl rfl rfl rfl
      · split <;> exact .still rfl rfl rfl rfl
    · cases done
      exact .still rfl rfl rfl rfl
    · cases done
  | notifying message => simp [place] at done
  | stopped => simp [place] at done

theorem played_step (delivered : Delivered role start s) {action : AgentSessionAction G}
    (done : s.step role limit action = some t) : Played role s t := by
  cases action with
  | submit action committed =>
    change (if s.notice.isSome then none else _) = some t at done
    split at done
    · cases done
    cases done
    split
    · rename_i after active ok
      split
      · refine ⟨rfl, fun ended => by simp [active] at ended, .inr ?_⟩
        exact ⟨⟨_, action, after⟩, active, ok, rfl, rfl, .inl rfl⟩
      · exact .still rfl rfl rfl rfl
    · exact .still rfl rfl rfl rfl
  | notify =>
    obtain ⟨observation, held, done⟩ := Option.bind_eq_some_iff.mp done
    obtain ⟨sent, delivers, rfl⟩ := Option.map_eq_some_iff.mp done
    obtain ⟨-, rfl⟩ | ⟨-, rfl⟩ := deliver_cases delivered delivers
    · exact .still rfl rfl rfl rfl
    · exact .still rfl rfl rfl rfl
  | say text =>
    obtain ⟨-, rfl⟩ | ⟨-, rfl⟩ := deliver_cases delivered done
    · exact .still rfl rfl rfl rfl
    · exact .still rfl rfl rfl rfl
  | pause =>
    cases done
    split
    · rename_i active
      exact ⟨rfl, fun ended => by simp [active] at ended, .inl ⟨rfl, rfl⟩⟩
    · exact .still rfl rfl rfl rfl
  | resume =>
    cases done
    split
    · rename_i paused
      exact ⟨rfl, fun ended => by simp [paused] at ended, .inl ⟨rfl, rfl⟩⟩
    · exact .still rfl rfl rfl rfl
  | expire =>
    cases done
    exact ⟨rfl, fun _ => rfl, .inl ⟨rfl, rfl⟩⟩
  | unregister =>
    cases done
    exact .still rfl rfl rfl rfl
  | run input => exact played_runTask done

theorem delivered_start (start : G.State) (agent : A.State) :
    Delivered role start ({ state := start, agent } : AgentSession G A) where
  replay := .nil
  reported := List.prefix_rfl
  whole _ := rfl
  notice _ held := by cases held
  received := le_rfl
  unreserved := rfl
  closed closed := by cases closed

theorem concluded_start (start : G.State) (agent : A.State) :
    Concluded ({ state := start, agent } : AgentSession G A) where
  going _ transition mem := by cases mem
  last transition mem := by cases mem
  playing _ := rfl
  finished := .inl rfl

variable {guard : AgentSession G A → AgentSessionAction G → Prop} {agent : A.State}

theorem inv_of_run (run : (agentSessionMachine A role limit).Run guard { state := start, agent } s) :
    Delivered role start s ∧ Concluded s := by
  refine run.invariant ⟨delivered_start start agent, concluded_start start agent⟩ ?_
  intro s t action inv _ step
  exact ⟨inv.1.step step, inv.2.step inv.1 step⟩

structure Called (agent : A.State) (calls : List (AgentCallback G)) (s : AgentSession G A) : Prop where
  made : calls.foldl A.after agent = s.agent
  observed : calls.filterMap AgentCallback.observation? = s.inbox.sent.take s.inbox.received
  finished : calls.filterMap AgentCallback.completion? = s.finished

structure Uncalled (s t : AgentSession G A) : Prop where
  agent : t.agent = s.agent
  received : t.inbox.received = s.inbox.received
  sent : s.inbox.sent <+: t.inbox.sent
  finished : t.finished = s.finished

section Calls

variable {agent : A.State} {calls : List (AgentCallback G)}

theorem Called.frame (called : Called agent calls s) (delivered : Delivered role start s)
    (same : Uncalled s t) : Called agent calls t where
  made := called.made.trans same.agent.symm
  observed := by
    obtain ⟨more, sent⟩ := same.sent
    rw [called.observed, same.received, ← sent, List.take_append_of_le_length delivered.received]
  finished := called.finished.trans same.finished.symm

theorem Called.append (called : Called agent calls s) {call : AgentCallback G}
    (made : t.agent = A.after s.agent call)
    (observed : t.inbox.sent.take t.inbox.received =
      s.inbox.sent.take s.inbox.received ++ call.observation?.toList)
    (finished : t.finished = s.finished ++ call.completion?.toList) :
    Called agent (calls ++ [call]) t where
  made := by rw [List.foldl_append, called.made, made, List.foldl_cons, List.foldl_nil]
  observed := by
    rw [List.filterMap_append, called.observed, observed]
    cases told : call.observation? <;> simp [told]
  finished := by
    rw [List.filterMap_append, called.finished, finished]
    cases told : call.completion? <;> simp [told]

theorem Called.decide (called : Called agent calls s) :
    Called agent (calls ++ [.respond (G.availableActions s.state role)]) (s.decide role) := by
  unfold AgentSession.decide
  dsimp only
  split
  all_goals exact called.append rfl (List.append_nil _).symm (List.append_nil _).symm

/-- The agent is told the next observation, and the completion that comes with it. -/
theorem Called.observe (called : Called agent calls s) {observation : AgentObservation G}
    (received : s.inbox.receive = .message observation) :
    ∃ calls, Called agent calls ({ s with inbox := s.inbox.take }.observe limit observation) := by
  have told : Called agent (calls ++ [.observe observation])
      ({ s with inbox := s.inbox.take }.tell observation) := by
    refine called.append ?_ ?_ (List.append_nil _).symm
    · cases observation <;> rfl
    · change s.inbox.sent.take (s.inbox.received + 1) = _
      rw [List.take_add_one, Channel.receive_message received]
      rfl
  unfold AgentSession.observe afterObservation
  split
  · rename_i completion
    refine ⟨_ ++ [.finish completion], told.append rfl (List.append_nil _).symm rfl⟩
  · split
    · exact ⟨_, told.made, told.observed, told.finished⟩
    · exact ⟨_, told.made, told.observed, told.finished⟩

theorem Called.runTask (called : Called agent calls s) (delivered : Delivered role start s)
    {input : AgentInput} (done : s.runTask role limit input = some t) :
    ∃ calls, Called agent calls t := by
  have still : Uncalled s s.stop := ⟨rfl, rfl, List.prefix_rfl, rfl⟩
  unfold AgentSession.runTask at done
  split at done
  · cases done
    split
    · exact ⟨_, called.decide⟩
    · exact ⟨calls, called.frame delivered still⟩
  · split at done
    · cases done
    cases done
    split
    · refine ⟨calls, called.frame delivered ?_⟩
      unfold AgentSession.submitOwn
      split
      · exact still
      split
      · dsimp only
        split
        · exact ⟨rfl, rfl, List.prefix_rfl, rfl⟩
        · exact ⟨rfl, rfl, List.prefix_rfl, rfl⟩
      · split
        · exact ⟨rfl, rfl, List.prefix_rfl, rfl⟩
        · exact still
    · exact ⟨calls, called.frame delivered still⟩
  · cases done
    exact ⟨calls, called.frame delivered ⟨rfl, rfl, List.prefix_rfl, rfl⟩⟩
  · split at done
    · rename_i observation received
      cases done
      exact called.observe received
    · cases done
      exact ⟨calls, called.frame delivered still⟩
    · cases done
  · cases done
  · cases done

theorem Called.step (called : Called agent calls s) (delivered : Delivered role start s)
    {action : AgentSessionAction G} (done : s.step role limit action = some t) :
    ∃ calls, Called agent calls t := by
  have sends {observation : AgentObservation G} {t : AgentSession G A}
      (delivers : s.deliver observation = some t) : Uncalled s t := by
    obtain ⟨-, rfl⟩ | ⟨-, rfl⟩ := deliver_cases delivered delivers
    · exact ⟨rfl, rfl, List.prefix_rfl, rfl⟩
    · exact ⟨rfl, rfl, List.prefix_append _ _, rfl⟩
  cases action with
  | run input => exact called.runTask delivered done
  | notify =>
    obtain ⟨observation, held, done⟩ := Option.bind_eq_some_iff.mp done
    obtain ⟨sent, delivers, rfl⟩ := Option.map_eq_some_iff.mp done
    have same := sends delivers
    exact ⟨calls, called.frame delivered ⟨same.agent, same.received, same.sent, same.finished⟩⟩
  | say text => exact ⟨calls, called.frame delivered (sends done)⟩
  | submit action committed =>
    change (if s.notice.isSome then none else _) = some t at done
    split at done
    · cases done
    cases done
    refine ⟨calls, called.frame delivered ?_⟩
    split
    · split
      · exact ⟨rfl, rfl, List.prefix_rfl, rfl⟩
      · exact ⟨rfl, rfl, List.prefix_rfl, rfl⟩
    · exact ⟨rfl, rfl, List.prefix_rfl, rfl⟩
  | pause | resume =>
    cases done
    refine ⟨calls, called.frame delivered ?_⟩
    split
    · exact ⟨rfl, rfl, List.prefix_rfl, rfl⟩
    · exact ⟨rfl, rfl, List.prefix_rfl, rfl⟩
  | expire | unregister =>
    cases done
    exact ⟨calls, called.frame delivered ⟨rfl, rfl, List.prefix_rfl, rfl⟩⟩

end Calls

theorem called_of_run (run : (agentSessionMachine A role limit).Run guard
    { state := start, agent } s) : ∃ calls, Called agent calls s := by
  refine run.invariant_of_reached ⟨[], rfl, rfl, rfl⟩ fun reached called _ step => ?_
  obtain ⟨calls, called⟩ := called
  exact called.step (inv_of_run reached).1 step

def toldBy (calls : List (AgentCallback G)) : List (AgentObservation G) :=
  (calls.filterMap AgentCallback.observation?).filter AgentObservation.isAction

/-- The agent is told every accepted action once, in order, and the completion at its end. -/
structure Informed (role : PlayerRole) (start : G.State) (agent : A.State)
    (calls : List (AgentCallback G)) (s : AgentSession G A) : Prop where
  /-- The session's state is the accepted actions' own. -/
  replay : Replay G start s.accepted s.state
  /-- The agent is what these calls, one after the other, have made of it. -/
  called : s.agent = calls.foldl A.after agent
  ordered : toldBy calls <+: s.accepted.map (noticeOf role)
  /-- What the agent has not been told yet is on its way. -/
  onTheWay : s.inbox.dropped = false →
    toldBy calls ++ s.inbox.queue.filter AgentObservation.isAction ++ s.notice.toList =
      s.accepted.map (noticeOf role)
  /-- Nothing follows a completed game, and only its completion is handed over. -/
  last : ∀ transition ∈ s.accepted.dropLast, G.completion transition.after = none
  finished : calls.filterMap AgentCallback.completion? = [] ∨
    ∃ completion transition, calls.filterMap AgentCallback.completion? = [completion] ∧
      s.accepted.getLast? = some transition ∧ G.completion transition.after = some completion

theorem told_append_queue (s : AgentSession G A) :
    s.told ++ s.inbox.queue.filter AgentObservation.isAction = s.reports := by
  rw [told, Channel.queue, ← List.filter_append, List.take_append_drop]
  rfl

theorem agent_informed
    (run : (agentSessionMachine A role limit).Run guard { state := start, agent } s) :
    ∃ calls, Informed role start agent calls s := by
  obtain ⟨delivered, concluded⟩ := inv_of_run run
  obtain ⟨calls, called⟩ := called_of_run run
  have told : toldBy calls = s.told := by rw [toldBy, called.observed, told]
  refine ⟨calls, delivered.replay, called.made.symm, ?_, fun registered => ?_, concluded.last, ?_⟩
  · refine List.IsPrefix.trans ?_ delivered.reported
    rw [told, ← told_append_queue]
    exact List.prefix_append ..
  · rw [told, told_append_queue]
    exact delivered.whole registered
  · rw [called.finished]
    exact concluded.finished

/-- An agent that plays four whenever it has been told of a sum below ten. -/
def fours : Agent tallyGame where
  State := Nat
  observeTransition _ _ _ sum := (.returned (), sum)
  observeMessage sum _ _ := (.returned (), sum)
  finish sum _ := (.returned (), sum)
  respond (sum : Nat) _ := (.returned (if sum < 10 then some (.action (4 : Nat)) else none), sum)

/-- The other participant's three comes first, and the agent's second four completes the game. -/
def toEleven : List (AgentSessionAction tallyGame) :=
  [.run {}, .submit (3 : Nat) true, .notify, .run {}, .notify, .run {}, .run {}, .run {}, .notify,
    .say "well done", .run {}, .run {}]

theorem agent_informed_toEleven : ∃ s : AgentSession tallyGame fours,
    (agentSessionMachine fours .B 3).exec { state := (0 : Nat), agent := (0 : Nat) } toEleven =
      some s ∧ (∃ calls, Informed .B (0 : Nat) (0 : Nat) calls s) ∧ s.finished = [(11 : Nat)] := by
  obtain ⟨s, ran⟩ : ∃ s, (agentSessionMachine fours .B 3).exec
    { state := (0 : Nat), agent := (0 : Nat) } toEleven = some s := ⟨_, rfl⟩
  refine ⟨s, ran, agent_informed (.of_exec_unguarded ran), ?_⟩
  cases ran
  rfl

end AgentSession

end Parlando
