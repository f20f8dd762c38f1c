import Parlando.Proofs.Answers
import Parlando.Proofs.Presence

namespace Parlando

open Concurrency

variable {G : Game} {config : ExperimentConfig}

namespace LiveSession

variable {session before after : LiveSession G} {t : Timestamp} {e : SessionEnd}

/--
A reconnect timeout blames only participants of the session whose own deadline has come: the role
it names is that of such a participant, and nobody else has lost the connection.
-/
structure BlamesOverdue (session : LiveSession G) (t : Timestamp) (e : SessionEnd) : Prop where
  role : ∃ id p, session.participants.lookup id = some p ∧
    passed p.reconnectDeadlineAt t = true ∧ e.cause = .reconnectTimedOut p.role.asStr
  lost : ∀ id p r, session.participants.lookup id = some p → p.isAgent = false →
    e.participantResults.get p.role = some r → r.outcome = .connectionLost →
      passed p.reconnectDeadlineAt t = true

/--
Somebody was not connected at one moment, and each who was not has, at a later one, an own
reconnect deadline that has come.
-/
structure AwayOverdue (before after : LiveSession G) (t : Timestamp) : Prop where
  someone : ∃ id p, before.participants.lookup id = some p ∧ p.connected = false
  overdue : ∀ id p, before.participants.lookup id = some p → p.connected = false →
    ∃ q, after.participants.lookup id = some q ∧ passed q.reconnectDeadlineAt t = true

def SourcesApart (session : LiveSession G) : Prop :=
  ∀ id p, session.participants.lookup id = some p → p.isAgent = !id.isHuman

/-- The human roles are distinct, agents are connected, and agents are told from humans. -/
structure Seated (session : LiveSession G) : Prop where
  distinct : ∀ id id' p p', id.isHuman = true → id'.isHuman = true →
    session.participants.lookup id = some p → session.participants.lookup id' = some p' →
      p.role = p'.role → id = id'
  agents : session.AgentsConnected
  sources : session.SourcesApart

def SeatsKept (before after : LiveSession G) : Prop :=
  ∀ id p, id.isHuman = true → before.participants.lookup id = some p →
    ∃ q, after.participants.lookup id = some q ∧ q.role = p.role

theorem Seated.human (seated : session.Seated) {id : ParticipantSessionId}
    {p : SessionParticipant} (found : session.participants.lookup id = some p) :
    p.isAgent = false ↔ id.isHuman = true := by
  rw [seated.sources id p found]
  simp

/-- Who is not connected is a human. -/
theorem Seated.human_of_away (seated : session.Seated) {id : ParticipantSessionId}
    {p : SessionParticipant} (found : session.participants.lookup id = some p)
    (away : p.connected = false) : id.isHuman = true := by
  by_contra agent
  rw [seated.agents id p found (by simpa using agent)] at away
  cases away

/-- The search for somebody who is missing finds one of those who are. -/
theorem findParticipant_away (pick : Nat)
    (someone : ∃ id p, session.participants.lookup id = some p ∧ p.connected = false) :
    ∃ id p, session.participants.lookup id = some p ∧ p.connected = false ∧
      session.findParticipant (fun participant => !participant.connected) pick = some p := by
  obtain ⟨id, p, found, away⟩ := someone
  have mem : p ∈ session.participants.values.filter fun participant => !participant.connected :=
    List.mem_filter.mpr ⟨Map.mem_values.mpr ⟨id, found⟩, by simp [away]⟩
  have inside := Nat.mod_lt pick (List.length_pos_of_mem mem)
  obtain ⟨picked, away'⟩ := List.mem_filter.mp (List.getElem_mem inside)
  obtain ⟨id', seated⟩ := Map.mem_values.mp picked
  exact ⟨id', _, seated, by simpa using away', List.getElem?_eq_getElem inside⟩

end LiveSession

section Computed

variable {session : LiveSession G} {e : SessionEnd} {pick : Nat}

/-- Every result is that of a human participant in its role. -/
theorem participantResults_get {finalState : G.State} {gameStarted : Bool} {reason : String}
    {completion : Option Value} {outcome : SessionParticipant → ParticipantOutcomeKind}
    {results : RoleMap ParticipantResult} {role : PlayerRole} {r : ParticipantResult}
    (h : participantResults config session finalState gameStarted reason completion outcome =
      .ok results) (got : results.get role = some r) :
    ∃ id p, session.participants.lookup id = some p ∧ p.isAgent = false ∧ p.role = role ∧
      r.outcome = outcome p ∧ r.handoff = if p.source == .prolific
        then prolificHandoff config (outcome p) gameStarted else none := by
  obtain ⟨pairs, traversal, computed⟩ := Except.of_bind_ok h
  cases computed
  obtain ⟨p, mem, image⟩ := Except.mapM_preimage traversal (RoleMap.mem_of_get_collect got)
  obtain ⟨observation, -, image⟩ := Except.of_bind_ok image
  cases image
  obtain ⟨picked, human⟩ := List.mem_filter.mp mem
  obtain ⟨id, found⟩ := Map.mem_values.mp picked
  exact ⟨id, p, found, by simpa using human, rfl, rfl, rfl⟩

/-- A participant loses the connection by a reconnect timeout where it is not connected. -/
theorem expiryOutcome_connectionLost {p : SessionParticipant} :
    expiryOutcome (expiryCause session .reconnectTimeout pick) p = .connectionLost ↔
      p.connected = false := by
  simp only [expiryCause, expiryOutcome]
  cases p.connected <;> simp

theorem expiredSessionEnd_results {reason : EndReason}
    (h : expiredSessionEnd config session reason pick = .ok e) :
    participantResults config session session.state session.lifecycle.isRunning reason.asStr none
      (expiryOutcome (expiryCause session reason pick)) = .ok e.participantResults := by
  unfold expiredSessionEnd at h
  obtain ⟨results, computed, h⟩ := Except.of_bind_ok h
  cases h
  exact computed

/-- The handoff of a result is that of the result's own outcome, or none. -/
theorem expiredSessionEnd_handoff {reason : EndReason} {role : PlayerRole} {r : ParticipantResult}
    (h : expiredSessionEnd config session reason pick = .ok e)
    (got : e.participantResults.get role = some r) :
    r.handoff = none ∨
      r.handoff = prolificHandoff config r.outcome session.lifecycle.isRunning := by
  obtain ⟨id, p, -, -, -, outcome, handoff⟩ :=
    participantResults_get (expiredSessionEnd_results h) got
  rw [handoff, outcome]
  split
  · exact .inr rfl
  · exact .inl rfl

/-- A reconnect timeout computes the loss of the connection for whoever is not connected. -/
theorem expiredSessionEnd_lost (seated : session.Seated)
    (h : expiredSessionEnd config session .reconnectTimeout pick = .ok e)
    {id : ParticipantSessionId} {p : SessionParticipant}
    (found : session.participants.lookup id = some p) (away : p.connected = false) :
    ∃ r, e.participantResults.get p.role = some r ∧ r.outcome = .connectionLost := by
  have human := seated.human_of_away found away
  have answers := ResultsOf.answers (expiredSessionEnd_ok h).2
    (Map.mem_values.mpr ⟨id, found⟩) ((seated.human found).mpr human)
  obtain ⟨r, got⟩ := Option.isSome_iff_exists.mp answers
  obtain ⟨id', p', found', human', same, outcome, -⟩ :=
    participantResults_get (expiredSessionEnd_results h) got
  cases seated.distinct id' id p' p ((seated.human found').mp human') human found' found same
  cases Option.some.inj (found.symm.trans found')
  exact ⟨r, got, outcome.trans (expiryOutcome_connectionLost.mpr away)⟩

/-- And it names one of them, where there is one. -/
theorem expiredSessionEnd_named
    (h : expiredSessionEnd config session .reconnectTimeout pick = .ok e)
    (someone : ∃ id p, session.participants.lookup id = some p ∧ p.connected = false) :
    ∃ id p, session.participants.lookup id = some p ∧ p.connected = false ∧
      e.cause = .reconnectTimedOut p.role.asStr := by
  obtain ⟨id, p, found, away, picked⟩ := LiveSession.findParticipant_away pick someone
  refine ⟨id, p, found, away, ?_⟩
  rw [expiredSessionEnd_cause h]
  simp [expiryCause, picked]

/--
The blame for a reconnect timeout is right where somebody was away when the value was computed and
each who was has an own deadline that has come.
-/
theorem LiveSession.blamesOverdue_iff {before after : LiveSession G} {t : Timestamp}
    (seated : before.Seated) (seated' : after.Seated) (kept : before.SeatsKept after)
    (h : expiredSessionEnd config before .reconnectTimeout pick = .ok e) :
    after.BlamesOverdue t e ↔ before.AwayOverdue after t := by
  constructor
  · rintro ⟨⟨_, named, _, _, cause⟩, lost⟩
    constructor
    · rw [expiredSessionEnd_cause h] at cause
      rcases expiryCause_reconnect cause with unknown | ⟨id, p, found, away, -⟩
      · cases role : named.role <;> rw [role] at unknown <;> exact absurd unknown (by decide)
      · exact ⟨id, p, found, away⟩
    · intro id p found away
      have human := seated.human_of_away found away
      obtain ⟨q, stays, role⟩ := kept id p human found
      obtain ⟨r, got, outcome⟩ := expiredSessionEnd_lost seated h found away
      exact ⟨q, stays, lost id q r stays ((seated'.human stays).mpr human) (role ▸ got) outcome⟩
  · rintro ⟨someone, overdue⟩
    constructor
    · obtain ⟨id, p, found, away, cause⟩ := expiredSessionEnd_named h someone
      obtain ⟨q, stays, past⟩ := overdue id p found away
      obtain ⟨q', stays', role⟩ := kept id p (seated.human_of_away found away) found
      cases Option.some.inj (stays.symm.trans stays')
      exact ⟨id, q, stays, past, by rw [role]; exact cause⟩
    · intro id q r found human got outcome
      obtain ⟨id₀, p, found₀, human₀, role, computed, -⟩ :=
        participantResults_get (expiredSessionEnd_results h) got
      have away := expiryOutcome_connectionLost.mp (computed.symm.trans outcome)
      have known := (seated.human found₀).mp human₀
      obtain ⟨q₀, stays, role₀⟩ := kept id₀ p known found₀
      cases seated'.distinct id₀ id q₀ q known ((seated'.human found).mp human) stays found
        (role₀.trans role)
      obtain ⟨q', stays', past⟩ := overdue _ p found₀ away
      cases Option.some.inj (found.symm.trans stays')
      exact past

end Computed

section Runs

variable {creation : Creation G} {w w' : Pool (Cell G) (Task G)} {session : LiveSession G}

theorem LiveSession.SourcesApart.after {sec : Section G} {after : LiveSession G}
    (apart : session.SourcesApart) (step : SessionStep config sec session after)
    (spares : sec.SparesHumans)
    (joins : ∀ participant now, sec = .memory (.addHuman participant now) →
      participant.id.isHuman = true ∧ participant.source ≠ .agent) : after.SourcesApart := by
  intro id q found
  have look := step.members.lookup id
  generalize after.participants.lookup id = entry at look found
  cases look with
  | kept same =>
    obtain ⟨p, before, rfl⟩ := Option.map_eq_some_iff.mp found
    simpa only [SessionParticipant.isAgent, (same p).source] using apart id p before
  | connect | disconnect =>
    obtain ⟨p, before, rfl⟩ := Option.map_eq_some_iff.mp found
    exact apart id p before
  | joined participant now role own =>
    cases found
    obtain ⟨human, notAgent⟩ := joins participant now rfl
    rw [← own, human]
    simpa [SessionParticipant.isAgent, SessionParticipant.joined] using notAgent
  | attached agent now own =>
    cases found
    rw [← own, show agent.id.isHuman = false from spares]
    rfl
  | detached => cases found

theorem sourcesApart_of_run
    (run : (sessionMachine G config).Run Machine.unguarded (creation.initial config) w)
    (here : w.shared.session = some session) : session.SourcesApart := by
  have all : ∀ session, w.shared.session = some session → session.SourcesApart := by
    refine run.invariant_of_reached ?_ ?_
    · intro session here id p found
      cases here
      change (AList.singleton creation.participant.id _ :
        Map ParticipantSessionId SessionParticipant).lookup id = some p at found
      rw [Map.lookup_singleton] at found
      split at found <;> cases found
      rename_i own
      rw [own, creation.isHuman]
      simpa [SessionParticipant.isAgent, SessionParticipant.joined] using creation.notAgent
    · rintro w w' a reached apart - step session' here
      rcases Program.step_cases step with ⟨task, -, -, rfl⟩ |
        ⟨pid, input, task, cell', task', started, rfl, ht, hs, rfl⟩
      · exact apart session' here
      · obtain ⟨sec, hn, -, rfl⟩ := session_step hs
        have sound := owners_sound reached pid task ht
        obtain ⟨session, before, moved⟩ := Cell.apply_step here
        refine (apart session before).after moved (Task.next_sparesHumans sound hn) ?_
        rintro participant now rfl
        cases Task.next_addHuman hn
        exact ⟨(sound _ rfl).1, (sound _ rfl).2.1⟩
  exact all session here

theorem seated_of_run
    (run : (sessionMachine G config).Run Machine.unguarded (creation.initial config) w)
    (here : w.shared.session = some session) : session.Seated :=
  have connected := (connectionsOutline_valid run).inv session here
  ⟨connected.distinct, connected.agents, sourcesApart_of_run run here⟩

/-- A human keeps the seat as long as the session is in memory. -/
theorem seatsKept_of_run {before after : LiveSession G}
    (reached : (sessionMachine G config).Run Machine.unguarded (creation.initial config) w)
    (run : (sessionMachine G config).Run Machine.unguarded w w')
    (here : w.shared.session = some before) (here' : w'.shared.session = some after) :
    before.SeatsKept after := by
  intro id p human found
  have seat : w'.shared.Seat ⟨id, p.role⟩ := by
    refine run.invariant_of_reached ?_ ?_
    · intro session here'
      cases Option.some.inj (here.symm.trans here')
      exact ⟨p, found, rfl⟩
    · rintro u u' a between seat - step
      rcases Program.step_cases step with ⟨task, -, -, rfl⟩ |
        ⟨pid, input, task, cell', task', started, rfl, ht, hs, rfl⟩
      · exact seat
      · obtain ⟨sec, hn, -, rfl⟩ := session_step hs
        have sound := owners_sound (reached.trans between) pid task ht
        exact seat.apply human (Task.next_sparesHumans sound hn)
  obtain ⟨q, found', role⟩ := seat after here'
  exact ⟨q, found', role⟩

theorem Task.next_expireCommit {cell : Cell G} {pid : Nat} {input : Input} {sec : Section G}
    {task : Task G} {started : List (Task G)} {reason : EndReason} {caller : ExpireCaller}
    {e : SessionEnd}
    (h : task.next config cell pid input = some (sec, expire reason caller (.commit e), started)) :
    task = expire reason caller .check ∧
      checkExpiry config cell.session reason input.pick = .ok (some e) := by
  cases task
  all_goals
    obtain ⟨⟨sec', pc'⟩, hs, he⟩ := Option.map_eq_some_iff.mp h
    simp only [Prod.mk.injEq] at he
    obtain ⟨rfl, he, -⟩ := he
  case expire reason' caller' pc =>
    cases caller' <;> cases pc' <;> cases he
    all_goals
      cases pc <;> simp only [ExpirePc.step] at hs <;>
        repeat' first | split at hs | cases hs
      exact ⟨rfl, ‹_›⟩
  case event call caller' pc =>
    cases caller' <;> cases pc' <;> try cases he
    simp only [ofEvent, SocketPc.afterDisconnect] at he
    split at he <;> cases he
  case abandon id reason' caller' pc => cases caller' <;> cases pc' <;> cases he
  case start caller' pc => cases caller' <;> cases pc' <;> cases he
  all_goals cases pc' <;> cases he

/--
Task `pid` stands at the commit of its `expire_live_session` call at the end of the run to `w`, and
read `before` at the call's check, on the way there.
-/
structure ExpiryRead (creation : Creation G) (config : ExperimentConfig)
    (w : Pool (Cell G) (Task G)) (pid : Nat) (reason : EndReason) (e : SessionEnd)
    (before : LiveSession G) : Prop where
  checked : ∃ w₀ w₁ input caller,
    (sessionMachine G config).Run Machine.unguarded (creation.initial config) w₀ ∧
    w₀.tasks[pid]? = some (.expire reason caller .check) ∧ w₀.shared.session = some before ∧
    expiredSessionEnd config before reason input.pick = .ok e ∧
    (sessionMachine G config).step w₀ (.run pid input) = some w₁ ∧
    (sessionMachine G config).Run Machine.unguarded w₁ w

theorem ExpiryRead.tail {pid : Nat} {reason : EndReason} {e : SessionEnd}
    {a : Pool.Action (Task G) Input} (read : ExpiryRead creation config w pid reason e session)
    (step : (sessionMachine G config).step w a = some w') :
    ExpiryRead creation config w' pid reason e session := by
  obtain ⟨w₀, w₁, input, caller, reached, ht, here, computed, checks, run⟩ := read.checked
  exact ⟨w₀, w₁, input, caller, reached, ht, here, computed, checks, run.tail trivial step⟩

theorem checkExpiry_ok {found : Option (LiveSession G)} {reason : EndReason} {pick : Nat}
    {e : SessionEnd} (h : checkExpiry config found reason pick = .ok (some e)) :
    ∃ session, found = some session ∧ expiredSessionEnd config session reason pick = .ok e := by
  unfold checkExpiry at h
  split at h
  · cases h
  · rename_i session
    split at h
    · cases h
    · cases computed : expiredSessionEnd config session reason pick with
      | error message =>
        rw [computed] at h
        cases h
      | ok e' =>
        rw [computed] at h
        cases h
        exact ⟨session, rfl, computed⟩

/-- Whoever stands at the commit of an expiry has read the session on the way. -/
theorem expiryRead_of_run
    (run : (sessionMachine G config).Run Machine.unguarded (creation.initial config) w)
    {pid : Nat} {reason : EndReason} {caller : ExpireCaller} {e : SessionEnd}
    (ht : w.tasks[pid]? = some (.expire reason caller (.commit e))) :
    ∃ before, ExpiryRead creation config w pid reason e before := by
  have all : w.Each fun pid task => ∀ reason caller e,
      task = .expire reason caller (.commit e) →
        ∃ before, ExpiryRead creation config w pid reason e before := by
    refine run.invariant_of_reached ?_ ?_
    · intro pid task ht
      cases ht
    · rintro w w' a reached each - step q u hu reason caller e rfl
      rcases Program.step_cases step with ⟨task, -, enter, rfl⟩ |
        ⟨pid, input, task, cell', task', started, rfl, ht, hs, rfl⟩
      · rcases Pool.task_of_append hu with old | rfl
        · exact (each q _ old reason caller e rfl).imp fun _ read => read.tail step
        · cases (session_entry enter).1
      · obtain ⟨sec, hn, -, rfl⟩ := session_step hs
        rcases Pool.task_after hu with ⟨rfl, rfl⟩ | ⟨-, old⟩ | new
        · obtain ⟨rfl, checked⟩ := Task.next_expireCommit hn
          obtain ⟨before, here, computed⟩ := checkExpiry_ok checked
          exact ⟨before, _, _, input, caller, reached, ht, here, computed, step, .refl⟩
        · exact (each q _ old reason caller e rfl).imp fun _ read => read.tail step
        · obtain ⟨call, deadline, -, same⟩ := Task.mem_started hn new
          cases same
  exact all pid _ ht reason caller e rfl

end Runs

/--
When an expiry ends the session for a reconnect timeout, it blames only participants whose own
deadline has come exactly where somebody was not connected when it read the session and each who
was not is past the own deadline by the time of the end. Handoffs are those of the outcomes.
-/
theorem reconnect_blame_iff {config : ExperimentConfig} {creation : Creation G}
    {w w' : Pool (Cell G) (Task G)} {pid : Nat} {input : Input} {caller : ExpireCaller}
    {e : SessionEnd}
    (run : (sessionMachine G config).Run Machine.unguarded (creation.initial config) w)
    (ht : w.tasks[pid]? = some (.expire .reconnectTimeout caller (.commit e)))
    (step : (sessionMachine G config).step w (.run pid input) = some w')
    (isOpen : w.shared.store.ended = false) (ended : w'.shared.store.ended = true) :
    w'.shared.store.EndedWith e ∧ ∃ before after,
      ExpiryRead creation config w pid .reconnectTimeout e before ∧
      w'.shared.session = some after ∧
      (after.BlamesOverdue w'.shared.clock e ↔ before.AwayOverdue after w'.shared.clock) ∧
      ∀ role r, e.participantResults.get role = some r → r.handoff = none ∨
        r.handoff = prolificHandoff config r.outcome before.lifecycle.isRunning := by
  obtain ⟨before, read⟩ := expiryRead_of_run run ht
  obtain ⟨w₀, w₁, input₀, caller₀, reached, ht₀, here₀, computed, checks, later⟩ := read.checked
  rcases Program.step_cases step with ⟨task, same, -, rfl⟩ |
    ⟨pid', input', task, cell', task', started, same, ht', hs, rfl⟩
  · cases same
  cases same
  cases Option.some.inj (ht.symm.trans ht')
  obtain ⟨sec, hn, -, rfl⟩ := session_step hs
  obtain ⟨⟨sec', pc'⟩, commits, he⟩ := Option.map_eq_some_iff.mp hn
  cases he
  simp only [ExpirePc.step] at commits
  split at commits
  · cases commits
    cases here : w.shared.session with
    | none =>
      rw [(rowEndsFirst_valid run).inv.gone here] at isOpen
      cases isOpen
    | some after =>
      refine ⟨(SessionStore.endSession_open isOpen).2, before, after, read, here, ?_, ?_⟩
      · exact LiveSession.blamesOverdue_iff (seated_of_run reached here₀) (seated_of_run run here)
          (seatsKept_of_run reached (later.head trivial checks) here₀ here) computed
      · exact fun role r got => expiredSessionEnd_handoff computed got
  · -- The store failed, and the row is still open.
    cases commits
    rw [show w.shared.store.ended = true from ended] at isOpen
    cases isOpen

namespace TallyAction

/-- Human B joins and opens no socket; human A connects at 0, leaves, and is timed out at 15. -/
def unopened : List TallyAction :=
  [.spawn (.pair (human 2) .find)] ++ steps 0 6 0 ++
  [.spawn (.socket ⟨.human 1, .A⟩ .register)] ++ steps 1 10 0 ++ closing 1 0 ++
  steps 2 1 15000000000

def timedOut : List TallyAction := opening ++ closing 1 0 ++ steps 3 1 15000000000

/-- The expiry's check at 15, with its choice among the missing participants, and its commit. -/
def expiring (pid pick : Nat) : List TallyAction := [.run pid { now := 15000000000, pick }]

/-- A task's commit of a reconnect timeout at 15, the row it ends and the session it leaves. -/
def timesOut (pid : Nat) (w : Pool (Cell tallyGame) (Task tallyGame)) :
    Option (SessionEnd × Pool (Cell tallyGame) (Task tallyGame)) :=
  match w.tasks[pid]? with
  | some (.expire .reconnectTimeout _ (.commit e)) =>
    ((sessionMachine tallyGame {}).step w (.run pid { now := 15000000000 })).bind fun w' =>
      if !w.shared.store.ended && w'.shared.store.ended then some (e, w') else none
  | _ => none

theorem of_timesOut {pid : Nat} {w w' : Pool (Cell tallyGame) (Task tallyGame)} {e : SessionEnd}
    (h : timesOut pid w = some (e, w')) :
    (∃ caller, w.tasks[pid]? = some (.expire .reconnectTimeout caller (.commit e))) ∧
      (sessionMachine tallyGame {}).step w (.run pid { now := 15000000000 }) = some w' ∧
      w.shared.store.ended = false ∧ w'.shared.store.ended = true := by
  unfold timesOut at h
  split at h
  · rename_i caller e' ht
    obtain ⟨w'', step, h⟩ := Option.bind_eq_some_iff.mp h
    split at h
    · rename_i ends
      cases h
      simp only [Bool.and_eq_true, Bool.not_eq_true'] at ends
      exact ⟨⟨caller, ht⟩, step, ends⟩
    · cases h
  · cases h

/-- What an end says of human B, who is to the server not connected and without a deadline. -/
def blameOfB (e : SessionEnd) (w : Pool (Cell tallyGame) (Task tallyGame)) :
    Option (SessionEndCause × PlayerRole × Bool × Bool × Option Timestamp ×
      Option ParticipantOutcomeKind) :=
  w.shared.session.bind fun session => (session.participants.lookup (.human 2)).map fun p =>
    (e.cause, p.role, p.isAgent, p.connected, p.reconnectDeadlineAt,
      e.participantResults.b.map (·.outcome))

end TallyAction

/-- Human A is timed out while human B never had a socket: the end blames human B. -/
theorem reconnect_blames_unopened :
    ∃ w w' caller e session p,
      (sessionMachine tallyGame {}).Run Machine.unguarded (TallyAction.creation.initial {}) w ∧
      w.tasks[2]? = some (.expire .reconnectTimeout caller (.commit e)) ∧
      (sessionMachine tallyGame {}).step w (.run 2 { now := 15000000000 }) = some w' ∧
      w.shared.store.ended = false ∧ w'.shared.store.ended = true ∧
      w'.shared.session = some session ∧ session.participants.lookup (.human 2) = some p ∧
      p.reconnectDeadlineAt = none ∧ e.cause = .reconnectTimedOut p.role.asStr ∧
      ¬ session.BlamesOverdue w'.shared.clock e := by
  have h : ((sessionMachine tallyGame {}).exec (TallyAction.creation.initial {})
      (TallyAction.unopened ++ TallyAction.expiring 2 1)).bind (fun w =>
        (TallyAction.timesOut 2 w).bind fun (e, w') => TallyAction.blameOfB e w') =
      some (.reconnectTimedOut "B", .B, false, false, none, some .connectionLost) := rfl
  obtain ⟨w, hw, h⟩ := Option.bind_eq_some_iff.mp h
  obtain ⟨⟨e, w'⟩, commits, h⟩ := Option.bind_eq_some_iff.mp h
  obtain ⟨⟨caller, ht⟩, step, isOpen, ended⟩ := TallyAction.of_timesOut commits
  obtain ⟨session, here, h⟩ := Option.bind_eq_some_iff.mp h
  obtain ⟨p, found, h⟩ := Option.map_eq_some_iff.mp h
  simp only [Prod.mk.injEq] at h
  obtain ⟨cause, role, human, away, noDeadline, outcome⟩ := h
  obtain ⟨r, got, outcome⟩ := Option.map_eq_some_iff.mp outcome
  refine ⟨w, w', caller, e, session, p, .of_exec_unguarded hw, ht, step, isOpen, ended, here,
    found, noDeadline, by rw [cause, role]; rfl, fun blames => ?_⟩
  have past := blames.lost _ p r found human (by rw [role]; exact got) outcome
  rw [noDeadline] at past
  cases past

/-- Human A alone is missing and past the deadline: the end blames human A. -/
theorem reconnect_blame_alone :
    ∃ (w w' : Pool (Cell tallyGame) (Task tallyGame)) (e : SessionEnd)
      (before after : LiveSession tallyGame),
      TallyAction.timesOut 3 w = some (e, w') ∧ w'.shared.store.EndedWith e ∧
      ExpiryRead TallyAction.creation {} w 3 .reconnectTimeout e before ∧
      w'.shared.session = some after ∧
      (after.BlamesOverdue w'.shared.clock e ↔ before.AwayOverdue after w'.shared.clock) := by
  have h : (((sessionMachine tallyGame {}).exec (TallyAction.creation.initial {})
      (TallyAction.timedOut ++ TallyAction.expiring 3 0)).bind (TallyAction.timesOut 3)).isSome =
        true := rfl
  obtain ⟨⟨e, w'⟩, h⟩ := Option.isSome_iff_exists.mp h
  obtain ⟨w, hw, commits⟩ := Option.bind_eq_some_iff.mp h
  obtain ⟨⟨caller, ht⟩, step, isOpen, ended⟩ := TallyAction.of_timesOut commits
  obtain ⟨ends, before, after, read, here, iff, -⟩ :=
    reconnect_blame_iff (.of_exec_unguarded hw) ht step isOpen ended
  exact ⟨w, w', e, before, after, commits, ends, read, here, iff⟩

end Parlando
