import Parlando.Upgrade

namespace Parlando

open Concurrency

namespace UpgradeTicketClaims

variable {claims other : UpgradeTicketClaims}

theorem sameUse_iff : claims.sameUse other = true ↔
    claims.publicSessionId = other.publicSessionId ∧
      claims.participantSessionId = other.participantSessionId ∧ claims.purpose = other.purpose := by
  simp [sameUse, and_assoc]

theorem sameUse_refl (claims : UpgradeTicketClaims) : claims.sameUse claims = true :=
  sameUse_iff.mpr ⟨rfl, rfl, rfl⟩

theorem sameUse_comm : claims.sameUse other = other.sameUse claims := by
  rw [Bool.eq_iff_iff, sameUse_iff, sameUse_iff]
  exact ⟨fun ⟨session, participant, purpose⟩ => ⟨session.symm, participant.symm, purpose.symm⟩,
    fun ⟨session, participant, purpose⟩ => ⟨session.symm, participant.symm, purpose.symm⟩⟩

end UpgradeTicketClaims

/-- A ticket carries the identity of the credential that obtained it and lives for its time. -/
structure IssuedTicket.Sound (issued : IssuedTicket) : Prop where
  participant : issued.ticket.claims.participantSessionId = issued.credential.participantSessionId
  generation : issued.ticket.claims.generation = issued.credential.generation
  expires : issued.ticket.claims.expiresAt = issued.issuedAt + ticketLifetimeSeconds

/-- The registry holds at most one ticket for each use, the one issued last. -/
structure Upgrades.Sound (s : Upgrades) : Prop where
  fresh : ∀ e ∈ s.store.tickets, e.ticket < s.store.nextTicket
  distinct : s.store.tickets.Pairwise fun a b => a.claims.sameUse b.claims = false
  latest : ∀ e ∈ s.store.tickets, (s.latest e.claims).map IssuedTicket.ticket = some e
  issued : ∀ i ∈ s.issued, i.Sound

namespace Upgrades

variable {s : Upgrades}

theorem latest_append {s' : Upgrades} {issued : IssuedTicket}
    (appended : s'.issued = s.issued ++ [issued]) (claims : UpgradeTicketClaims) :
    s'.latest claims =
      if issued.ticket.claims.sameUse claims then some issued else s.latest claims := by
  rw [latest, latest, appended, List.filter_append, List.filter_singleton]
  cases issued.ticket.claims.sameUse claims with
  | true => exact List.getLast?_concat
  | false => exact congrArg List.getLast? (List.append_nil _)

theorem mem_of_latest {claims : UpgradeTicketClaims} {issued : IssuedTicket}
    (latest : s.latest claims = some issued) : issued ∈ s.issued :=
  List.mem_of_mem_filter (List.mem_of_getLast? latest)

/-- Fewer tickets in the registry keep it sound, whatever becomes of the rest. -/
theorem Sound.of_sublist {s' : Upgrades} (sound : s.Sound)
    (fewer : s'.store.tickets.Sublist s.store.tickets)
    (next : s'.store.nextTicket = s.store.nextTicket) (issued : s'.issued = s.issued) :
    s'.Sound where
  fresh e mem := next ▸ sound.fresh e (fewer.subset mem)
  distinct := sound.distinct.sublist fewer
  latest e mem := by
    rw [Upgrades.latest, issued]
    exact sound.latest e (fewer.subset mem)
  issued i mem := sound.issued i (issued ▸ mem)

/-- Issuing a ticket supersedes the one issued before for the same use. -/
theorem Sound.issue {claims : UpgradeTicketClaims} {record : ParticipantCredentialRecord}
    {now : Int} (sound : s.Sound)
    (new : IssuedTicket.Sound ⟨⟨s.store.nextTicket, claims⟩, record, now⟩) :
    Sound { s with
      store := s.store.issue claims now
      issued := s.issued ++ [⟨⟨s.store.nextTicket, claims⟩, record, now⟩] } := by
  have kept {e : UpgradeTicket} (mem : e ∈ (s.store.issue claims now).tickets) :
      (e ∈ s.store.tickets ∧ e.claims.sameUse claims = false) ∨ e = ⟨s.store.nextTicket, claims⟩ := by
    rcases List.mem_append.mp mem with old | new
    · obtain ⟨old, other⟩ := List.mem_filter.mp old
      exact .inl ⟨List.mem_of_mem_filter old, by simpa using other⟩
    · exact .inr (List.mem_singleton.mp new)
  refine ⟨fun e mem => ?_, ?_, fun e mem => ?_, fun i mem => ?_⟩
  · rcases kept mem with ⟨old, -⟩ | rfl
    · exact Nat.lt_succ_of_lt (sound.fresh e old)
    · exact Nat.lt_succ_self _
  · refine List.pairwise_append.mpr ⟨?_, List.pairwise_singleton _ _, fun a aMem b bMem => ?_⟩
    · exact (sound.distinct.filter _).filter _
    · rw [List.mem_singleton.mp bMem]
      simpa using (List.mem_filter.mp aMem).2
  · rw [latest_append (s := s) rfl]
    rcases kept mem with ⟨old, other⟩ | rfl
    · rw [UpgradeTicketClaims.sameUse_comm, other]
      exact sound.latest e old
    · rw [if_pos (UpgradeTicketClaims.sameUse_refl claims)]
      rfl
  · rcases List.mem_append.mp mem with old | mem
    · exact sound.issued i old
    · rw [List.mem_singleton.mp mem]
      exact new

end Upgrades

def Taken (call : UpgradeRequest) (claims : UpgradeTicketClaims) (consumed : Upgrades) : Prop :=
  ∃ issued, consumed.latest claims = some issued ∧ issued.ticket = ⟨call.ticket, claims⟩ ∧
    issued.Sound

/-- An accepted upgrade is one the ticket it redeems was issued for, made while it was good. -/
structure UpgradeConnection.Sound (call : UpgradeRequest) (connection : UpgradeConnection) :
    Prop where
  /-- The ticket was not superseded, and the one of the credential that obtained it. -/
  taken : Taken call connection.claims connection.consumed
  purpose : connection.claims.purpose = call.purpose
  session : connection.claims.publicSessionId = call.publicSessionId
  lifetime : connection.reading < connection.claims.expiresAt
  /-- The generation was active when the request looked for it, after it had taken the ticket. -/
  active : connection.checked.auth.generationIsActive connection.claims.participantSessionId
    connection.claims.generation connection.reading = true
  order : connection.consumed.clock ≤ connection.reading ∧
    connection.reading ≤ connection.checked.clock ∧
    connection.checked.clock ≤ connection.looked.clock
  role : connection.looked.participantRole call.publicSessionId
    connection.claims.participantSessionId = .ok connection.role
  claimed : connection.claims.role = connection.role

/-- What is known of a task at its point. -/
def UpgradeTask.Sound (clock : Int) : UpgradeTask → Prop
  | .plan _ (.insert record claims now) =>
    claims.participantSessionId = record.participantSessionId ∧
      claims.generation = record.generation ∧ claims.expiresAt = now + ticketLifetimeSeconds
  | .socket call (.validate claims consumed) => Taken call claims consumed ∧ consumed.clock ≤ clock
  | .socket call (.generation claims consumed reading) =>
    Taken call claims consumed ∧ claims.valid call.purpose call.publicSessionId reading = true ∧
      consumed.clock ≤ reading ∧ reading ≤ clock
  | .socket call (.lookup claims consumed reading checked) =>
    Taken call claims consumed ∧ claims.valid call.purpose call.publicSessionId reading = true ∧
      consumed.clock ≤ reading ∧ reading ≤ checked.clock ∧ checked.clock ≤ clock ∧
      checked.auth.generationIsActive claims.participantSessionId claims.generation reading = true
  | .socket call (.opened connection) => connection.Sound call
  | _ => True

def UpgradeTask.ticket? : UpgradeTask → Option Nat
  | .socket call (.validate _ _) | .socket call (.generation _ _ _)
  | .socket call (.lookup _ _ _ _) | .socket call (.opened _) => some call.ticket
  | _ => none

def Upgrades.Gone (s : Upgrades) (ticket : Nat) : Prop :=
  ticket < s.store.nextTicket ∧ ∀ e ∈ s.store.tickets, e.ticket ≠ ticket

theorem UpgradeTask.Sound.mono {clock clock' : Int} {task : UpgradeTask}
    (sound : task.Sound clock) (later : clock ≤ clock') : task.Sound clock' := by
  unfold UpgradeTask.Sound at sound ⊢
  split at sound
  · exact sound
  · exact ⟨sound.1, Int.le_trans sound.2 later⟩
  · obtain ⟨taken, valid, before, after⟩ := sound
    exact ⟨taken, valid, before, Int.le_trans after later⟩
  · obtain ⟨taken, valid, before, after, checked, active⟩ := sound
    exact ⟨taken, valid, before, after, Int.le_trans checked later, active⟩
  · exact sound
  · trivial

section

variable {voiceEnabled : Bool} {s s' : Upgrades} {input : UpgradeInput}

theorem remove_some {store store' : UpgradeTicketStore} {ticket : Nat}
    {claims : UpgradeTicketClaims} (removed : store.remove ticket = some (claims, store')) :
    ⟨ticket, claims⟩ ∈ store.tickets ∧ store'.nextTicket = store.nextTicket ∧
      store'.tickets = store.tickets.filter fun e => e.ticket != ticket := by
  obtain ⟨e, found, same⟩ := Option.map_eq_some_iff.mp removed
  cases same
  have number : e.ticket = ticket := by simpa using List.find?_some found
  subst number
  exact ⟨List.mem_of_find?_eq_some found, rfl, rfl⟩

/-- Steps of a request for a ticket issue the ticket, or leave the registry alone. -/
theorem PlanPc.step_sound {call : PlanCall} {pc pc' : PlanPc}
    (sound : s.Sound) (asn : (UpgradeTask.plan call pc).Sound s.clock)
    (h : pc.step voiceEnabled call s input = some (s', pc')) :
    s'.Sound ∧ s'.clock = s.clock ∧ (UpgradeTask.plan call pc').Sound s.clock := by
  cases pc with
  | read =>
    cases h
    exact ⟨sound, rfl, trivial⟩
  | authenticate reading =>
    simp only [PlanPc.step] at h
    split at h <;> cases h <;> exact ⟨sound, rfl, trivial⟩
  | role record =>
    simp only [PlanPc.step] at h
    split at h <;> cases h
    · exact ⟨sound, rfl, trivial⟩
    · split <;> exact ⟨sound, rfl, trivial⟩
  | accepts record member =>
    simp only [PlanPc.step] at h
    split at h
    · cases h
      exact ⟨sound, rfl, trivial⟩
    · split at h <;> cases h <;> exact ⟨sound, rfl, trivial⟩
  | stamp record member =>
    cases h
    exact ⟨sound, rfl, rfl, rfl, rfl⟩
  | insert record claims now =>
    cases h
    obtain ⟨participant, generation, expires⟩ := asn
    exact ⟨sound.issue ⟨participant, generation, expires⟩, rfl, trivial⟩
  | returned | disabled | refused => cases h

/-- Steps of a redemption take a ticket out of the registry, or leave it alone. -/
theorem UpgradePc.step_sound {call : UpgradeRequest} {pc pc' : UpgradePc}
    (sound : s.Sound) (asn : (UpgradeTask.socket call pc).Sound s.clock)
    (now : input.now = s.clock) (h : pc.step call s input = some (s', pc')) :
    s'.Sound ∧ s'.clock = s.clock ∧ (UpgradeTask.socket call pc').Sound s.clock := by
  cases pc with
  | origin =>
    simp only [UpgradePc.step] at h
    split at h <;> cases h <;> exact ⟨sound, rfl, trivial⟩
  | consume =>
    simp only [UpgradePc.step] at h
    split at h
    · cases h
      exact ⟨sound, rfl, trivial⟩
    · rename_i claims store removed
      cases h
      obtain ⟨mem, next, rest⟩ := remove_some removed
      refine ⟨sound.of_sublist (rest ▸ List.filter_sublist) next rfl, rfl, ?_, Int.le_refl _⟩
      obtain ⟨issued, latest, same⟩ := Option.map_eq_some_iff.mp (sound.latest _ mem)
      exact ⟨issued, latest, same, sound.issued issued (Upgrades.mem_of_latest latest)⟩
  | validate claims consumed =>
    obtain ⟨taken, before⟩ := asn
    simp only [UpgradePc.step] at h
    split at h <;> cases h
    · rename_i valid
      exact ⟨sound, rfl, taken, valid, now ▸ before, Int.le_of_eq now⟩
    · exact ⟨sound, rfl, trivial⟩
  | generation claims consumed reading =>
    obtain ⟨taken, valid, before, after⟩ := asn
    simp only [UpgradePc.step] at h
    split at h <;> cases h
    · rename_i active
      exact ⟨sound, rfl, taken, valid, before, after, Int.le_refl _, active⟩
    · exact ⟨sound, rfl, trivial⟩
  | lookup claims consumed reading checked =>
    obtain ⟨taken, valid, before, after, looked, active⟩ := asn
    simp only [UpgradePc.step] at h
    split at h
    · cases h
      exact ⟨sound, rfl, trivial⟩
    · rename_i role member
      split at h <;> cases h
      · rename_i claimed
        simp only [UpgradeTicketClaims.valid, Bool.and_eq_true, decide_eq_true_eq, beq_iff_eq]
          at valid
        exact ⟨sound, rfl, taken, valid.1.2, valid.2, valid.1.1, active, ⟨before, after, looked⟩,
          member, claimed⟩
      · exact ⟨sound, rfl, trivial⟩
  | opened | refused => cases h

theorem UpgradeEvent.apply_sound {event : UpgradeEvent} (sound : s.Sound)
    (h : event.apply s = some s') : s'.Sound ∧ s'.clock = s.clock := by
  cases event with
  | issueCredential | revokeParticipantSession | setMembers =>
    cases h
    exact ⟨sound.of_sublist (List.Sublist.refl _) rfl rfl, rfl⟩
  | cleanupCredentials reading =>
    simp only [UpgradeEvent.apply] at h
    split at h <;> cases h
    exact ⟨sound.of_sublist (List.Sublist.refl _) rfl rfl, rfl⟩
  | cleanupTickets reading =>
    simp only [UpgradeEvent.apply] at h
    split at h <;> cases h
    exact ⟨sound.of_sublist List.filter_sublist rfl rfl, rfl⟩

/-- A request for a ticket changes the registry only where it issues the ticket. -/
theorem PlanPc.step_store {call : PlanCall} {pc pc' : PlanPc}
    (h : pc.step voiceEnabled call s input = some (s', pc')) :
    s' = s ∨ ∃ claims now, s'.store = s.store.issue claims now := by
  cases pc with
  | insert record claims now =>
    cases h
    exact .inr ⟨claims, now, rfl⟩
  | read | stamp =>
    cases h
    exact .inl rfl
  | authenticate | role =>
    simp only [PlanPc.step] at h
    split at h <;> cases h <;> exact .inl rfl
  | accepts =>
    simp only [PlanPc.step] at h
    split at h
    · cases h
      exact .inl rfl
    · split at h <;> cases h <;> exact .inl rfl
  | returned | disabled | refused => cases h

/-- A redemption changes the registry only where it takes its ticket, which it holds from then on. -/
theorem UpgradePc.step_store {call : UpgradeRequest} {pc pc' : UpgradePc}
    (h : pc.step call s input = some (s', pc')) :
    (s' = s ∧ ∀ ticket, (UpgradeTask.socket call pc').ticket? = some ticket →
      (UpgradeTask.socket call pc).ticket? = some ticket) ∨
    ∃ claims store, s.store.remove call.ticket = some (claims, store) ∧ s' = { s with store } := by
  cases pc with
  | origin =>
    simp only [UpgradePc.step] at h
    split at h <;> cases h <;> exact .inl ⟨rfl, fun _ holds => by cases holds⟩
  | consume =>
    simp only [UpgradePc.step] at h
    split at h <;> cases h
    · exact .inl ⟨rfl, fun _ holds => by cases holds⟩
    · rename_i claims store removed
      exact .inr ⟨claims, store, removed, rfl⟩
  | validate | generation =>
    simp only [UpgradePc.step] at h
    split at h <;> cases h <;> exact .inl ⟨rfl, fun _ holds => by cases holds <;> rfl⟩
  | lookup =>
    simp only [UpgradePc.step] at h
    split at h
    · cases h
      exact .inl ⟨rfl, fun _ holds => by cases holds⟩
    · split at h <;> cases h <;> exact .inl ⟨rfl, fun _ holds => by cases holds <;> rfl⟩
  | opened | refused => cases h

theorem UpgradeEvent.apply_store {event : UpgradeEvent} (h : event.apply s = some s') :
    s'.store.nextTicket = s.store.nextTicket ∧
      s'.store.tickets.Sublist s.store.tickets := by
  cases event with
  | issueCredential | revokeParticipantSession | setMembers =>
    cases h
    exact ⟨rfl, List.Sublist.refl _⟩
  | cleanupCredentials | cleanupTickets =>
    simp only [UpgradeEvent.apply] at h
    split at h <;> cases h
    exact ⟨rfl, by first | exact List.Sublist.refl _ | exact List.filter_sublist⟩

namespace Upgrades

variable {ticket : Nat}

theorem Gone.of_sublist (gone : s.Gone ticket) (next : s'.store.nextTicket = s.store.nextTicket)
    (fewer : s'.store.tickets.Sublist s.store.tickets) : s'.Gone ticket :=
  ⟨next ▸ gone.1, fun e mem => gone.2 e (fewer.subset mem)⟩

theorem Gone.issue (gone : s.Gone ticket) {claims : UpgradeTicketClaims} {now : Int}
    (issued : s'.store = s.store.issue claims now) : s'.Gone ticket := by
  rw [Gone, issued]
  refine ⟨Nat.lt_succ_of_lt gone.1, fun e mem => ?_⟩
  rcases List.mem_append.mp mem with old | new
  · exact gone.2 e (List.mem_of_mem_filter (List.mem_of_mem_filter old))
  · rw [List.mem_singleton.mp new]
    exact (Nat.ne_of_lt gone.1).symm

/-- A ticket that is gone stays gone. -/
theorem Gone.next {task task' : UpgradeTask} (gone : s.Gone ticket)
    (h : task.next voiceEnabled s input = some (s', task')) : s'.Gone ticket := by
  cases task with
  | plan call pc =>
    obtain ⟨⟨_, pc'⟩, hs, he⟩ := Option.map_eq_some_iff.mp h
    cases he
    rcases PlanPc.step_store hs with rfl | ⟨claims, now, issued⟩
    · exact gone
    · exact gone.issue issued
  | socket call pc =>
    obtain ⟨⟨_, pc'⟩, hs, he⟩ := Option.map_eq_some_iff.mp h
    cases he
    rcases UpgradePc.step_store hs with ⟨rfl, -⟩ | ⟨claims, store, removed, rfl⟩
    · exact gone
    · obtain ⟨-, next, rest⟩ := remove_some removed
      exact gone.of_sublist next (rest ▸ List.filter_sublist)
  | others =>
    obtain ⟨s'', applied, he⟩ := Option.map_eq_some_iff.mp h
    cases he
    obtain ⟨event, -, applied⟩ := Option.bind_eq_some_iff.mp applied
    obtain ⟨next, fewer⟩ := UpgradeEvent.apply_store applied
    exact gone.of_sublist next fewer

end Upgrades

/-- Whoever holds a ticket after a step held it before, or has just taken it. -/
theorem UpgradeTask.next_ticket {task task' : UpgradeTask} {ticket : Nat} (sound : s.Sound)
    (h : task.next voiceEnabled s input = some (s', task')) (holds : task'.ticket? = some ticket) :
    task.ticket? = some ticket ∨ (∃ e ∈ s.store.tickets, e.ticket = ticket) ∧ s'.Gone ticket := by
  cases task with
  | plan call pc =>
    obtain ⟨⟨_, pc'⟩, hs, he⟩ := Option.map_eq_some_iff.mp h
    cases he
    cases holds
  | socket call pc =>
    obtain ⟨⟨_, pc'⟩, hs, he⟩ := Option.map_eq_some_iff.mp h
    cases he
    rcases UpgradePc.step_store hs with ⟨-, before⟩ | ⟨claims, store, removed, rfl⟩
    · exact .inl (before ticket holds)
    · obtain ⟨mem, next, rest⟩ := remove_some removed
      have same : ticket = call.ticket := by
        cases pc' <;> cases holds <;> rfl
      subst same
      refine .inr ⟨⟨_, mem, rfl⟩, next ▸ sound.fresh _ mem, fun e eMem => ?_⟩
      rw [rest] at eMem
      simpa using (List.mem_filter.mp eMem).2
  | others =>
    obtain ⟨s'', applied, he⟩ := Option.map_eq_some_iff.mp h
    cases he
    cases holds

/-- A step keeps what is known of the registry and of its own task. -/
theorem UpgradeTask.next_sound {task task' : UpgradeTask} (sound : s.Sound)
    (asn : task.Sound s.clock) (now : input.now = s.clock)
    (h : task.next voiceEnabled s input = some (s', task')) :
    s'.Sound ∧ s'.clock = s.clock ∧ task'.Sound s.clock := by
  cases task with
  | plan call pc =>
    obtain ⟨⟨_, pc'⟩, hs, he⟩ := Option.map_eq_some_iff.mp h
    cases he
    exact PlanPc.step_sound sound asn hs
  | socket call pc =>
    obtain ⟨⟨_, pc'⟩, hs, he⟩ := Option.map_eq_some_iff.mp h
    cases he
    exact UpgradePc.step_sound sound asn now hs
  | others =>
    obtain ⟨s'', applied, he⟩ := Option.map_eq_some_iff.mp h
    cases he
    obtain ⟨event, -, applied⟩ := Option.bind_eq_some_iff.mp applied
    obtain ⟨sound, clock⟩ := UpgradeEvent.apply_sound sound applied
    exact ⟨sound, clock, trivial⟩

theorem upgradeProgram_step {task task' : UpgradeTask} {pid : Nat} {started : List UpgradeTask}
    (h : (upgradeProgram voiceEnabled).step s pid task input = some (s', task', started)) :
    s.clock ≤ input.now ∧ started = [] ∧
      task.next voiceEnabled { s with clock := input.now } input = some (s', task') := by
  simp only [upgradeProgram] at h
  split at h
  · cases h
  · rename_i late
    obtain ⟨⟨_, task''⟩, hs, he⟩ := Option.map_eq_some_iff.mp h
    cases he
    exact ⟨Int.not_lt.mp late, rfl, hs⟩

def upgradeOutline (voiceEnabled : Bool) :
    Outline (upgradeProgram voiceEnabled) Machine.unguarded where
  inv s := s.Sound
  asn s _ task := task.Sound s.clock ∧ ∀ ticket, task.ticket? = some ticket → s.Gone ticket
  entry := by
    intro w t pid _ _ entry
    have none : t.ticket? = none ∧ t.Sound w.shared.clock := by
      unfold upgradeProgram at entry
      revert entry
      dsimp only
      split <;> intro entry <;> first | exact ⟨rfl, trivial⟩ | cases entry
    exact ⟨none.2, fun ticket holds => by rw [none.1] at holds; cases holds⟩
  step := by
    intro w pid input t s' t' started sound each _ ht h
    obtain ⟨later, rfl, taken⟩ := upgradeProgram_step h
    obtain ⟨asn, gone⟩ := each pid t ht
    have sound : ({ w.shared with clock := input.now } : Upgrades).Sound :=
      sound.of_sublist (List.Sublist.refl _) rfl rfl
    obtain ⟨sound', clock, asn'⟩ := UpgradeTask.next_sound sound (asn.mono later) rfl taken
    refine ⟨sound', ⟨clock ▸ asn', fun ticket holds => ?_⟩, by simp⟩
    rcases UpgradeTask.next_ticket sound taken holds with before | ⟨-, gone'⟩
    · exact Upgrades.Gone.next (s := { w.shared with clock := input.now })
        (gone ticket before) taken
    · exact gone'
  interference := by
    intro w pid input t s' t' started q u sound each _ ht h other hu asn
    obtain ⟨later, rfl, taken⟩ := upgradeProgram_step h
    have sound : ({ w.shared with clock := input.now } : Upgrades).Sound :=
      sound.of_sublist (List.Sublist.refl _) rfl rfl
    obtain ⟨-, clock, -⟩ :=
      UpgradeTask.next_sound sound ((each pid t ht).1.mono later) rfl taken
    exact ⟨clock ▸ asn.1.mono later, fun ticket holds =>
      Upgrades.Gone.next (s := { w.shared with clock := input.now }) (asn.2 ticket holds) taken⟩

theorem upgradeOutline_initial : (upgradeOutline voiceEnabled).Valid Upgrades.initial :=
  ⟨⟨by simp [Upgrades.initial], by simp [Upgrades.initial], by simp [Upgrades.initial],
    by simp [Upgrades.initial]⟩, fun pid t ht => by simp [Upgrades.initial] at ht⟩

def TakenOnce (w : Pool Upgrades UpgradeTask) : Prop :=
  ∀ (p q : Nat) (t u : UpgradeTask) (ticket : Nat), w.tasks[p]? = some t →
    w.tasks[q]? = some u → t.ticket? = some ticket → u.ticket? = some ticket → p = q

theorem ticket_taken_once {w : Pool Upgrades UpgradeTask}
    (run : (upgradeMachine voiceEnabled).Run Machine.unguarded Upgrades.initial w) :
    TakenOnce w := by
  refine run.invariant_of_reached ?_ ?_
  · intro p q t u ticket hp
    simp [Upgrades.initial] at hp
  intro w w' a reached once _ h
  have valid := Outline.Valid.run reached upgradeOutline_initial
  rcases Program.step_cases h with ⟨new, rfl, entry, rfl⟩ |
    ⟨pid, input, task, s', task', started, rfl, ht, hs, rfl⟩
  · have old {p : Nat} {t : UpgradeTask} {ticket : Nat} (hp : (w.tasks ++ [new])[p]? = some t)
        (holds : t.ticket? = some ticket) : w.tasks[p]? = some t := by
      by_cases inside : p < w.tasks.length
      · exact (List.getElem?_append_left inside).symm.trans hp
      · rw [List.getElem?_append_right (Nat.le_of_not_lt inside)] at hp
        have same : t = new := by simpa using List.mem_of_getElem? hp
        subst same
        unfold upgradeProgram at entry
        dsimp only at entry
        split at entry <;> first | cases holds | cases entry
    intro p q t u ticket hp hq pHolds qHolds
    exact once p q t u ticket (old hp pHolds) (old hq qHolds) pHolds qHolds
  · obtain ⟨later, rfl, taken⟩ := upgradeProgram_step hs
    have sound : ({ w.shared with clock := input.now } : Upgrades).Sound :=
      valid.inv.of_sublist (List.Sublist.refl _) rfl rfl
    -- A ticket in the registry is held by nobody, so the one taken now is new among the held ones.
    have self {q : Nat} {u : UpgradeTask} {ticket : Nat} (other : q ≠ pid)
        (hq : w.tasks[q]? = some u) (pHolds : task'.ticket? = some ticket)
        (qHolds : u.ticket? = some ticket) : False := by
      rcases UpgradeTask.next_ticket sound taken pHolds with before | ⟨⟨e, mem, number⟩, -⟩
      · exact other (once q pid u task ticket hq ht qHolds before)
      · exact ((valid.each q u hq).2 ticket qHolds).2 e mem number
    intro p q t u ticket hp hq pHolds qHolds
    rcases Pool.task_after hp with ⟨rfl, rfl⟩ | ⟨pOther, pOld⟩ | new
    · rcases Pool.task_after hq with ⟨rfl, rfl⟩ | ⟨qOther, qOld⟩ | new
      · rfl
      · exact (self qOther qOld pHolds qHolds).elim
      · simp at new
    · rcases Pool.task_after hq with ⟨rfl, rfl⟩ | ⟨-, qOld⟩ | new
      · exact (self pOther pOld qHolds pHolds).elim
      · exact once p q t u ticket pOld qOld pHolds qHolds
      · simp at new
    · simp at new

end

/--
However requests for tickets, redemptions, revocations and the clock interleave, an accepted upgrade
has a ticket of its own that was issued for it and not superseded, within its lifetime and with its
credential generation active, in the role its participant has; and one ticket is live for each use.
-/
theorem upgrade_tickets_single_use_and_bound {voiceEnabled : Bool} {w : Pool Upgrades UpgradeTask}
    (run : (upgradeMachine voiceEnabled).Run Machine.unguarded Upgrades.initial w) :
    (∀ (pid : Nat) (call : UpgradeRequest) (connection : UpgradeConnection),
      w.tasks[pid]? = some (.socket call (.opened connection)) → connection.Sound call) ∧
    (∀ (p q : Nat) (call call' : UpgradeRequest) (connection connection' : UpgradeConnection),
      w.tasks[p]? = some (.socket call (.opened connection)) →
      w.tasks[q]? = some (.socket call' (.opened connection')) → call.ticket = call'.ticket →
      p = q) ∧
    w.shared.store.tickets.Pairwise fun a b => a.claims.sameUse b.claims = false := by
  have valid := Outline.Valid.run run upgradeOutline_initial
  refine ⟨fun pid call connection ht => (valid.each pid _ ht).1, ?_, valid.inv.distinct⟩
  intro p q call call' connection connection' hp hq same
  exact ticket_taken_once run p q _ _ call.ticket hp hq rfl (congrArg some same.symm)

def openGame : List (Pool.Action UpgradeTask UpgradeInput) :=
  let event (now : Int) (event : UpgradeEvent) : Pool.Action UpgradeTask UpgradeInput :=
    .run 0 { now, event := some event }
  [.spawn .others, event 0 (.issueCredential (.human 0)),
    event 0 (.setMembers (AList.singleton "s_1" (AList.singleton (.human 0) .A))),
    .spawn (.plan ⟨0, "s_1", .game⟩ .read), .run 1 { now := 1 }, .run 1 { now := 1 },
    .run 1 { now := 1 }, .run 1 { now := 2 }, .run 1 { now := 2 },
    .spawn (.socket ⟨0, "s_1", .game⟩ .origin), .run 2 { now := 3 }, .run 2 { now := 3 },
    .run 2 { now := 4 }, .run 2 { now := 4 }, .run 2 { now := 5 }]

theorem game_opened_with_ticket :
    ∃ w, (upgradeMachine false).exec Upgrades.initial openGame = some w ∧
      ∃ connection, w.tasks[2]? = some (.socket ⟨0, "s_1", .game⟩ (.opened connection)) ∧
        connection.role = .A ∧ connection.Sound ⟨0, "s_1", .game⟩ := by
  have reached : (upgradeMachine false).exec Upgrades.initial openGame = some _ := rfl
  exact ⟨_, reached, _, rfl, rfl,
    (upgrade_tickets_single_use_and_bound (.of_exec_unguarded reached)).1 2 _ _ rfl⟩

end Parlando
