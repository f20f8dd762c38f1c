import Parlando.Expiry
import Parlando.Proofs.Steps

namespace Parlando

open Concurrency

variable {G : Game} {config : ExperimentConfig} {s s' : Registry G}

theorem Runtime.mem_members {runtime : Runtime G} {id : ParticipantSessionId}
    (playing : runtime.playing id = true) : id ∈ runtime.members := by
  obtain ⟨session, mem, here⟩ := List.any_eq_true.mp playing
  rw [Bool.and_eq_true, List.contains_iff_mem] at here
  exact List.mem_flatMap.mpr ⟨session, mem, here.2⟩

structure RegistryStep (config : ExperimentConfig) (s s' : Registry G) : Prop where
  clock : s.clock ≤ s'.clock
  admitted : ∃ rest, s'.admitted = s.admitted ++ rest
  members : ∀ id ∈ s'.runtime.members,
    id ∈ s.runtime.members ∨ id ∈ s'.admitted.drop s.admitted.length
  /-- An entry is only renewed at the current time. -/
  older : ∀ now ≤ s.clock, ∀ id, s'.isStale config now id = true → s.isStale config now id = true

/-- A step that leaves the sessions alone and renews no entry. -/
theorem RegistryStep.of_participants (clock : s'.clock = s.clock) (admitted : s'.admitted = s.admitted)
    (runtime : s'.runtime = s.runtime)
    (older : ∀ now ≤ s.clock, ∀ id, s'.isStale config now id = true → s.isStale config now id = true) :
    RegistryStep config s s' where
  clock := Int.le_of_eq clock.symm
  admitted := ⟨[], by rw [admitted, List.append_nil]⟩
  members id mem := .inl (by rwa [runtime] at mem)
  older := older

theorem registryStep_of_same (clock : s'.clock = s.clock) (admitted : s'.admitted = s.admitted)
    (runtime : s'.runtime = s.runtime) (participants : s'.participants = s.participants) :
    RegistryStep config s s' :=
  .of_participants clock admitted runtime fun now _ id stale => by
    rwa [Registry.isStale, participants] at stale

theorem withRuntime_step (s : Registry G) (runtime : Runtime G) :
    RegistryStep config s (s.withRuntime runtime) where
  clock := Int.le_refl _
  admitted := ⟨_, rfl⟩
  members id mem := by
    by_cases old : id ∈ s.runtime.members
    · exact .inl old
    · refine .inr ?_
      rw [Registry.withRuntime, List.drop_left]
      exact List.mem_filter.mpr ⟨mem, by simpa using old⟩
  older _ _ _ stale := stale

theorem retain_step (s : Registry G) (keep : ParticipantSessionId → Bool) :
    RegistryStep config s { s with participants := s.participants.retain keep } :=
  .of_participants rfl rfl rfl fun now _ id stale => by
    rw [Registry.isStale, Map.lookup_retain] at stale
    split at stale
    · exact stale
    · cases stale

/-- An entry written at the current time is not stale for a reading made before. -/
theorem Registry.not_stale_now {now : Timestamp} (past : now ≤ s.clock) :
    ¬s.clock < now - Timestamp.seconds (max config.session.waitingSessionTimeoutSeconds 1) := by
  have positive : 0 ≤ Timestamp.seconds (max config.session.waitingSessionTimeoutSeconds 1) :=
    Int.mul_nonneg (Int.le_trans (by decide) (Int.le_max_right _ 1)) (by decide)
  exact Int.not_lt.mpr (Int.le_trans (Int.sub_le_self _ positive) past)

theorem registryEvent_step (s : Registry G) (event : RegistryEvent) :
    RegistryStep config s (event.apply s) := by
  cases event with
  | register id =>
    rw [RegistryEvent.apply]
    split
    · exact registryStep_of_same rfl rfl rfl rfl
    · refine .of_participants rfl rfl rfl fun now past other stale => ?_
      rw [Registry.isStale, Map.lookup_insert_eq] at stale
      split at stale
      · exact absurd (of_decide_eq_true stale) (Registry.not_stale_now past)
      · exact stale
  | issueCredential id => exact registryStep_of_same rfl rfl rfl rfl
  | consent id =>
    refine .of_participants rfl rfl rfl fun now past other stale => ?_
    rw [Registry.isStale, RegistryEvent.apply, Map.lookup_modify] at stale
    split at stale
    · obtain ⟨updatedAt, renewed, stale⟩ := (Option.any_eq_true _ _).mp stale
      obtain ⟨_, _, rfl⟩ := Option.map_eq_some_iff.mp renewed
      exact absurd (of_decide_eq_true stale) (Registry.not_stale_now past)
    · exact stale

theorem CleanerPc.step_registry {now : Timestamp} {pc pc' : CleanerPc}
    (h : pc.step config s now = some (s', pc')) : RegistryStep config s s' := by
  cases pc with
  | readClock | snapshot | stamp =>
    cases h
    exact registryStep_of_same rfl rfl rfl rfl
  | credentials =>
    cases h
    exact registryStep_of_same rfl rfl rfl rfl
  | retain | stale =>
    cases h
    exact retain_step s _
  | revoke inRooms since unattached =>
    cases unattached <;> cases h <;> exact registryStep_of_same rfl rfl rfl rfl
  | done => cases h

theorem RegistryTask.next_step {pid : Nat} {input : RegistryInput G} {task task' : RegistryTask}
    (h : task.next config s pid input = some (s', task')) : RegistryStep config s s' := by
  cases task with
  | runtime task =>
    rw [RegistryTask.next] at h
    split at h
    · cases h
      exact registryStep_of_same rfl rfl rfl rfl
    · obtain ⟨given, _, h⟩ := Option.bind_eq_some_iff.mp h
      obtain ⟨⟨after, task, _⟩, _, h⟩ := Option.map_eq_some_iff.mp h
      cases h
      exact withRuntime_step s after
  | cleaner pc =>
    obtain ⟨⟨t, pc'⟩, stepped, h⟩ := Option.map_eq_some_iff.mp h
    cases h
    exact pc.step_registry stepped
  | others =>
    obtain ⟨event, _, h⟩ := Option.map_eq_some_iff.mp h
    cases h
    exact registryEvent_step s event

namespace Registry

def admitting (config : ExperimentConfig) (w : Pool (Registry G) RegistryTask)
    (a : Pool.Action RegistryTask (RegistryInput G)) : List ParticipantSessionId :=
  ((registryMachine G config).step w a).elim [] fun w' =>
    w'.shared.admitted.drop w.shared.admitted.length

def condemned (config : ExperimentConfig) (w : Pool (Registry G) RegistryTask)
    (id : ParticipantSessionId) : Bool :=
  w.tasks.any fun
    | .cleaner pc => pc.condemns config w.shared id
    | _ => false

/-- A reading of the clock by which nobody counts as stale who was admitted since the snapshot. -/
def readsFairly (config : ExperimentConfig) (w : Pool (Registry G) RegistryTask) :
    Pool.Action RegistryTask (RegistryInput G) → Bool
  | .run pid input => match w.tasks[pid]? with
    | some (.cleaner (.stamp inRooms since)) => (w.shared.admitted.drop since).all fun id =>
      inRooms.contains id || !w.shared.isStale config input.now id
    | _ => true
  | .spawn _ => true

/--
No step admits somebody whom an unfinished cleanup is about to take, and no cleanup finds somebody
stale who was admitted after it looked at the sessions.
-/
def sparesAdmitted (config : ExperimentConfig) (w : Pool (Registry G) RegistryTask)
    (a : Pool.Action RegistryTask (RegistryInput G)) : Bool :=
  ((admitting config w a).all fun id => !condemned config w id) && readsFairly config w a

/-- The step takes the participant's entry or one of the participant's credentials. -/
def Takes (s s' : Registry G) (id : ParticipantSessionId) : Prop :=
  ((s.participants.lookup id).isSome = true ∧ s'.participants.lookup id = none) ∨
  ∃ record ∈ s.auth.records, record.participantSessionId = id ∧ record ∉ s'.auth.records

end Registry

structure CleanerPc.Watches (config : ExperimentConfig) (s : Registry G) (pc : CleanerPc)
    (inRooms : List ParticipantSessionId) (since : Nat) : Prop where
  counted : since ≤ s.admitted.length
  present : ∀ id ∈ s.runtime.members, id ∈ inRooms ∨ id ∈ s.admitted.drop since
  spared : ∀ id ∈ s.admitted.drop since, id ∉ inRooms → pc.condemns config s id = false
  past : ∀ now, pc = .stale inRooms since now → now ≤ s.clock
  absent : ∀ ids, pc = .revoke inRooms since ids → ∀ id ∈ ids, id ∉ inRooms

namespace CleanerPc

variable {pc pc' : CleanerPc} {inRooms : List ParticipantSessionId} {since : Nat}

theorem condemns_antitone (step : RegistryStep config s s')
    (past : ∀ now, pc = .stale inRooms since now → now ≤ s.clock)
    (seen : pc.since? = some (inRooms, since)) {id : ParticipantSessionId}
    (spared : pc.condemns config s id = false) : pc.condemns config s' id = false := by
  cases pc with
  | stale inRooms' since' now =>
    cases seen
    rw [condemns, Bool.and_eq_false_iff] at spared ⊢
    refine spared.imp_right fun fresh => ?_
    by_contra stale
    rw [step.older now (past now rfl) id (by simpa using stale)] at fresh
    cases fresh
  | readClock | credentials | snapshot | retain | stamp | revoke | done => exact spared

end CleanerPc

theorem RegistryStep.drop (step : RegistryStep config s s') {since : Nat}
    (counted : since ≤ s.admitted.length) :
    s'.admitted.drop since = s.admitted.drop since ++ s'.admitted.drop s.admitted.length := by
  obtain ⟨rest, grown⟩ := step.admitted
  rw [grown, List.drop_left, List.drop_append_of_le_length counted]

/-- A cleanup keeps watching while others step. -/
theorem CleanerPc.Watches.other {pc : CleanerPc} {inRooms : List ParticipantSessionId} {since : Nat}
    (watches : pc.Watches config s inRooms since) (seen : pc.since? = some (inRooms, since))
    (step : RegistryStep config s s')
    (spares : ∀ id ∈ s'.admitted.drop s.admitted.length, pc.condemns config s id = false) :
    pc.Watches config s' inRooms since where
  counted := by
    obtain ⟨rest, grown⟩ := step.admitted
    rw [grown, List.length_append]
    exact Nat.le_add_right_of_le watches.counted
  present id mem := by
    rw [step.drop watches.counted, List.mem_append]
    rcases step.members id mem with old | new
    · exact (watches.present id old).imp_right .inl
    · exact .inr (.inr new)
  spared id mem absent := by
    rw [step.drop watches.counted, List.mem_append] at mem
    refine condemns_antitone step watches.past seen ?_
    rcases mem with old | new
    · exact watches.spared id old absent
    · exact spares id new
  past now is := Int.le_trans (watches.past now is) step.clock
  absent := watches.absent

/-- A cleanup's own step leaves the sessions alone, so nobody has been admitted by it. -/
theorem CleanerPc.Watches.self {pc : CleanerPc} {inRooms : List ParticipantSessionId} {since : Nat}
    (watches : pc.Watches config s inRooms since) (seen : pc.since? = some (inRooms, since))
    (step : RegistryStep config s s') (admitted : s'.admitted = s.admitted) :
    pc.Watches config s' inRooms since :=
  watches.other seen step fun id new => by
    rw [admitted, List.drop_length] at new
    cases new

theorem CleanerPc.watches_step {now : Timestamp} {pc pc' : CleanerPc} (past : now ≤ s.clock)
    (watches : ∀ inRooms since, pc.since? = some (inRooms, since) →
      pc.Watches config s inRooms since)
    (fair : ∀ inRooms since, pc = .stamp inRooms since → ∀ id ∈ s.admitted.drop since,
      id ∉ inRooms → s.isStale config now id = false)
    (h : pc.step config s now = some (s', pc')) {inRooms : List ParticipantSessionId} {since : Nat}
    (seen : pc'.since? = some (inRooms, since)) : pc'.Watches config s' inRooms since := by
  have registry := pc.step_registry h
  cases pc with
  | readClock | credentials =>
    cases h
    cases seen
  | snapshot expired =>
    cases h
    cases seen
    exact {
      counted := Nat.le_refl _
      present := fun id mem => .inl mem
      spared := fun id new => by
        rw [List.drop_length] at new
        cases new
      past := fun _ is => by cases is
      absent := fun _ is => by cases is }
  | retain inRooms since expired =>
    cases h
    cases seen
    have kept := (watches _ _ rfl).self rfl registry rfl
    exact { kept with
      spared := fun _ _ _ => rfl
      past := fun _ is => by cases is
      absent := fun _ is => by cases is }
  | stamp inRooms since =>
    cases h
    cases seen
    have kept := (watches _ _ rfl).self rfl registry rfl
    exact { kept with
      spared := fun id new absent => by
        rw [condemns, fair _ _ rfl id new absent, Bool.and_false]
      past := fun _ is => by
        cases is
        exact past
      absent := fun _ is => by cases is }
  | stale inRooms since reading =>
    cases h
    cases seen
    have before := watches _ _ rfl
    have kept := before.self rfl registry rfl
    exact { kept with
      spared := fun id new absent => by
        refine Bool.eq_false_iff.mpr fun taken => ?_
        have condemned := (List.mem_filter.mp (List.contains_iff_mem.mp taken)).2
        exact absurd condemned (Bool.eq_false_iff.mp (before.spared id new absent))
      past := fun _ is => by cases is
      absent := fun _ is id mem => by
        cases is
        have out := (List.mem_filter.mp mem).2
        rw [Bool.and_eq_true] at out
        simpa using out.1 }
  | revoke inRooms since unattached =>
    cases unattached with
    | nil =>
      cases h
      cases seen
    | cons first unattached =>
      cases h
      cases seen
      have before := watches _ _ rfl
      have kept := before.self rfl registry rfl
      exact { kept with
        spared := fun id new absent => by
          have out := before.spared id new absent
          rw [condemns, List.contains_cons, Bool.or_eq_false_iff] at out
          exact out.2
        past := fun _ is => by cases is
        absent := fun _ is id mem => by
          cases is
          exact before.absent _ rfl id (.tail _ mem) }
  | done => cases h

namespace RegistryTask

def Watches (config : ExperimentConfig) (s : Registry G) : RegistryTask → Prop
  | cleaner pc => ∀ inRooms since, pc.since? = some (inRooms, since) →
    pc.Watches config s inRooms since
  | _ => True

end RegistryTask

theorem registryProgram_step {pid : Nat} {input : RegistryInput G} {task task' : RegistryTask}
    {started : List RegistryTask}
    (h : (registryProgram G config).step s pid task input = some (s', task', started)) :
    s.clock ≤ input.now ∧ started = [] ∧
      task.next config { s with clock := input.now } pid input = some (s', task') := by
  change (if input.now < s.clock then none else _) = _ at h
  split at h
  · cases h
  · rename_i now
    obtain ⟨⟨t, u⟩, stepped, h⟩ := Option.map_eq_some_iff.mp h
    cases h
    exact ⟨Int.not_lt.mp now, rfl, stepped⟩

/-- Time passing before a step is part of it. -/
theorem RegistryStep.of_tick {now : Timestamp} (later : s.clock ≤ now)
    (step : RegistryStep config { s with clock := now } s') : RegistryStep config s s' where
  clock := Int.le_trans later step.clock
  admitted := step.admitted
  members := step.members
  older t past id stale := step.older t (Int.le_trans past later) id stale

/-- Time passing alone. -/
theorem RegistryStep.tick {now : Timestamp} (later : s.clock ≤ now) :
    RegistryStep config s { s with clock := now } :=
  .of_tick later (registryStep_of_same rfl rfl rfl rfl)

theorem Registry.admitting_eq {w : Pool (Registry G) RegistryTask} {pid : Nat}
    {input : RegistryInput G} {task task' : RegistryTask} {started : List RegistryTask}
    (ht : w.tasks[pid]? = some task)
    (hs : (registryProgram G config).step w.shared pid task input = some (s', task', started)) :
    Registry.admitting config w (.run pid input) =
      s'.admitted.drop w.shared.admitted.length := by
  have stepped : (registryMachine G config).step w (.run pid input) =
      some ⟨s', w.tasks.set pid task' ++ started⟩ := by
    change (w.tasks[pid]?.bind fun task => _) = _
    rw [ht, Option.bind_some, hs]
    rfl
  rw [Registry.admitting, stepped]
  rfl

def expiryOutline (G : Game) (config : ExperimentConfig) :
    Outline (registryProgram G config) fun w a => Registry.sparesAdmitted config w a = true where
  inv _ := True
  asn s _ task := task.Watches config s
  entry := by
    intro w task pid _ _ entry
    cases task with
    | cleaner pc =>
      intro inRooms since seen
      cases pc with
      | readClock | credentials | snapshot | done => cases seen
      | retain | stamp | stale | revoke => cases entry
    | runtime | others => trivial
  step := by
    intro w pid input task s' task' started _ each met ht hs
    obtain ⟨later, rfl, stepped⟩ := registryProgram_step hs
    refine ⟨trivial, ?_, fun _ new => by cases new⟩
    cases task with
    | runtime task =>
      rw [RegistryTask.next] at stepped
      split at stepped
      · cases stepped
        trivial
      · obtain ⟨given, _, stepped⟩ := Option.bind_eq_some_iff.mp stepped
        obtain ⟨⟨after, task, _⟩, _, stepped⟩ := Option.map_eq_some_iff.mp stepped
        cases stepped
        trivial
    | cleaner pc =>
      obtain ⟨⟨t, pc'⟩, moved, stepped⟩ := Option.map_eq_some_iff.mp stepped
      cases stepped
      intro inRooms since seen
      refine CleanerPc.watches_step (Int.le_refl _) (fun inRooms since seen =>
        (each pid _ ht inRooms since seen).self seen (.tick later) rfl) ?_ moved seen
      rintro inRooms since rfl id new absent
      rw [Registry.sparesAdmitted, Bool.and_eq_true] at met
      have fair := met.2
      simp only [Registry.readsFairly, ht, List.all_eq_true] at fair
      have fresh : w.shared.isStale config input.now id = false := by
        simpa [absent] using fair id new
      exact fresh
    | others =>
      obtain ⟨event, _, stepped⟩ := Option.map_eq_some_iff.mp stepped
      cases stepped
      trivial
  interference := by
    intro w pid input task s' task' started q other _ each met ht hs _ hq watches
    obtain ⟨later, rfl, stepped⟩ := registryProgram_step hs
    cases other with
    | cleaner pc =>
      intro inRooms since seen
      refine (watches inRooms since seen).other seen (.of_tick later (RegistryTask.next_step stepped))
        fun id new => ?_
      rw [Registry.sparesAdmitted, Bool.and_eq_true, Registry.admitting_eq ht hs,
        List.all_eq_true] at met
      have free := met.1 id new
      rw [Bool.not_eq_true', Registry.condemned, List.any_eq_false] at free
      exact Bool.eq_false_iff.mpr (free _ (List.mem_of_getElem? hq))
    | runtime | others => trivial

namespace CleanerPc

variable {pc pc' : CleanerPc} {inRooms : List ParticipantSessionId} {since : Nat} {now : Timestamp}
  {id : ParticipantSessionId}

theorem condemns_of_takes (h : pc.step config s now = some (s', pc'))
    (seen : pc.since? = some (inRooms, since)) (taken : Registry.Takes s s' id) :
    pc.condemns config s id = true := by
  cases pc with
  | readClock | credentials | snapshot | done => cases seen
  | stamp =>
    cases h
    rcases taken with ⟨there, gone⟩ | ⟨record, mem, -, gone⟩
    · rw [gone] at there
      cases there
    · exact absurd mem gone
  | retain inRooms since expired =>
    cases h
    rcases taken with ⟨there, gone⟩ | ⟨record, mem, -, gone⟩
    · rw [Map.lookup_retain] at gone
      split at gone
      · rw [gone] at there
        cases there
      · rename_i dropped
        rw [condemns]
        simpa [and_comm] using dropped
    · exact absurd mem gone
  | stale inRooms since reading =>
    cases h
    rcases taken with ⟨there, gone⟩ | ⟨record, mem, -, gone⟩
    · rw [Map.lookup_retain] at gone
      split at gone
      · rw [gone] at there
        cases there
      · rename_i dropped
        rw [Bool.not_eq_true', Bool.not_eq_false, List.contains_iff_mem] at dropped
        exact (List.mem_filter.mp dropped).2
    · exact absurd mem gone
  | revoke inRooms since unattached =>
    cases unattached with
    | nil =>
      cases h
      rcases taken with ⟨there, gone⟩ | ⟨record, mem, -, gone⟩
      · rw [gone] at there
        cases there
      · exact absurd mem gone
    | cons first unattached =>
      cases h
      rcases taken with ⟨there, gone⟩ | ⟨record, mem, own, gone⟩
      · rw [gone] at there
        cases there
      · have revoked : record.participantSessionId = first := by
          by_contra other
          exact gone (List.mem_filter.mpr ⟨mem, by simpa using other⟩)
        rw [condemns, List.contains_cons, ← own, revoked, beq_self_eq_true, Bool.true_or]

theorem Watches.not_playing (watches : pc.Watches config s inRooms since)
    (seen : pc.since? = some (inRooms, since)) (condemned : pc.condemns config s id = true) :
    id ∉ inRooms ∧ id ∉ s.admitted.drop since := by
  have absent : id ∉ inRooms := by
    cases pc with
    | readClock | credentials | snapshot | stamp | done => cases condemned
    | retain | stale =>
      cases seen
      rw [condemns, Bool.and_eq_true] at condemned
      simpa using condemned.1
    | revoke inRooms' since' unattached =>
      cases seen
      exact watches.absent _ rfl id (List.contains_iff_mem.mp condemned)
  refine ⟨absent, fun new => ?_⟩
  rw [watches.spared id new absent] at condemned
  cases condemned

theorem since?_step (h : pc.step config s now = some (s', pc'))
    (seen : pc.since? = some (inRooms, since)) :
    pc'.since? = some (inRooms, since) ∨ pc' = .done := by
  cases pc with
  | readClock | credentials | snapshot | done => cases seen
  | retain | stamp | stale =>
    cases h
    exact .inl seen
  | revoke inRooms since unattached =>
    cases unattached with
    | nil =>
      cases h
      exact .inr rfl
    | cons => cases h; exact .inl seen

end CleanerPc

/-- A cleanup that has looked at the sessions goes on with what it saw, while admissions add up. -/
theorem checking_after {guard : Pool (Registry G) RegistryTask →
      Pool.Action RegistryTask (RegistryInput G) → Prop}
    {w w' : Pool (Registry G) RegistryTask} {pid : Nat} {pc : CleanerPc}
    {inRooms : List ParticipantSessionId} {since : Nat}
    (run : (registryMachine G config).Run guard w w')
    (checking : w.tasks[pid]? = some (.cleaner pc)) (seen : pc.since? = some (inRooms, since)) :
    (∃ pc', w'.tasks[pid]? = some (.cleaner pc') ∧
      (pc'.since? = some (inRooms, since) ∨ pc' = .done)) ∧
    ∃ rest, w'.shared.admitted = w.shared.admitted ++ rest := by
  refine run.invariant ⟨⟨pc, checking, .inl seen⟩, [], by simp⟩ fun {t u a} before _ h => ?_
  obtain ⟨⟨pc', here, goes⟩, rest, grown⟩ := before
  rcases Program.step_cases h with ⟨task, rfl, -, rfl⟩ |
    ⟨q, input, task, s, task', started, rfl, ht, hs, rfl⟩
  · refine ⟨⟨pc', ?_, goes⟩, rest, grown⟩
    exact (List.getElem?_append_left (List.getElem?_eq_some_iff.mp here).1).trans here
  obtain ⟨later, rfl, stepped⟩ := registryProgram_step hs
  have whole : RegistryStep config t.shared s := .of_tick later (RegistryTask.next_step stepped)
  obtain ⟨more, grew⟩ := whole.admitted
  refine ⟨?_, rest ++ more, by rw [grew, grown, List.append_assoc]⟩
  by_cases own : q = pid
  · subst own
    cases Option.some.inj (ht.symm.trans here)
    obtain ⟨⟨t', pc''⟩, moved, stepped⟩ := Option.map_eq_some_iff.mp stepped
    cases stepped
    refine ⟨pc'', Pool.self_after ht, ?_⟩
    rcases goes with seen | rfl
    · exact CleanerPc.since?_step moved seen
    · cases moved
  · exact ⟨pc', Pool.other_after (Ne.symm own) here, goes⟩

/--
Whom a cleanup takes out of the table, or whose credentials it revokes, has been in no live session
in any state since the cleanup looked at the sessions, as long as nobody is admitted whom an
unfinished cleanup is about to take.
-/
theorem expiry_spares_players {w w₁ w₂ : Pool (Registry G) RegistryTask} {pid : Nat}
    {pc : CleanerPc} {input : RegistryInput G} {id : ParticipantSessionId}
    (run : (registryMachine G config).Run (fun w a => Registry.sparesAdmitted config w a = true)
      (Registry.initial G) w)
    (checking : w.tasks[pid]? = some (.cleaner pc)) (looked : pc.since?.isSome = true)
    (later : (registryMachine G config).Run (fun w a => Registry.sparesAdmitted config w a = true)
      w w₁)
    (step : (registryMachine G config).step w₁ (.run pid input) = some w₂)
    (taken : Registry.Takes w₁.shared w₂.shared id) : w.shared.runtime.playing id = false := by
  obtain ⟨⟨inRooms, since⟩, seen⟩ := Option.isSome_iff_exists.mp looked
  have init : (expiryOutline G config).Valid (Registry.initial G) := ⟨trivial, fun _ _ h => by cases h⟩
  have watches := (init.run run).each pid _ checking inRooms since seen
  obtain ⟨⟨pc₁, here, goes⟩, rest, grown⟩ := checking_after later checking seen
  rcases Program.step_cases step with ⟨_, is, -, -⟩ | ⟨q, given, task, s, task', started, is, ht, hs, rfl⟩
  · cases is
  cases is
  cases Option.some.inj (ht.symm.trans here)
  obtain ⟨-, -, stepped⟩ := registryProgram_step hs
  obtain ⟨⟨t, pc₂⟩, moved, stepped⟩ := Option.map_eq_some_iff.mp stepped
  cases stepped
  rcases goes with seen₁ | rfl
  · have condemned := CleanerPc.condemns_of_takes moved seen₁ taken
    have out := ((init.run (run.trans later)).each pid _ here inRooms since seen₁).not_playing seen₁
      condemned
    refine Bool.eq_false_iff.mpr fun playing => ?_
    rcases watches.present id (Runtime.mem_members playing) with old | new
    · exact out.1 old
    · refine out.2 ?_
      rw [grown, List.drop_append_of_le_length watches.counted]
      exact List.mem_append_left _ new
  · cases moved

abbrev TallyRegistry := Pool.Action RegistryTask (RegistryInput tallyGame)

namespace TallyRegistry

def applicant (serial : Nat) : Applicant :=
  ⟨TallyAction.human serial, TallyAction.human_isHuman serial, TallyAction.human_notAgent serial⟩

/-- A request or a participant does something at some second. -/
def event (second : Int) (event : RegistryEvent) : TallyRegistry :=
  .run 0 { now := Timestamp.seconds second, event }

def requests (pid count : Nat) (second : Int) : List TallyRegistry :=
  List.replicate count (.run pid { now := Timestamp.seconds second, runtime := some (.request
    { now := Timestamp.seconds second, state := some (0 : Nat) }) })

def cleans (pid count : Nat) (second : Int) : List TallyRegistry :=
  List.replicate count (.run pid { now := Timestamp.seconds second })

def arrivals : List TallyRegistry :=
  [.spawn .others, event 0 (.register (.human 1)), event 0 (.issueCredential (.human 1)),
    event 0 (.register (.human 2)), .spawn (.runtime (.request (applicant 1) .existing)),
    .spawn (.cleaner .readClock)]

def seated : List TallyRegistry := arrivals ++ requests 1 11 0 ++ cleans 2 5 700

def overlooked : List TallyRegistry :=
  arrivals ++ requests 1 10 700 ++ cleans 2 3 700 ++ requests 1 1 700 ++ cleans 2 2 700

def hasLooked : RegistryTask → Bool
  | .cleaner pc => pc.since?.isSome
  | _ => false

/-- The cleaner has looked at the sessions, and its next step takes the participant's entry. -/
def taking (w : Pool (Registry tallyGame) RegistryTask) (serial : Nat) : Bool :=
  w.tasks[2]?.any hasLooked &&
  ((registryMachine tallyGame {}).step w (.run 2 { now := Timestamp.seconds 700 })).any fun w' =>
    (w.shared.participants.lookup (.human serial)).isSome &&
      (w'.shared.participants.lookup (.human serial)).isNone

theorem taking_iff {w : Pool (Registry tallyGame) RegistryTask} {serial : Nat}
    (h : taking w serial = true) :
    ∃ pc w', w.tasks[2]? = some (.cleaner pc) ∧ pc.since?.isSome = true ∧
      (registryMachine tallyGame {}).step w (.run 2 { now := Timestamp.seconds 700 }) = some w' ∧
      Registry.Takes w.shared w'.shared (.human serial) := by
  rw [taking, Bool.and_eq_true] at h
  obtain ⟨w', stepped, gone⟩ := (Option.any_eq_true _ _).mp h.2
  rw [Bool.and_eq_true, Option.isNone_iff_eq_none] at gone
  obtain ⟨task, here, looked⟩ := (Option.any_eq_true _ _).mp h.1
  cases task with
  | cleaner pc => exact ⟨pc, w', here, looked, stepped, .inl gone⟩
  | runtime | others => cases looked

end TallyRegistry

/-- A cleanup takes an unattached participant while another one plays. -/
theorem expiry_spares_players_seated :
    ∃ w : Pool (Registry tallyGame) RegistryTask, TallyRegistry.taking w 2 = true ∧
      w.shared.runtime.playing (.human 1) = true ∧ w.shared.runtime.playing (.human 2) = false := by
  have h : (((registryMachine tallyGame {}).restrict (Registry.sparesAdmitted {})).exec
      (Registry.initial tallyGame) TallyRegistry.seated).any (fun w =>
        TallyRegistry.taking w 2 && w.shared.runtime.playing (.human 1)) = true := by
    decide +kernel
  obtain ⟨w, reached, h⟩ := (Option.any_eq_true _ _).mp h
  rw [Bool.and_eq_true] at h
  obtain ⟨pc, w', here, looked, stepped, taken⟩ := TallyRegistry.taking_iff h.1
  exact ⟨w, h.1, h.2, expiry_spares_players (.of_exec (fun _ _ met => met) reached) here looked
    .refl stepped taken⟩

/-- A cleanup takes a participant who has become a member of a session since it looked. -/
theorem player_taken_by_cleanup :
    ∃ (w w' : Pool (Registry tallyGame) RegistryTask) (pc : CleanerPc),
      (registryMachine tallyGame {}).Run Machine.unguarded (Registry.initial tallyGame) w ∧
      w.tasks[2]? = some (.cleaner pc) ∧ pc.since?.isSome = true ∧
      (registryMachine tallyGame {}).step w (.run 2 { now := Timestamp.seconds 700 }) = some w' ∧
      Registry.Takes w.shared w'.shared (.human 1) ∧
      w.shared.runtime.playing (.human 1) = true := by
  have h : ((registryMachine tallyGame {}).exec (Registry.initial tallyGame)
      TallyRegistry.overlooked).any (fun w =>
        TallyRegistry.taking w 1 && w.shared.runtime.playing (.human 1)) = true := by
    decide +kernel
  obtain ⟨w, reached, h⟩ := (Option.any_eq_true _ _).mp h
  rw [Bool.and_eq_true] at h
  obtain ⟨pc, w', here, looked, stepped, taken⟩ := TallyRegistry.taking_iff h.1
  exact ⟨w, w', pc, .of_exec_unguarded reached, here, looked, stepped, taken, h.2⟩

end Parlando
