import Parlando.Hosting

namespace Parlando

open Concurrency

namespace HostTask

def holdsBuild : HostTask → Bool
  | archive .lock | archive (.returned _) => false
  | archive _ => true
  | save _ .lock | save _ (.returned _) => false
  | save _ _ => true
  | refresh .list | refresh .lock | refresh .returned => false
  | refresh _ => true
  | build .probe | build .lock | build (.returned _) => false
  | build _ => true
  | _ => false

def holdsLifecycle : HostTask → Option Nat
  | update call .write | update call .remember | update call .evict
  | update call (.release _) => some call.runtime
  | _ => none

def builds : HostTask → Bool
  | build .definition | build .ensure | build (.interrupted _) | build (.finalize _ _)
  | build (.endSession _ _ _) | build (.mount _) => true
  | _ => false

end HostTask

namespace HostedExperiment

/-- The memory lifecycles of the runtimes. -/
def lifecycles (host : HostedExperiment) : List ExperimentLifecycle :=
  host.runtimes.map MountedRuntime.lifecycle

def writers (host : HostedExperiment) : List (Option Nat) := host.runtimes.map MountedRuntime.writer

end HostedExperiment

theorem map_modify_same {α β : Type} {f : α → β} {g : α → α} (same : ∀ a, f (g a) = f a)
    (l : List α) (i : Nat) : (l.modify i g).map f = l.map f := by
  induction l generalizing i with
  | nil => cases i <;> rfl
  | cons a l ih =>
    cases i with
    | zero => simp [List.modify, same]
    | succ i => simpa using ih i

theorem map_modify_set {α β : Type} {f : α → β} {g : α → α} {b : β}
    (becomes : ∀ a, f (g a) = b) (l : List α) (i : Nat) :
    (l.modify i g).map f = (l.map f).set i b := by
  induction l generalizing i with
  | nil => cases i <;> rfl
  | cons a l ih =>
    cases i with
    | zero => simp [becomes]
    | succ i => simpa using ih i

namespace HostSection

def buildLock (before : Option Nat) : HostSection → Option Nat
  | lockBuild pid => some pid
  | releaseBuild => none
  | _ => before

def writers (before : List (Option Nat)) : HostSection → List (Option Nat)
  | lockLifecycle r pid => before.set r (some pid)
  | releaseLifecycle r => before.set r none
  | mount _ => before ++ [none]
  | _ => before

/-- What the runtimes have in memory after the step. -/
def lifecycles (before : List ExperimentLifecycle) : HostSection → List ExperimentLifecycle
  | setLifecycle r lifecycle => before.set r lifecycle
  | mount lifecycle => before ++ [lifecycle]
  | _ => before

/-- The cache's entry after the step, with the number of runtimes before it. -/
def cache (runtimes : Nat) (before : Option Nat) : HostSection → Option Nat
  | evict => none
  | mount _ => before.or (some runtimes)
  | _ => before

/-- The stored status after the step. -/
def status (before : ExperimentLifecycle) : HostSection → ExperimentLifecycle
  | storeStatus status => status
  | _ => before

variable (host : HostedExperiment) (sec : HostSection)

theorem apply_buildLock : (sec.apply host).buildLock = sec.buildLock host.buildLock := by
  cases sec <;> rfl

theorem apply_cache : (sec.apply host).cache = sec.cache host.runtimes.length host.cache := by
  cases sec <;> rfl

theorem apply_status : (sec.apply host).status = sec.status host.status := by
  cases sec <;> rfl

theorem apply_writers : (sec.apply host).writers = sec.writers host.writers := by
  cases sec <;> try rfl
  case mount lifecycle => exact List.map_append
  all_goals simp only [apply, HostedExperiment.updateRuntime, HostedExperiment.writers, writers]
  case lockLifecycle r pid => exact map_modify_set (by intro; rfl) host.runtimes r
  case releaseLifecycle r => exact map_modify_set (by intro; rfl) host.runtimes r
  all_goals
    apply map_modify_same
    intro
    rfl

theorem apply_lifecycles : (sec.apply host).lifecycles = sec.lifecycles host.lifecycles := by
  cases sec <;> try rfl
  case mount lifecycle => exact List.map_append
  all_goals simp only [apply, HostedExperiment.updateRuntime, HostedExperiment.lifecycles, lifecycles]
  case setLifecycle r lifecycle => exact map_modify_set (by intro; rfl) host.runtimes r
  all_goals
    apply map_modify_same
    intro
    rfl

end HostSection

structure LockStep (host : HostedExperiment) (pid : Nat) (t : HostTask) (sec : HostSection) (t' : HostTask) :
    Prop where
  build : ∀ p, sec = .lockBuild p → p = pid ∧ host.buildLock = none
  releaseBuild : sec = .releaseBuild → t.holdsBuild = true ∧ t'.holdsBuild = false
  holdsBuild : t'.holdsBuild = true → t.holdsBuild = true ∧ sec ≠ .releaseBuild ∨ sec = .lockBuild pid
  lifecycle : ∀ r p, sec = .lockLifecycle r p → p = pid ∧ host.writers[r]? = some none
  releaseLifecycle : ∀ r, sec = .releaseLifecycle r →
    t.holdsLifecycle = some r ∧ t'.holdsLifecycle = none
  holdsLifecycle : ∀ r, t'.holdsLifecycle = some r → t.holdsLifecycle = some r ∨
    sec = .lockLifecycle r pid
  builds : t'.builds = true → t.builds = true ∧ sec.cache host.runtimes.length host.cache = host.cache ∨
    host.cache = none ∧ sec = .skip
  mount : ∀ lifecycle, sec = .mount lifecycle → t.builds = true ∧ t.holdsBuild = true ∧
    t'.builds = false

attribute [grind] HostTask.holdsBuild HostTask.holdsLifecycle HostTask.builds HostSection.cache

section
variable {host : HostedExperiment} {pid : Nat} {input : HostInput} {sec : HostSection}

theorem UpdatePc.step_locks {call : UpdateCall} {pc pc' : UpdatePc}
    (h : pc.step call host pid input = some (sec, pc')) :
    LockStep host pid (.update call pc) sec (.update call pc') := by
  cases pc
  case lock =>
    obtain ⟨runtime, here, h⟩ := Option.bind_eq_some_iff.mp h
    split at h
    · cases h
    · rename_i free
      have unlocked : host.writers[call.runtime]? = some none := by
        simp only [Bool.or_eq_true, not_or, Bool.not_eq_true, Option.isSome_eq_false_iff,
          Option.isNone_iff_eq_none] at free
        rw [HostedExperiment.writers, List.getElem?_map, here, Option.map_some, free.1]
      split at h <;> cases h
      all_goals constructor <;> grind
  all_goals
    simp only [step] at h
    repeat' split at h
    all_goals cases h
    all_goals constructor <;> grind

theorem ArchivePc.step_locks {pc pc' : ArchivePc} (h : pc.step host pid input = some (sec, pc')) :
    LockStep host pid (.archive pc) sec (.archive pc') := by
  cases pc <;> simp only [step, Option.isSome_iff_ne_none] at h
  all_goals repeat' split at h
  all_goals cases h
  all_goals constructor <;> grind

theorem SavePc.step_locks {revision : Int} {pc pc' : SavePc}
    (h : pc.step revision host pid input = some (sec, pc')) :
    LockStep host pid (.save revision pc) sec (.save revision pc') := by
  cases pc <;> simp only [step, Option.isSome_iff_ne_none] at h
  all_goals repeat' split at h
  all_goals cases h
  all_goals constructor <;> grind

theorem RefreshPc.step_locks {pc pc' : RefreshPc} (h : pc.step host pid input = some (sec, pc')) :
    LockStep host pid (.refresh pc) sec (.refresh pc') := by
  cases pc <;> simp only [step, Option.isSome_iff_ne_none] at h
  all_goals repeat' split at h
  all_goals cases h
  all_goals constructor <;> grind

theorem BuildPc.step_locks {pc pc' : BuildPc} (h : pc.step host pid input = some (sec, pc')) :
    LockStep host pid (.build pc) sec (.build pc') := by
  cases pc
  case finalize lifecycle sessions =>
    cases sessions
    all_goals
      simp only [step] at h
      cases h
      constructor <;> grind
  all_goals simp only [step, Option.isSome_iff_ne_none] at h
  all_goals repeat' split at h
  all_goals cases h
  all_goals constructor <;> grind

theorem AdmissionPc.step_locks {r : Nat} {pc pc' : AdmissionPc}
    (h : pc.step r host input = some (sec, pc')) :
    LockStep host pid (.admission r pc) sec (.admission r pc') := by
  cases pc
  case intake =>
    obtain ⟨runtime, here, h⟩ := Option.bind_eq_some_iff.mp h
    repeat' split at h
    all_goals cases h
    all_goals constructor <;> intros <;> contradiction
  all_goals
    simp only [step] at h
    repeat' split at h
    all_goals cases h
    all_goals constructor <;> intros <;> contradiction

theorem EndingPc.step_locks {i : Nat} {pc pc' : EndingPc}
    (h : pc.step i input = some (sec, pc')) :
    LockStep host pid (.ending i pc) sec (.ending i pc') := by
  cases pc <;> simp only [step] at h
  all_goals repeat' split at h
  all_goals cases h
  all_goals constructor <;> intros <;> contradiction

theorem HostTask.step_locks {t t' : HostTask} (h : t.step host pid input = some (sec, t')) :
    LockStep host pid t sec t' := by
  cases t
  all_goals
    obtain ⟨⟨sec', pc'⟩, stepped, same⟩ := Option.map_eq_some_iff.mp h
    cases same
  case update => exact UpdatePc.step_locks stepped
  case archive => exact ArchivePc.step_locks stepped
  case save => exact SavePc.step_locks stepped
  case refresh => exact RefreshPc.step_locks stepped
  case build => exact BuildPc.step_locks stepped
  case admission => exact AdmissionPc.step_locks stepped
  case ending => exact EndingPc.step_locks stepped

end

theorem HostTask.holdsBuild_of_builds {t : HostTask} (builds : t.builds = true) :
    t.holdsBuild = true := by
  cases t
  case build pc => cases pc <;> first | rfl | cases builds
  all_goals cases builds

structure LockAssertion (host : HostedExperiment) (pid : Nat) (t : HostTask) : Prop where
  build : t.holdsBuild = true → host.buildLock = some pid
  lifecycle : ∀ r, t.holdsLifecycle = some r → host.writers[r]? = some (some pid)
  empty : t.builds = true → host.cache = none

section
variable {host : HostedExperiment} {pid q : Nat} {sec : HostSection} {t t' u : HostTask}

/-- A lifecycle lock that somebody else holds is not touched. -/
theorem LockStep.writers_kept (step : LockStep host pid t sec t') (own : LockAssertion host pid t)
    {r : Nat} (holds : host.writers[r]? = some (some q))
    (kept : q = pid → t'.holdsLifecycle = some r) :
    (sec.apply host).writers[r]? = some (some q) := by
  rw [HostSection.apply_writers]
  cases sec <;> try exact holds
  case lockLifecycle r' p =>
    have free := (step.lifecycle r' p rfl).2
    have other : r' ≠ r := by
      rintro rfl
      cases free.symm.trans holds
    exact (List.getElem?_set_ne other).trans holds
  case releaseLifecycle r' =>
    obtain ⟨held, gone⟩ := step.releaseLifecycle r' rfl
    have other : r' ≠ r := by
      rintro rfl
      have same : q = pid := by
        have := (own.lifecycle r' held).symm.trans holds
        simp only [Option.some.injEq] at this
        exact this.symm
      cases (kept same).symm.trans gone
    exact (List.getElem?_set_ne other).trans holds
  case mount lifecycle =>
    have inside := (List.getElem?_eq_some_iff.mp holds).1
    exact (List.getElem?_append_left inside).trans holds

theorem LockStep.self (step : LockStep host pid t sec t') (own : LockAssertion host pid t) :
    LockAssertion (sec.apply host) pid t' where
  build holds := by
    rw [HostSection.apply_buildLock]
    rcases step.holdsBuild holds with ⟨held, kept⟩ | rfl
    · have locked := own.build held
      cases sec <;> try exact locked
      case lockBuild p => cases (step.build p rfl).2.symm.trans locked
      case releaseBuild => exact absurd rfl kept
    · rfl
  lifecycle r holds := by
    rcases step.holdsLifecycle r holds with held | rfl
    · exact step.writers_kept own (own.lifecycle r held) fun _ => holds
    · rw [HostSection.apply_writers]
      have inside := (List.getElem?_eq_some_iff.mp (step.lifecycle r pid rfl).2).1
      exact List.getElem?_set_self inside
  empty builds := by
    rw [HostSection.apply_cache]
    rcases step.builds builds with ⟨built, same⟩ | ⟨none, rfl⟩
    · exact same.trans (own.empty built)
    · exact none

theorem LockStep.others (step : LockStep host pid t sec t') (own : LockAssertion host pid t)
    (other : q ≠ pid) (holds : LockAssertion host q u) : LockAssertion (sec.apply host) q u where
  build held := by
    rw [HostSection.apply_buildLock]
    have locked := holds.build held
    cases sec <;> try exact locked
    case lockBuild p => cases (step.build p rfl).2.symm.trans locked
    case releaseBuild =>
      have mine := own.build (step.releaseBuild rfl).1
      exact absurd (Option.some.inj (locked.symm.trans mine)) other
  lifecycle r held := step.writers_kept own (holds.lifecycle r held) fun same => absurd same other
  empty builds := by
    rw [HostSection.apply_cache]
    have none := holds.empty builds
    cases sec <;> try exact none
    case evict => rfl
    case mount lifecycle =>
      have mine := own.build (step.mount lifecycle rfl).2.1
      have theirs := holds.build (HostTask.holdsBuild_of_builds builds)
      exact absurd (Option.some.inj (theirs.symm.trans mine)) other

end

theorem hostProgram_step {host host' : HostedExperiment} {pid : Nat} {input : HostInput} {t t' : HostTask}
    {started : List HostTask} (h : hostProgram.step host pid t input = some (host', t', started)) :
    ∃ sec, t.step host pid input = some (sec, t') ∧ host' = sec.apply host ∧ started = [] := by
  obtain ⟨⟨sec, next⟩, stepped, same⟩ := Option.map_eq_some_iff.mp h
  cases same
  exact ⟨sec, stepped, rfl, rfl⟩

/-- A request that begins holds nothing. -/
theorem LockAssertion.of_entry {host : HostedExperiment} {pid : Nat} {t : HostTask}
    (entered : t.entry host = true) : LockAssertion host pid t := by
  cases t with
  | update call pc => cases pc <;> first | exact absurd entered Bool.false_ne_true | exact ⟨nofun, nofun, nofun⟩
  | archive pc => cases pc <;> first | exact absurd entered Bool.false_ne_true | exact ⟨nofun, nofun, nofun⟩
  | save revision pc => cases pc <;> first | exact absurd entered Bool.false_ne_true | exact ⟨nofun, nofun, nofun⟩
  | refresh pc => cases pc <;> first | exact absurd entered Bool.false_ne_true | exact ⟨nofun, nofun, nofun⟩
  | build pc => cases pc <;> first | exact absurd entered Bool.false_ne_true | exact ⟨nofun, nofun, nofun⟩
  | admission r pc => exact ⟨nofun, nofun, nofun⟩
  | ending i pc => exact ⟨nofun, nofun, nofun⟩

/-- The cache names a runtime that has been mounted. -/
theorem HostSection.cache_bounded {host : HostedExperiment} {sec : HostSection}
    (bounded : ∀ r, host.cache = some r → r < host.runtimes.length) (r : Nat)
    (cached : (sec.apply host).cache = some r) : r < (sec.apply host).runtimes.length := by
  have kept := bounded r
  rw [apply_cache] at cached
  cases sec <;> simp only [cache, apply, HostedExperiment.updateRuntime, HostedExperiment.updateSession, List.length_modify,
    List.length_append, List.length_singleton] at cached ⊢
  case mount lifecycle =>
    cases here : host.cache with
    | none =>
      rw [here] at cached
      cases cached
      omega
    | some r' =>
      rw [here] at cached
      cases cached
      have := kept here
      omega
  case evict => cases cached
  all_goals exact kept cached

/-- Requests that hold a lock are its only holders, and a build works on an empty cache. -/
def locksOutline (guard : Pool HostedExperiment HostTask → Pool.Action HostTask HostInput → Prop) :
    Outline hostProgram guard where
  inv host := ∀ r, host.cache = some r → r < host.runtimes.length
  asn := LockAssertion
  entry pid _ _ entered := LockAssertion.of_entry entered
  step inv each _ ht h := by
    obtain ⟨sec, stepped, rfl, rfl⟩ := hostProgram_step h
    have step := HostTask.step_locks stepped
    refine ⟨?_, step.self (each _ _ ht), fun u mem => absurd mem List.not_mem_nil⟩
    exact HostSection.cache_bounded inv
  interference inv each _ ht h other hu holds := by
    obtain ⟨sec, stepped, rfl, rfl⟩ := hostProgram_step h
    exact (HostTask.step_locks stepped).others (each _ _ ht) other holds

namespace HostTask

def pends : HostTask → Option UpdateCall
  | update call .remember => some call
  | _ => none

def archives : HostTask → Bool
  | archive .evict => true
  | _ => false

/-- The status that a build has read. -/
def read : HostTask → Option ExperimentLifecycle
  | build (.interrupted lifecycle) | build (.finalize lifecycle _)
  | build (.endSession lifecycle _ _) | build (.mount lifecycle) => some lifecycle
  | _ => none

def checked : HostTask → Option UpdateCall
  | update call .write => some call
  | _ => none

def evicts : HostTask → Bool
  | update _ .evict | archive .evict | save _ .evict | refresh .evict => true
  | _ => false

end HostTask

def HostSection.isQuiet : HostSection → Bool
  | setLifecycle _ _ | storeStatus _ | evict | mount _ => false
  | _ => true

inductive StatusStep (host : HostedExperiment) (pid : Nat) (input : HostInput) :
    HostTask → HostSection → HostTask → Prop where
  | quiet {t sec t'} (quiet : sec.isQuiet = true) (settled : t.pends = none)
      (evicted : t.archives = false) (settled' : t'.pends = none) (evicted' : t'.archives = false)
      (unchecked : t'.checked = none)
      (read : ∀ lifecycle, t'.read = some lifecycle →
        t.read = some lifecycle ∨ lifecycle = host.status) : StatusStep host pid input t sec t'
  | checked (call : UpdateCall) {lifecycle}
      (here : host.lifecycles[call.runtime]? = some lifecycle)
      (allowed : lifecycle.canTransitionTo call.next = true) :
      StatusStep host pid input (.update call .lock) (.lockLifecycle call.runtime pid) (.update call .write)
  | stored (call : UpdateCall) (ok : input.storeOk = true) :
      StatusStep host pid input (.update call .write) (.storeStatus call.next) (.update call .remember)
  | remembered (call : UpdateCall) (pc : UpdatePc) (later : pc = .evict ∨ pc = .release (.ok ())) :
      StatusStep host pid input (.update call .remember) (.setLifecycle call.runtime call.next)
        (.update call pc)
  | evicted {t t'} (evicts : t.evicts = true) (settled : t'.pends = none)
      (archived : t'.archives = false) (unchecked : t'.checked = none) (unread : t'.read = none) :
      StatusStep host pid input t .evict t'
  | archived (closed : host.status = .inactive ∨ host.status = .completed) :
      StatusStep host pid input (.archive .write) (.storeStatus .archived) (.archive .evict)
  | mounted (lifecycle : ExperimentLifecycle) :
      StatusStep host pid input (.build (.mount lifecycle)) (.mount lifecycle) (.build (.release true))

theorem HostTask.step_status {host : HostedExperiment} {pid : Nat} {input : HostInput} {t t' : HostTask}
    {sec : HostSection} (h : t.step host pid input = some (sec, t')) :
    StatusStep host pid input t sec t' := by
  cases t
  all_goals
    obtain ⟨⟨sec', pc'⟩, stepped, same⟩ := Option.map_eq_some_iff.mp h
    cases same
  case update call pc =>
    cases pc <;> simp only [UpdatePc.step] at stepped
    case lock =>
      obtain ⟨runtime, here, stepped⟩ := Option.bind_eq_some_iff.mp stepped
      repeat' split at stepped
      all_goals cases stepped
      · rename_i allowed
        exact .checked call (by rw [HostedExperiment.lifecycles, List.getElem?_map, here]; rfl) allowed
      · exact .quiet rfl rfl rfl rfl rfl rfl nofun
    case remember =>
      cases stepped
      exact .remembered call _ (by split <;> simp)
    case evict =>
      cases stepped
      exact .evicted rfl rfl rfl rfl rfl
    all_goals repeat' split at stepped
    all_goals cases stepped
    case write.isTrue ok => exact .stored call ok
    all_goals exact .quiet rfl rfl rfl rfl rfl rfl nofun
  case archive pc =>
    cases pc <;> simp only [ArchivePc.step] at stepped
    all_goals repeat' split at stepped
    all_goals cases stepped
    case evict => exact .evicted rfl rfl rfl rfl rfl
    case write.isFalse.isTrue closed => exact .archived closed
    all_goals exact .quiet rfl rfl rfl rfl rfl rfl nofun
  case save revision pc =>
    cases pc <;> simp only [SavePc.step] at stepped
    all_goals repeat' split at stepped
    all_goals cases stepped
    case evict => exact .evicted rfl rfl rfl rfl rfl
    all_goals exact .quiet rfl rfl rfl rfl rfl rfl nofun
  case refresh pc =>
    cases pc <;> simp only [RefreshPc.step] at stepped
    case list =>
      cases stepped
      split <;> exact .quiet rfl rfl rfl rfl rfl rfl nofun
    case read =>
      cases stepped
      split <;> exact .quiet rfl rfl rfl rfl rfl rfl nofun
    all_goals repeat' split at stepped
    all_goals cases stepped
    case evict => exact .evicted rfl rfl rfl rfl rfl
    all_goals exact .quiet rfl rfl rfl rfl rfl rfl nofun
  case build pc =>
    cases pc
    case finalize lifecycle sessions =>
      cases sessions <;> simp only [BuildPc.step] at stepped
      all_goals cases stepped
      · exact .quiet rfl rfl rfl rfl rfl rfl fun _ same => .inl same
      · split
        · exact .quiet rfl rfl rfl rfl rfl rfl fun _ same => .inl same
        · exact .quiet rfl rfl rfl rfl rfl rfl nofun
    all_goals simp only [BuildPc.step] at stepped
    case mount lifecycle =>
      cases stepped
      exact .mounted lifecycle
    case endSession lifecycle i rest =>
      split at stepped
      all_goals cases stepped
      · exact .quiet rfl rfl rfl rfl rfl rfl fun _ same => .inl same
      · exact .quiet rfl rfl rfl rfl rfl rfl nofun
    case ensure =>
      cases stepped
      split
      · exact .quiet rfl rfl rfl rfl rfl rfl fun _ same => .inr (Option.some.inj same).symm
      · exact .quiet rfl rfl rfl rfl rfl rfl nofun
    case interrupted lifecycle =>
      cases stepped
      split
      · exact .quiet rfl rfl rfl rfl rfl rfl fun _ same => .inl same
      · exact .quiet rfl rfl rfl rfl rfl rfl nofun
    case lock =>
      split at stepped
      all_goals cases stepped
      exact .quiet rfl rfl rfl rfl rfl rfl nofun
    all_goals cases stepped
    case release => exact .quiet rfl rfl rfl rfl rfl rfl nofun
    all_goals split <;> exact .quiet rfl rfl rfl rfl rfl rfl nofun
  case admission r pc =>
    have quiet : sec.isQuiet = true := by
      cases pc
      case intake =>
        obtain ⟨runtime, here, stepped⟩ := Option.bind_eq_some_iff.mp stepped
        repeat' split at stepped
        all_goals cases stepped
        all_goals rfl
      all_goals
        simp only [AdmissionPc.step] at stepped
        repeat' split at stepped
        all_goals cases stepped
        all_goals rfl
    exact .quiet quiet rfl rfl rfl rfl rfl nofun
  case ending i pc =>
    have quiet : sec.isQuiet = true := by
      cases pc <;> simp only [EndingPc.step] at stepped
      all_goals repeat' split at stepped
      all_goals cases stepped
      all_goals rfl
    exact .quiet quiet rfl rfl rfl rfl rfl nofun

def Pending (w : Pool HostedExperiment HostTask) (r : Nat) : Prop :=
  w.Has fun _ t => ∃ call, t.pends = some call ∧ call.runtime = r

def Archiving (w : Pool HostedExperiment HostTask) : Prop := w.Has fun _ t => t.archives = true

/--
The mounted runtime remembers the stored status, and no other remembers one with intake, except
for requests that are on their way to making it so.
-/
structure Follows (w : Pool HostedExperiment HostTask) : Prop where
  intake : w.shared.status.allowsIntake = true → w.shared.cache ≠ none
  mounted : ∀ r lifecycle, w.shared.cache = some r → w.shared.lifecycles[r]? = some lifecycle →
    lifecycle = w.shared.status ∨ Pending w r ∨ Archiving w ∧ lifecycle.allowsIntake = false
  unmounted : ∀ r lifecycle, w.shared.cache ≠ some r → w.shared.lifecycles[r]? = some lifecycle →
    lifecycle.allowsIntake = false ∨ Pending w r
  pending : ∀ (pid : Nat) t call, w.tasks[pid]? = some t → t.pends = some call →
    (w.shared.cache = some call.runtime →
      call.next = w.shared.status ∨ Archiving w ∧ call.next.allowsIntake = false) ∧
    (w.shared.cache ≠ some call.runtime → call.next.allowsIntake = false)
  checked : ∀ (pid : Nat) t call lifecycle, w.tasks[pid]? = some t → t.checked = some call →
    w.shared.lifecycles[call.runtime]? = some lifecycle → lifecycle.canTransitionTo call.next = true
  read : ∀ (pid : Nat) t lifecycle, w.tasks[pid]? = some t → t.read = some lifecycle →
    lifecycle = w.shared.status

/--
An update changes the stored status only while its runtime is the mounted one and remembers the
stored status, and a runtime is evicted only while the stored status is closed to participants.
-/
def HostTask.isInOrder (host : HostedExperiment) (input : HostInput) (t : HostTask) : Bool :=
  (t.checked.all fun call => !input.storeOk ||
    call.next == host.status && !call.next.allowsIntake ||
    host.cache == some call.runtime && host.lifecycles[call.runtime]? == some host.status) &&
  (!t.evicts || !host.status.allowsIntake)

def HostTask.ordered (w : Pool HostedExperiment HostTask) : Pool.Action HostTask HostInput → Bool
  | .spawn _ => true
  | .run pid input => w.tasks[pid]?.all (HostTask.isInOrder w.shared input)

theorem HostTask.holds_of_pends {t : HostTask} {call : UpdateCall} (pends : t.pends = some call) :
    t.holdsLifecycle = some call.runtime := by
  cases t
  case update other pc =>
    cases pc <;> cases pends
    rfl
  all_goals cases pends

theorem HostTask.holds_of_checked {t : HostTask} {call : UpdateCall}
    (checked : t.checked = some call) : t.holdsLifecycle = some call.runtime := by
  cases t
  case update other pc =>
    cases pc <;> cases checked
    rfl
  all_goals cases checked

theorem HostTask.builds_of_read {t : HostTask} {lifecycle : ExperimentLifecycle}
    (read : t.read = some lifecycle) : t.builds = true := by
  cases t
  case build pc => cases pc <;> cases read <;> rfl
  all_goals cases read

section
variable {w : Pool HostedExperiment HostTask} {pid : Nat} {t t' : HostTask} {sec : HostSection}

def afterStep (w : Pool HostedExperiment HostTask) (pid : Nat) (sec : HostSection) (t' : HostTask) :
    Pool HostedExperiment HostTask := ⟨sec.apply w.shared, w.tasks.set pid t' ++ []⟩

theorem Pending.kept {r : Nat} (pending : Pending w r) (ht : w.tasks[pid]? = some t)
    (other : ∀ call, t.pends = some call → call.runtime = r → t'.pends = some call) :
    Pending (afterStep w pid sec t') r :=
  pending.after ht (fun ⟨call, pends, same⟩ => ⟨call, other call pends same, same⟩)
    fun _ _ _ holds => holds

theorem Archiving.kept (archiving : Archiving w) (ht : w.tasks[pid]? = some t)
    (other : t.archives = false) : Archiving (afterStep w pid sec t') :=
  archiving.after ht (fun archives => absurd archives (by rw [other]; exact Bool.false_ne_true))
    fun _ _ _ holds => holds

theorem Follows.quiet (follows : Follows w) (ht : w.tasks[pid]? = some t)
    (quiet : sec.isQuiet = true) (settled : t.pends = none) (evicted : t.archives = false)
    (settled' : t'.pends = none)
    (checked : ∀ call lifecycle, t'.checked = some call →
      w.shared.lifecycles[call.runtime]? = some lifecycle →
        lifecycle.canTransitionTo call.next = true)
    (read : ∀ lifecycle, t'.read = some lifecycle →
      t.read = some lifecycle ∨ lifecycle = w.shared.status) :
    Follows (afterStep w pid sec t') := by
  have status : (sec.apply w.shared).status = w.shared.status := by
    rw [HostSection.apply_status]
    cases sec <;> first | rfl | cases quiet
  have cache : (sec.apply w.shared).cache = w.shared.cache := by
    rw [HostSection.apply_cache]
    cases sec <;> first | rfl | cases quiet
  have lifecycles : (sec.apply w.shared).lifecycles = w.shared.lifecycles := by
    rw [HostSection.apply_lifecycles]
    cases sec <;> first | rfl | cases quiet
  have pends : ∀ {r}, Pending w r → Pending (afterStep w pid sec t') r := fun pending =>
    pending.kept ht fun call mine _ => absurd (settled.symm.trans mine) (Option.some_ne_none _).symm
  have archives : Archiving w → Archiving (afterStep w pid sec t') := fun archiving =>
    archiving.kept ht evicted
  constructor
  · intro intake
    change (sec.apply w.shared).status.allowsIntake = true at intake
    change (sec.apply w.shared).cache ≠ none
    rw [status] at intake
    rw [cache]
    exact follows.intake intake
  · intro r lifecycle cached here
    change (sec.apply w.shared).cache = some r at cached
    change (sec.apply w.shared).lifecycles[r]? = some lifecycle at here
    change lifecycle = (sec.apply w.shared).status ∨ _
    rw [cache] at cached
    rw [lifecycles] at here
    rw [status]
    exact (follows.mounted r lifecycle cached here).imp_right
      (Or.imp pends (And.imp_left archives))
  · intro r lifecycle cached here
    change (sec.apply w.shared).cache ≠ some r at cached
    change (sec.apply w.shared).lifecycles[r]? = some lifecycle at here
    rw [cache] at cached
    rw [lifecycles] at here
    exact (follows.unmounted r lifecycle cached here).imp_right pends
  · intro q u call hu mine
    change ((sec.apply w.shared).cache = some call.runtime →
      call.next = (sec.apply w.shared).status ∨ _) ∧ ((sec.apply w.shared).cache ≠ _ → _)
    rw [cache, status]
    rcases Pool.task_stepped hu with ⟨rfl, rfl⟩ | ⟨other, hu⟩
    · cases settled'.symm.trans mine
    · exact (follows.pending q u call hu mine).imp_left fun known cached =>
        (known cached).imp_right (And.imp_left archives)
  · intro q u call lifecycle hu mine here
    change (sec.apply w.shared).lifecycles[call.runtime]? = some lifecycle at here
    rw [lifecycles] at here
    rcases Pool.task_stepped hu with ⟨rfl, rfl⟩ | ⟨other, hu⟩
    · exact checked call lifecycle mine here
    · exact follows.checked q u call lifecycle hu mine here
  · intro q u lifecycle hu mine
    change lifecycle = (sec.apply w.shared).status
    rw [status]
    rcases Pool.task_stepped hu with ⟨rfl, rfl⟩ | ⟨other, hu⟩
    · rcases read lifecycle mine with before | same
      · exact follows.read q t lifecycle ht before
      · exact same
    · exact follows.read q u lifecycle hu mine

/-- The update stores its status: its runtime is mounted and remembered the old one. -/
theorem Follows.stored {call : UpdateCall} (follows : Follows w)
    (locks : w.Each (LockAssertion w.shared)) (ht : w.tasks[pid]? = some (.update call .write))
    (cached : w.shared.cache = some call.runtime)
    (here : w.shared.lifecycles[call.runtime]? = some w.shared.status) :
    Follows (afterStep w pid (.storeStatus call.next) (.update call .remember)) ∧
      w.shared.status.canTransitionTo call.next = true := by
  refine ⟨?_, follows.checked pid _ call _ ht rfl here⟩
  have pends : ∀ {r}, Pending w r →
      Pending (afterStep w pid (.storeStatus call.next) (.update call .remember)) r :=
    fun pending => pending.kept ht nofun
  have own : Pending (afterStep w pid (.storeStatus call.next) (.update call .remember))
      call.runtime := ⟨pid, _, Pool.self_after ht, call, rfl, rfl⟩
  constructor
  · intro _ missing
    cases (missing : w.shared.cache = none).symm.trans cached
  · intro r lifecycle there _
    cases (there : w.shared.cache = some r).symm.trans cached
    exact .inr (.inl own)
  · intro r lifecycle there found
    exact (follows.unmounted r lifecycle there found).imp_right pends
  · intro q u other hu mine
    rcases Pool.task_stepped hu with ⟨rfl, rfl⟩ | ⟨differs, hu⟩
    · cases mine
      exact ⟨fun _ => .inl rfl, fun elsewhere => absurd cached elsewhere⟩
    · have apart : other.runtime ≠ call.runtime := by
        intro same
        have theirs := (locks q u hu).lifecycle other.runtime (HostTask.holds_of_pends mine)
        have mine := (locks pid _ ht).lifecycle call.runtime rfl
        rw [same, mine] at theirs
        exact differs (Option.some.inj (Option.some.inj theirs)).symm
      have elsewhere : w.shared.cache ≠ some other.runtime := fun same =>
        apart (Option.some.inj (same.symm.trans cached))
      exact ⟨fun same => absurd same elsewhere, fun _ =>
        (follows.pending q u other hu mine).2 elsewhere⟩
  · intro q u other lifecycle hu mine found
    rcases Pool.task_stepped hu with ⟨rfl, rfl⟩ | ⟨differs, hu⟩
    · cases mine
    · exact follows.checked q u other lifecycle hu mine found
  · intro q u lifecycle hu mine
    rcases Pool.task_stepped hu with ⟨rfl, rfl⟩ | ⟨differs, hu⟩
    · cases mine
    · have empty := (locks q u hu).empty (HostTask.builds_of_read mine)
      cases empty.symm.trans cached

/-- The update stores the status that is there already, one that is closed to participants. -/
theorem Follows.storedAgain {call : UpdateCall} (follows : Follows w)
    (ht : w.tasks[pid]? = some (.update call .write)) (same : call.next = w.shared.status)
    (closed : call.next.allowsIntake = false) :
    Follows (afterStep w pid (.storeStatus call.next) (.update call .remember)) := by
  have pends : ∀ {r}, Pending w r →
      Pending (afterStep w pid (.storeStatus call.next) (.update call .remember)) r :=
    fun pending => pending.kept ht nofun
  have archives : Archiving w →
      Archiving (afterStep w pid (.storeStatus call.next) (.update call .remember)) :=
    fun archiving => archiving.kept ht rfl
  have status : (afterStep w pid (.storeStatus call.next) (.update call .remember)).shared.status =
      w.shared.status := same
  constructor
  · intro intake
    exact absurd (closed.symm.trans intake) Bool.false_ne_true
  · intro r lifecycle cached here
    rw [status]
    exact (follows.mounted r lifecycle cached here).imp_right
      (Or.imp pends (And.imp_left archives))
  · intro r lifecycle elsewhere here
    exact (follows.unmounted r lifecycle elsewhere here).imp_right pends
  · intro q u other hu mine
    rcases Pool.task_stepped hu with ⟨rfl, rfl⟩ | ⟨differs, hu⟩
    · cases mine
      exact ⟨fun _ => .inl rfl, fun _ => closed⟩
    · rw [status]
      exact (follows.pending q u other hu mine).imp_left fun known cached =>
        (known cached).imp_right (And.imp_left archives)
  · intro q u other lifecycle hu mine here
    rcases Pool.task_stepped hu with ⟨rfl, rfl⟩ | ⟨differs, hu⟩
    · cases mine
    · exact follows.checked q u other lifecycle hu mine here
  · intro q u lifecycle hu mine
    rw [status]
    rcases Pool.task_stepped hu with ⟨rfl, rfl⟩ | ⟨differs, hu⟩
    · cases mine
    · exact follows.read q u lifecycle hu mine

/-- The update remembers what it has stored. -/
theorem Follows.remembered {call : UpdateCall} {pc : UpdatePc} (follows : Follows w)
    (locks : w.Each (LockAssertion w.shared)) (ht : w.tasks[pid]? = some (.update call .remember))
    (later : pc = .evict ∨ pc = .release (.ok ())) :
    Follows (afterStep w pid (.setLifecycle call.runtime call.next) (.update call pc)) := by
  have settled : (HostTask.update call pc).pends = none ∧ (HostTask.update call pc).checked = none ∧
      (HostTask.update call pc).read = none := by
    rcases later with rfl | rfl <;> exact ⟨rfl, rfl, rfl⟩
  have lifecycles : (afterStep w pid (.setLifecycle call.runtime call.next)
      (.update call pc)).shared.lifecycles = w.shared.lifecycles.set call.runtime call.next :=
    HostSection.apply_lifecycles ..
  have known := follows.pending pid _ call ht rfl
  have archives : Archiving w → Archiving (afterStep w pid
      (.setLifecycle call.runtime call.next) (.update call pc)) := fun archiving =>
    archiving.kept ht rfl
  have pends : ∀ {r}, r ≠ call.runtime → Pending w r → Pending (afterStep w pid
      (.setLifecycle call.runtime call.next) (.update call pc)) r := fun differs pending =>
    pending.kept ht fun other mine same => by
      cases mine
      exact absurd same.symm differs
  constructor
  · exact follows.intake
  · intro r lifecycle cached here
    rw [lifecycles] at here
    by_cases same : r = call.runtime
    · subst same
      have inside := (List.getElem?_eq_some_iff.mp here).1
      rw [List.getElem?_set_self (by simpa using inside)] at here
      cases here
      exact (known.1 cached).imp_right fun ⟨archiving, closed⟩ => .inr ⟨archives archiving, closed⟩
    · rw [List.getElem?_set_ne (Ne.symm same)] at here
      exact (follows.mounted r lifecycle cached here).imp_right
        (Or.imp (pends same) (And.imp_left archives))
  · intro r lifecycle elsewhere here
    rw [lifecycles] at here
    by_cases same : r = call.runtime
    · subst same
      have inside := (List.getElem?_eq_some_iff.mp here).1
      rw [List.getElem?_set_self (by simpa using inside)] at here
      cases here
      exact .inl (known.2 elsewhere)
    · rw [List.getElem?_set_ne (Ne.symm same)] at here
      exact (follows.unmounted r lifecycle elsewhere here).imp_right (pends same)
  · intro q u other hu mine
    rcases Pool.task_stepped hu with ⟨rfl, rfl⟩ | ⟨differs, hu⟩
    · cases settled.1.symm.trans mine
    · exact (follows.pending q u other hu mine).imp_left fun known cached =>
        (known cached).imp_right (And.imp_left archives)
  · intro q u other lifecycle hu mine here
    rcases Pool.task_stepped hu with ⟨rfl, rfl⟩ | ⟨differs, hu⟩
    · cases settled.2.1.symm.trans mine
    · have apart : call.runtime ≠ other.runtime := by
        intro same
        have theirs := (locks q u hu).lifecycle other.runtime (HostTask.holds_of_checked mine)
        have mine := (locks pid _ ht).lifecycle call.runtime rfl
        rw [← same, mine] at theirs
        exact differs (Option.some.inj (Option.some.inj theirs)).symm
      rw [lifecycles, List.getElem?_set_ne apart] at here
      exact follows.checked q u other lifecycle hu mine here
  · intro q u lifecycle hu mine
    rcases Pool.task_stepped hu with ⟨rfl, rfl⟩ | ⟨differs, hu⟩
    · cases settled.2.2.symm.trans mine
    · exact follows.read q u lifecycle hu mine

/-- The mounted runtime is evicted while the stored status is closed to participants. -/
theorem Follows.evicted (follows : Follows w) (ht : w.tasks[pid]? = some t)
    (evicts : t.evicts = true) (settled : t'.pends = none) (unchecked : t'.checked = none)
    (unread : t'.read = none) (closed : w.shared.status.allowsIntake = false) :
    Follows (afterStep w pid .evict t') := by
  have pends : ∀ {r}, Pending w r → Pending (afterStep w pid .evict t') r := fun pending =>
    pending.kept ht fun call mine _ => by
      cases t
      case update other pc => cases pc <;> first | exact absurd evicts Bool.false_ne_true | cases mine
      all_goals cases mine
  constructor
  · intro intake
    exact absurd (closed.symm.trans intake) Bool.false_ne_true
  · intro r lifecycle cached
    cases cached
  · intro r lifecycle _ here
    by_cases cached : w.shared.cache = some r
    · rcases follows.mounted r lifecycle cached here with rfl | pending | ⟨-, shut⟩
      · exact .inl closed
      · exact .inr (pends pending)
      · exact .inl shut
    · exact (follows.unmounted r lifecycle cached here).imp_right pends
  · intro q u call hu mine
    refine ⟨nofun, fun _ => ?_⟩
    rcases Pool.task_stepped hu with ⟨rfl, rfl⟩ | ⟨other, hu⟩
    · cases settled.symm.trans mine
    · have known := follows.pending q u call hu mine
      by_cases cached : w.shared.cache = some call.runtime
      · rcases known.1 cached with same | ⟨-, shut⟩
        · rw [same]
          exact closed
        · exact shut
      · exact known.2 cached
  · intro q u call lifecycle hu mine here
    rcases Pool.task_stepped hu with ⟨rfl, rfl⟩ | ⟨other, hu⟩
    · cases unchecked.symm.trans mine
    · exact follows.checked q u call lifecycle hu mine here
  · intro q u lifecycle hu mine
    rcases Pool.task_stepped hu with ⟨rfl, rfl⟩ | ⟨other, hu⟩
    · cases unread.symm.trans mine
    · exact follows.read q u lifecycle hu mine

/-- An archive stores its status over one that was closed to participants. -/
theorem Follows.archived (follows : Follows w) (locks : w.Each (LockAssertion w.shared))
    (ht : w.tasks[pid]? = some (.archive .write))
    (closed : w.shared.status = .inactive ∨ w.shared.status = .completed) :
    Follows (afterStep w pid (.storeStatus .archived) (.archive .evict)) ∧
      w.shared.status.canTransitionTo .archived = true := by
  have shut : w.shared.status.allowsIntake = false := by
    rcases closed with closed | closed <;> rw [closed] <;> rfl
  have archives : Archiving (afterStep w pid (.storeStatus .archived) (.archive .evict)) :=
    ⟨pid, _, Pool.self_after ht, rfl⟩
  have pends : ∀ {r}, Pending w r →
      Pending (afterStep w pid (.storeStatus .archived) (.archive .evict)) r :=
    fun pending => pending.kept ht nofun
  refine ⟨?_, by rcases closed with closed | closed <;> rw [closed] <;> rfl⟩
  constructor
  · exact nofun
  · intro r lifecycle cached here
    rcases follows.mounted r lifecycle cached here with rfl | pending | ⟨-, shut⟩
    · exact .inr (.inr ⟨archives, shut⟩)
    · exact .inr (.inl (pends pending))
    · exact .inr (.inr ⟨archives, shut⟩)
  · intro r lifecycle elsewhere here
    exact (follows.unmounted r lifecycle elsewhere here).imp_right pends
  · intro q u call hu mine
    rcases Pool.task_stepped hu with ⟨rfl, rfl⟩ | ⟨other, hu⟩
    · cases mine
    · have known := follows.pending q u call hu mine
      refine ⟨fun cached => .inr ⟨archives, ?_⟩, known.2⟩
      rcases known.1 cached with same | ⟨-, shut⟩
      · rw [same]
        exact shut
      · exact shut
  · intro q u call lifecycle hu mine here
    rcases Pool.task_stepped hu with ⟨rfl, rfl⟩ | ⟨other, hu⟩
    · cases mine
    · exact follows.checked q u call lifecycle hu mine here
  · intro q u lifecycle hu mine
    rcases Pool.task_stepped hu with ⟨rfl, rfl⟩ | ⟨other, hu⟩
    · cases mine
    · have builds := HostTask.holdsBuild_of_builds (HostTask.builds_of_read mine)
      have theirs := (locks q u hu).build builds
      have mine := (locks pid _ ht).build rfl
      exact absurd (Option.some.inj (theirs.symm.trans mine)) other

/-- A build mounts its runtime, which has read the stored status, in the empty cache. -/
theorem Follows.mounts {lifecycle : ExperimentLifecycle} (follows : Follows w)
    (locks : w.Each (LockAssertion w.shared))
    (ht : w.tasks[pid]? = some (.build (.mount lifecycle))) :
    Follows (afterStep w pid (.mount lifecycle) (.build (.release true))) := by
  have empty := (locks pid _ ht).empty rfl
  have current := follows.read pid _ lifecycle ht rfl
  have cache : (afterStep w pid (.mount lifecycle) (.build (.release true))).shared.cache =
      some w.shared.lifecycles.length := by
    change w.shared.cache.or (some w.shared.runtimes.length) = _
    rw [empty, HostedExperiment.lifecycles, List.length_map]
    rfl
  have lifecycles : (afterStep w pid (.mount lifecycle) (.build (.release true))).shared.lifecycles =
      w.shared.lifecycles ++ [lifecycle] := HostSection.apply_lifecycles ..
  have length : w.shared.writers.length = w.shared.lifecycles.length := by
    rw [HostedExperiment.writers, HostedExperiment.lifecycles, List.length_map, List.length_map]
  have pends : ∀ {r}, Pending w r → Pending (afterStep w pid (.mount lifecycle)
      (.build (.release true))) r := fun pending => pending.kept ht nofun
  constructor
  · intro _ missing
    cases cache.symm.trans missing
  · intro r other cached here
    cases cache.symm.trans cached
    rw [lifecycles, List.getElem?_concat_length] at here
    cases here
    exact .inl current
  · intro r other elsewhere here
    rw [cache] at elsewhere
    rw [lifecycles, List.getElem?_append] at here
    split at here
    · exact (follows.unmounted r other (by rw [empty]; exact nofun) here).imp_right pends
    · rename_i outside
      have last : r = w.shared.lifecycles.length := by
        have inside := (List.getElem?_eq_some_iff.mp here).1
        simp only [List.length_singleton] at inside
        omega
      exact absurd (congrArg some last.symm) elsewhere
  · intro q u call hu mine
    rcases Pool.task_stepped hu with ⟨rfl, rfl⟩ | ⟨other, hu⟩
    · cases mine
    · have theirs := (locks q u hu).lifecycle call.runtime (HostTask.holds_of_pends mine)
      have inside := (List.getElem?_eq_some_iff.mp theirs).1
      refine ⟨fun cached => ?_, fun _ => ?_⟩
      · have last := Option.some.inj (cache.symm.trans cached)
        omega
      · exact (follows.pending q u call hu mine).2 (by rw [empty]; exact nofun)
  · intro q u call other hu mine here
    rcases Pool.task_stepped hu with ⟨rfl, rfl⟩ | ⟨differs, hu⟩
    · cases mine
    · have theirs := (locks q u hu).lifecycle call.runtime (HostTask.holds_of_checked mine)
      have inside := (List.getElem?_eq_some_iff.mp theirs).1
      rw [lifecycles, List.getElem?_append_left (by omega)] at here
      exact follows.checked q u call other hu mine here
  · intro q u other hu mine
    rcases Pool.task_stepped hu with ⟨rfl, rfl⟩ | ⟨differs, hu⟩
    · cases mine
    · exact follows.read q u other hu mine

theorem Follows.begun (follows : Follows w) (entered : t.entry w.shared = true) :
    Follows ⟨w.shared, w.tasks ++ [t]⟩ := by
  have fresh : t.pends = none ∧ t.checked = none ∧ t.read = none := by
    cases t with
    | update call pc => cases pc <;> first | exact absurd entered Bool.false_ne_true | exact ⟨rfl, rfl, rfl⟩
    | build pc => cases pc <;> first | exact absurd entered Bool.false_ne_true | exact ⟨rfl, rfl, rfl⟩
    | archive pc => exact ⟨rfl, rfl, rfl⟩
    | save revision pc => exact ⟨rfl, rfl, rfl⟩
    | refresh pc => exact ⟨rfl, rfl, rfl⟩
    | admission r pc => exact ⟨rfl, rfl, rfl⟩
    | ending i pc => exact ⟨rfl, rfl, rfl⟩
  have pends : ∀ {r}, Pending w r → Pending ⟨w.shared, w.tasks ++ [t]⟩ r := fun pending =>
    pending.append
  have archives : Archiving w → Archiving ⟨w.shared, w.tasks ++ [t]⟩ := fun archiving =>
    archiving.append
  constructor
  · exact follows.intake
  · intro r lifecycle cached here
    exact (follows.mounted r lifecycle cached here).imp_right
      (Or.imp pends (And.imp_left archives))
  · intro r lifecycle elsewhere here
    exact (follows.unmounted r lifecycle elsewhere here).imp_right pends
  · intro q u call hu mine
    rcases Pool.task_of_append hu with hu | rfl
    · exact (follows.pending q u call hu mine).imp_left fun known cached =>
        (known cached).imp_right (And.imp_left archives)
    · cases fresh.1.symm.trans mine
  · intro q u call lifecycle hu mine here
    rcases Pool.task_of_append hu with hu | rfl
    · exact follows.checked q u call lifecycle hu mine here
    · cases fresh.2.1.symm.trans mine
  · intro q u lifecycle hu mine
    rcases Pool.task_of_append hu with hu | rfl
    · exact follows.read q u lifecycle hu mine
    · cases fresh.2.2.symm.trans mine

/-- A step in order moves the status along the graph, and the mounted runtime follows it. -/
theorem Follows.step {w' : Pool HostedExperiment HostTask} {a : Pool.Action HostTask HostInput}
    (follows : Follows w) (locks : w.Each (LockAssertion w.shared))
    (met : HostTask.ordered w a = true) (h : hostMachine.step w a = some w') :
    Follows w' ∧ w.shared.status.canTransitionTo w'.shared.status = true := by
  have same : w.shared.status.canTransitionTo w.shared.status = true := by
    simp [ExperimentLifecycle.canTransitionTo]
  rcases Program.step_cases h with ⟨t, rfl, entered, rfl⟩ |
    ⟨pid, input, t, host, t', started, rfl, ht, hs, rfl⟩
  · exact ⟨follows.begun entered, same⟩
  · obtain ⟨sec, stepped, rfl, rfl⟩ := hostProgram_step hs
    have inOrder : t.isInOrder w.shared input = true := by
      have met : w.tasks[pid]?.all (HostTask.isInOrder w.shared input) = true := met
      rwa [ht] at met
    have status : ∀ section' : HostSection, section'.status w.shared.status = w.shared.status →
        w.shared.status.canTransitionTo (section'.apply w.shared).status = true := by
      intro section' kept
      rw [HostSection.apply_status, kept]
      exact same
    cases HostTask.step_status stepped with
    | quiet quiet settled evicted settled' evicted' unchecked read =>
      refine ⟨follows.quiet ht quiet settled evicted settled' ?_ read, status sec ?_⟩
      · intro call lifecycle mine
        cases unchecked.symm.trans mine
      · cases sec <;> first | rfl | cases quiet
    | checked call here allowed =>
      refine ⟨follows.quiet ht rfl rfl rfl rfl ?_ nofun, same⟩
      intro other lifecycle mine found
      cases mine
      cases here.symm.trans found
      exact allowed
    | stored call ok =>
      simp only [HostTask.isInOrder, HostTask.checked, HostTask.evicts, ok, Option.all_some,
        Bool.not_true, Bool.false_or, Bool.not_false, Bool.true_or, Bool.and_true, Bool.or_eq_true,
        Bool.and_eq_true, beq_iff_eq, Bool.not_eq_true'] at inOrder
      rcases inOrder with ⟨again, closed⟩ | ⟨cached, here⟩
      · refine ⟨follows.storedAgain ht again closed, ?_⟩
        exact status (.storeStatus call.next) again
      · exact follows.stored locks ht cached here
    | remembered call pc later => exact ⟨follows.remembered locks ht later, same⟩
    | evicted evicts settled archived unchecked unread =>
      have closed : w.shared.status.allowsIntake = false := by
        simp only [HostTask.isInOrder, evicts, Bool.not_true, Bool.false_or, Bool.and_eq_true,
          Bool.not_eq_true'] at inOrder
        exact inOrder.2
      exact ⟨follows.evicted ht evicts settled unchecked unread closed, same⟩
    | archived closed => exact follows.archived locks ht closed
    | mounted lifecycle => exact ⟨follows.mounts locks ht, same⟩

end

theorem HostedExperiment.valid_started (stored : ExperimentLifecycle) (revision : Int) (endedRows : List Bool)
    (guard : Pool HostedExperiment HostTask → Pool.Action HostTask HostInput → Prop) :
    (locksOutline guard).Valid (started stored revision endedRows) :=
  ⟨fun _ cached => absurd cached (Option.some_ne_none _).symm, fun _ _ ht => absurd ht (by simp [started])⟩

theorem HostedExperiment.follows_started (stored : ExperimentLifecycle) (revision : Int)
    (endedRows : List Bool) : Follows (started stored revision endedRows) where
  intake intake := by
    cases stored <;> cases intake
  mounted r lifecycle cached := by cases cached
  unmounted r lifecycle _ here := by
    simp [started, lifecycles] at here
  pending pid t call ht := by simp [started] at ht
  checked pid t call lifecycle ht := by simp [started] at ht
  read pid t lifecycle ht := by simp [started] at ht

theorem Follows.of_run {stored : ExperimentLifecycle} {revision : Int} {endedRows : List Bool}
    {w : Pool HostedExperiment HostTask}
    (run : hostMachine.Run (fun w a => HostTask.ordered w a = true)
      (HostedExperiment.started stored revision endedRows) w) :
    Follows w ∧ w.Each (LockAssertion w.shared) := by
  have locks : ∀ {v}, hostMachine.Run (fun w a => HostTask.ordered w a = true)
      (HostedExperiment.started stored revision endedRows) v → v.Each (LockAssertion v.shared) := fun reached =>
    (Outline.Valid.run reached (HostedExperiment.valid_started stored revision endedRows _)).each
  refine ⟨?_, locks run⟩
  exact run.invariant_of_reached (HostedExperiment.follows_started stored revision endedRows)
    fun reached follows met h => (follows.step (locks reached) met h).1

/-- The stored status moves along its graph, and an idle host's mounted runtime remembers it. -/
theorem status_follows_graph {stored : ExperimentLifecycle} {revision : Int} {endedRows : List Bool}
    {w : Pool HostedExperiment HostTask}
    (run : hostMachine.Run (fun w a => HostTask.ordered w a = true)
      (HostedExperiment.started stored revision endedRows) w) :
    (∀ a w', HostTask.ordered w a = true → hostMachine.step w a = some w' →
      w.shared.status.canTransitionTo w'.shared.status = true) ∧
    (w.Each (fun _ t => t.isDone = true) → ∀ r runtime, w.shared.runtimes[r]? = some runtime →
      if w.shared.cache = some r then runtime.lifecycle = w.shared.status
      else runtime.lifecycle.allowsIntake = false) := by
  obtain ⟨follows, locks⟩ := Follows.of_run run
  refine ⟨fun a w' met h => (follows.step locks met h).2, ?_⟩
  intro idle r runtime here
  have noPending : ¬ Pending w r := by
    rintro ⟨pid, t, ht, call, mine, -⟩
    have finished := idle pid t ht
    cases t
    case update other pc => cases pc <;> first | exact absurd finished Bool.false_ne_true | cases mine
    all_goals cases mine
  have noArchiving : ¬ Archiving w := by
    rintro ⟨pid, t, ht, mine⟩
    have finished := idle pid t ht
    cases t
    case archive pc => cases pc <;> first | exact absurd finished Bool.false_ne_true | cases mine
    all_goals cases mine
  have found : w.shared.lifecycles[r]? = some runtime.lifecycle := by
    rw [HostedExperiment.lifecycles, List.getElem?_map, here]
    rfl
  split
  · rename_i cached
    rcases follows.mounted r _ cached found with same | pending | ⟨archiving, -⟩
    · exact same
    · exact absurd pending noPending
    · exact absurd archiving noArchiving
  · rename_i elsewhere
    exact (follows.unmounted r _ elsewhere found).resolve_right noPending

namespace HostedExperiment

/-- An inactive experiment's runtime is built, and an update to `active` passes its check. -/
def opening : List (Pool.Action HostTask HostInput) :=
  .spawn (.build .probe) :: List.replicate 9 (.run 0 {}) ++
    .spawn (.update ⟨0, .active⟩ .checks) :: List.replicate 2 (.run 1 {})

def archivedMeanwhile : List (Pool.Action HostTask HostInput) :=
  opening ++ .spawn (.archive .lock) :: List.replicate 4 (.run 2 {})

end HostedExperiment

/-- Once the update is answered, the mounted runtime remembers the new status. -/
theorem status_follows_graph_opened : ∃ w : Pool HostedExperiment HostTask, w.shared.cache = some 0 ∧
    ∀ runtime, w.shared.runtimes[0]? = some runtime → runtime.lifecycle = .active := by
  have h : ((hostMachine.restrict HostTask.ordered).exec (HostedExperiment.started .active 1 [true])
      (HostedExperiment.opening ++ List.replicate 3 (.run 1 {}))).map (fun w =>
        (w.shared.cache, w.shared.status, w.tasks.all HostTask.isDone)) =
          some (some 0, .active, true) := rfl
  obtain ⟨w, reached, seen⟩ := Option.map_eq_some_iff.mp h
  simp only [Prod.mk.injEq, List.all_eq_true] at seen
  obtain ⟨cached, active, idle⟩ := seen
  refine ⟨w, cached, fun runtime here => ?_⟩
  have follows := (status_follows_graph (.of_exec (fun _ _ met => met) reached)).2
    (fun pid t ht => idle t (List.mem_of_getElem? ht)) 0 runtime here
  rw [if_pos cached] at follows
  exact follows.trans active

/--
The experiment is archived while an update has been checked and not stored: the update opens the
archived experiment, and its runtime, evicted by then, takes participants.
-/
theorem status_leaves_graph :
    (∃ w a w', hostMachine.Run Machine.unguarded (HostedExperiment.started .active 1 [true]) w ∧
      hostMachine.step w a = some w' ∧
      w.shared.status.canTransitionTo w'.shared.status = false) ∧
    (∃ w, hostMachine.Run Machine.unguarded (HostedExperiment.started .active 1 [true]) w ∧
      w.Each (fun _ t => t.isDone = true) ∧ w.shared.cache = none ∧
      w.shared.lifecycles = [.active]) := by
  constructor
  · have h : (hostMachine.exec (HostedExperiment.started .active 1 [true]) HostedExperiment.archivedMeanwhile).bind
        (fun w => (hostMachine.step w (.run 1 {})).map fun w' =>
          (w.shared.status, w'.shared.status)) = some (.archived, .active) := rfl
    obtain ⟨w, reached, h⟩ := Option.bind_eq_some_iff.mp h
    obtain ⟨w', stepped, seen⟩ := Option.map_eq_some_iff.mp h
    obtain ⟨before, after⟩ := Prod.mk.inj seen
    refine ⟨w, .run 1 {}, w', .of_exec_unguarded reached, stepped, ?_⟩
    rw [before, after]
    rfl
  · have h : (hostMachine.exec (HostedExperiment.started .active 1 [true]) (HostedExperiment.archivedMeanwhile ++
        List.replicate 3 (.run 1 {}))).map (fun w =>
          (w.tasks.all HostTask.isDone, w.shared.cache, w.shared.lifecycles)) =
            some (true, none, [.active]) := rfl
    obtain ⟨w, reached, seen⟩ := Option.map_eq_some_iff.mp h
    simp only [Prod.mk.injEq, List.all_eq_true] at seen
    obtain ⟨idle, evicted, open'⟩ := seen
    exact ⟨w, .of_exec_unguarded reached,
      fun pid t ht => idle t (List.mem_of_getElem? ht), evicted, open'⟩

end Parlando
